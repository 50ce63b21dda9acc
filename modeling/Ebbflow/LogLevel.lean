import Ebbflow.ServedMap

namespace Ebbflow.LogLevel

open Config ConfigFile ConfigCommands ConfigRefinement ConfigWatch Convergence RunDaemon
open Console (Change Event Blank HoldsConfig HoldsKey Restored newConfig restored_of_roundTrip wanted)
open ServedMap (Steps)
open Lib.Text Lib.Wire

def defaultLevel : LevelFilter := .Warn

/-- `fromStr` is that of the log library, and `var` the variable that overrides
the configuration. -/
def determineLogLevel (fromStr : String → Option LevelFilter) (var : Option String) (reloaded : Reloaded) :
    LevelFilter :=
  let leveloption :=
    match var with
    | some l => some l
    | none =>
        match reloaded with
        | .ok (some cfg, _) => cfg.loglevel
        | _ => none
  match leveloption with
  | some s =>
      match fromStr s with
      | some lf => lf
      | none => defaultLevel
  | none => defaultLevel

def Parses (fromStr : String → Option LevelFilter) : Prop :=
  ∀ level : LevelFilter, fromStr level.toString = some level

def heed (level : Option LevelFilter) : Event → Option LevelFilter
  | .saved (.command (.LogLevel .Reset)) => none
  | .saved (.command (.LogLevel (.Set level))) => some level
  | .saved (.command _) => level
  | .saved (.initial _) => none
  | .cutConfig => none
  | .keyed _ | .cutKey => level

def asked (history : List Event) : Option LevelFilter := history.foldl heed none

variable {fromStr : String → Option LevelFilter} {y : SerdeYaml} {osHostname : String} {s t : System} {f : File}
  {m m' : ConfigMap} {answer : Answer} {cfg : Option ConfigMap} {k : Option String}

theorem asked_concat (history : List Event) (e : Event) : asked (history ++ [e]) = heed (asked history) e := by
  rw [asked, List.foldl_append]
  rfl

theorem setEnabled_loglevel (m : ConfigMap) (enabled : Bool) (target : EnableDisableTarget) :
    (m.setEnabled enabled target).1.loglevel = m.loglevel := by
  cases target with
  | Ssh | AllEndpoints | Endpoint => rfl

theorem apply_loglevel {level : Option LevelFilter} (hm : m.loglevel = level.map LevelFilter.toString)
    (change : Change) : (change.apply m).loglevel = (heed level (.saved change)).map LevelFilter.toString := by
  cases change with
  | initial => rfl
  | command cmd =>
      cases cmd with
      | Enable args | Disable args => exact (setEnabled_loglevel m _ args.target).trans hm
      | AddEndpoint args =>
          by_cases hc : args.dns ∈ m.endpoints.keys
          · simp only [Change.apply, ConfigMap.edit, if_pos hc]
            exact hm
          · simp only [Change.apply, ConfigMap.edit, if_neg hc]
            exact hm
      | RemoveEndpoint args =>
          by_cases hc : args.dns ∈ m.endpoints.keys ∨ args.idempotent
          · simp only [Change.apply, ConfigMap.edit, if_pos hc]
            exact hm
          · simp only [Change.apply, ConfigMap.edit, if_neg hc]
            exact hm
      | SetupSsh args =>
          by_cases hc : m.ssh.isSome
          · simp only [Change.apply, ConfigMap.edit, if_pos hc]
            exact hm
          · simp only [Change.apply, ConfigMap.edit, if_neg hc]
            exact hm
      | RemoveSshConfiguration => exact hm
      | LogLevel sub =>
          cases sub with
          | Reset | Set => rfl

theorem wanted_loglevel (history : List Event) :
    (wanted history).current.loglevel = (asked history).map LevelFilter.toString := by
  induction history using List.reverseRecOn with
  | nil => rfl
  | append_singleton history e ih =>
      rw [Console.wanted_concat, asked_concat]
      cases e with
      | keyed | cutKey => exact ih
      | cutConfig => rfl
      | saved change => exact apply_loglevel ih change

def levelOf (reloaded : Except ConfigError (Option EbbflowDaemonConfig)) : Option String :=
  match reloaded with
  | .ok (some cfg) => cfg.loglevel
  | .ok none | .error _ => none

theorem determine_level (hparses : Parses fromStr) {level : Option LevelFilter} {config key : File}
    (hconfig : levelOf (reloadConfig y config) = level.map LevelFilter.toString) (hkey : reloadKey key = .ok k) :
    determineLogLevel fromStr none (configReload y config key) = level.getD defaultLevel := by
  cases hreload : reloadConfig y config with
  | error e =>
      rw [hreload] at hconfig
      have hnone : level = none := Option.map_eq_none_iff.mp hconfig.symm
      simp [determineLogLevel, configReload, hreload, hnone, bind, Except.bind]
  | ok cfg =>
      have hok : configReload y config key = .ok (cfg, k) := configReload_ok.mpr ⟨hreload, hkey⟩
      rw [hreload] at hconfig
      cases cfg with
      | none =>
          have hnone : level = none := Option.map_eq_none_iff.mp hconfig.symm
          simp [determineLogLevel, hok, hnone]
      | some c =>
          have hc : c.loglevel = level.map LevelFilter.toString := hconfig
          cases level with
          | none => simp [determineLogLevel, hok, hc]
          | some level => simp [determineLogLevel, hok, hc, hparses level]

theorem Blank.level (h : Blank f) (hempty : y.EmptyDocument) : levelOf (reloadConfig y f) = none := by
  cases hreload : reloadConfig y f with
  | error e => rfl
  | ok cfg =>
      cases cfg with
      | none => rfl
      | some c => exact absurd hreload (Console.Blank.reload h hempty)

theorem HoldsConfig.level {history : List Event} (h : HoldsConfig y f (wanted history).config)
    (hy : Restored y history) (hempty : y.EmptyDocument) :
    levelOf (reloadConfig y f) = (wanted history).current.loglevel := by
  rw [Console.Wanted.current]
  cases hw : (wanted history).config with
  | none =>
      rw [hw] at h
      exact Blank.level h hempty
  | some m =>
      rw [hw] at h
      obtain ⟨d, b, rfl, hb, rfl⟩ := h
      simp only [reloadConfig, loadFromFilePath, hy.now hw b hb]
      rfl

theorem sound_key {s : Console.Session} (h : Console.Sound y s) : ∃ k, reloadKey s.files.key = .ok k := by
  cases h with
  | between _ hk _ | saving _ hk _ => exact ⟨_, hk.reload⟩
  | keying hblank _ _ => exact ⟨none, hblank.reload_key⟩

theorem sound_level {s : Console.Session} (h : Console.Sound y s) (hy : Restored y s.history)
    (hempty : y.EmptyDocument) :
    levelOf (reloadConfig y s.files.config) = (asked s.history).map LevelFilter.toString ∨
      levelOf (reloadConfig y s.files.config) = none ∧ ∃ change b, s.todo = [.writeConfig change b] := by
  cases h with
  | between hc _ _ | keying _ hc _ =>
      left
      rw [HoldsConfig.level hc hy hempty]
      exact wanted_loglevel _
  | @saving _ _ change b hblank _ _ => exact .inr ⟨Blank.level hblank hempty, change, b, rfl⟩

def due (fromStr : String → Option LevelFilter) (var : Option String) (history : List Event) : LevelFilter :=
  (var.elim (asked history) fromStr).getD defaultLevel

theorem determine_var (l : String) (history : List Event) (reloaded : Reloaded) :
    determineLogLevel fromStr (some l) reloaded = due fromStr (some l) history := by
  rw [determineLogLevel, due, Option.elim_some]
  cases fromStr l with
  | some lf => rfl
  | none => rfl

theorem determine_unread {reloaded : Reloaded} (h : ∀ r, reloaded ≠ .ok r) :
    determineLogLevel fromStr none reloaded = defaultLevel := by
  cases reloaded with
  | error e => rfl
  | ok r => exact absurd rfl (h r)

/-- A read that fails for a reason of its own. -/
def Failed (f : File) : Prop := ∃ debug, f = .error (.Other debug)

theorem configReload_failed {config key : File} (h : Failed config ∨ Failed key)
    (r : Option EbbflowDaemonConfig × Option String) : configReload y config key ≠ .ok r := by
  intro hok
  obtain ⟨hconfig, hkey⟩ := configReload_ok.mp hok
  rcases h with ⟨debug, rfl⟩ | ⟨debug, rfl⟩
  · cases hconfig
  · cases hkey

/-- A daemon that is started while commands, writes and the daemon before it
take their course logs at the level that it is due, or, when it meets a file
that is half written or that it cannot read, at the default. -/
theorem started_daemon_logs_as_asked (hparses : Parses fromStr) (hempty : y.EmptyDocument)
    (h : Reached y osHostname s) (hs : Steps y osHostname s t) (hy : Restored y t.session.history) {config key : File}
    (hconfig : Reads s.session.files.config config) (hkey : Reads t.session.files.key key) (var : Option String) :
    (s.session.todo = [] → config = s.session.files.config → key = t.session.files.key →
      determineLogLevel fromStr var (configReload y config key) = due fromStr var s.session.history) ∧
    (determineLogLevel fromStr var (configReload y config key) = due fromStr var s.session.history ∨
      var = none ∧ determineLogLevel fromStr var (configReload y config key) = defaultLevel ∧
        ((∃ change b, s.session.todo = [.writeConfig change b]) ∨ Failed config ∨ Failed key)) := by
  cases var with
  | some l => exact ⟨fun _ _ _ => determine_var l _ _, .inl (determine_var l _ _)⟩
  | none =>
      have hbefore := hy.before (ServedMap.steps_history hs)
      have hlevel := sound_level (reached_traced hempty h hbefore).sound hbefore hempty
      obtain ⟨k, hk⟩ := sound_key (reached_traced hempty (ServedMap.Reached.steps h hs) hy).sound
      constructor
      · rintro hidle rfl rfl
        rcases hlevel with hlevel | ⟨_, change, b, htodo⟩
        · exact determine_level hparses hlevel hk
        · rw [hidle] at htodo
          cases htodo
      · by_cases hfailed : Failed config ∨ Failed key
        · exact .inr ⟨rfl, determine_unread (configReload_failed hfailed), .inr hfailed⟩
        · obtain ⟨hreadable, hkeyreadable⟩ := not_or.mp hfailed
          obtain rfl := hconfig.resolve_right hreadable
          obtain rfl := hkey.resolve_right hkeyreadable
          rcases hlevel with hlevel | ⟨hnone, change, b, htodo⟩
          · exact .inl (determine_level hparses hlevel hk)
          · have hdefault : _ = (none : Option LevelFilter).getD defaultLevel := determine_level hparses hnone hk
            exact .inr ⟨rfl, hdefault, .inl ⟨change, b, htodo⟩⟩

def levelNames : List LevelFilter := [.Off, .Error, .Warn, .Info, .Debug, .Trace]

def sampleFromStr (s : String) : Option LevelFilter :=
  levelNames.find? fun level => level.toString.toList = s.toList.map Char.toUpper

theorem sample_parses : Parses sampleFromStr := by
  intro level
  cases level with
  | Off | Error | Warn | Info | Debug | Trace => decide

def debugConfig : EbbflowDaemonConfig := ⟨[], none, some "DEBUG"⟩

def debugText : String := "---\nendpoints: []\nssh: ~\nloglevel: DEBUG"

def debugYaml : SerdeYaml := tableYaml [(debugConfig, debugText)]

def setDebug : ConfigSubCommand := .LogLevel (.Set .Debug)

theorem started_daemon_logs_as_asked_sample : ∃ s : System, Reached debugYaml "host" s ∧
    s.session.history = [.saved (.command setDebug)] ∧
    determineLogLevel sampleFromStr none (configReload debugYaml s.session.files.config s.session.files.key) =
      .Debug ∧
    determineLogLevel sampleFromStr (some "trace") (configReload debugYaml s.session.files.config s.session.files.key) =
      .Trace := by
  have hy : debugYaml.RoundTrip := tableYaml_roundTrip (by simp)
  have hops : Console.Request.ops debugYaml (.error .NotFound) (.Config setDebug) =
      [.truncateConfig, .writeConfig (.command setDebug) debugText] := rfl
  have hnew : Reached debugYaml "host" (.new (.error .NotFound) (.error .NotFound) "") :=
    .new "" (.inl rfl) (.inl rfl)
  have hset := hnew.step (.session (.ask (.Config setDebug) rfl))
  have htruncated := hset.step (.session (.perform hops))
  have hsaved := htruncated.step (.session (.perform rfl))
  refine ⟨_, hsaved, rfl, ?_⟩
  have hlogs := @started_daemon_logs_as_asked _ _ _ _ _ sample_parses (tableYaml_emptyDocument (by decide)) hsaved .refl
    (restored_of_roundTrip hy _) _ _ (.inl rfl) (.inl rfl)
  exact ⟨(hlogs none).1 rfl rfl rfl, (hlogs (some "trace")).1 rfl rfl rfl⟩

end Ebbflow.LogLevel
