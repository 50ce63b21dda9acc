import Ebbflow.Console
import Ebbflow.TornWrites

namespace Ebbflow.Convergence

open Config ConfigFile ConfigCommands ConfigRefinement ConfigWatch Console Daemon Runner RunnerTasks RunnerConfig
open RunnerStatus RunDaemon TornWrites Lib.HashTable Lib.KeyedList Lib.Supervisor Lib.Wakeup

variable {τ σ : Type} {y : SerdeYaml} {osHostname : String}

def mapPhase (f : τ → σ) : Phase τ → Phase σ
  | .readingConfig began => .readingConfig (f began)
  | .readingKey began read cfg => .readingKey (f began) (f read) cfg
  | .loaded began read result => .loaded (f began) (f read) result
  | .notifying => .notifying
  | .parked => .parked
  | .woken => .woken

def mapLoad (f : τ → σ) (load : Load τ) : Load σ := ⟨f load.began, f load.read, load.result, load.left⟩

def mapLoop (f : τ → σ) (l : Loop τ) : Loop σ := ⟨mapPhase f l.phase, l.notify, l.runner, l.loads.map (mapLoad f)⟩

/-- The loop does not look at its stamps. -/
theorem next_map (f : τ → σ) {now : τ} {config key : File} {l l' : Loop τ}
    (h : l.next y osHostname now config key = some l') :
    (mapLoop f l).next y osHostname (f now) config key = some (mapLoop f l') := by
  apply Loop.step_next
  cases Loop.next_step h with
  | readConfig hp hr => exact .readConfig (by rw [mapLoop, hp]; rfl) hr
  | failConfig hp hr => exact .failConfig (by rw [mapLoop, hp]; rfl) hr
  | readKey hp hr => exact .readKey (by rw [mapLoop, hp]; rfl) hr
  | failKey hp hr => exact .failKey (by rw [mapLoop, hp]; rfl) hr
  | apply hp => exact .apply (by rw [mapLoop, hp]; rfl)
  | consume hp hn => exact .consume (by rw [mapLoop, hp]; rfl) hn
  | park hp hn => exact .park (by rw [mapLoop, hp]; rfl) hn
  | resume hp => exact .resume (by rw [mapLoop, hp]; rfl)

theorem notified_map (f : τ → σ) (l : Loop τ) : (mapLoop f l).notified = mapLoop f l.notified := by
  obtain ⟨phase, notify, runner, loads⟩ := l
  cases notify <;> rfl

/-- A load is stamped with what the files have been through. -/
abbrev Stamp := List Event × (Nat × Nat)

/-- The commands of one user, one at a time, and the daemon on the same host. -/
structure System where
  session : Session
  undelivered : Nat
  loop : Loop Stamp

def System.new (config key : File) (clock : String) : System :=
  ⟨⟨⟨config, key, 0, 0⟩, [], []⟩, 0, .new ([], (0, 0)) (.new ⟨none⟩ clock)⟩

def System.stamp (s : System) : Stamp := (s.session.history, s.session.files.stamp)

inductive Step (y : SerdeYaml) (osHostname : String) : System → System → Prop
  | session {s : System} {n : Nat} {session : Session} : Console.Step y s.session n session →
      Step y osHostname s { s with session := session, undelivered := s.undelivered + n }
  | deliver {s : System} {n : Nat} : s.undelivered = n + 1 →
      Step y osHostname s { s with undelivered := n, loop := s.loop.notified }
  | spurious (s : System) : Step y osHostname s { s with loop := s.loop.notified }
  | loop {s : System} {config key : File} {l : Loop Stamp} : Reads s.session.files.config config →
      Reads s.session.files.key key → s.loop.next y osHostname s.stamp config key = some l →
      Step y osHostname s { s with loop := l }
  | background {s : System} {runner : InnerDaemonRunner} : Background s.loop.runner runner →
      Step y osHostname s { s with loop := { s.loop with runner := runner } }

inductive Reached (y : SerdeYaml) (osHostname : String) : System → Prop
  | new {config key : File} (clock : String) : Blank config → Blank key →
      Reached y osHostname (.new config key clock)
  | step {s s' : System} : Reached y osHostname s → Step y osHostname s s' → Reached y osHostname s'

variable {s s' t : System} {history : List Event} {loads : List (Load Stamp)} {m : ConfigMap} {fs : Files}
  {runner : InnerDaemonRunner} {c : EbbflowDaemonConfig} {op : FileOp}

/-- The same without the commands, of which the daemon sees the writes. -/
def watched (s : System) : Watched := ⟨s.session.files, s.undelivered, mapLoop Prod.snd s.loop⟩

theorem apply_announced (fs : Files) (op : FileOp) :
    (op.announces fs = 0 ∧ op.apply fs = fs) ∨
      (op.announces fs = 1 ∧
        ∃ content, op.apply fs = fs.writeConfig content ∨ op.apply fs = fs.writeKey content) := by
  cases op with
  | touchConfig =>
      by_cases hmissing : fs.config = .error .NotFound
      · exact .inr ⟨if_pos hmissing, [], .inl (if_pos hmissing)⟩
      · exact .inl ⟨if_neg hmissing, if_neg hmissing⟩
  | touchKey =>
      by_cases hmissing : fs.key = .error .NotFound
      · exact .inr ⟨if_pos hmissing, [], .inr (if_pos hmissing)⟩
      · exact .inl ⟨if_neg hmissing, if_neg hmissing⟩
  | truncateConfig | writeConfig => exact .inr ⟨rfl, _, .inl rfl⟩
  | truncateKey | writeKey => exact .inr ⟨rfl, _, .inr rfl⟩

theorem watched_notified (s : System) (n : Nat) :
    watched { s with undelivered := n, loop := s.loop.notified } =
      { watched s with undelivered := n, loop := (watched s).loop.notified } := by
  simp only [watched, notified_map]

theorem watched_step (h : Step y osHostname s s') :
    watched s' = watched s ∨ ConfigWatch.Step y osHostname (watched s) (watched s') := by
  cases h with
  | session hs =>
      cases hs with
      | ask | stop => exact .inl rfl
      | @perform op todo htodo =>
          rcases apply_announced s.session.files op with ⟨hn, hfs⟩ | ⟨hn, content, hfs | hfs⟩
          · left
            simp only [watched, hn, hfs, Nat.add_zero]
          · right
            simp only [watched, hn, hfs]
            exact .writeConfig (watched s) content
          · right
            simp only [watched, hn, hfs]
            exact .writeKey (watched s) content
  | deliver hn =>
      right
      rw [watched_notified]
      exact .deliver hn
  | spurious =>
      right
      rw [watched_notified]
      exact .spurious (watched s)
  | loop hc hk hnext => exact .inr (.loop hc hk (next_map Prod.snd hnext))
  | background hb => exact .inr (.background hb)

theorem reached_watched (h : Reached y osHostname s) :
    ∃ config key clock, ConfigWatch.Run y osHostname (.new config key ⟨none⟩ clock) (watched s) := by
  induction h with
  | @new config key clock _ _ => exact ⟨config, key, clock, .new⟩
  | step _ hs ih =>
      obtain ⟨config, key, clock, hrun⟩ := ih
      refine ⟨config, key, clock, ?_⟩
      rcases watched_step hs with heq | hstep
      · rw [heq]
        exact hrun
      · exact hrun.step hstep

theorem reached_inv (h : Reached y osHostname s) :
    ∃ clock, ConfigWatch.Inv y osHostname (.new ⟨none⟩ clock) (watched s) := by
  obtain ⟨_, _, clock, hrun⟩ := reached_watched h
  exact ⟨clock, run_inv hrun⟩

theorem reached_run (h : Reached y osHostname s) : ∃ calls, Runner.Run osHostname calls s.loop.runner := by
  obtain ⟨_, hinv⟩ := reached_inv h
  exact ⟨_, hinv.recorded.run⟩

/-- A configuration that was read is the one asked for by then; a key was asked for once. -/
structure Sourced (history read : List Event) (result : Reloaded) : Prop where
  past : read <+: history
  config : ∀ c, configOf result = some c → ∃ d : DistinctConfig, d.config = c ∧ (wanted read).config = some d.view
  key : ∀ k, keyOf result = some k → ∃ p, p <+: history ∧ (wanted p).key = some k

def PhaseSourced (history : List Event) (loads : List (Load Stamp)) : Phase Stamp → Prop
  | .readingKey _ read cfg => Sourced history read.1 (.ok (cfg, none)) ∧ ∀ load ∈ loads, load.read.1 <+: read.1
  | .loaded _ read result => Sourced history read.1 result ∧ ∀ load ∈ loads, load.read.1 <+: read.1
  | .readingConfig _ | .notifying | .parked | .woken => True

def tookEffect (load : Load Stamp) : Bool := (configOf load.result).isSome && load.left.rt.info.key.isSome

/-- The part of the history that the runner has caught up with. -/
def shown : List (Load Stamp) → List Event
  | [] => []
  | load :: loads => if tookEffect load then load.read.1 else shown loads

structure Traced (y : SerdeYaml) (osHostname : String) (s : System) : Prop where
  sound : Console.Sound y s.session
  loads : ∀ load ∈ s.loop.loads, Sourced s.session.history load.read.1 load.result
  phase : PhaseSourced s.session.history s.loop.loads s.loop.phase
  shown : ∃ d : DistinctConfig, d.view = (wanted (shown s.loop.loads)).current ∧
    ConfiguredAs osHostname d.config s.loop.runner
  key : ∀ k, s.loop.runner.rt.info.key = some k → ∃ p, p <+: s.session.history ∧ (wanted p).key = some k

theorem Sourced.mono {read : List Event} {result : Reloaded} {history' : List Event}
    (h : Sourced history read result) (hle : history <+: history') : Sourced history' read result where
  past := h.past.trans hle
  config := h.config
  key k hk := by
    obtain ⟨p, hp, hkey⟩ := h.key k hk
    exact ⟨p, hp.trans hle, hkey⟩

theorem sourced_error {read : List Event} (h : read <+: history) (e : ConfigError) :
    Sourced history read (.error e) where
  past := h
  config _ hc := by cases hc
  key _ hk := by cases hk

theorem PhaseSourced.mono {history' : List Event} {phase : Phase Stamp} (h : PhaseSourced history loads phase)
    (hle : history <+: history') : PhaseSourced history' loads phase := by
  cases phase with
  | readingKey | loaded => exact ⟨h.1.mono hle, h.2⟩
  | readingConfig | notifying | parked | woken => trivial

theorem PhaseSourced.notified {l : Loop Stamp} (h : PhaseSourced history l.loads l.phase) :
    PhaseSourced history l.notified.loads l.notified.phase := by
  simp only [Loop.notified]
  split
  · trivial
  · exact h

theorem shown_le {p : List Event} (h : ∀ load ∈ loads, load.read.1 <+: p) : shown loads <+: p := by
  induction loads with
  | nil => exact List.nil_prefix
  | cons load loads ih =>
      obtain ⟨hload, hloads⟩ := List.forall_mem_cons.mp h
      rw [shown]
      split
      · exact hload
      · exact ih hloads

theorem shown_cons {load : Load Stamp} (h : ∀ l ∈ loads, l.read.1 <+: load.read.1) :
    shown loads <+: shown (load :: loads) := by
  rw [shown]
  split
  · exact shown_le h
  · exact List.prefix_rfl

theorem applyReloaded_cases {calls : List Call} (h : Runner.Run osHostname calls runner) (result : Reloaded) :
    (∃ c, configOf result = some c ∧ (applyReloaded osHostname runner result).rt.info.key.isSome ∧
        ConfiguredAs osHostname c (applyReloaded osHostname runner result)) ∨
      ((configOf result = none ∨ (applyReloaded osHostname runner result).rt.info.key = none) ∧
        (applyReloaded osHostname runner result).endpoints = runner.endpoints ∧
        (applyReloaded osHostname runner result).ssh = runner.ssh) := by
  have hkey := applyReloaded_key osHostname runner result
  cases result with
  | error e => exact .inr ⟨.inl rfl, rfl, rfl⟩
  | ok r =>
      obtain ⟨config, key⟩ := r
      rcases updateConfig_cases osHostname runner config key with ⟨hidle, he, hs, _⟩ | ⟨c, rfl, hset, _⟩
      · refine .inr ⟨?_, he, hs⟩
        rcases hidle with rfl | ⟨hnone, rfl⟩
        · exact .inl rfl
        · exact .inr (hkey.trans hnone)
      · refine .inl ⟨c, rfl, ?_, configuredAs_updateConfig h c key hset⟩
        rw [hkey, Option.isSome_or, Bool.or_eq_true]
        exact hset.symm

theorem traced_apply (h : Traced y osHostname s) {calls : List Call}
    (hrun : Runner.Run osHostname calls s.loop.runner) {began read : Stamp} {result : Reloaded}
    (hp : s.loop.phase = .loaded began read result) :
    ∃ d : DistinctConfig,
      d.view = (wanted (shown (⟨began, read, result, applyReloaded osHostname s.loop.runner result⟩ ::
        s.loop.loads))).current ∧
      ConfiguredAs osHostname d.config (applyReloaded osHostname s.loop.runner result) := by
  have hphase := h.phase
  rw [hp] at hphase
  rcases applyReloaded_cases hrun result with ⟨c, hc, hset, hconfigured⟩ | ⟨hidle, he, hs⟩
  · obtain ⟨d, rfl, hwanted⟩ := hphase.1.config c hc
    refine ⟨d, ?_, hconfigured⟩
    rw [shown, if_pos (by simp [tookEffect, hc, hset]), Wanted.current, hwanted]
    rfl
  · obtain ⟨d, hview, hconfigured⟩ := h.shown
    refine ⟨d, ?_, configuredAs_congr hconfigured (.of_eq (congrArg _ he)) hs⟩
    rw [shown, if_neg, hview]
    rcases hidle with hnone | hnone <;> simp [tookEffect, hnone]

theorem traced_loop (hy : Restored y s.session.history) (hempty : y.EmptyDocument) (h : Traced y osHostname s)
    {calls : List Call} (hrun : Runner.Run osHostname calls s.loop.runner) {config key : File} {l : Loop Stamp}
    (hconfig : Reads s.session.files.config config) (hkey : Reads s.session.files.key key)
    (hs : Loop.Step y osHostname s.stamp config key s.loop l) : Traced y osHostname { s with loop := l } := by
  have hphase := h.phase
  have hpast : ∀ load ∈ s.loop.loads, load.read.1 <+: s.session.history :=
    fun load hload => (h.loads load hload).past
  cases hs with
  | readConfig hp hr =>
      refine ⟨h.sound, h.loads, ⟨⟨List.prefix_rfl, ?_, fun _ hk => by cases hk⟩, hpast⟩, h.shown, h.key⟩
      rintro c rfl
      exact h.sound.reload_config hy hempty (reads_config hconfig hr)
  | failConfig hp _ =>
      exact ⟨h.sound, h.loads, ⟨sourced_error List.prefix_rfl _, hpast⟩, h.shown, h.key⟩
  | readKey hp hr =>
      rw [hp] at hphase
      refine ⟨h.sound, h.loads, ⟨⟨hphase.1.past, hphase.1.config, ?_⟩, hphase.2⟩, h.shown, h.key⟩
      rintro k rfl
      exact ⟨_, List.prefix_rfl, h.sound.reload_key (reads_key hkey hr)⟩
  | failKey hp _ =>
      rw [hp] at hphase
      exact ⟨h.sound, h.loads, ⟨sourced_error hphase.1.past _, hphase.2⟩, h.shown, h.key⟩
  | apply hp =>
      rw [hp] at hphase
      refine ⟨h.sound, List.forall_mem_cons.mpr ⟨hphase.1, h.loads⟩, trivial, traced_apply h hrun hp, ?_⟩
      intro k hk
      rw [applyReloaded_key, Option.or_eq_some_iff] at hk
      rcases hk with hk | ⟨_, hk⟩
      · exact hphase.1.key k hk
      · exact h.key k hk
  | consume _ _ | park _ _ | resume _ => exact ⟨h.sound, h.loads, trivial, h.shown, h.key⟩

theorem traced_step (hy : Restored y s.session.history) (hempty : y.EmptyDocument) (h : Traced y osHostname s)
    {calls : List Call} (hrun : Runner.Run osHostname calls s.loop.runner) (hs : Step y osHostname s s') :
    Traced y osHostname s' := by
  cases hs with
  | session hstep =>
      have hle := step_history hstep
      refine ⟨sound_step hy hempty h.sound hstep, ?_, h.phase.mono hle, h.shown, ?_⟩
      · intro load hload
        exact (h.loads load hload).mono hle
      · intro k hk
        obtain ⟨p, hp, hwanted⟩ := h.key k hk
        exact ⟨p, hp.trans hle, hwanted⟩
  | deliver _ | spurious => exact ⟨h.sound, h.loads, h.phase.notified, h.shown, h.key⟩
  | loop hc hk hnext => exact traced_loop hy hempty h hrun hc hk (Loop.next_step hnext)
  | background hb =>
      obtain ⟨d, hview, hconfigured⟩ := h.shown
      refine ⟨h.sound, h.loads, h.phase, ⟨d, hview, configuredAs_congr hconfigured hb.endpoints hb.ssh⟩, ?_⟩
      intro k hk
      rw [hb.info] at hk
      exact h.key k hk

theorem traced_new {config key : File} (clock : String) (hconfig : Blank config) (hkey : Blank key) :
    Traced y osHostname (.new config key clock) where
  sound := .between hconfig hkey .done
  loads _ hload := by cases hload
  phase := trivial
  shown := by
    refine ⟨newConfig none, rfl, ?_, ?_, ?_, .none, ?_⟩
    · simp [newConfig, System.new, Loop.new, InnerDaemonRunner.new]
    · intro dns inst hl
      cases hl
    · intro dns inst hl
      cases hl
    · intro inst hs
      cases hs
  key _ hk := by cases hk

theorem session_history (hs : Step y osHostname s s') : s.session.history <+: s'.session.history := by
  cases hs with
  | session hstep => exact step_history hstep
  | deliver | spurious | loop | background => exact List.prefix_rfl

theorem reached_traced (hempty : y.EmptyDocument) (h : Reached y osHostname s) (hy : Restored y s.session.history) :
    Traced y osHostname s := by
  induction h with
  | new clock hconfig hkey => exact traced_new clock hconfig hkey
  | step hreached hs ih =>
      obtain ⟨_, hrun⟩ := reached_run hreached
      have hbefore := hy.before (session_history hs)
      exact traced_step hbefore hempty (ih hbefore) hrun hs

end Ebbflow.Convergence
