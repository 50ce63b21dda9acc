import Ebbflow.ConfigRefinement
import Ebbflow.ConfigWatch

namespace Ebbflow.Console

open Config ConfigFile ConfigCommands ConfigRefinement ConfigWatch Lib.Text Lib.Wire

def newConfig (sshcfg : Option Ssh) : DistinctConfig := ⟨⟨[], sshcfg, none⟩, List.nodup_nil⟩

/-- What a save changes: one command's edit, or all of it when a host is initialized. -/
inductive Change
  | command (cmd : ConfigSubCommand)
  | initial (sshcfg : Option Ssh)

def Change.apply (m : ConfigMap) : Change → ConfigMap
  | .command cmd =>
      match m.edit cmd with
      | .ok (m', _) => m'
      | .error _ => m
  | .initial sshcfg => (newConfig sshcfg).view

/-- What became of the files: a save was completed, or was cut short between
the truncation and the write. -/
inductive Event
  | saved (change : Change)
  | keyed (k : String)
  | cutConfig
  | cutKey

structure Wanted where
  config : Option ConfigMap
  key : Option String

def Wanted.current (w : Wanted) : ConfigMap := w.config.getD (newConfig none).view

def Event.apply (w : Wanted) : Event → Wanted
  | .saved change => { w with config := some (change.apply w.current) }
  | .keyed k => { w with key := if trim k = "" then none else some (trim k) }
  | .cutConfig => { w with config := none }
  | .cutKey => { w with key := none }

def wanted (history : List Event) : Wanted := history.foldl Event.apply ⟨none, none⟩

/-- The steps that `fs::write` and `check_permissions` take on the two files. -/
inductive FileOp
  | touchConfig
  | touchKey
  | truncateConfig
  | writeConfig (change : Change) (b : String)
  | truncateKey
  | writeKey (k : String)

def FileOp.apply (fs : Files) : FileOp → Files
  | .touchConfig => if fs.config = .error .NotFound then fs.writeConfig [] else fs
  | .touchKey => if fs.key = .error .NotFound then fs.writeKey [] else fs
  | .truncateConfig => fs.writeConfig []
  | .writeConfig _ b => fs.writeConfig (encode b)
  | .truncateKey => fs.writeKey []
  | .writeKey k => fs.writeKey (setkey k)

def FileOp.announces (fs : Files) : FileOp → Nat
  | .touchConfig => if fs.config = .error .NotFound then 1 else 0
  | .touchKey => if fs.key = .error .NotFound then 1 else 0
  | .truncateConfig | .writeConfig _ _ | .truncateKey | .writeKey _ => 1

def FileOp.events : FileOp → List Event
  | .writeConfig change _ => [.saved change]
  | .writeKey k => [.keyed k]
  | .touchConfig | .touchKey | .truncateConfig | .truncateKey => []

/-- What has happened when the process ends before this step. -/
def FileOp.cut : FileOp → List Event
  | .writeConfig _ _ => [.cutConfig]
  | .writeKey _ => [.cutKey]
  | .touchConfig | .touchKey | .truncateConfig | .truncateKey => []

/-- `save_to_file`, which opens the file once the text is made. -/
def saveOps (y : SerdeYaml) (change : Change) (config : EbbflowDaemonConfig) : List FileOp :=
  match y.toString config with
  | some b => [.truncateConfig, .writeConfig change b]
  | none => []

def setkeyOps (k : String) : List FileOp := [.truncateKey, .writeKey k]

inductive Request
  | Config (cmd : ConfigSubCommand)
  | InitInteractive (key : String) (sshcfg : Option Ssh)
  | InitNonInteractive (key : String)

/-- What a command does to the files, given what it loads. A command that is
refused does nothing. -/
def Request.ops (y : SerdeYaml) (config : File) : Request → List FileOp
  | .Config cmd =>
      match loadFromFileOrNew y config with
      | .error _ => []
      | .ok existing =>
          match cmd.edit existing with
          | .error _ => []
          | .ok (config, _) => saveOps y (.command cmd) config
  | .InitInteractive key sshcfg =>
      [.touchConfig, .touchKey] ++ setkeyOps key ++ saveOps y (.initial sshcfg) (newConfig sshcfg).config
  | .InitNonInteractive key => setkeyOps (trim key)

structure Session where
  files : Files
  todo : List FileOp
  history : List Event

inductive Step (y : SerdeYaml) : Session → Nat → Session → Prop
  | ask {c : Session} (request : Request) : c.todo = [] →
      Step y c 0 { c with todo := request.ops y c.files.config }
  | perform {c : Session} {op : FileOp} {todo : List FileOp} : c.todo = op :: todo →
      Step y c (op.announces c.files) ⟨op.apply c.files, todo, c.history ++ op.events⟩
  | stop {c : Session} {op : FileOp} {todo : List FileOp} : c.todo = op :: todo →
      Step y c 0 { c with todo := [], history := c.history ++ op.cut }

def Blank (f : File) : Prop := f = .error .NotFound ∨ f = .ok []

def HoldsConfig (y : SerdeYaml) (f : File) : Option ConfigMap → Prop
  | none => Blank f
  | some m => ∃ (c : DistinctConfig) (b : String), c.view = m ∧ y.toString c.config = some b ∧ f = .ok (encode b)

def HoldsKey (f : File) : Option String → Prop
  | none => Blank f
  | some k => k ≠ "" ∧ ∃ given, trim given = k ∧ f = .ok (setkey given)

def Prepared (y : SerdeYaml) (m : ConfigMap) (change : Change) (b : String) : Prop :=
  ∃ c : DistinctConfig, c.view = change.apply m ∧ y.toString c.config = some b

/-- What a command may still have to do when no save of it is half done. -/
inductive Plan (y : SerdeYaml) (m : ConfigMap) : List FileOp → Prop
  | done : Plan y m []
  | touchConfig {todo} : Plan y m todo → Plan y m (.touchConfig :: todo)
  | touchKey {todo} : Plan y m todo → Plan y m (.touchKey :: todo)
  | setkey {k todo} : Plan y m todo → Plan y m (.truncateKey :: .writeKey k :: todo)
  | save {change b} : Prepared y m change b → Plan y m [.truncateConfig, .writeConfig change b]

/-- The files hold what the history asks for, or are half way to it. -/
inductive Sound (y : SerdeYaml) : Session → Prop
  | between {fs todo history} : HoldsConfig y fs.config (wanted history).config →
      HoldsKey fs.key (wanted history).key → Plan y (wanted history).current todo →
      Sound y ⟨fs, todo, history⟩
  | saving {fs history change b} : Blank fs.config → HoldsKey fs.key (wanted history).key →
      Prepared y (wanted history).current change b → Sound y ⟨fs, [.writeConfig change b], history⟩
  | keying {fs k todo history} : Blank fs.key → HoldsConfig y fs.config (wanted history).config →
      Plan y (wanted history).current todo → Sound y ⟨fs, .writeKey k :: todo, history⟩

variable {y : SerdeYaml} {s s' : Session} {fs : Files} {f : File} {cfg : Option ConfigMap} {n : Nat}
  {history : List Event} {c : EbbflowDaemonConfig} {k : String} {todo : List FileOp}

@[simp] theorem wanted_concat (history : List Event) (e : Event) :
    wanted (history ++ [e]) = e.apply (wanted history) := by
  simp [wanted]

/-- The configurations that were ever to be found load as themselves. -/
def Restored (y : SerdeYaml) (history : List Event) : Prop :=
  ∀ past, past <+: history → ∀ m, (wanted past).config = some m → y.Restores m.config

theorem Restored.before {past : List Event} (h : Restored y history) (hp : past <+: history) : Restored y past :=
  fun earlier he => h earlier (he.trans hp)

theorem Restored.now (h : Restored y history) {d : DistinctConfig} (hw : (wanted history).config = some d.view) :
    y.Restores d.config := by
  rw [← config_view d]
  exact h history List.prefix_rfl d.view hw

theorem restored_of_roundTrip (hy : y.RoundTrip) (history : List Event) : Restored y history :=
  fun _ _ m _ => hy m.config

theorem Blank.unloaded (h : Blank f) (hempty : y.EmptyDocument) (hload : loadFromFileOrNew y f = .ok c) :
    c = (newConfig none).config := by
  rcases h with rfl | rfl
  · exact (Except.ok.inj hload).symm
  · rcases hempty with hnone | hnone
    · simp only [loadFromFileOrNew, loadFromFilePath, hnone, Except.ok.injEq] at hload
      exact hload.symm
    · simp [loadFromFileOrNew, loadFromFilePath, hnone] at hload

theorem Blank.reload (h : Blank f) (hempty : y.EmptyDocument) : reloadConfig y f ≠ .ok (some c) := by
  rcases h with rfl | rfl
  · exact fun he => by cases he
  · rcases hempty with hnone | hnone <;> simp [reloadConfig, loadFromFilePath, hnone]

theorem Blank.reload_key (h : Blank f) : reloadKey f = .ok none := by
  rcases h with rfl | rfl
  · rfl
  · have hempty : getkey (.ok []) = .error .Empty := rfl
    simp [reloadKey, hempty]

theorem HoldsConfig.loaded (h : HoldsConfig y f (wanted history).config) (hy : Restored y history)
    (hempty : y.EmptyDocument) (hload : loadFromFileOrNew y f = .ok c) :
    ∃ existing : DistinctConfig, existing.config = c ∧ existing.view = (wanted history).current := by
  rw [Wanted.current]
  cases hw : (wanted history).config with
  | none =>
      rw [hw] at h
      exact ⟨newConfig none, (Blank.unloaded h hempty hload).symm, rfl⟩
  | some m =>
      rw [hw] at h
      obtain ⟨existing, b, rfl, hb, rfl⟩ := h
      rw [loadFromFileOrNew_text (hy.now hw) hb] at hload
      exact ⟨existing, Except.ok.inj hload, rfl⟩

theorem HoldsConfig.reload (h : HoldsConfig y f (wanted history).config) (hy : Restored y history)
    (hempty : y.EmptyDocument) (hreload : reloadConfig y f = .ok (some c)) :
    ∃ d : DistinctConfig, d.config = c ∧ (wanted history).config = some d.view := by
  cases hw : (wanted history).config with
  | none =>
      rw [hw] at h
      exact absurd hreload (Blank.reload h hempty)
  | some m =>
      rw [hw] at h
      obtain ⟨d, b, rfl, hb, rfl⟩ := h
      simp only [reloadConfig, loadFromFilePath, hy.now hw b hb, Except.ok.injEq, Option.some.injEq] at hreload
      exact ⟨d, hreload, rfl⟩

theorem HoldsKey.reload {key : Option String} (h : HoldsKey f key) : reloadKey f = .ok key := by
  cases key with
  | none => exact Blank.reload_key h
  | some k =>
      obtain ⟨hne, given, rfl, rfl⟩ := h
      simp only [reloadKey, getkey_setkey, if_neg hne]

theorem plan_saveOps {m : ConfigMap} {change : Change} {d : DistinctConfig} (h : d.view = change.apply m) :
    Plan y m (saveOps y change d.config) := by
  rw [saveOps]
  cases hb : y.toString d.config with
  | none => exact .done
  | some b => exact .save ⟨d, h, hb⟩

theorem plan_ops (hy : Restored y history) (hempty : y.EmptyDocument)
    (h : HoldsConfig y f (wanted history).config) (request : Request) :
    Plan y (wanted history).current (request.ops y f) := by
  cases request with
  | InitNonInteractive key => exact .setkey .done
  | InitInteractive key sshcfg =>
      apply Plan.touchConfig
      apply Plan.touchKey
      exact .setkey (plan_saveOps rfl)
  | Config cmd =>
      rw [Request.ops]
      cases hload : loadFromFileOrNew y f with
      | error e => exact .done
      | ok existing =>
          obtain ⟨d, rfl, hview⟩ := h.loaded hy hempty hload
          have hrefines := edit_refines d cmd
          cases hedit : cmd.edit d.config with
          | error message =>
              simp only [hedit]
              exact .done
          | ok p =>
              obtain ⟨config, answer⟩ := p
              rw [hedit] at hrefines
              obtain ⟨d', rfl, hmap⟩ := hrefines
              simp only [hedit]
              apply plan_saveOps
              rw [← hview, Change.apply, hmap]

theorem holdsConfig_touch (h : HoldsConfig y fs.config cfg) :
    HoldsConfig y (FileOp.touchConfig.apply fs).config cfg := by
  rw [FileOp.apply]
  split
  next hmissing =>
    cases cfg with
    | none => exact .inr rfl
    | some m =>
        obtain ⟨_, _, _, _, hf⟩ := h
        rw [hf] at hmissing
        cases hmissing
  · exact h

theorem holdsKey_touch {key : Option String} (h : HoldsKey fs.key key) :
    HoldsKey (FileOp.touchKey.apply fs).key key := by
  rw [FileOp.apply]
  split
  next hmissing =>
    cases key with
    | none => exact .inr rfl
    | some k =>
        obtain ⟨_, _, _, hf⟩ := h
        rw [hf] at hmissing
        cases hmissing
  · exact h

theorem touchConfig_key (fs : Files) : (FileOp.touchConfig.apply fs).key = fs.key := by
  rw [FileOp.apply]
  split <;> rfl

theorem touchKey_config (fs : Files) : (FileOp.touchKey.apply fs).config = fs.config := by
  rw [FileOp.apply]
  split <;> rfl

theorem holdsKey_setkey (k : String) : HoldsKey (.ok (setkey k)) (if trim k = "" then none else some (trim k)) := by
  split
  next hblank =>
    right
    rw [setkey, hblank]
    rfl
  next hne => exact ⟨hne, k, rfl, rfl⟩

theorem Sound.perform (h : Sound y s) {op : FileOp} (htodo : s.todo = op :: todo) :
    Sound y ⟨op.apply s.files, todo, s.history ++ op.events⟩ := by
  cases h with
  | between hc hk hplan =>
      cases hplan with
      | done => cases htodo
      | touchConfig hplan =>
          cases htodo
          refine .between ?_ ?_ ?_ <;> rw [FileOp.events, List.append_nil]
          · exact holdsConfig_touch hc
          · rw [touchConfig_key]
            exact hk
          · exact hplan
      | touchKey hplan =>
          cases htodo
          refine .between ?_ ?_ ?_ <;> rw [FileOp.events, List.append_nil]
          · rw [touchKey_config]
            exact hc
          · exact holdsKey_touch hk
          · exact hplan
      | setkey hplan =>
          cases htodo
          refine .keying (.inr rfl) ?_ ?_ <;> rw [FileOp.events, List.append_nil]
          · exact hc
          · exact hplan
      | save hprepared =>
          cases htodo
          refine .saving (.inr rfl) ?_ ?_ <;> rw [FileOp.events, List.append_nil]
          · exact hk
          · exact hprepared
  | saving hblank hk hprepared =>
      cases htodo
      obtain ⟨d, hview, hb⟩ := hprepared
      refine .between ?_ ?_ .done <;> simp only [FileOp.events, wanted_concat, Event.apply]
      · exact ⟨d, _, hview, hb, rfl⟩
      · exact hk
  | @keying _ k _ _ hblank hc hplan =>
      cases htodo
      refine .between ?_ ?_ ?_ <;> simp only [FileOp.events, wanted_concat, Event.apply]
      · exact hc
      · exact holdsKey_setkey k
      · exact hplan

theorem Sound.stop (h : Sound y s) {op : FileOp} (htodo : s.todo = op :: todo) :
    Sound y { s with todo := [], history := s.history ++ op.cut } := by
  cases h with
  | between hc hk hplan =>
      have hcut : op.cut = [] := by
        cases hplan with
        | done => cases htodo
        | touchConfig | touchKey | setkey | save =>
            cases htodo
            rfl
      rw [hcut, List.append_nil]
      exact .between hc hk .done
  | saving hblank hk _ =>
      cases htodo
      refine .between ?_ ?_ .done <;> simp only [FileOp.cut, wanted_concat, Event.apply]
      · exact hblank
      · exact hk
  | keying hblank hc _ =>
      cases htodo
      refine .between ?_ ?_ .done <;> simp only [FileOp.cut, wanted_concat, Event.apply]
      · exact hc
      · exact hblank

theorem sound_step (hy : Restored y s.history) (hempty : y.EmptyDocument) (h : Sound y s) (hs : Step y s n s') :
    Sound y s' := by
  cases hs with
  | ask request htodo =>
      cases h with
      | between hc hk _ => exact .between hc hk (plan_ops hy hempty hc request)
      | saving | keying => cases htodo
  | perform htodo => exact h.perform htodo
  | stop htodo => exact h.stop htodo

theorem Sound.reload_config (h : Sound y s) (hy : Restored y s.history) (hempty : y.EmptyDocument)
    (hreload : reloadConfig y s.files.config = .ok (some c)) :
    ∃ d : DistinctConfig, d.config = c ∧ (wanted s.history).config = some d.view := by
  cases h with
  | between hc _ _ | keying _ hc _ => exact hc.reload hy hempty hreload
  | saving hblank _ _ => exact absurd hreload (hblank.reload hempty)

theorem Sound.reload_key (h : Sound y s) (hreload : reloadKey s.files.key = .ok (some k)) :
    (wanted s.history).key = some k := by
  cases h with
  | between _ hk _ | saving _ hk _ =>
      rw [hk.reload] at hreload
      exact Except.ok.inj hreload
  | keying hblank _ _ =>
      rw [hblank.reload_key] at hreload
      cases hreload

theorem Sound.idle (h : Sound y s) (hidle : s.todo = []) :
    HoldsConfig y s.files.config (wanted s.history).config ∧ HoldsKey s.files.key (wanted s.history).key := by
  cases h with
  | between hc hk _ => exact ⟨hc, hk⟩
  | saving | keying => cases hidle

theorem step_history (hs : Step y s n s') : s.history <+: s'.history := by
  cases hs with
  | ask => exact List.prefix_rfl
  | perform | stop => exact List.prefix_append _ _

end Ebbflow.Console
