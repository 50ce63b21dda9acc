import Ebbflow.ConfigFile
import Ebbflow.Lib.Wakeup
import Ebbflow.Runner

namespace Ebbflow.RunDaemon

open Config ConfigFile Daemon Runner Lib.Wakeup

variable {τ : Type}

abbrev Reloaded := Except ConfigError (Option EbbflowDaemonConfig × Option String)

/-- Where the loop stands. The stamps say when the load under way began and
when it read the configuration file. -/
inductive Phase (τ : Type)
  | readingConfig (began : τ)
  | readingKey (began read : τ) (cfg : Option EbbflowDaemonConfig)
  | loaded (began read : τ) (result : Reloaded)
  | notifying
  | parked
  | woken

structure Load (τ : Type) where
  began : τ
  read : τ
  result : Reloaded
  left : InnerDaemonRunner

structure Loop (τ : Type) where
  phase : Phase τ
  notify : Notify
  runner : InnerDaemonRunner
  /-- Latest first. -/
  loads : List (Load τ)

def Loop.new (now : τ) (runner : InnerDaemonRunner) : Loop τ := ⟨.readingConfig now, .EMPTY, runner, []⟩

def applyReloaded (osHostname : String) (runner : InnerDaemonRunner) : Reloaded → InnerDaemonRunner
  | .ok (newconfig, newkey) => updateConfig osHostname runner newconfig newkey
  | .error e => { runner with
      rt := runner.rt.addMessage s!"Error reading new configuration {e.debug}" }

/-- The next step of the loop, given what the files would read as. A parked
loop has none. -/
def Loop.next (y : SerdeYaml) (osHostname : String) (now : τ) (config key : File) (l : Loop τ) :
    Option (Loop τ) :=
  match l.phase with
  | .readingConfig began => some { l with
      phase :=
        match reloadConfig y config with
        | .ok cfg => .readingKey began now cfg
        | .error e => .loaded began now (.error e) }
  | .readingKey began read cfg => some { l with
      phase :=
        match reloadKey key with
        | .ok key => .loaded began read (.ok (cfg, key))
        | .error e => .loaded began read (.error e) }
  | .loaded began read result =>
      let runner := applyReloaded osHostname l.runner result
      some { l with
        phase := .notifying
        runner := runner
        loads := ⟨began, read, result, runner⟩ :: l.loads }
  | .notifying =>
      let r := l.notify.poll
      some { l with notify := r.1, phase := if r.2 then .readingConfig now else .parked }
  | .woken => some { l with phase := .readingConfig now }
  | .parked => none

def Loop.notified (l : Loop τ) : Loop τ :=
  let r := l.notify.notify
  { l with notify := r.1, phase := if r.2 then .woken else l.phase }

def calls (loads : List (Load τ)) : List Call :=
  loads.filterMap fun load =>
    match load.result with
    | .ok (config, key) => some ⟨config, key⟩
    | .error _ => none

/-- Whoever waits on the cell is the parked loop. -/
def Loop.Waits (l : Loop τ) : Prop :=
  match l.phase with
  | .parked => l.notify = .WAITING
  | _ => l.notify ≠ .WAITING

inductive Loop.Step (y : SerdeYaml) (osHostname : String) (now : τ) (config key : File) :
    Loop τ → Loop τ → Prop
  | readConfig {l began cfg} : l.phase = .readingConfig began → reloadConfig y config = .ok cfg →
      Step y osHostname now config key l { l with phase := .readingKey began now cfg }
  | failConfig {l began e} : l.phase = .readingConfig began → reloadConfig y config = .error e →
      Step y osHostname now config key l { l with phase := .loaded began now (.error e) }
  | readKey {l began read cfg k} : l.phase = .readingKey began read cfg → reloadKey key = .ok k →
      Step y osHostname now config key l { l with phase := .loaded began read (.ok (cfg, k)) }
  | failKey {l began read cfg e} : l.phase = .readingKey began read cfg → reloadKey key = .error e →
      Step y osHostname now config key l { l with phase := .loaded began read (.error e) }
  | apply {l began read result} : l.phase = .loaded began read result →
      Step y osHostname now config key l { l with
        phase := .notifying
        runner := applyReloaded osHostname l.runner result
        loads := ⟨began, read, result, applyReloaded osHostname l.runner result⟩ :: l.loads }
  | consume {l} : l.phase = .notifying → l.notify = .NOTIFIED →
      Step y osHostname now config key l { l with notify := .EMPTY, phase := .readingConfig now }
  | park {l} : l.phase = .notifying → l.notify ≠ .NOTIFIED →
      Step y osHostname now config key l { l with notify := .WAITING, phase := .parked }
  | resume {l} : l.phase = .woken →
      Step y osHostname now config key l { l with phase := .readingConfig now }

theorem Loop.next_step {y : SerdeYaml} {osHostname : String} {now : τ} {config key : File}
    {l l' : Loop τ} (h : l.next y osHostname now config key = some l') :
    Loop.Step y osHostname now config key l l' := by
  rw [Loop.next] at h
  cases hp : l.phase with
  | readingConfig began =>
      rw [hp] at h
      cases hr : reloadConfig y config with
      | ok cfg =>
          simp only [hr, Option.some.injEq] at h
          exact h ▸ .readConfig hp hr
      | error e =>
          simp only [hr, Option.some.injEq] at h
          exact h ▸ .failConfig hp hr
  | readingKey began read cfg =>
      rw [hp] at h
      cases hr : reloadKey key with
      | ok k =>
          simp only [hr, Option.some.injEq] at h
          exact h ▸ .readKey hp hr
      | error e =>
          simp only [hr, Option.some.injEq] at h
          exact h ▸ .failKey hp hr
  | loaded began read result =>
      rw [hp] at h
      cases h
      exact .apply hp
  | notifying =>
      rw [hp] at h
      cases hn : l.notify with
      | NOTIFIED =>
          simp only [hn, Notify.poll, if_true, Option.some.injEq] at h
          exact h ▸ .consume hp hn
      | EMPTY | WAITING =>
          simp only [hn, Notify.poll, Bool.false_eq_true, if_false, Option.some.injEq] at h
          exact h ▸ .park hp (by simp [hn])
  | woken =>
      rw [hp] at h
      cases h
      exact .resume hp
  | parked =>
      rw [hp] at h
      cases h

theorem Loop.step_next {y : SerdeYaml} {osHostname : String} {now : τ} {config key : File}
    {l l' : Loop τ} (h : Loop.Step y osHostname now config key l l') :
    l.next y osHostname now config key = some l' := by
  cases h with
  | readConfig hp hr | failConfig hp hr | readKey hp hr | failKey hp hr => simp only [Loop.next, hp, hr]
  | apply hp | resume hp => simp only [Loop.next, hp]
  | consume hp hn => simp only [Loop.next, hp, hn, Notify.poll, if_true]
  | park hp hn =>
      cases hs : l.notify with
      | NOTIFIED => exact absurd hs hn
      | EMPTY | WAITING => simp only [Loop.next, hp, hs, Notify.poll, Bool.false_eq_true, if_false]

section

variable {y : SerdeYaml} {osHostname : String} {now : τ} {config key : File} {l l' : Loop τ}

theorem Loop.Waits.step (h : l.Waits) (hs : Loop.Step y osHostname now config key l l') : l'.Waits := by
  cases hs with
  | readConfig hp _ | failConfig hp _ | readKey hp _ | failKey hp _ | apply hp | resume hp =>
      rw [Loop.Waits, hp] at h
      exact h
  | consume _ _ => exact Notify.noConfusion
  | park _ _ => rfl

theorem Loop.Waits.notified {l : Loop τ} (h : l.Waits) : l.notified.Waits := by
  obtain ⟨phase, notify, runner, loads⟩ := l
  cases notify <;> cases phase <;> simp_all [Loop.Waits, Loop.notified, Notify.notify]

/-- What the loads so far have made of a runner, with whatever the rest of the
process did in between. -/
inductive Recorded (osHostname : String) (new : InnerDaemonRunner) :
    List (Load τ) → InnerDaemonRunner → Prop
  | new : Recorded osHostname new [] new
  | background {loads s t} : Recorded osHostname new loads s → Background s t →
      Recorded osHostname new loads t
  | load {loads s} (began read : τ) (result : Reloaded) : Recorded osHostname new loads s →
      Recorded osHostname new (⟨began, read, result, applyReloaded osHostname s result⟩ :: loads)
        (applyReloaded osHostname s result)

def leftBy (new : InnerDaemonRunner) (loads : List (Load τ)) : InnerDaemonRunner :=
  match loads with
  | [] => new
  | load :: _ => load.left

theorem background_refl (s : InnerDaemonRunner) : Background s s := ⟨.refl _, rfl, rfl, rfl, rfl⟩

theorem background_trans {s t u : InnerDaemonRunner} (h : Background s t) (h' : Background t u) :
    Background s u :=
  ⟨h'.endpoints.trans h.endpoints, h'.statusmeta.trans h.statusmeta, h'.ssh.trans h.ssh,
    h'.info.trans h.info, h'.log.trans h.log⟩

theorem background_error (osHostname : String) (s : InnerDaemonRunner) (e : ConfigError) :
    Background s (applyReloaded osHostname s (.error e)) := ⟨.refl _, rfl, rfl, rfl, rfl⟩

variable {new s : InnerDaemonRunner} {loads : List (Load τ)}

theorem Recorded.leftBy (h : Recorded osHostname new loads s) : Background (leftBy new loads) s := by
  induction h with
  | new => exact background_refl _
  | background _ hb ih => exact background_trans ih hb
  | load _ _ _ _ _ => exact background_refl _

theorem Recorded.last {load : Load τ} (h : Recorded osHostname new (load :: loads) s) :
    ∃ before, Background (RunDaemon.leftBy new loads) before ∧
      load.left = applyReloaded osHostname before load.result := by
  generalize hl : load :: loads = all at h
  induction h with
  | new => cases hl
  | background _ _ ih => exact ih hl
  | load _ _ _ hr _ =>
      cases hl
      exact ⟨_, hr.leftBy, rfl⟩

theorem Recorded.run {info : SharedInfo} {clock : String}
    (h : Recorded osHostname (.new info clock) loads s) : Run osHostname (calls loads) s := by
  induction h with
  | new => exact .new info clock
  | background _ hb ih => exact .background ih hb
  | load _ _ result _ ih =>
      cases result with
      | ok r => exact .call ⟨r.1, r.2⟩ ih
      | error e => exact .background ih (background_error _ _ _)

theorem Recorded.step (h : Recorded osHostname new l.loads l.runner)
    (hs : Loop.Step y osHostname now config key l l') : Recorded osHostname new l'.loads l'.runner := by
  cases hs with
  | apply _ => exact .load _ _ _ h
  | readConfig | failConfig | readKey | failKey | consume | park | resume => exact h

end

end Ebbflow.RunDaemon
