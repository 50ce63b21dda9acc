import Ebbflow.ConfigRefinement

namespace Ebbflow.ConfigRace

open Config ConfigFile ConfigCommands ConfigRefinement

inductive Who
  | first
  | second
  deriving DecidableEq, Repr

def Who.other : Who → Who
  | .first => .second
  | .second => .first

@[simp] theorem other_other (w : Who) : w.other.other = w := by cases w <;> rfl

@[simp] theorem other_ne (w : Who) : w.other ≠ w := by cases w <;> simp [Who.other]

@[simp] theorem ne_other (w : Who) : w ≠ w.other := (other_ne w).symm

theorem eq_or_other (v w : Who) : v = w ∨ v = w.other := by
  cases v <;> cases w <;> simp [Who.other]

inductive Process
  | started
  | loaded (existing : EbbflowDaemonConfig)
  | ended (outcome : Outcome)

inductive Access
  | load
  | save
  deriving DecidableEq, Repr

/-- Two commands over one file. Nothing keeps one from the file while the
other is at work. -/
structure Race where
  file : File
  proc : Who → Process
  /-- The accesses that succeeded, oldest first. -/
  accesses : List (Who × Access)

def Race.new (start : File) : Race := ⟨start, fun _ => .started, []⟩

def Race.put (s : Race) (w : Who) (p : Process) : Race := { s with proc := Function.update s.proc w p }

def Race.access (s : Race) (w : Who) (a : Access) (f : File) : Race :=
  { s with file := f, accesses := s.accesses ++ [(w, a)] }

inductive Step (y : SerdeYaml) (cmd : Who → ConfigSubCommand) : Race → Race → Prop
  | load {s w existing} : s.proc w = .started → loadFromFileOrNew y s.file = .ok existing →
      Step y cmd s ((s.access w .load s.file).put w (.loaded existing))
  | notLoaded {s w e} : s.proc w = .started → loadFromFileOrNew y s.file = .error e →
      Step y cmd s (s.put w (.ended (.failed e)))
  | exit {s w existing message} : s.proc w = .loaded existing → (cmd w).edit existing = .error message →
      Step y cmd s (s.put w (.ended (.exited message)))
  | save {s w existing config answer disk f} : s.proc w = .loaded existing →
      (cmd w).edit existing = .ok (config, answer) → saveToFile y config disk s.file = (f, .ok ()) →
      Step y cmd s ((s.access w .save f).put w (.ended (.saved answer)))
  | notSaved {s w existing config answer disk f e} : s.proc w = .loaded existing →
      (cmd w).edit existing = .ok (config, answer) → saveToFile y config disk s.file = (f, .error e) →
      Step y cmd s { s.put w (.ended (.failed e)) with file := f }

inductive Run (y : SerdeYaml) (cmd : Who → ConfigSubCommand) (start : File) : Race → Prop
  | new : Run y cmd start (.new start)
  | step {s s'} : Run y cmd start s → Step y cmd s s' → Run y cmd start s'

def Succeeded (cmd : Who → ConfigSubCommand) (s : Race) (w : Who) : Prop :=
  ∃ answer, s.proc w = .ended (.saved answer) ∧ (cmd w).report (.saved answer) = .ok ()

def output (y : SerdeYaml) (cmd : ConfigSubCommand) (f : File) : File := (cmd.run y .wrote f).1

def Saved : Process → Prop
  | .ended (.saved _) => True
  | _ => False

def Dead : Process → Prop
  | .ended (.saved _) => False
  | .ended _ => True
  | _ => False

variable {y : SerdeYaml} {cmd : Who → ConfigSubCommand} {start f : File} {s s' : Race}

theorem output_saved {c : ConfigSubCommand} {source : File} {existing config : EbbflowDaemonConfig}
    {answer : Answer} {disk : Disk} {left : File} (hload : loadFromFileOrNew y source = .ok existing)
    (hedit : c.edit existing = .ok (config, answer)) (hsave : saveToFile y config disk f = (left, .ok ())) :
    output y c source = left := by
  cases htext : y.toString config with
  | none => simp [saveToFile, htext] at hsave
  | some text =>
      cases disk with
      | failed e _ => simp [saveToFile, htext] at hsave
      | wrote =>
          simp only [saveToFile, htext, Prod.mk.injEq, and_true] at hsave
          rw [output, ConfigSubCommand.run_saved hload hedit htext, hsave]

/-- How far two processes are of which none failed. `w` is the first to load. -/
inductive Stage (y : SerdeYaml) (cmd : Who → ConfigSubCommand) (start : File) (s : Race) : Prop
  | new : s.accesses = [] → s.file = start → (∀ v, s.proc v = .started) → Stage y cmd start s
  | one (w existing) : s.accesses = [(w, .load)] → s.file = start →
      loadFromFileOrNew y start = .ok existing → s.proc w = .loaded existing →
      s.proc w.other = .started → Stage y cmd start s
  | both (w existing) : s.accesses = [(w, .load), (w.other, .load)] → s.file = start →
      loadFromFileOrNew y start = .ok existing → (∀ v, s.proc v = .loaded existing) → Stage y cmd start s
  | stale (w v existing) : s.accesses = [(w, .load), (w.other, .load), (v, .save)] →
      loadFromFileOrNew y start = .ok existing → Saved (s.proc v) →
      s.proc v.other = .loaded existing → Stage y cmd start s
  | lost (w v) : s.accesses = [(w, .load), (w.other, .load), (v, .save), (v.other, .save)] →
      s.file = output y (cmd v.other) start → (∀ v, Saved (s.proc v)) → Stage y cmd start s
  | alone (w) : s.accesses = [(w, .load), (w, .save)] → s.file = output y (cmd w) start →
      Saved (s.proc w) → s.proc w.other = .started → Stage y cmd start s
  | fresh (w existing) : s.accesses = [(w, .load), (w, .save), (w.other, .load)] →
      loadFromFileOrNew y (output y (cmd w) start) = .ok existing → Saved (s.proc w) →
      s.proc w.other = .loaded existing → Stage y cmd start s
  | serial (w) : s.accesses = [(w, .load), (w, .save), (w.other, .load), (w.other, .save)] →
      s.file = output y (cmd w.other) (output y (cmd w) start) → (∀ v, Saved (s.proc v)) →
      Stage y cmd start s

@[simp] theorem put_self (w : Who) (p : Process) : (s.put w p).proc w = p := Function.update_self ..

@[simp] theorem put_other (w : Who) (p : Process) : (s.put w p).proc w.other = s.proc w.other :=
  Function.update_of_ne (other_ne w) ..

theorem put_ne {v w : Who} {p : Process} (h : v ≠ w) : (s.put w p).proc v = s.proc v :=
  Function.update_of_ne h ..

theorem put_all {P : Process → Prop} {w : Who} {p : Process} (hp : P p) (ho : P (s.proc w.other)) :
    ∀ v, P ((s.put w p).proc v) := by
  intro v
  rcases eq_or_other v w with rfl | rfl
  · simpa using hp
  · simpa using ho

theorem other_of_saved {v w : Who} {p : Process} (hv : Saved (s.proc v)) (hw : s.proc w = p) (hp : ¬ Saved p) :
    w = v.other := by
  rcases eq_or_other w v with rfl | rfl
  · rw [hw] at hv
    exact absurd hv hp
  · rfl

theorem stage_load (h : Stage y cmd start s) {w : Who} {existing : EbbflowDaemonConfig}
    (hw : s.proc w = .started) (hload : loadFromFileOrNew y s.file = .ok existing) :
    Stage y cmd start ((s.access w .load s.file).put w (.loaded existing)) := by
  have happend : ((s.access w .load s.file).put w (.loaded existing)).accesses =
      s.accesses ++ [(w, .load)] := rfl
  cases h with
  | new ha hf hp =>
      refine .one w existing (by rw [happend, ha]; rfl) hf (hf ▸ hload) (put_self ..) ?_
      rw [put_other]
      exact hp w.other
  | one v existing' ha hf hl hp ho =>
      rcases eq_or_other w v with rfl | rfl
      · rw [hp] at hw
        cases hw
      · rw [hf, hl, Except.ok.injEq] at hload
        subst hload
        refine .both v existing' (by rw [happend, ha]; rfl) hf hl ?_
        apply put_all (P := (· = .loaded existing')) rfl
        rw [other_other]
        exact hp
  | alone v ha hf hp ho =>
      obtain rfl := other_of_saved hp hw id
      refine .fresh v existing (by rw [happend, ha]; rfl) (hf ▸ hload) ?_ (put_self ..)
      have hother := put_other (s := s.access v.other .load s.file) v.other (.loaded existing)
      rw [other_other] at hother
      rw [hother]
      exact hp
  | both v existing' _ _ _ hp =>
      rw [hp] at hw
      cases hw
  | stale v x existing' _ _ hx hp | fresh x existing' _ _ hx hp =>
      obtain rfl := other_of_saved hx hw id
      rw [hw] at hp
      cases hp
  | lost v x _ _ hp | serial v _ _ hp =>
      have hsaved := hp w
      rw [hw] at hsaved
      cases hsaved

theorem stage_save (h : Stage y cmd start s) {w : Who} {existing : EbbflowDaemonConfig} {answer : Answer}
    (hw : s.proc w = .loaded existing)
    (hf : ∀ source, loadFromFileOrNew y source = .ok existing → output y (cmd w) source = f) :
    Stage y cmd start ((s.access w .save f).put w (.ended (.saved answer))) := by
  have happend : ((s.access w .save f).put w (.ended (.saved answer))).accesses =
      s.accesses ++ [(w, .save)] := rfl
  have hother := put_other (s := s.access w .save f) w (.ended (.saved answer))
  cases h with
  | one v existing' ha _ hl hp ho =>
      rcases eq_or_other w v with rfl | rfl
      · rw [hp, Process.loaded.injEq] at hw
        subst hw
        refine .alone w (by rw [happend, ha]; rfl) (hf start hl).symm ?_ ?_
        · rw [put_self]
          trivial
        · rw [hother]
          exact ho
      · rw [ho] at hw
        cases hw
  | both v existing' ha _ hl hp =>
      have hsame := hp w
      rw [hw, Process.loaded.injEq] at hsame
      subst hsame
      refine .stale v w existing (by rw [happend, ha]; rfl) hl ?_ ?_
      · rw [put_self]
        trivial
      · rw [hother]
        exact hp w.other
  | stale v x existing' ha hl hx hp =>
      obtain rfl := other_of_saved hx hw id
      rw [hp, Process.loaded.injEq] at hw
      subst hw
      refine .lost v x (by rw [happend, ha]; rfl) (hf start hl).symm (put_all trivial ?_)
      rw [other_other]
      exact hx
  | fresh v existing' ha hl hx hp =>
      obtain rfl := other_of_saved hx hw id
      rw [hp, Process.loaded.injEq] at hw
      subst hw
      refine .serial v (by rw [happend, ha]; rfl) (hf _ hl).symm (put_all trivial ?_)
      rw [other_other]
      exact hx
  | new _ _ hp =>
      rw [hp] at hw
      cases hw
  | alone v _ _ hx hp =>
      obtain rfl := other_of_saved hx hw id
      rw [hp] at hw
      cases hw
  | lost v x _ _ hp | serial v _ _ hp =>
      have hsaved := hp w
      rw [hw] at hsaved
      cases hsaved

def Alive (y : SerdeYaml) (cmd : Who → ConfigSubCommand) (start : File) (s : Race) : Prop :=
  Stage y cmd start s ∨ ∃ w, Dead (s.proc w)

theorem alive_step (h : Alive y cmd start s) (hs : Step y cmd s s') : Alive y cmd start s' := by
  rcases h with h | ⟨v, hv⟩
  · cases hs with
    | load hw hload => exact .inl (stage_load h hw hload)
    | save hw hedit hsave =>
        exact .inl (stage_save h hw fun _ hload => output_saved hload hedit hsave)
    | @notLoaded w _ _ _ | @exit w _ _ _ _ => exact .inr ⟨w, by rw [put_self]; trivial⟩
    | @notSaved w _ _ _ _ f e _ _ _ =>
        refine .inr ⟨w, ?_⟩
        have hput := put_self (s := s) w (.ended (.failed e))
        rw [hput]
        trivial
  · -- a process that is over takes no step, so it is the other one that moves
    refine .inr ⟨v, ?_⟩
    have hne {w : Who} {p : Process} (hw : s.proc w = p) (hp : ¬ Dead p) : v ≠ w := by
      rintro rfl
      rw [hw] at hv
      exact hp hv
    cases hs with
    | load hw _ | notLoaded hw _ =>
        rw [put_ne (hne hw id)]
        exact hv
    | exit hw _ | save hw _ _ =>
        rw [put_ne (hne hw id)]
        exact hv
    | @notSaved w _ _ _ _ _ e hw _ _ =>
        have hput := put_ne (s := s) (p := .ended (.failed e)) (hne hw id)
        rw [hput]
        exact hv

theorem run_alive (h : Run y cmd start s) : Alive y cmd start s := by
  induction h with
  | new => exact .inl (.new rfl rfl fun _ => rfl)
  | step _ hs ih => exact alive_step ih hs

/-- Two commands that both succeed: the one that saves last has worked on the
other's output if it loaded after the other's save, and on the file as it was
before both if it did not. -/
theorem commands_race (h : Run y cmd start s) (hdone : ∀ w, Succeeded cmd s w) :
    ∃ w, (s.accesses = [(w.other, .load), (w.other, .save), (w, .load), (w, .save)] ∧
        s.file = output y (cmd w) (output y (cmd w.other) start)) ∨
      ((s.accesses = [(w, .load), (w.other, .load), (w.other, .save), (w, .save)] ∨
          s.accesses = [(w.other, .load), (w, .load), (w.other, .save), (w, .save)]) ∧
        s.file = output y (cmd w) start) := by
  have hsaved : ∀ w, ∃ answer, s.proc w = .ended (.saved answer) := by
    intro w
    obtain ⟨answer, hw, _⟩ := hdone w
    exact ⟨answer, hw⟩
  rcases run_alive h with hstage | ⟨w, hdead⟩
  · cases hstage with
    | serial w ha hf _ =>
        refine ⟨w.other, .inl ⟨?_, ?_⟩⟩
        · rw [other_other]
          exact ha
        · rw [other_other]
          exact hf
    | lost w v ha hf _ =>
        refine ⟨v.other, .inr ⟨?_, hf⟩⟩
        rw [other_other]
        rcases eq_or_other w v with rfl | rfl
        · exact .inr ha
        · rw [other_other] at ha
          exact .inl ha
    | new _ _ hp =>
        obtain ⟨_, hw⟩ := hsaved .first
        rw [hp] at hw
        cases hw
    | one w _ _ _ _ _ hp | alone w _ _ _ hp | stale _ w _ _ _ _ hp | fresh w _ _ _ _ hp =>
        obtain ⟨_, hw⟩ := hsaved w.other
        rw [hp] at hw
        cases hw
    | both w _ _ _ _ hp =>
        obtain ⟨_, hw⟩ := hsaved w
        rw [hp] at hw
        cases hw
  · obtain ⟨answer, hw⟩ := hsaved w
    rw [hw] at hdead
    cases hdead

def addPair : Who → ConfigSubCommand
  | .first => .AddEndpoint ⟨"a.example", 8080, none, none, false, none, none, none, none⟩
  | .second => .AddEndpoint ⟨"b.example", 9000, none, none, false, none, none, none, none⟩

def endpointA : Endpoint := ⟨8080, "a.example", 5000, 40, true, none⟩

def endpointB : Endpoint := ⟨9000, "b.example", 5000, 40, true, none⟩

def pairDocument (entries : List String) : String :=
  "---\nendpoints:\n" ++ String.join entries ++ "ssh: ~\nloglevel: ~"

def textA : String := "  - port: 8080\n    dns: a.example\n    maxconns: 5000\n    maxidle: 40\n" ++
  "    enabled: true\n    healthcheck: ~\n"

def textB : String := "  - port: 9000\n    dns: b.example\n    maxconns: 5000\n    maxidle: 40\n" ++
  "    enabled: true\n    healthcheck: ~\n"

def pairYaml : SerdeYaml := tableYaml
  [(⟨[endpointA], none, none⟩, pairDocument [textA]),
   (⟨[endpointB], none, none⟩, pairDocument [textB]),
   (⟨[endpointA, endpointB], none, none⟩, pairDocument [textA, textB]),
   (⟨[endpointB, endpointA], none, none⟩, pairDocument [textB, textA])]

theorem pairYaml_roundTrip : pairYaml.RoundTrip :=
  tableYaml_roundTrip (by decide +kernel)

theorem overlapping_run : ∃ s, Run pairYaml addPair (.error .NotFound) s ∧
    (∀ w, Succeeded addPair s w) ∧
    s.accesses = [(.first, .load), (.second, .load), (.first, .save), (.second, .save)] ∧
    loadFromFileOrNew pairYaml s.file = .ok ⟨[endpointB], none, none⟩ := by
  have h : Run pairYaml addPair (.error .NotFound) _ := .new
  have h := h.step (.load (w := .first) rfl rfl)
  have h := h.step (.load (w := .second) rfl rfl)
  have h := h.step (@Step.save pairYaml addPair _ .first _ _ _ .wrote _ rfl rfl rfl)
  have h := h.step (@Step.save pairYaml addPair _ .second _ _ _ .wrote _ rfl rfl rfl)
  refine ⟨_, h, ?_, rfl, loadFromFileOrNew_text (pairYaml_roundTrip _) rfl⟩
  intro w
  cases w <;> exact ⟨_, rfl, rfl⟩

theorem serial_output (w : Who) :
    loadFromFileOrNew pairYaml
        (output pairYaml (addPair w.other) (output pairYaml (addPair w) (.error .NotFound))) ≠
      .ok ⟨[endpointB], none, none⟩ := by
  cases w with
  | first =>
      have hfirst := (addPair .first).run_saved (y := pairYaml) (f := .error .NotFound) rfl rfl rfl
      have hload := loadFromFileOrNew_text (pairYaml_roundTrip _) (c := ⟨[endpointA], none, none⟩) rfl
      have hsecond := (addPair .second).run_saved (y := pairYaml) hload rfl rfl
      rw [output, output, hfirst, Who.other, hsecond,
        loadFromFileOrNew_text (pairYaml_roundTrip _) (c := ⟨[endpointA, endpointB], none, none⟩) rfl]
      decide
  | second =>
      have hfirst := (addPair .second).run_saved (y := pairYaml) (f := .error .NotFound) rfl rfl rfl
      have hload := loadFromFileOrNew_text (pairYaml_roundTrip _) (c := ⟨[endpointB], none, none⟩) rfl
      have hsecond := (addPair .first).run_saved (y := pairYaml) hload rfl rfl
      rw [output, output, hfirst, Who.other, hsecond,
        loadFromFileOrNew_text (pairYaml_roundTrip _) (c := ⟨[endpointB, endpointA], none, none⟩) rfl]
      decide

theorem commands_race_sample : ∃ s, Run pairYaml addPair (.error .NotFound) s ∧
    s.file = output pairYaml (addPair .second) (.error .NotFound) := by
  obtain ⟨s, hrun, hdone, ha, _⟩ := overlapping_run
  refine ⟨s, hrun, ?_⟩
  obtain ⟨w, ⟨hserial, _⟩ | ⟨hlost, hf⟩⟩ := commands_race hrun hdone
  · simp [ha] at hserial
  · cases w with
    | first => simp [ha] at hlost
    | second => exact hf

/-- The first of two new endpoints is gone although both commands reported success. -/
theorem race_loses_update :
    ¬ ∀ y : SerdeYaml, y.RoundTrip → ∀ cmd start s, Run y cmd start s → (∀ w, Succeeded cmd s w) →
      ∃ w : Who, loadFromFileOrNew y s.file =
        loadFromFileOrNew y (output y (cmd w.other) (output y (cmd w) start)) := by
  intro h
  obtain ⟨s, hrun, hdone, _, hload⟩ := overlapping_run
  obtain ⟨w, hw⟩ := h pairYaml pairYaml_roundTrip addPair _ s hrun hdone
  exact serial_output w (hw.symm.trans hload)

end Ebbflow.ConfigRace
