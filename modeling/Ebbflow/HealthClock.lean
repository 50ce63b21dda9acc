import Ebbflow.TimedEndpoint

namespace Ebbflow.HealthClock

open Config Health Daemon Lib.Hysteresis
open EndpointRun hiding Step Run
open TimedEndpoint
open InnerRun (Setup)

variable {setup : Setup} {checks : Nat → Bool → Prop} {s s' : System} {start a : Nat} {flag : Bool}
  {cfg : ConcreteHealthCheck} {g : Gauge} {hm hm' : HealthMaster} {answer r : Bool} {stamp : Option Nat}

/-- The loop is not kept waiting past the end of its check or its delay, nor
once it is told to stop. -/
def waits (s : System) (later : Nat) : Prop :=
  match s.phase with
  | .awaitHealthy _ => s.healthdata.isSome = true ∧ s.stopper.told = false ∧ later ≤ s.due
  | .awaitUnhealthy _ => s.stopper.told = false ∧ (s.healthdata.isSome = true → later ≤ s.due)
  | .startingUp | .shuttingDown | .disabled => False
  | .left => True

def awaiting (flag : Bool) (w : Wait) : Phase := if flag then .awaitUnhealthy w else .awaitHealthy w

def turned (flag : Bool) : Phase := if flag then .startingUp else .shuttingDown

def interval (cfg : ConcreteHealthCheck) : Nat := cfg.frequencySecs.toNat * 1000 + healthcheckTimeout

def rest : Wait → Nat
  | .checking => 0
  | .delaying => healthcheckTimeout

/-- How far the loop may be where from the time `a` on all checks are against
`flag`: each answer since then adds to the streak. -/
structure Clocked (flag : Bool) (cfg : ConcreteHealthCheck) (a : Nat) (s : System) (g : Gauge) : Prop where
  health : ∃ hm history, s.healthdata = some hm ∧ hm.cfg = cfg ∧ Refines hm g history
  waiting : ∀ f w, s.phase = awaiting f w → g.flag = f ∧
    (f = flag → s.now ≤ s.due ∧ s.due + rest w ≤ a + (g.streak + 1) * interval cfg)
  turning : ∀ f, s.phase = turned f → g.flag = f ∧
    s.now ≤ if f = flag then a else a + (limits cfg).against flag * interval cfg

theorem awaiting_ne_turned (f f' : Bool) (w : Wait) : awaiting f w ≠ turned f' := by
  cases f <;> cases f' <;> nofun

theorem awaiting_inj {f f' : Bool} {w w' : Wait} (h : awaiting f w = awaiting f' w') : f = f' ∧ w = w' := by
  cases f <;> cases f' <;> cases h <;> exact ⟨rfl, rfl⟩

theorem turned_inj {f f' : Bool} (h : turned f = turned f') : f = f' := by
  cases f <;> cases f' <;> cases h <;> rfl

theorem lasting_delaying (hm : HealthMaster) (f : Bool) :
    lasting (some hm) (awaiting f .delaying) = hm.cfg.frequencySecs.toNat * 1000 := by
  cases f <;> rfl

theorem lasting_checking (healthdata : Option HealthMaster) (f : Bool) :
    lasting healthdata (awaiting f .checking) = healthcheckTimeout := by
  cases f <;> rfl

def reported (f answer : Bool) : Phase := if answer = f then awaiting f .delaying else turned answer

theorem reported_awaiting {f f' answer : Bool} {w : Wait} (h : reported f answer = awaiting f' w) :
    answer = f ∧ f' = f ∧ w = .delaying := by
  rw [reported] at h
  split at h
  next he =>
    obtain ⟨rfl, rfl⟩ := awaiting_inj h
    exact ⟨he, rfl, rfl⟩
  next => exact absurd h.symm (awaiting_ne_turned _ _ _)

theorem reported_turned {f f' answer : Bool} (h : reported f answer = turned f') : answer ≠ f ∧ f' = answer := by
  rw [reported] at h
  split at h
  next => exact absurd h (awaiting_ne_turned _ _ _)
  next hne => exact ⟨hne, (turned_inj h).symm⟩

theorem lt_of_agreeing (hagainst : a ≤ s.now → r = !flag) (hr : r = flag) : s.now < a := by
  by_contra hle
  have hnot := hagainst (Nat.le_of_not_lt hle)
  rw [hr] at hnot
  cases flag <;> cases hnot

theorem add_interval_le {now due k i : Nat} (hnow : now ≤ due) (hdue : due ≤ a + (k + 1) * i) :
    now + i ≤ a + (k + 1 + 1) * i := by
  rw [Nat.succ_mul (k + 1)]
  omega

theorem clocked_report (h : Clocked flag cfg a s g) (hh : 1 ≤ cfg.considerHealthyThreshold)
    (hu : 1 ≤ cfg.considerUnhealthyThreshold) (hagainst : a ≤ s.now → r = !flag) {f : Bool}
    (hphase : s.phase = awaiting f .checking) (hsome : s.healthdata = some hm)
    (hreport : hm.reportCheckResult r stamp = some (answer, hm')) :
    ∃ g', Clocked flag cfg a ((s.withHealth hm').enter (reported f answer)) g' := by
  obtain ⟨_, history, hsome', rfl, hrefines⟩ := h.health
  obtain rfl := Option.some.inj (hsome.symm.trans hsome')
  obtain ⟨rfl, hclock⟩ := h.waiting f .checking hphase
  obtain ⟨_, hreport', hcfg, hrefines'⟩ := hrefines.report hh hu r stamp
  obtain ⟨rfl, rfl⟩ := Prod.mk.inj (Option.some.inj (hreport.symm.trans hreport'))
  have hbelow := hrefines.counts.below
  refine ⟨_, ⟨_, _, rfl, hcfg, hrefines'⟩, ?_, ?_⟩
  · intro f' w hphase'
    obtain ⟨hkept, rfl, rfl⟩ := reported_awaiting hphase'
    refine ⟨hkept, fun he => ?_⟩
    subst he
    obtain ⟨hnow, hdue⟩ := hclock rfl
    have hlasting := (congrArg (lasting (some hm')) hphase').trans (lasting_delaying hm' g.flag)
    have hdue' : s.now + lasting (some hm') (reported g.flag (g.observe (limits hm.cfg) r).flag) +
        healthcheckTimeout = s.now + interval hm.cfg := by
      have hinterval : s.now + interval hm'.cfg = s.now + interval hm.cfg := by rw [hcfg]
      have hsum := congrArg (fun n => s.now + n + healthcheckTimeout) hlasting
      exact hsum.trans ((Nat.add_assoc _ _ _).trans hinterval)
    refine ⟨Nat.le_add_right _ _, ?_⟩
    have hlate : s.now + interval hm.cfg ≤ a + ((g.observe (limits hm.cfg) r).streak + 1) * interval hm.cfg := by
      rcases observe_kept hkept with ⟨hr, hstreak⟩ | ⟨_, hstreak⟩
      · have hearly := lt_of_agreeing hagainst hr
        have hone := Nat.le_mul_of_pos_left (interval hm.cfg)
          (Nat.succ_pos (g.observe (limits hm.cfg) r).streak)
        exact Nat.add_le_add hearly.le hone
      · have hmore := add_interval_le hnow hdue
        exact hmore.trans_eq (congrArg (fun k => a + (k + 1) * interval hm.cfg) hstreak.symm)
    exact hdue'.trans_le hlate
  · intro f' hphase'
    obtain ⟨hflipped, rfl⟩ := reported_turned hphase'
    obtain ⟨hr, _, hlimit⟩ := observe_flipped hflipped
    have hflip := Bool.eq_not_iff.mpr hflipped
    refine ⟨rfl, ?_⟩
    split
    next he =>
      have hearly := lt_of_agreeing hagainst (hr.trans (hflip.symm.trans he))
      exact hearly.le
    next hne =>
      have he : g.flag = flag := Bool.not_not_eq.mp (hflip ▸ hne)
      obtain ⟨hnow, hdue⟩ := hclock he
      have hall := Nat.mul_le_mul_right (interval hm.cfg) (Nat.succ_le_of_lt hbelow)
      rw [he] at hall
      exact (hnow.trans hdue).trans (Nat.add_le_add_left hall a)

theorem clocked_recheck (h : Clocked flag cfg a s g) {f : Bool} (hphase : s.phase = awaiting f .delaying) :
    Clocked flag cfg a (s.enter (awaiting f .checking)) g := by
  obtain ⟨hflag, hclock⟩ := h.waiting f .delaying hphase
  refine ⟨h.health, ?_, ?_⟩
  · intro f' w hphase'
    obtain ⟨rfl, rfl⟩ := awaiting_inj hphase'
    refine ⟨hflag, fun he => ⟨Nat.le_add_right _ _, ?_⟩⟩
    obtain ⟨hnow, hdue⟩ := hclock he
    have hlasting := lasting_checking s.healthdata f
    have hsum : s.now + healthcheckTimeout ≤ s.due + healthcheckTimeout := Nat.add_le_add_right hnow _
    have hdue' : (s.enter (awaiting f .checking)).due = s.now + healthcheckTimeout :=
      congrArg (s.now + ·) hlasting
    rw [hdue']
    exact hsum.trans hdue
  · intro f' hphase'
    exact absurd hphase' (awaiting_ne_turned _ _ _)

theorem clocked_start (h : Clocked flag cfg a s g) {f : Bool} (hphase : s.phase = turned f)
    (periods : List TimedPeriod) :
    Clocked flag cfg a ({ s with periods := periods }.enter (awaiting f .checking)) g := by
  obtain ⟨hflag, hnow⟩ := h.turning f hphase
  refine ⟨h.health, ?_, ?_⟩
  · intro f' w hphase'
    obtain ⟨rfl, rfl⟩ := awaiting_inj hphase'
    refine ⟨hflag, fun he => ⟨Nat.le_add_right _ _, ?_⟩⟩
    rw [if_pos he] at hnow
    have hlasting := lasting_checking s.healthdata f
    have hdue' : ({ s with periods := periods }.enter (awaiting f .checking)).due = s.now + healthcheckTimeout :=
      congrArg (s.now + ·) hlasting
    have hone := Nat.le_mul_of_pos_left (interval cfg) (Nat.succ_pos g.streak)
    have hleast : healthcheckTimeout ≤ interval cfg := Nat.le_add_left _ _
    have hsum := Nat.add_le_add hnow (hleast.trans hone)
    rw [hdue']
    exact hsum
  · intro f' hphase'
    exact absurd hphase' (awaiting_ne_turned _ _ _)

theorem clocked_ended (h : Clocked flag cfg a s g) {phase : Phase} (hphase : phase = .disabled ∨ phase = .left)
    (periods : List TimedPeriod) : Clocked flag cfg a ({ s with periods := periods }.enter phase) g := by
  refine ⟨h.health, ?_, ?_⟩
  · rintro f w rfl
    cases f <;> rcases hphase with hphase | hphase <;> cases hphase
  · rintro f rfl
    cases f <;> rcases hphase with hphase | hphase <;> cases hphase

theorem waits_awaiting {later : Nat} {f : Bool} {w : Wait} (h : waits s later) (hphase : s.phase = awaiting f w)
    (hsome : s.healthdata = some hm) : later ≤ s.due := by
  rw [waits] at h
  cases f with
  | false =>
      rw [hphase] at h
      exact h.2.2
  | true =>
      rw [hphase] at h
      exact h.2 (by rw [hsome]; rfl)

theorem waits_turned {later : Nat} {f : Bool} (h : waits s later) (hphase : s.phase = turned f) : False := by
  rw [waits] at h
  cases f with
  | false | true =>
      rw [hphase] at h
      exact h

theorem clocked_pass {later : Nat} (h : Clocked flag cfg a s g) (hwaits : waits s later) :
    Clocked flag cfg a (s.after later) g := by
  obtain ⟨hm, history, hsome, hcfg, hrefines⟩ := h.health
  refine ⟨h.health, ?_, ?_⟩
  · intro f w hphase
    obtain ⟨hflag, hclock⟩ := h.waiting f w hphase
    exact ⟨hflag, fun he => ⟨waits_awaiting hwaits hphase hsome, (hclock he).2⟩⟩
  · intro f hphase
    exact (waits_turned hwaits hphase).elim

theorem clocked_step (h : Clocked flag cfg a s g) (hh : 1 ≤ cfg.considerHealthyThreshold)
    (hu : 1 ≤ cfg.considerUnhealthyThreshold) (hagainst : ∀ t r, a ≤ t → checks t r → r = !flag)
    (hs : Step setup checks waits s s') : ∃ g', Clocked flag cfg a s' g' := by
  cases hs with
  | pass later _ hwaits => exact ⟨g, clocked_pass h hwaits⟩
  | stop | generation => exact ⟨g, h.health, h.waiting, h.turning⟩
  | healthyUnchecked _ hnone =>
      obtain ⟨_, _, hsome, _⟩ := h.health
      rw [hnone] at hsome
      cases hsome
  | @idleReport _ hm' answer r stamp hphase hsome hcheck hreport =>
      obtain ⟨g', hg⟩ := @clocked_report _ _ _ _ _ _ _ _ _ _ h hh hu (fun hle => hagainst _ r hle hcheck) false
        hphase hsome hreport
      refine ⟨g', ?_⟩
      cases answer <;> exact hg
  | @liveReport _ hm' answer r stamp hphase hsome hcheck hreport =>
      obtain ⟨g', hg⟩ := @clocked_report _ _ _ _ _ _ _ _ _ _ h hh hu (fun hle => hagainst _ r hle hcheck) true
        hphase hsome hreport
      refine ⟨g', ?_⟩
      cases answer <;> exact hg
  | recheckUnhealthy hphase => exact ⟨g, @clocked_recheck _ _ _ _ _ h false hphase⟩
  | recheckHealthy hphase => exact ⟨g, @clocked_recheck _ _ _ _ _ h true hphase⟩
  | disabledUnhealthy | disabledHealthy => exact ⟨g, clocked_ended h (.inl rfl) s.periods⟩
  | startUp hphase => exact ⟨g, @clocked_start _ _ _ _ _ h true hphase _⟩
  | shutDown hphase => exact ⟨g, @clocked_start _ _ _ _ _ h false hphase _⟩
  | leave => exact ⟨g, clocked_ended h (.inr rfl) _⟩

theorem clocked_spawned {hc : HealthCheck} (hsome : setup.args.healthcheck = some hc)
    (hh : 1 ≤ (ConcreteHealthCheck.new setup.args.port hc).considerHealthyThreshold) (hle : start ≤ a) :
    Clocked flag (.new setup.args.port hc) a (.spawned setup.args start) .initial := by
  refine ⟨⟨.new (.new setup.args.port hc), [], ?_, rfl, refines_new _ hh⟩, ?_, ?_⟩
  · rw [System.spawned, healthMaster, hsome, Option.map_some]
  · intro f w hphase
    obtain ⟨rfl, rfl⟩ := @awaiting_inj false f .checking w hphase
    refine ⟨rfl, fun _ => ⟨Nat.le_add_right _ _, ?_⟩⟩
    have hleast : healthcheckTimeout ≤ interval (.new setup.args.port hc) := Nat.le_add_left _ _
    have hsum := Nat.add_le_add hle hleast
    rw [Gauge.initial, Nat.zero_add, Nat.one_mul]
    exact hsum
  · intro f hphase
    exact absurd hphase (awaiting_ne_turned false f .checking)

theorem run_clocked {hc : HealthCheck} (h : Run setup checks waits start s)
    (hsome : setup.args.healthcheck = some hc)
    (hh : 1 ≤ (ConcreteHealthCheck.new setup.args.port hc).considerHealthyThreshold)
    (hu : 1 ≤ (ConcreteHealthCheck.new setup.args.port hc).considerUnhealthyThreshold) (hle : start ≤ a)
    (hagainst : ∀ t r, a ≤ t → checks t r → r = !flag) :
    ∃ g, Clocked flag (.new setup.args.port hc) a s g := by
  induction h with
  | spawned => exact ⟨_, clocked_spawned hsome hh hle⟩
  | step _ hs ih =>
      obtain ⟨g, hg⟩ := ih
      exact clocked_step hg hh hu hagainst hs

theorem clocked_due (h : Clocked flag cfg a s g) {w : Wait} (hphase : s.phase = awaiting flag w) :
    s.now ≤ s.due ∧ s.due ≤ a + (limits cfg).against flag * interval cfg := by
  obtain ⟨hm, _, _, rfl, hrefines⟩ := h.health
  obtain ⟨hflag, hclock⟩ := h.waiting flag w hphase
  obtain ⟨hnow, hdue⟩ := hclock rfl
  have hbelow := hrefines.counts.below
  rw [hflag] at hbelow
  have hall := Nat.mul_le_mul_right (interval hm.cfg) (Nat.succ_le_of_lt hbelow)
  exact ⟨hnow, (Nat.le_add_right _ _).trans (hdue.trans (Nat.add_le_add_left hall a))⟩

theorem clocked_turned (h : Clocked flag cfg a s g) {f : Bool} (hphase : s.phase = turned f) :
    s.now ≤ a + (limits cfg).against flag * interval cfg := by
  have hle := (h.turning f hphase).2
  split at hle
  · exact hle.trans (Nat.le_add_right _ _)
  · exact hle

end Ebbflow.HealthClock
