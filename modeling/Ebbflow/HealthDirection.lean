import Ebbflow.Health

namespace Ebbflow.HealthDirection

open Config Health Lib.Hysteresis

variable {cfg : ConcreteHealthCheck} {hm hm' : HealthMaster} {result answer : Bool} {now : Option Nat}

def RightDirection (before result after : Bool) : Prop :=
  (result = true → before = true → after = true) ∧ (result = false → before = false → after = false)

theorem rightDirection_iff (before result after : Bool) :
    RightDirection before result after ↔ (result = before → after = before) := by
  cases before <;> cases result <;> simp [RightDirection]

theorem report_eq (hm : HealthMaster) (result : Bool) (now : Option Nat) :
    hm.reportCheckResult result now =
      let recent := ((result, now.getD 0) :: hm.inner.recent).take (window hm.cfg)
      let flag := if (limits hm.cfg).against hm.inner.healthy ≤
          leadingRun (!hm.inner.healthy) (recent.map Prod.fst) then !hm.inner.healthy else hm.inner.healthy
      some (flag, ⟨⟨flag, recent⟩, hm.cfg⟩) := by
  rw [HealthMaster.reportCheckResult, HealthMasterInner.reportCheckResult, status_eq]
  rfl

theorem report_answer (h : hm.reportCheckResult result now = some (answer, hm')) :
    hm'.inner.healthy = answer ∧ hm'.cfg = hm.cfg := by
  rw [report_eq, Option.some.injEq, Prod.mk.injEq] at h
  obtain ⟨rfl, rfl⟩ := h
  exact ⟨rfl, rfl⟩

theorem reportAll_cfg {reports : List (Bool × Option Nat)} {answers : List Bool}
    (h : hm.reportAll reports = some (answers, hm')) : hm'.cfg = hm.cfg := by
  induction reports generalizing hm answers with
  | nil =>
      cases h
      rfl
  | cons r reports ih =>
      simp only [HealthMaster.reportAll, Option.bind_eq_bind, Option.bind_eq_some_iff] at h
      obtain ⟨⟨answer, next⟩, hreport, ⟨rest, last⟩, hrest, he⟩ := h
      cases he
      exact (ih hrest).trans (report_answer hreport).2

/-- A result that agrees with the flag ends every run against it, so only a
limit of zero is reached. -/
theorem agreeing_report_keeps_iff (h : hm.reportCheckResult result now = some (answer, hm'))
    (hagrees : result = hm.inner.healthy) :
    answer = hm.inner.healthy ↔ 0 < (limits hm.cfg).against hm.inner.healthy := by
  have hrun : leadingRun (!hm.inner.healthy)
      ((((result, now.getD 0) :: hm.inner.recent).take (window hm.cfg)).map Prod.fst) = 0 := by
    rw [List.map_take, leadingRun_take, List.map_cons, leadingRun_cons_ne (by simp [hagrees]), Nat.min_zero]
  rw [report_eq, Option.some.injEq, Prod.mk.injEq] at h
  simp only [hrun] at h
  obtain ⟨rfl, _⟩ := h
  by_cases hzero : (limits hm.cfg).against hm.inner.healthy ≤ 0
  · rw [if_pos hzero]
    exact iff_of_false (by simp) (by omega)
  · rw [if_neg hzero]
    exact iff_of_true rfl (by omega)

theorem against_pos (hh : 1 ≤ cfg.considerHealthyThreshold) (hu : 1 ≤ cfg.considerUnhealthyThreshold)
    (flag : Bool) : 0 < (limits cfg).against flag := by
  cases flag
  · exact up_pos hh
  · exact down_pos hu

def climbing (cfg : ConcreteHealthCheck) (passed : Nat) : HealthMaster :=
  ⟨⟨false, List.replicate passed (true, 0)⟩, cfg⟩

theorem climb_step {passed : Nat} (h : passed < (limits cfg).up) :
    (climbing cfg passed).reportCheckResult true none =
      let flag := decide ((limits cfg).up ≤ passed + 1)
      some (flag, ⟨⟨flag, List.replicate (passed + 1) (true, 0)⟩, cfg⟩) := by
  have hfits : passed + 1 ≤ window cfg := Nat.le_trans h (against_le_window cfg false)
  have hrecent : ((true, (none : Option Nat).getD 0) :: List.replicate passed (true, 0)).take (window cfg) =
      List.replicate (passed + 1) (true, 0) := by
    apply List.take_of_length_le
    simpa using hfits
  have hrun : leadingRun true ((List.replicate (passed + 1) (true, 0)).map Prod.fst) = passed + 1 := by
    rw [List.map_replicate, leadingRun, List.takeWhile_replicate]
    simp
  rw [report_eq]
  simp only [climbing, hrecent, Bool.not_false, hrun, Limits.against, Bool.false_eq_true, if_false]
  by_cases hlast : (limits cfg).up ≤ passed + 1
  · simp only [if_pos hlast, decide_eq_true hlast]
  · simp only [if_neg hlast, decide_eq_false hlast]

theorem climb (n : Nat) {passed : Nat} (h : passed + n + 1 = (limits cfg).up) :
    ∃ answers hm,
      (climbing cfg passed).reportAll (List.replicate (n + 1) (true, none)) = some (answers, hm) ∧
      hm.inner.healthy = true ∧ hm.cfg = cfg := by
  have hstep := @climb_step cfg passed (by omega)
  induction n generalizing passed with
  | zero =>
      have hlast : (limits cfg).up ≤ passed + 1 := by omega
      simp only [decide_eq_true hlast] at hstep
      refine ⟨[true], ⟨⟨true, List.replicate (passed + 1) (true, 0)⟩, cfg⟩, ?_, rfl, rfl⟩
      simp [HealthMaster.reportAll, hstep]
  | succ n ih =>
      have hmore : ¬ (limits cfg).up ≤ passed + 1 := by omega
      simp only [decide_eq_false hmore] at hstep
      obtain ⟨answers, hm, hrest, hhealthy⟩ := @ih (passed + 1) (by omega) (climb_step (by omega))
      refine ⟨false :: answers, hm, ?_, hhealthy⟩
      rw [climbing] at hrest
      rw [List.replicate_succ, HealthMaster.reportAll, hstep]
      simp [hrest]

theorem flag_reached (hh : 1 ≤ cfg.considerHealthyThreshold) (flag : Bool) :
    ∃ reports answers hm, (HealthMaster.new cfg).reportAll reports = some (answers, hm) ∧
      hm.inner.healthy = flag ∧ hm.cfg = cfg := by
  cases flag with
  | false => exact ⟨[], [], _, rfl, rfl, rfl⟩
  | true =>
      have hup := up_pos hh
      obtain ⟨answers, hm, hrun, hhealthy⟩ := @climb cfg ((limits cfg).up - 1) 0 (by omega)
      exact ⟨_, answers, hm, hrun, hhealthy⟩

/-- The status never moves away from what was reported, in any run, exactly if
neither threshold is zero. -/
theorem right_direction_iff (cfg : ConcreteHealthCheck) :
    (∀ reports answers hm, (HealthMaster.new cfg).reportAll reports = some (answers, hm) →
      ∀ result now answer hm', hm.reportCheckResult result now = some (answer, hm') →
        RightDirection hm.data.1 result answer ∧ hm'.data.1 = answer) ↔
      1 ≤ cfg.considerHealthyThreshold ∧ 1 ≤ cfg.considerUnhealthyThreshold := by
  constructor
  · intro h
    have hpos {reports : List (Bool × Option Nat)} {answers : List Bool} {hm : HealthMaster}
        (hrun : (HealthMaster.new cfg).reportAll reports = some (answers, hm)) (hcfg : hm.cfg = cfg) :
        0 < (limits cfg).against hm.inner.healthy := by
      have hreport := report_eq hm hm.inner.healthy none
      have hright := (h _ _ _ hrun _ _ _ _ hreport).1
      rw [← hcfg]
      apply (agreeing_report_keeps_iff hreport rfl).mp
      exact (rightDirection_iff _ _ _).mp hright rfl
    have hup : 0 < (limits cfg).up := @hpos [] [] (HealthMaster.new cfg) rfl rfl
    have hh : 1 ≤ cfg.considerHealthyThreshold := UInt16.le_iff_toNat_le.mpr hup
    obtain ⟨reports, answers, hm, hrun, hhealthy, hcfg⟩ := flag_reached hh true
    have hdown := hpos hrun hcfg
    rw [hhealthy] at hdown
    exact ⟨hh, UInt16.le_iff_toNat_le.mpr hdown⟩
  · rintro ⟨hh, hu⟩ reports answers hm hrun result now answer hm' hreport
    refine ⟨(rightDirection_iff _ _ _).mpr ?_, (report_answer hreport).1⟩
    intro hagrees
    apply (agreeing_report_keeps_iff hreport hagrees).mpr
    rw [reportAll_cfg hrun]
    exact against_pos hh hu _

/-- With no failures needed to be unhealthy, the fourth pass in a row does it. -/
theorem pass_turns_unhealthy :
    ∃ hm hm', (HealthMaster.new ⟨80, 3, 0, .TCP, 5⟩).reportAll
        [(true, some 1), (true, some 2), (true, some 3)] = some ([false, false, true], hm) ∧
      hm.data.1 = true ∧ hm.reportCheckResult true (some 4) = some (false, hm') ∧ hm'.data.1 = false := by
  refine ⟨⟨⟨true, [(true, 3), (true, 2), (true, 1)]⟩, ⟨80, 3, 0, .TCP, 5⟩⟩,
    ⟨⟨false, [(true, 4), (true, 3), (true, 2)]⟩, ⟨80, 3, 0, .TCP, 5⟩⟩, ?_, rfl, ?_, rfl⟩
  · simp only [HealthMaster.reportAll, report_eq]
    rfl
  · rw [report_eq]
    rfl

end Ebbflow.HealthDirection
