import Ebbflow.Config
import Ebbflow.Lib.Hysteresis

namespace Ebbflow.Health

open Config Lib.Hysteresis

/-- `recent` holds the newest result first, each with its time in milliseconds. -/
structure HealthMasterInner where
  healthy : Bool
  recent : List (Bool × Nat)
  deriving DecidableEq, Repr

def HealthMasterInner.new : HealthMasterInner := ⟨false, []⟩

def trim (limit : Nat) (recent : List (Bool × Nat)) : List (Bool × Nat) :=
  if limit < recent.length then trim limit recent.dropLast else recent
termination_by recent.length

/-- Counts results up to the first equal to `stop`; `none` is an overflowing
`+= 1` of the 16-bit counter. -/
def countUntil (stop : Bool) : List (Bool × Nat) → UInt16 → Option UInt16
  | [], n => some n
  | (check, _) :: rest, n =>
      if check = stop then some n
      else if n.toNat + 1 < UInt16.size then countUntil stop rest (n + 1)
      else none

def HealthMasterInner.status (s : HealthMasterInner) (cfg : ConcreteHealthCheck) :
    Option (Bool × HealthMasterInner) := do
  let recent := trim
    (max cfg.considerHealthyThreshold.toNat cfg.considerUnhealthyThreshold.toNat) s.recent
  if s.healthy then
    let unhealthies ← countUntil true recent 0
    if cfg.considerUnhealthyThreshold ≤ unhealthies then return (false, ⟨false, recent⟩)
    else return (true, ⟨true, recent⟩)
  else
    let healthies ← countUntil false recent 0
    if cfg.considerHealthyThreshold ≤ healthies then return (true, ⟨true, recent⟩)
    else return (false, ⟨false, recent⟩)

/-- `now` is what the system clock answers, `none` when it stands before the epoch. -/
def HealthMasterInner.reportCheckResult (s : HealthMasterInner) (result : Bool) (now : Option Nat)
    (cfg : ConcreteHealthCheck) : Option (Bool × HealthMasterInner) :=
  HealthMasterInner.status { s with recent := (result, now.getD 0) :: s.recent } cfg

def HealthMasterInner.data (s : HealthMasterInner) : Bool × List (Bool × Nat) := (s.healthy, s.recent)

structure HealthMaster where
  inner : HealthMasterInner
  cfg : ConcreteHealthCheck
  deriving DecidableEq, Repr

def HealthMaster.new (cfg : ConcreteHealthCheck) : HealthMaster := ⟨.new, cfg⟩

def HealthMaster.reportCheckResult (hm : HealthMaster) (result : Bool) (now : Option Nat) :
    Option (Bool × HealthMaster) :=
  (hm.inner.reportCheckResult result now hm.cfg).map fun r => (r.1, { hm with inner := r.2 })

def HealthMaster.data (hm : HealthMaster) : Bool × List (Bool × Nat) := hm.inner.data

def HealthMaster.reportAll : HealthMaster → List (Bool × Option Nat) → Option (List Bool × HealthMaster)
  | hm, [] => some ([], hm)
  | hm, (result, now) :: reports => do
      let (answer, hm) ← hm.reportCheckResult result now
      let (answers, hm) ← hm.reportAll reports
      return (answer :: answers, hm)

theorem trim_eq_take (limit : Nat) (recent : List (Bool × Nat)) :
    trim limit recent = recent.take limit := by
  fun_induction trim limit recent with
  | case1 recent h ih =>
      rw [ih, List.dropLast_eq_take, List.take_take, Nat.min_eq_left (by omega)]
  | case2 recent h => rw [List.take_of_length_le (by omega)]

theorem countUntil_eq (stop : Bool) (rs : List (Bool × Nat)) (n : UInt16)
    (hfit : n.toNat + rs.length < UInt16.size) :
    ∃ m, countUntil stop rs n = some m ∧
      m.toNat = n.toNat + leadingRun (!stop) (rs.map Prod.fst) := by
  induction rs generalizing n with
  | nil => exact ⟨n, rfl, rfl⟩
  | cons r rs ih =>
      obtain ⟨check, t⟩ := r
      simp only [List.length_cons] at hfit
      by_cases hc : check = stop
      · refine ⟨n, by simp [countUntil, hc], ?_⟩
        rw [List.map_cons, leadingRun_cons_ne (by simp [hc]), Nat.add_zero]
      · have hn : (n + 1).toNat = n.toNat + 1 := by
          rw [UInt16.toNat_add]
          exact Nat.mod_eq_of_lt (by simp only [UInt16.size] at hfit; simp; omega)
        obtain ⟨m, hm, he⟩ := ih (n + 1) (by rw [hn]; omega)
        refine ⟨m, ?_, ?_⟩
        · rw [countUntil, if_neg hc, if_pos (by omega), hm]
        · have hnot : check = !stop := by cases check <;> cases stop <;> simp_all
          rw [he, hn, hnot, List.map_cons, leadingRun_cons_self]
          omega

def limits (cfg : ConcreteHealthCheck) : Limits :=
  ⟨cfg.considerHealthyThreshold.toNat, cfg.considerUnhealthyThreshold.toNat⟩

def window (cfg : ConcreteHealthCheck) : Nat :=
  max cfg.considerHealthyThreshold.toNat cfg.considerUnhealthyThreshold.toNat

theorem up_pos {cfg : ConcreteHealthCheck} (h : 1 ≤ cfg.considerHealthyThreshold) :
    0 < (limits cfg).up :=
  UInt16.le_iff_toNat_le.mp h

theorem down_pos {cfg : ConcreteHealthCheck} (h : 1 ≤ cfg.considerUnhealthyThreshold) :
    0 < (limits cfg).down :=
  UInt16.le_iff_toNat_le.mp h

theorem against_le_window (cfg : ConcreteHealthCheck) (flag : Bool) :
    (limits cfg).against flag ≤ window cfg := by
  cases flag
  · exact Nat.le_max_left _ _
  · exact Nat.le_max_right _ _

theorem window_lt (cfg : ConcreteHealthCheck) : window cfg < UInt16.size :=
  max_lt (UInt16.toNat_lt _) (UInt16.toNat_lt _)

/-- The answer of `status`: the flag flips when the run at the front of the
trimmed window has reached the threshold against it. -/
theorem status_eq (s : HealthMasterInner) (cfg : ConcreteHealthCheck) :
    s.status cfg =
      let recent := s.recent.take (window cfg)
      let flag := if (limits cfg).against s.healthy ≤ leadingRun (!s.healthy) (recent.map Prod.fst)
        then !s.healthy else s.healthy
      some (flag, ⟨flag, recent⟩) := by
  have hfit : (0 : UInt16).toNat + (s.recent.take (window cfg)).length < UInt16.size := by
    have hw := window_lt cfg
    simp only [UInt16.toNat_zero, List.length_take]
    omega
  cases hs : s.healthy with
  | true =>
      obtain ⟨m, hm, he⟩ := countUntil_eq true _ 0 hfit
      simp only [HealthMasterInner.status, hs, trim_eq_take, window] at hm he ⊢
      simp only [UInt16.toNat_zero, Nat.zero_add, Bool.not_true] at he
      simp only [hm, Option.bind_eq_bind, Option.bind_some, UInt16.le_iff_toNat_le, he, limits,
        Limits.against, if_true, Bool.not_true]
      split <;> rfl
  | false =>
      obtain ⟨m, hm, he⟩ := countUntil_eq false _ 0 hfit
      simp only [HealthMasterInner.status, hs, trim_eq_take, window] at hm he ⊢
      simp only [UInt16.toNat_zero, Nat.zero_add, Bool.not_false] at he
      simp only [hm, Option.bind_eq_bind, Option.bind_some, UInt16.le_iff_toNat_le, he, limits,
        Limits.against, if_false, Bool.not_false, Bool.false_eq_true]
      split <;> rfl

/-- The code's window and flag against the whole history of results. -/
structure Refines (hm : HealthMaster) (g : Gauge) (history : List (Bool × Nat)) : Prop where
  flag : hm.inner.healthy = g.flag
  recent : hm.inner.recent = history.take (window hm.cfg)
  counts : Counts (limits hm.cfg) g (history.map Prod.fst)

theorem refines_new (cfg : ConcreteHealthCheck) (hh : 1 ≤ cfg.considerHealthyThreshold) :
    Refines (.new cfg) .initial [] :=
  ⟨rfl, by simp [HealthMaster.new, HealthMasterInner.new], counts_initial (up_pos hh)⟩

theorem Refines.report {hm : HealthMaster} {g : Gauge} {history : List (Bool × Nat)}
    (h : Refines hm g history) (hh : 1 ≤ hm.cfg.considerHealthyThreshold)
    (hu : 1 ≤ hm.cfg.considerUnhealthyThreshold) (result : Bool) (now : Option Nat) :
    ∃ hm', hm.reportCheckResult result now = some ((g.observe (limits hm.cfg) result).flag, hm') ∧
      hm'.cfg = hm.cfg ∧
      Refines hm' (g.observe (limits hm.cfg) result) ((result, now.getD 0) :: history) := by
  have hpos : 0 < (limits hm.cfg).against g.flag := by
    cases g.flag <;> simp [Limits.against, up_pos hh, down_pos hu]
  -- the window trimmed before this report loses nothing that the trim after it keeps
  have htake : ((result, now.getD 0) :: hm.inner.recent).take (window hm.cfg) =
      ((result, now.getD 0) :: history).take (window hm.cfg) := by
    rw [h.recent]
    cases hw : window hm.cfg with
    | zero => rfl
    | succ w => simp [List.take_take]
  have hflip : (limits hm.cfg).against g.flag ≤ leadingRun (!g.flag)
        ((((result, now.getD 0) :: history).take (window hm.cfg)).map Prod.fst) ↔
      (limits hm.cfg).against g.flag ≤ leadingRun (!g.flag) (result :: history.map Prod.fst) := by
    rw [List.map_take, le_leadingRun_take (against_le_window hm.cfg g.flag)]
    rfl
  refine ⟨⟨⟨(g.observe (limits hm.cfg) result).flag,
    ((result, now.getD 0) :: history).take (window hm.cfg)⟩, hm.cfg⟩, ?_, rfl, ?_⟩
  · rw [HealthMaster.reportCheckResult, HealthMasterInner.reportCheckResult, status_eq]
    simp only [Option.map_some, h.flag, htake, hflip]
    rw [h.counts.observe_flag hpos]
  · exact ⟨rfl, rfl, h.counts.observe (up_pos hh) (down_pos hu) result⟩

theorem Refines.reportAll {hm : HealthMaster} {g : Gauge} {history : List (Bool × Nat)}
    (h : Refines hm g history) (hh : 1 ≤ hm.cfg.considerHealthyThreshold)
    (hu : 1 ≤ hm.cfg.considerUnhealthyThreshold) (reports : List (Bool × Option Nat)) :
    ∃ hm', hm.reportAll reports = some (flags (limits hm.cfg) g (reports.map Prod.fst), hm') ∧
      hm'.cfg = hm.cfg ∧
      Refines hm' (observeAll (limits hm.cfg) g (reports.map Prod.fst))
        ((reports.map fun r => (r.1, r.2.getD 0)).reverse ++ history) := by
  induction reports generalizing hm g history with
  | nil => exact ⟨hm, rfl, rfl, h⟩
  | cons r reports ih =>
      obtain ⟨result, now⟩ := r
      obtain ⟨hm₁, hreport, hcfg, h₁⟩ := h.report hh hu result now
      rw [← hcfg] at hh hu
      obtain ⟨hm₂, hrest, hcfg₂, h₂⟩ := ih h₁ hh hu
      rw [hcfg] at hrest h₂
      refine ⟨hm₂, ?_, hcfg₂.trans hcfg, ?_⟩
      · simp [HealthMaster.reportAll, hreport, hrest, flags]
      · simpa [observeAll, List.append_assoc] using h₂

/-- The bounded window answers as the windowless automaton does, for every
pair of thresholds and every history; the 16-bit counters never overflow. -/
theorem reportAll_eq_flags (cfg : ConcreteHealthCheck) (hh : 1 ≤ cfg.considerHealthyThreshold)
    (hu : 1 ≤ cfg.considerUnhealthyThreshold) (reports : List (Bool × Option Nat)) :
    ∃ hm, (HealthMaster.new cfg).reportAll reports =
        some (flags (limits cfg) .initial (reports.map Prod.fst), hm) ∧
      hm.data = ((observeAll (limits cfg) .initial (reports.map Prod.fst)).flag,
        (reports.map fun r => (r.1, r.2.getD 0)).reverse.take
          (max cfg.considerHealthyThreshold.toNat cfg.considerUnhealthyThreshold.toNat)) := by
  obtain ⟨hm, hrun, hcfg, h⟩ := (refines_new cfg hh).reportAll hh hu reports
  refine ⟨hm, hrun, ?_⟩
  rw [HealthMaster.data, HealthMasterInner.data, h.flag, h.recent, List.append_nil, hcfg]
  rfl

theorem reportAll_eq_flags_defaults :
    ∃ hm, (HealthMaster.new ⟨80, 3, 2, .TCP, 5⟩).reportAll
        [(true, some 1), (true, some 2), (true, none), (false, some 4), (false, some 5)] =
        some ([false, false, true, true, false], hm) ∧
      hm.data = (false, [(false, 5), (false, 4), (true, 0)]) :=
  reportAll_eq_flags ⟨80, 3, 2, .TCP, 5⟩ (by decide) (by decide)
    [(true, some 1), (true, some 2), (true, none), (false, some 4), (false, some 5)]

end Ebbflow.Health
