import Mathlib.Data.List.TakeWhile
import Mathlib.Tactic.ByContra

namespace Ebbflow.Lib.Hysteresis

/-- A flag together with the number of consecutive observations against it. -/
structure Gauge where
  flag : Bool
  streak : Nat
  deriving DecidableEq, Repr

/-- How many observations against the flag it takes to raise or to drop it. -/
structure Limits where
  up : Nat
  down : Nat

def Limits.against (l : Limits) (flag : Bool) : Nat := if flag then l.down else l.up

def Gauge.initial : Gauge := ⟨false, 0⟩

def Gauge.observe (l : Limits) (g : Gauge) (r : Bool) : Gauge :=
  if r = g.flag then ⟨g.flag, 0⟩
  else if l.against g.flag ≤ g.streak + 1 then ⟨!g.flag, 0⟩
  else ⟨g.flag, g.streak + 1⟩

def observeAll (l : Limits) : Gauge → List Bool → Gauge
  | g, [] => g
  | g, r :: rs => observeAll l (g.observe l r) rs

def flags (l : Limits) : Gauge → List Bool → List Bool
  | _, [] => []
  | g, r :: rs => (g.observe l r).flag :: flags l (g.observe l r) rs

def leadingRun (b : Bool) (rs : List Bool) : Nat := (rs.takeWhile (· == b)).length

@[simp] theorem leadingRun_nil (b : Bool) : leadingRun b [] = 0 := rfl

@[simp] theorem leadingRun_cons_self (b : Bool) (rs : List Bool) :
    leadingRun b (b :: rs) = leadingRun b rs + 1 := by
  simp [leadingRun]

theorem leadingRun_cons_ne {b r : Bool} (h : r ≠ b) (rs : List Bool) : leadingRun b (r :: rs) = 0 := by
  simp [leadingRun, h]

theorem leadingRun_take (b : Bool) (n : Nat) (rs : List Bool) :
    leadingRun b (rs.take n) = min n (leadingRun b rs) := by
  induction rs generalizing n with
  | nil => simp
  | cons r rs ih =>
      cases n with
      | zero => simp
      | succ n =>
          by_cases hr : r = b
          · subst hr
            simp [ih, Nat.succ_min_succ]
          · simp [leadingRun_cons_ne hr]

theorem le_leadingRun_take {b : Bool} {n k : Nat} (hk : k ≤ n) (rs : List Bool) :
    k ≤ leadingRun b (rs.take n) ↔ k ≤ leadingRun b rs := by
  rw [leadingRun_take]
  omega

/-- The streak is the run at the front of the whole history (newest first):
it never reaches back across the observation that last flipped the flag. -/
structure Counts (l : Limits) (g : Gauge) (history : List Bool) : Prop where
  streak : g.streak = leadingRun (!g.flag) history
  below : g.streak < l.against g.flag

variable {l : Limits}

theorem counts_initial (hup : 0 < l.up) : Counts l .initial [] :=
  ⟨rfl, by simpa [Gauge.initial, Limits.against] using hup⟩

theorem Counts.observe (hup : 0 < l.up) (hdown : 0 < l.down) {g : Gauge} {history : List Bool}
    (h : Counts l g history) (r : Bool) : Counts l (g.observe l r) (r :: history) := by
  have hpos (flag : Bool) : 0 < l.against flag := by cases flag <;> simp [Limits.against, hup, hdown]
  by_cases hr : r = g.flag
  · rw [Gauge.observe, if_pos hr]
    exact ⟨(leadingRun_cons_ne (by simp [hr]) _).symm, hpos _⟩
  · have hnot : r = !g.flag := by cases r <;> cases hg : g.flag <;> simp_all
    by_cases hl : l.against g.flag ≤ g.streak + 1
    · rw [Gauge.observe, if_neg hr, if_pos hl]
      exact ⟨(leadingRun_cons_ne (by simp [hnot]) _).symm, hpos _⟩
    · rw [Gauge.observe, if_neg hr, if_neg hl]
      exact ⟨by rw [hnot, leadingRun_cons_self, h.streak], Nat.lt_of_not_le hl⟩

theorem Counts.observe_flag {g : Gauge} {history : List Bool} (h : Counts l g history)
    (hpos : 0 < l.against g.flag) (r : Bool) :
    (g.observe l r).flag =
      if l.against g.flag ≤ leadingRun (!g.flag) (r :: history) then !g.flag else g.flag := by
  by_cases hr : r = g.flag
  · rw [leadingRun_cons_ne (by simp [hr]), if_neg (by omega), Gauge.observe, if_pos hr]
  · have hnot : r = !g.flag := by cases r <;> cases hg : g.flag <;> simp_all
    rw [Gauge.observe, if_neg hr, hnot, leadingRun_cons_self, ← h.streak]
    split <;> rfl

theorem observe_kept {g : Gauge} {r : Bool} (h : (g.observe l r).flag = g.flag) :
    r = g.flag ∧ (g.observe l r).streak = 0 ∨ r = !g.flag ∧ (g.observe l r).streak = g.streak + 1 := by
  by_cases hr : r = g.flag
  · rw [Gauge.observe, if_pos hr]
    exact .inl ⟨hr, rfl⟩
  · have hnot : r = !g.flag := by cases r <;> cases hg : g.flag <;> simp_all
    rw [Gauge.observe, if_neg hr] at h ⊢
    split at h
    · cases hg : g.flag <;> simp [hg] at h
    next hlimit =>
      rw [if_neg hlimit]
      exact .inr ⟨hnot, rfl⟩

theorem observe_flipped {g : Gauge} {r : Bool} (h : (g.observe l r).flag ≠ g.flag) :
    r = !g.flag ∧ (g.observe l r).streak = 0 ∧ l.against g.flag ≤ g.streak + 1 := by
  by_cases hr : r = g.flag
  · rw [Gauge.observe, if_pos hr] at h
    exact absurd rfl h
  · have hnot : r = !g.flag := by cases r <;> cases hg : g.flag <;> simp_all
    rw [Gauge.observe, if_neg hr] at h ⊢
    split at h
    next hlimit =>
      rw [if_pos hlimit]
      exact ⟨hnot, rfl, hlimit⟩
    · exact absurd rfl h

end Ebbflow.Lib.Hysteresis
