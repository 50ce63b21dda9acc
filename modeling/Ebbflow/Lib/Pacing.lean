import Mathlib.Data.List.Count
import Mathlib.Tactic.Ring

namespace Ebbflow.Lib.Pacing

variable {α : Type} {l : List α} {p q r : α → Bool}

/-- At a time that lies in the window of length `w` from `a` on. -/
def within (a w : Nat) (t : Option Nat) : Bool := t.any fun b => decide (a ≤ b) && decide (b < a + w)

theorem within_iff {a w : Nat} {t : Option Nat} : within a w t = true ↔ ∃ b ∈ t, a ≤ b ∧ b < a + w := by
  cases t with
  | none => simp [within]
  | some b => simp [within]

theorem within_zero (a : Nat) (t : Option Nat) : within a 0 t = false := by
  apply Bool.eq_false_iff.mpr
  intro h
  obtain ⟨b, _, hle, hlt⟩ := within_iff.mp h
  omega

theorem countP_le_add (h : ∀ x ∈ l, p x = true → q x = true ∨ r x = true) :
    l.countP p ≤ l.countP q + l.countP r := by
  induction l with
  | nil => exact Nat.zero_le _
  | cons x l ih =>
      have ih := ih fun y hy => h y (List.mem_cons_of_mem x hy)
      have hx := h x List.mem_cons_self
      simp only [List.countP_cons]
      cases hp : p x with
      | false => simp; omega
      | true =>
          rcases hx hp with hq | hr
          · simp [hq]; omega
          · simp [hr]; omega

theorem countP_replace_le {pre post : List α} {x x' : α} (h : p x' = true → p x = true) :
    (pre ++ x' :: post).countP p ≤ (pre ++ x :: post).countP p := by
  simp only [List.countP_append, List.countP_cons]
  cases hx' : p x' with
  | false => simp
  | true => simp [h hx']

theorem countP_within_add (f : α → Option Nat) (a v w : Nat) :
    l.countP (fun x => within a (v + w) (f x)) =
      l.countP (fun x => within a v (f x)) + l.countP (fun x => within (a + v) w (f x)) := by
  induction l with
  | nil => rfl
  | cons x l ih =>
      simp only [List.countP_cons, ih]
      have hx : (if within a (v + w) (f x) = true then 1 else 0) =
          (if within a v (f x) = true then 1 else 0) + if within (a + v) w (f x) = true then 1 else 0 := by
        cases f x with
        | none => rfl
        | some b =>
            by_cases hlow : a ≤ b <;> by_cases hmid : b < a + v <;> by_cases hhigh : b < a + v + w <;>
              simp [within, hlow, hmid, hhigh, ← Nat.add_assoc] <;> omega
      omega

/-- One use of a permit: since when it lasts, and when it was cut short. -/
structure Stint where
  begun : Option Nat
  early : Option Nat
  deriving DecidableEq, Repr

structure Lasts (d now : Nat) (held : Bool) (x : Stint) : Prop where
  begun_le : ∀ b ∈ x.begun, b ≤ now
  ended : ∀ b ∈ x.begun, held = false → (∃ e ∈ x.early, b ≤ e ∧ e ≤ now) ∨ b + d ≤ now

theorem Lasts.later {d now later : Nat} {held : Bool} {x : Stint} (h : Lasts d now held x)
    (hle : now ≤ later) : Lasts d later held x where
  begun_le b hb := (h.begun_le b hb).trans hle
  ended b hb hheld := by
    rcases h.ended b hb hheld with ⟨e, he, hbe, hen⟩ | hover
    · exact .inl ⟨e, he, hbe, hen.trans hle⟩
    · exact .inr (hover.trans hle)

/-- In a window that is not over, what was begun is held or was cut short. -/
theorem begun_le_held {held : α → Bool} {stint : α → Stint} {d now a : Nat}
    (h : ∀ x ∈ l, Lasts d now (held x) (stint x)) (hnow : now < a + d) :
    l.countP (fun x => within a d (stint x).begun) ≤
      l.countP held + l.countP fun x => within a d (stint x).early := by
  apply countP_le_add
  intro x hx hbegun
  obtain ⟨b, hb, hab, _⟩ := within_iff.mp hbegun
  cases hheld : held x with
  | true => exact .inl rfl
  | false =>
      rcases (h x hx).ended b hb hheld with ⟨e, he, hbe, hen⟩ | hover
      · exact .inr (within_iff.mpr ⟨e, he, by omega, by omega⟩)
      · omega

theorem windows {begun early : α → Option Nat} {d n : Nat}
    (h : ∀ a, l.countP (fun x => within a d (begun x)) ≤ n + l.countP fun x => within a d (early x)) (k a : Nat) :
    l.countP (fun x => within a (k * d) (begun x)) ≤
      k * n + l.countP fun x => within a (k * d) (early x) := by
  induction k generalizing a with
  | zero => simp [within_zero]
  | succ k ih =>
      have hlast := h (a + k * d)
      have hrest := ih a
      rw [Nat.succ_mul, Nat.succ_mul, countP_within_add, countP_within_add]
      omega

theorem countP_within_le_one {l : List Nat} {d : Nat} (h : l.Pairwise fun newer older => older + d ≤ newer)
    (a : Nat) : l.countP (fun t => within a d (some t)) ≤ 1 := by
  induction l with
  | nil => exact Nat.zero_le 1
  | cons t older ih =>
      obtain ⟨hapart, hrest⟩ := List.pairwise_cons.mp h
      rw [List.countP_cons]
      by_cases hin : within a d (some t) = true
      · have hnone : older.countP (fun t => within a d (some t)) = 0 := by
          rw [List.countP_eq_zero]
          intro u hu hwithin
          obtain ⟨b, ⟨⟩, _, hlt⟩ := within_iff.mp hin
          obtain ⟨c, ⟨⟩, hle, _⟩ := within_iff.mp hwithin
          have hgap := hapart u hu
          omega
        rw [hnone, if_pos hin]
      · rw [if_neg hin]
        exact ih hrest

theorem windows_apart {l : List Nat} {d : Nat} (h : l.Pairwise fun newer older => older + d ≤ newer) (k a : Nat) :
    l.countP (fun t => within a (k * d) (some t)) ≤ k := by
  have hone (a : Nat) : l.countP (fun t => within a d (some t)) ≤ 1 + l.countP fun _ => within a d none :=
    (countP_within_le_one h a).trans (Nat.le_add_right _ _)
  have hwindows := @windows Nat l some (fun _ => none) d 1 hone k a
  simpa [within] using hwindows

end Ebbflow.Lib.Pacing
