import Mathlib.Data.List.Count
import Mathlib.Data.List.Forall2
import Mathlib.Tactic.Ring

namespace Ebbflow.Lib.Tally

variable {α : Type} (p : α → Bool)

theorem mem_of_split {l pre post : List α} {t : α} (hl : l = pre ++ t :: post) : t ∈ l := by
  rw [hl]
  exact List.mem_append_right pre List.mem_cons_self

theorem forall_mem_remove {P : α → Prop} {l pre post : List α} {t : α} (hl : l = pre ++ t :: post)
    (h : ∀ x ∈ l, P x) : ∀ x ∈ pre ++ post, P x := by
  intro x hx
  apply h
  rw [hl]
  exact ((List.sublist_cons_self t post).append_left pre).subset hx

theorem forall_mem_replace {P : α → Prop} {l pre post : List α} {t t' : α}
    (hl : l = pre ++ t :: post) (h : ∀ x ∈ l, P x) (ht' : P t') : ∀ x ∈ pre ++ t' :: post, P x := by
  intro x hx
  rw [List.mem_append, List.mem_cons] at hx
  obtain hx | rfl | hx := hx
  · exact h x (by simp [hl, hx])
  · exact ht'
  · exact h x (by simp [hl, hx])

theorem forall₂_replace {β : Type} {R : α → β → Prop} {pre post : List α} {a a' : α} {bs : List β}
    (h : List.Forall₂ R (pre ++ a :: post) bs) (ha : ∀ b, R a b → R a' b) :
    List.Forall₂ R (pre ++ a' :: post) bs := by
  induction pre generalizing bs with
  | nil =>
      cases h with
      | cons hhead htail => exact .cons (ha _ hhead) htail
  | cons b pre ih =>
      cases h with
      | cons hhead htail => exact .cons hhead (ih htail)

theorem forall₂_right {β : Type} {R : α → β → Prop} {Q : β → Prop} {as : List α} {bs : List β}
    (h : List.Forall₂ R as bs) (hb : ∀ b ∈ bs, Q b) : List.Forall₂ (fun a b => R a b ∧ Q b) as bs := by
  induction h with
  | nil => exact .nil
  | cons hab _ ih =>
      obtain ⟨hhead, htail⟩ := List.forall_mem_cons.mp hb
      exact .cons ⟨hab, hhead⟩ (ih htail)

theorem countP_replace (pre post : List α) (t t' : α) :
    (pre ++ t' :: post).countP p + (p t).toNat = (pre ++ t :: post).countP p + (p t').toNat := by
  simp only [List.countP_append, List.countP_cons]
  cases p t <;> cases p t' <;> simp <;> omega

theorem countP_keep (pre post : List α) {t t' : α} (h : p t' = p t) :
    (pre ++ t' :: post).countP p = (pre ++ t :: post).countP p := by
  have := countP_replace p pre post t t'
  rw [h] at this
  omega

theorem countP_on (pre post : List α) {t t' : α} (h : p t = false) (h' : p t' = true) :
    (pre ++ t' :: post).countP p = (pre ++ t :: post).countP p + 1 := by
  have := countP_replace p pre post t t'
  rw [h, h'] at this
  simpa using this

theorem countP_off (pre post : List α) {t t' : α} (h : p t = true) (h' : p t' = false) :
    (pre ++ t' :: post).countP p + 1 = (pre ++ t :: post).countP p := by
  have := countP_replace p pre post t t'
  rw [h, h'] at this
  simpa using this

theorem countP_pos_of_split {l pre post : List α} {t : α} (hl : l = pre ++ t :: post)
    (h : p t = true) : 0 < l.countP p := by
  rw [List.countP_pos_iff]
  exact ⟨t, mem_of_split hl, h⟩

theorem countP_eq_zero {l : List α} (h : ∀ a ∈ l, p a = false) : l.countP p = 0 := by
  rw [List.countP_eq_zero]
  intro a ha
  simp [h a ha]

theorem countP_add_le {q r : α → Bool} {l : List α} (hpq : ∀ a ∈ l, p a = true → q a = false)
    (hp : ∀ a ∈ l, p a = true → r a = true) (hq : ∀ a ∈ l, q a = true → r a = true) :
    l.countP p + l.countP q ≤ l.countP r := by
  induction l with
  | nil => simp
  | cons a l ih =>
      have ih := ih (fun b hb => hpq b (List.mem_cons_of_mem a hb))
        (fun b hb => hp b (List.mem_cons_of_mem a hb)) (fun b hb => hq b (List.mem_cons_of_mem a hb))
      have hpqa := hpq a List.mem_cons_self
      have hpa := hp a List.mem_cons_self
      have hqa := hq a List.mem_cons_self
      simp only [List.countP_cons]
      cases hpv : p a <;> cases hqv : q a <;> simp_all <;> omega

/-- A wrapping counter that stands `n` above `start`. -/
def counter (start : UInt64) (n : Nat) : UInt64 := start + UInt64.ofNat n

@[simp] theorem counter_zero (start : UInt64) : counter start 0 = start := UInt64.add_zero start

theorem counter_succ (start : UInt64) (n : Nat) : counter start n + 1 = counter start (n + 1) := by
  rw [counter, counter, UInt64.ofNat_add, UInt64.add_assoc]
  rfl

theorem counter_pred (start : UInt64) (n : Nat) : counter start (n + 1) - 1 = counter start n := by
  rw [← counter_succ, UInt64.add_sub_cancel]

theorem counter_add (start : UInt64) (n k : Nat) :
    counter start (n + k) = counter (counter start n) k := by
  rw [counter, counter, counter, UInt64.ofNat_add, UInt64.add_assoc]

theorem counter_toNat {start : UInt64} {n : Nat} (h : start.toNat + n < 2 ^ 64) :
    (counter start n).toNat = start.toNat + n := by
  rw [counter, UInt64.toNat_add, UInt64.toNat_ofNat', Nat.add_mod_mod]
  exact Nat.mod_eq_of_lt h

end Ebbflow.Lib.Tally
