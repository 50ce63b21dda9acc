import Mathlib.Data.List.Basic

namespace Ebbflow.Lib.Timed

/-- A future: after how long it completes and with what, if it ever does. -/
inductive Future (α : Type)
  | ready (after : Nat) (value : α)
  | pending
  deriving DecidableEq, Repr

open Future

variable {α β ε : Type} {f : Future α} {g : α → Future β} {d t limit : Nat} {a : α} {b : β} {e : ε}
  {l : List α}

def delay (d : Nat) : Future α → Future α
  | ready t v => ready (d + t) v
  | pending => pending

theorem delay_eq_ready : delay d f = ready t a ↔ ∃ u, f = ready u a ∧ d + u = t := by
  cases f with
  | ready u v =>
      simp only [delay, ready.injEq]
      constructor
      · rintro ⟨rfl, rfl⟩
        exact ⟨u, ⟨rfl, rfl⟩, rfl⟩
      · rintro ⟨_, ⟨rfl, rfl⟩, rfl⟩
        exact ⟨rfl, rfl⟩
  | pending => simp [delay]

instance : Monad Future where
  pure v := ready 0 v
  bind f g := match f with
    | ready d v => delay d (g v)
    | pending => pending

@[simp] theorem pure_eq (v : α) : (pure v : Future α) = ready 0 v := rfl

@[simp] theorem ready_bind (d : Nat) (v : α) (g : α → Future β) : (ready d v >>= g) = delay d (g v) := rfl

@[simp] theorem pending_bind (g : α → Future β) : (pending >>= g) = pending := rfl

theorem delay_delay (d u : Nat) (f : Future α) : delay d (delay u f) = delay (d + u) f := by
  cases f with
  | ready t v => rw [delay, delay, delay, Nat.add_assoc]
  | pending => rfl

theorem delay_bind (d : Nat) (f : Future α) (g : α → Future β) : (delay d f >>= g) = delay d (f >>= g) := by
  cases f with
  | ready t v => rw [delay, ready_bind, ready_bind, delay_delay]
  | pending => rfl

instance : LawfulMonad Future := LawfulMonad.mk' Future
  (fun f => by
    cases f with
    | ready t v => rfl
    | pending => rfl)
  (fun v g => by
    rw [pure_eq, ready_bind]
    cases g v with
    | ready t w => rw [delay, Nat.zero_add]
    | pending => rfl)
  (fun f g h => by
    cases f with
    | ready d v => rw [ready_bind, delay_bind, ready_bind]
    | pending => rfl)

theorem bind_eq_ready :
    (f >>= g) = ready t b ↔ ∃ d v u, f = ready d v ∧ g v = ready u b ∧ d + u = t := by
  cases f with
  | ready d v =>
      rw [ready_bind, delay_eq_ready]
      constructor
      · rintro ⟨u, hu, ht⟩
        exact ⟨d, v, u, rfl, hu, ht⟩
      · rintro ⟨_, _, u, he, hu, ht⟩
        cases he
        exact ⟨u, hu, ht⟩
  | pending => simp

/-- Gives up after `limit`. At that very moment the future is asked once more. -/
def timeout (limit : Nat) : Future α → Future (Option α)
  | ready d v => if d ≤ limit then ready d (some v) else ready limit none
  | pending => ready limit none

theorem timeout_some : timeout limit f = ready t (some a) ↔ f = ready t a ∧ t ≤ limit := by
  cases f with
  | ready d v =>
      rw [timeout]
      by_cases h : d ≤ limit
      · rw [if_pos h, ready.injEq, ready.injEq, Option.some.injEq]
        constructor
        · rintro ⟨rfl, rfl⟩
          exact ⟨⟨rfl, rfl⟩, h⟩
        · exact And.left
      · rw [if_neg h, ready.injEq, ready.injEq]
        constructor
        · rintro ⟨_, he⟩
          cases he
        · rintro ⟨⟨rfl, _⟩, hle⟩
          exact absurd hle h
  | pending => simp [timeout]

theorem timeout_ready (limit : Nat) (f : Future α) : ∃ t v, timeout limit f = ready t v := by
  cases f with
  | ready d v =>
      rw [timeout]
      by_cases h : d ≤ limit
      · exact ⟨d, some v, if_pos h⟩
      · exact ⟨limit, none, if_neg h⟩
  | pending => exact ⟨limit, none, rfl⟩

def firstOk (attempt : α → Future (Except ε β)) : List α → Future (Except (List (α × ε)) β)
  | [] => pure (.error [])
  | a :: rest => do
      match ← attempt a with
      | .ok b => return .ok b
      | .error e => return (← firstOk attempt rest).mapError ((a, e) :: ·)

theorem firstOk_ok {attempt : α → Future (Except ε β)} (h : attempt a = ready d (.ok b)) :
    firstOk attempt (a :: l) = ready d (.ok b) := by
  rw [firstOk, h]
  rfl

theorem firstOk_error {attempt : α → Future (Except ε β)} (h : attempt a = ready d (.error e)) :
    firstOk attempt (a :: l) = delay d (do return (← firstOk attempt l).mapError ((a, e) :: ·)) := by
  rw [firstOk, h]
  rfl

/-- The first success comes after `t`: what is attempted before it fails. -/
inductive Reached (attempt : α → Future (Except ε β)) : List α → Nat → β → Prop
  | here {a rest d b} : attempt a = ready d (.ok b) → Reached attempt (a :: rest) d b
  | later {a rest d t e b} : attempt a = ready d (.error e) → Reached attempt rest t b →
      Reached attempt (a :: rest) (d + t) b

variable {attempt : α → Future (Except ε β)}

theorem firstOk_ok_iff : firstOk attempt l = ready t (.ok b) ↔ Reached attempt l t b := by
  constructor
  · intro h
    induction l generalizing t with
    | nil => cases h
    | cons a rest ih =>
        rw [firstOk, bind_eq_ready] at h
        obtain ⟨d, result, u, ha, hrest, rfl⟩ := h
        cases result with
        | ok b =>
            cases hrest
            exact .here ha
        | error e =>
            obtain ⟨v, outcome, w, hfirst, he, rfl⟩ := bind_eq_ready.mp hrest
            cases outcome with
            | ok b =>
                cases he
                exact .later ha (ih hfirst)
            | error errors => cases he
  · intro h
    induction h with
    | here ha =>
        rw [firstOk, ha]
        rfl
    | later ha _ ih =>
        rw [firstOk, ha, ready_bind, ih]
        rfl

def FirstSuccess (attempt : α → Future (Except ε β)) (l : List α) (b : β) : Prop :=
  ∃ before a after d, l = before ++ a :: after ∧
    (∀ x ∈ before, ∀ d b, attempt x ≠ ready d (.ok b)) ∧ attempt a = ready d (.ok b)

theorem reached_iff_of_ends (hends : ∀ a, ∃ d r, attempt a = ready d r) :
    (∃ t, Reached attempt l t b) ↔ FirstSuccess attempt l b := by
  constructor
  · rintro ⟨t, h⟩
    induction h with
    | @here a rest d b ha => exact ⟨[], a, rest, d, rfl, by simp, ha⟩
    | @later a rest d t e b ha _ ih =>
        obtain ⟨before, a', after, d', rfl, hbefore, ha'⟩ := ih
        refine ⟨a :: before, a', after, d', rfl, ?_, ha'⟩
        rw [List.forall_mem_cons]
        refine ⟨fun d b he => ?_, hbefore⟩
        rw [ha] at he
        cases he
  · rintro ⟨before, a, after, d, rfl, hbefore, ha⟩
    induction before with
    | nil => exact ⟨d, .here ha⟩
    | cons x before ih =>
        obtain ⟨hx, hbefore⟩ := List.forall_mem_cons.mp hbefore
        obtain ⟨t, hrest⟩ := ih hbefore
        obtain ⟨u, r, hr⟩ := hends x
        cases r with
        | ok b' => exact absurd hr (hx u b')
        | error e => exact ⟨u + t, .later hr hrest⟩

end Ebbflow.Lib.Timed
