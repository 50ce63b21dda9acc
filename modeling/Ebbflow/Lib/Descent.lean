import Mathlib.Logic.Basic

namespace Ebbflow.Lib.Descent

variable {σ : Type} {R : σ → σ → Prop} {a b c : σ} {n : Nat}

inductive Steps (R : σ → σ → Prop) (a : σ) : Nat → σ → Prop
  | refl : Steps R a 0 a
  | tail {n : Nat} {b c : σ} : Steps R a n b → R b c → Steps R a (n + 1) c

def Stuck (R : σ → σ → Prop) (a : σ) : Prop := ∀ b, ¬ R a b

theorem Steps.head (h : R a b) (hs : Steps R b n c) : Steps R a (n + 1) c := by
  induction hs with
  | refl => exact .tail .refl h
  | tail _ hstep ih => exact .tail ih hstep

/-- What every step keeps, a run keeps. -/
theorem Steps.keep {P : σ → Prop} (hkeep : ∀ a b, P a → R a b → P b) (h : Steps R a n b) (ha : P a) : P b := by
  induction h with
  | refl => exact ha
  | tail _ hstep ih => exact hkeep _ _ ih hstep

variable {size : σ → Nat}

/-- What every step makes smaller bounds the length of a run. -/
theorem Steps.size_le (hless : ∀ a b, R a b → size b < size a) (h : Steps R a n b) : n + size b ≤ size a := by
  induction h with
  | refl => exact Nat.le_of_eq (Nat.zero_add _)
  | @tail n b c _ hstep ih =>
      have hlt := hless b c hstep
      omega

theorem exists_stuck (hless : ∀ a b, R a b → size b < size a) (a : σ) : ∃ n b, Steps R a n b ∧ Stuck R b := by
  induction hsize : size a using Nat.strongRecOn generalizing a with
  | ind k ih =>
      by_cases hstuck : Stuck R a
      · exact ⟨0, a, .refl, hstuck⟩
      · simp only [Stuck, not_forall, not_not] at hstuck
        obtain ⟨b, hstep⟩ := hstuck
        obtain ⟨n, c, hsteps, hc⟩ := ih (size b) (hsize ▸ hless a b hstep) b rfl
        exact ⟨n + 1, c, .head hstep hsteps, hc⟩

end Ebbflow.Lib.Descent
