import Mathlib.Init

namespace Ebbflow.Lib.Interactive

abbrev Lines := List (Option String)

/-- What is still to be read, and what was printed. A line is missing where
reading it fails. -/
structure Terminal where
  lines : Lines
  printed : List String

/-- A program that may fail with an `ε`, or never return. Without a result it
has not returned within its fuel. -/
def Program (ε α : Type) := Nat → Terminal → Option (Except ε α × Terminal)

variable {ε α β : Type}

instance : Monad (Program ε) where
  pure a := fun _ t => some (.ok a, t)
  bind p f := fun fuel t =>
    match p fuel t with
    | none => none
    | some (.error e, t') => some (.error e, t')
    | some (.ok a, t') => f a fuel t'

def println (s : String) : Program ε Unit := fun _ t => some (.ok (), ⟨t.lines, t.printed ++ [s]⟩)

/-- After the last line every read gives an empty one. -/
def readLine (failure : ε) : Program ε String := fun _ t =>
  match t.lines with
  | [] => some (.ok "", t)
  | some s :: rest => some (.ok s, ⟨rest, t.printed⟩)
  | none :: rest => some (.error failure, ⟨rest, t.printed⟩)

def await (result : Option (Except ε α)) : Program ε α := fun _ t => result.map (·, t)

def attempts (body : Program ε (Option α)) : Nat → Program ε α
  | 0 => fun _ _ => none
  | n + 1 => do
      match ← body with
      | some a => return a
      | none => attempts body n

def retry (body : Program ε (Option α)) : Program ε α := fun fuel => attempts body fuel fuel

def Returns (p : Program ε α) (t : Terminal) (a : α) (t' : Terminal) : Prop := ∃ fuel, p fuel t = some (.ok a, t')

def Steady (p : Program ε α) : Prop := ∀ n m t r, n ≤ m → p n t = some r → p m t = some r

/-- The program returns just these results for just these lines, whatever it prints. -/
structure Reads (p : Program ε α) (R : Lines → α → Lines → Prop) : Prop where
  steady : Steady p
  returns : ∀ t a rest, (∃ printed, Returns p t a ⟨rest, printed⟩) ↔ R t.lines a rest

inductive Until (R : Lines → Option α → Lines → Prop) : Lines → α → Lines → Prop
  | done {lines a rest} : R lines (some a) rest → Until R lines a rest
  | again {lines mid a rest} : R lines none mid → Until R mid a rest → Until R lines a rest

variable {p : Program ε α} {f : α → Program ε β} {R R' : Lines → α → Lines → Prop}
  {S : α → Lines → β → Lines → Prop} {t t' : Terminal} {a : α} {b : β} {n : Nat} {r : Except ε β × Terminal}

theorem bind_apply (p : Program ε α) (f : α → Program ε β) (n : Nat) (t : Terminal) :
    (p >>= f) n t =
      match p n t with
      | none => none
      | some (.error e, t') => some (.error e, t')
      | some (.ok a, t') => f a n t' := rfl

theorem bind_some : (p >>= f) n t = some r ↔
    (∃ e t', p n t = some (.error e, t') ∧ r = (.error e, t')) ∨
      ∃ a t', p n t = some (.ok a, t') ∧ f a n t' = some r := by
  rw [bind_apply]
  cases hp : p n t with
  | none => simp
  | some q =>
      obtain ⟨result, t'⟩ := q
      cases result with
      | error e =>
          constructor
          · intro h
            exact .inl ⟨e, t', rfl, (Option.some.inj h).symm⟩
          · rintro (⟨_, _, he, rfl⟩ | ⟨_, _, he, _⟩)
            · cases he
              rfl
            · cases he
      | ok a =>
          constructor
          · intro h
            exact .inr ⟨a, t', rfl, h⟩
          · rintro (⟨_, _, he, _⟩ | ⟨_, _, he, h⟩)
            · cases he
            · cases he
              exact h

theorem bind_ok : (p >>= f) n t = some (.ok b, t') ↔
    ∃ a t₁, p n t = some (.ok a, t₁) ∧ f a n t₁ = some (.ok b, t') := by
  rw [bind_some]
  constructor
  · rintro (⟨e, t₁, _, he⟩ | h)
    · cases he
    · exact h
  · exact .inr

theorem steady_bind (hp : Steady p) (hf : ∀ a, Steady (f a)) : Steady (p >>= f) := by
  intro n m t r hle h
  rw [bind_some] at h ⊢
  rcases h with ⟨e, t', hpn, rfl⟩ | ⟨a, t', hpn, hfn⟩
  · exact .inl ⟨e, t', hp n m t _ hle hpn, rfl⟩
  · exact .inr ⟨a, t', hp n m t _ hle hpn, hf a n m t' r hle hfn⟩

theorem returns_bind (hp : Steady p) (hf : ∀ a, Steady (f a)) :
    Returns (p >>= f) t b t' ↔ ∃ a t₁, Returns p t a t₁ ∧ Returns (f a) t₁ b t' := by
  constructor
  · rintro ⟨n, h⟩
    obtain ⟨a, t₁, hpn, hfn⟩ := bind_ok.mp h
    exact ⟨a, t₁, ⟨n, hpn⟩, n, hfn⟩
  · rintro ⟨a, t₁, ⟨n, hpn⟩, k, hfk⟩
    refine ⟨max n k, bind_ok.mpr ⟨a, t₁, ?_, ?_⟩⟩
    · exact hp n _ t _ (Nat.le_max_left n k) hpn
    · exact hf a k _ t₁ _ (Nat.le_max_right n k) hfk

namespace Reads

theorem congr (h : Reads p R) (hiff : ∀ lines a rest, R lines a rest ↔ R' lines a rest) : Reads p R' where
  steady := h.steady
  returns t a rest := (h.returns t a rest).trans (hiff _ _ _)

theorem ofConst {result : Terminal → Option (Except ε α × Terminal)}
    (h : ∀ t a rest, (∃ printed, result t = some (.ok a, ⟨rest, printed⟩)) ↔ R t.lines a rest) :
    Reads (fun _ => result) R where
  steady _ _ _ _ _ hr := hr
  returns t a rest := by
    rw [← h]
    constructor
    · rintro ⟨printed, _, hr⟩
      exact ⟨printed, hr⟩
    · rintro ⟨printed, hr⟩
      exact ⟨printed, 0, hr⟩

theorem pure (a : α) : Reads (Pure.pure a : Program ε α) fun lines b rest => a = b ∧ lines = rest := by
  apply ofConst
  intro t b rest
  obtain ⟨lines, printed⟩ := t
  simp

theorem println (s : String) : Reads (println s : Program ε Unit) fun lines _ rest => lines = rest := by
  apply ofConst
  intro t b rest
  simp

theorem readLine (failure : ε) : Reads (readLine failure) fun lines s rest =>
    (lines = [] ∧ "" = s ∧ [] = rest) ∨ lines = some s :: rest := by
  apply ofConst
  intro t s rest
  obtain ⟨lines, printed⟩ := t
  cases lines with
  | nil => simp
  | cons line lines =>
      cases line with
      | none => simp
      | some s' => simp

theorem await (result : Option (Except ε α)) : Reads (await result) fun lines a rest =>
    result = some (.ok a) ∧ lines = rest := by
  apply ofConst
  intro t a rest
  obtain ⟨lines, printed⟩ := t
  cases result with
  | none => simp
  | some result => simp

theorem bind (hp : Reads p R) (hf : ∀ a, Reads (f a) (S a)) :
    Reads (p >>= f) fun lines b rest => ∃ a mid, R lines a mid ∧ S a mid b rest where
  steady := steady_bind hp.steady fun a => (hf a).steady
  returns t b rest := by
    simp only [returns_bind hp.steady fun a => (hf a).steady]
    constructor
    · rintro ⟨printed, a, ⟨mid, printed'⟩, hpr, hfr⟩
      exact ⟨a, mid, (hp.returns t a mid).mp ⟨printed', hpr⟩, ((hf a).returns _ b rest).mp ⟨printed, hfr⟩⟩
    · rintro ⟨a, mid, hR, hS⟩
      obtain ⟨printed', hpr⟩ := (hp.returns t a mid).mpr hR
      obtain ⟨printed, hfr⟩ := ((hf a).returns ⟨mid, printed'⟩ b rest).mpr hS
      exact ⟨printed, a, _, hpr, hfr⟩

theorem print (s : String) (h : Reads p R) : Reads (Interactive.println s >>= fun _ => p) R := by
  apply ((println s).bind fun _ => h).congr
  simp

end Reads

section Retry

variable {body : Program ε (Option α)} {Q : Lines → Option α → Lines → Prop}

theorem steady_attempts (h : Steady body) {n m k l : Nat} {r : Except ε α × Terminal} (hle : n ≤ m) (hkl : k ≤ l)
    (hr : attempts body k n t = some r) : attempts body l m t = some r := by
  induction k generalizing l t with
  | zero => cases hr
  | succ k ih =>
      obtain ⟨l, rfl⟩ : ∃ l', l = l' + 1 := ⟨l - 1, by omega⟩
      rw [attempts, bind_some] at hr ⊢
      rcases hr with ⟨e, t', hb, rfl⟩ | ⟨result, t', hb, hrest⟩
      · exact .inl ⟨e, t', h n m t _ hle hb, rfl⟩
      · refine .inr ⟨result, t', h n m t _ hle hb, ?_⟩
        cases result with
        | some a => exact hrest
        | none => exact ih (Nat.le_of_succ_le_succ hkl) hrest

theorem steady_retry (h : Steady body) : Steady (retry body) := fun _ _ _ _ hle hr => steady_attempts h hle hle hr

theorem attempts_until (h : Reads body Q) {k : Nat} (hr : attempts body k n t = some (.ok a, t')) :
    Until Q t.lines a t'.lines := by
  induction k generalizing t with
  | zero => cases hr
  | succ k ih =>
      rw [attempts] at hr
      obtain ⟨result, t₁, hb, hrest⟩ := bind_ok.mp hr
      have hq := (h.returns t result t₁.lines).mp ⟨t₁.printed, n, hb⟩
      cases result with
      | some a' =>
          cases hrest
          exact .done hq
      | none => exact .again hq (ih hrest)

theorem until_attempts (h : Reads body Q) {lines rest : Lines} (hu : Until Q lines a rest) (printed : List String) :
    ∃ printed', Returns (retry body) ⟨lines, printed⟩ a ⟨rest, printed'⟩ := by
  induction hu generalizing printed with
  | @done lines a rest hq =>
      obtain ⟨printed', n, hb⟩ := (h.returns ⟨lines, printed⟩ (some a) rest).mpr hq
      refine ⟨printed', n + 1, bind_ok.mpr ⟨some a, ⟨rest, printed'⟩, ?_, rfl⟩⟩
      exact h.steady n (n + 1) _ _ (Nat.le_succ n) hb
  | @again lines mid a rest hq _ ih =>
      obtain ⟨printed₁, n, hb⟩ := (h.returns ⟨lines, printed⟩ none mid).mpr hq
      obtain ⟨printed', k, hr⟩ := ih printed₁
      refine ⟨printed', max n k + 1, bind_ok.mpr ⟨none, ⟨mid, printed₁⟩, ?_, ?_⟩⟩
      · exact h.steady n _ _ _ (by omega) hb
      · exact steady_attempts h.steady (by omega) (Nat.le_max_right n k) hr

theorem Reads.retry (h : Reads body Q) : Reads (retry body) (Until Q) where
  steady := steady_retry h.steady
  returns t a rest := by
    constructor
    · rintro ⟨printed, n, hr⟩
      exact attempts_until h hr
    · intro hu
      exact until_attempts h hu t.printed

end Retry

end Ebbflow.Lib.Interactive
