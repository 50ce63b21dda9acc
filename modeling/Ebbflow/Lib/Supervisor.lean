import Mathlib.Data.List.Basic
import Mathlib.Logic.Function.Basic

namespace Ebbflow.Lib.Supervisor

variable {A κ : Type}

inductive Event (A : Type)
  | spawned (id : Nat) (args : A)
  | stopped (id : Nat)
  deriving DecidableEq, Repr

/-- Everything a supervisor has asked of its runtime, oldest first. -/
structure TaskLog (A : Type) where
  next : Nat
  events : List (Event A)

namespace TaskLog

def empty : TaskLog A := ⟨0, []⟩

def spawn (log : TaskLog A) (args : A) : TaskLog A :=
  ⟨log.next + 1, log.events ++ [.spawned log.next args]⟩

def stop (log : TaskLog A) (id : Nat) : TaskLog A :=
  { log with events := log.events ++ [.stopped id] }

end TaskLog

def Live (es : List (Event A)) (id : Nat) (args : A) : Prop :=
  .spawned id args ∈ es ∧ .stopped id ∉ es

instance [DecidableEq A] (es : List (Event A)) (id : Nat) (args : A) : Decidable (Live es id args) :=
  inferInstanceAs (Decidable (_ ∧ _))

/-- The property at every moment of a history, not only at its end. -/
def Always (P : List (Event A) → Prop) (es : List (Event A)) : Prop := ∀ p, p <+: es → P p

def AtMostOnePer (key : A → κ) (es : List (Event A)) : Prop :=
  ∀ i j a b, Live es i a → Live es j b → key a = key b → i = j

structure WellFormed (log : TaskLog A) : Prop where
  spawned_lt : ∀ id args, .spawned id args ∈ log.events → id < log.next
  stopped_lt : ∀ id, .stopped id ∈ log.events → id < log.next
  spawned_once : ∀ id a b, .spawned id a ∈ log.events → .spawned id b ∈ log.events → a = b

/-- What a supervisor believes to be running, one slot per key. -/
abbrev Table (κ A : Type) := κ → Option (Nat × A)

/-- The table names exactly the live tasks, each under its own key, and no
key ever had two of them. -/
structure Tracks (key : A → κ) (table : Table κ A) (log : TaskLog A) : Prop where
  wellFormed : WellFormed log
  live : ∀ id args, Live log.events id args ↔ ∃ k, table k = some (id, args)
  keyed : ∀ k id args, table k = some (id, args) → key args = k
  unique : Always (AtMostOnePer key) log.events

theorem always_concat (P : List (Event A) → Prop) (es : List (Event A)) (e : Event A) :
    Always P (es ++ [e]) ↔ Always P es ∧ P (es ++ [e]) := by
  simp only [Always, List.prefix_concat_iff]
  constructor
  · intro h
    exact ⟨fun p hp => h p (.inr hp), h _ (.inl rfl)⟩
  · rintro ⟨h, he⟩ p (rfl | hp)
    · exact he
    · exact h p hp

theorem Always.last {P : List (Event A) → Prop} {es : List (Event A)} (h : Always P es) : P es :=
  h es List.prefix_rfl

theorem live_stop (es : List (Event A)) (i id : Nat) (args : A) :
    Live (es ++ [.stopped i]) id args ↔ Live es id args ∧ id ≠ i := by
  simp [Live, and_assoc]

theorem live_spawn {log : TaskLog A} (h : WellFormed log) (id : Nat) (a args : A) :
    Live (log.spawn a).events id args ↔ Live log.events id args ∨ (id = log.next ∧ args = a) := by
  have hnext : .stopped log.next ∉ log.events := fun hm => Nat.lt_irrefl _ (h.stopped_lt _ hm)
  simp only [Live, TaskLog.spawn, List.mem_append, List.mem_singleton, Event.spawned.injEq,
    reduceCtorEq, or_false]
  constructor
  · rintro ⟨hs | ⟨rfl, rfl⟩, hn⟩
    · exact .inl ⟨hs, hn⟩
    · exact .inr ⟨rfl, rfl⟩
  · rintro (⟨hs, hn⟩ | ⟨rfl, rfl⟩)
    · exact ⟨.inl hs, hn⟩
    · exact ⟨.inr ⟨rfl, rfl⟩, hnext⟩

theorem WellFormed.stop {log : TaskLog A} (h : WellFormed log) {id : Nat} (hid : id < log.next) :
    WellFormed (log.stop id) where
  spawned_lt i a hm := h.spawned_lt i a (by simpa [TaskLog.stop] using hm)
  stopped_lt i hm := by
    simp only [TaskLog.stop, List.mem_append, List.mem_singleton, Event.stopped.injEq] at hm
    rcases hm with hm | rfl
    · exact h.stopped_lt i hm
    · exact hid
  spawned_once i a b ha hb :=
    h.spawned_once i a b (by simpa [TaskLog.stop] using ha) (by simpa [TaskLog.stop] using hb)

theorem WellFormed.spawn {log : TaskLog A} (h : WellFormed log) (a : A) : WellFormed (log.spawn a) where
  spawned_lt i b hm := by
    simp only [TaskLog.spawn, List.mem_append, List.mem_singleton, Event.spawned.injEq] at hm ⊢
    rcases hm with hm | ⟨rfl, -⟩
    · exact Nat.lt_succ_of_lt (h.spawned_lt i b hm)
    · exact Nat.lt_succ_self _
  stopped_lt i hm := by
    simp only [TaskLog.spawn, List.mem_append, List.mem_singleton, reduceCtorEq, or_false] at hm ⊢
    exact Nat.lt_succ_of_lt (h.stopped_lt i hm)
  spawned_once i b c hb hc := by
    simp only [TaskLog.spawn, List.mem_append, List.mem_singleton, Event.spawned.injEq] at hb hc
    rcases hb with hb | ⟨rfl, rfl⟩ <;> rcases hc with hc | ⟨hi, rfl⟩
    · exact h.spawned_once i b c hb hc
    · exact absurd (h.spawned_lt i b hb) (by omega)
    · exact absurd (h.spawned_lt _ c hc) (Nat.lt_irrefl _)
    · rfl

theorem tracks_empty (key : A → κ) : Tracks key (fun _ => none) (TaskLog.empty : TaskLog A) where
  wellFormed := by constructor <;> simp [TaskLog.empty]
  live := by simp [Live, TaskLog.empty]
  keyed := by simp
  unique := by
    intro p hp
    obtain rfl : p = [] := List.prefix_nil.mp hp
    simp [AtMostOnePer, Live]

variable {key : A → κ} {table : Table κ A} {log : TaskLog A}

theorem Tracks.congr (h : Tracks key table log) {table' : Table κ A} (he : ∀ k, table' k = table k) :
    Tracks key table' log := by
  obtain rfl : table' = table := funext he
  exact h

theorem Tracks.mem_log (h : Tracks key table log) {k : κ} {id : Nat} {args : A}
    (hk : table k = some (id, args)) : Live log.events id args :=
  (h.live id args).mpr ⟨k, hk⟩

theorem Tracks.slot_unique (h : Tracks key table log) {k l : κ} {id : Nat} {a b : A}
    (hk : table k = some (id, a)) (hl : table l = some (id, b)) : k = l := by
  have hab : a = b := h.wellFormed.spawned_once id a b (h.mem_log hk).1 (h.mem_log hl).1
  rw [← h.keyed k id a hk, ← h.keyed l id b hl, hab]

variable [DecidableEq κ]

theorem Tracks.stop (h : Tracks key table log) {k : κ} {id : Nat} {args : A}
    (hk : table k = some (id, args)) :
    Tracks key (Function.update table k none) (log.stop id) where
  wellFormed := h.wellFormed.stop (h.wellFormed.spawned_lt id args (h.mem_log hk).1)
  live i a := by
    rw [TaskLog.stop, live_stop, h.live]
    constructor
    · rintro ⟨⟨l, hl⟩, hne⟩
      have hlk : l ≠ k := by
        rintro rfl
        rw [hk] at hl
        cases hl
        exact hne rfl
      exact ⟨l, by rw [Function.update_of_ne hlk, hl]⟩
    · rintro ⟨l, hl⟩
      by_cases hlk : l = k
      · simp [hlk] at hl
      · rw [Function.update_of_ne hlk] at hl
        refine ⟨⟨l, hl⟩, ?_⟩
        rintro rfl
        exact hlk (h.slot_unique hl hk)
  keyed l i a hl := by
    by_cases hlk : l = k
    · simp [hlk] at hl
    · rw [Function.update_of_ne hlk] at hl
      exact h.keyed l i a hl
  unique := by
    refine (always_concat _ _ _).mpr ⟨h.unique, ?_⟩
    intro i j a b hi hj hab
    exact h.unique.last i j a b ((live_stop _ _ _ _).mp hi).1 ((live_stop _ _ _ _).mp hj).1 hab

theorem Tracks.spawn (h : Tracks key table log) {k : κ} (hk : table k = none) {args : A}
    (hkey : key args = k) :
    Tracks key (Function.update table k (some (log.next, args))) (log.spawn args) where
  wellFormed := h.wellFormed.spawn args
  live i a := by
    rw [live_spawn h.wellFormed, h.live]
    constructor
    · rintro (⟨l, hl⟩ | ⟨rfl, rfl⟩)
      · have hlk : l ≠ k := by rintro rfl; rw [hk] at hl; cases hl
        exact ⟨l, by rw [Function.update_of_ne hlk, hl]⟩
      · exact ⟨k, by simp⟩
    · rintro ⟨l, hl⟩
      by_cases hlk : l = k
      · subst hlk
        simp only [Function.update_self, Option.some.injEq, Prod.mk.injEq] at hl
        exact .inr ⟨hl.1.symm, hl.2.symm⟩
      · rw [Function.update_of_ne hlk] at hl
        exact .inl ⟨l, hl⟩
  keyed l i a hl := by
    by_cases hlk : l = k
    · subst hlk
      simp only [Function.update_self, Option.some.injEq, Prod.mk.injEq] at hl
      rw [← hl.2, hkey]
    · rw [Function.update_of_ne hlk] at hl
      exact h.keyed l i a hl
  unique := by
    refine (always_concat _ _ _).mpr ⟨h.unique, ?_⟩
    -- a live task with the new key would sit in the slot just found empty
    have hfree (i : Nat) (a : A) (hi : Live log.events i a) : key a ≠ key args := by
      intro he
      obtain ⟨l, hl⟩ := (h.live i a).mp hi
      have hlk : l = k := by rw [← h.keyed l i a hl, he, hkey]
      rw [hlk, hk] at hl
      cases hl
    intro i j a b hi hj hab
    rcases (live_spawn h.wellFormed i args a).mp hi with hi | ⟨hi, ha⟩ <;>
      rcases (live_spawn h.wellFormed j args b).mp hj with hj | ⟨hj, hb⟩
    · exact h.unique.last i j a b hi hj hab
    · exact absurd (hb ▸ hab) (hfree i a hi)
    · exact absurd (ha ▸ hab.symm) (hfree j b hj)
    · rw [hi, hj]

def TaskLog.stop? (log : TaskLog A) : Option Nat → TaskLog A
  | some id => log.stop id
  | none => log

theorem Tracks.clear (h : Tracks key table log) (k : κ) :
    Tracks key (Function.update table k none) (log.stop? ((table k).map Prod.fst)) := by
  cases hk : table k with
  | none =>
      refine h.congr fun l => ?_
      by_cases hl : l = k
      · rw [hl, Function.update_self, hk]
      · rw [Function.update_of_ne hl]
  | some entry => exact h.stop hk

end Ebbflow.Lib.Supervisor
