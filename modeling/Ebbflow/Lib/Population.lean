import Ebbflow.Lib.Supervisor
import Ebbflow.Lib.Tally
import Mathlib.Data.List.Nodup
import Mathlib.Data.List.Perm.Basic
import Mathlib.Data.List.Range

namespace Ebbflow.Lib.Population

open Supervisor Tally

variable {A T : Type}

structure Member (A T : Type) where
  id : Nat
  args : A
  task : T

/-- What the tasks make of the supervisor's next event: one more is started, or
one is told to stop. -/
def react (start : A → T) (tell : T → T) (members : List (Member A T)) : Event A → List (Member A T)
  | .spawned id args => members ++ [⟨id, args, start args⟩]
  | .stopped id => members.map fun m => if m.id = id then { m with task := tell m.task } else m

inductive Grows (log : TaskLog A) : TaskLog A → Prop
  | refl : Grows log log
  | stop {log' : TaskLog A} {id : Nat} : Grows log log' → id < log'.next → Grows log (log'.stop id)
  | spawn {log' : TaskLog A} (args : A) : Grows log log' → Grows log (log'.spawn args)

variable {log log' : TaskLog A}

theorem Grows.trans {a b c : TaskLog A} (hab : Grows a b) (hbc : Grows b c) : Grows a c := by
  induction hbc with
  | refl => exact hab
  | stop _ hid ih => exact .stop ih hid
  | spawn args _ ih => exact .spawn args ih

theorem Grows.stop? {o : Option Nat} (h : Grows log log') (hid : ∀ id ∈ o, id < log'.next) :
    Grows log (log'.stop? o) := by
  cases o with
  | none => exact h
  | some id => exact .stop h (hid id rfl)

/-- The members are the tasks of the log, each told to stop when the log says so. -/
structure Populates (told : T → Bool) (log : TaskLog A) (members : List (Member A T)) : Prop where
  ids : members.map (·.id) = List.range log.next
  spawned : ∀ m ∈ members, .spawned m.id m.args ∈ log.events
  stopped : ∀ m ∈ members, told m.task = true ↔ .stopped m.id ∈ log.events
  past : ∀ id, .stopped id ∈ log.events → id < log.next

variable {start : A → T} {tell : T → T} {told : T → Bool} {members : List (Member A T)}

theorem populates_empty (told : T → Bool) : Populates told (TaskLog.empty : TaskLog A) [] where
  ids := rfl
  spawned _ hm := by cases hm
  stopped _ hm := by cases hm
  past _ hid := by cases hid

theorem Populates.spawn (h : Populates told log members) (tell : T → T)
    (hstart : ∀ args, told (start args) = false) (args : A) :
    Populates told (log.spawn args) (react start tell members (.spawned log.next args)) := by
  have hfresh : .stopped log.next ∉ log.events := fun hstopped => Nat.lt_irrefl _ (h.past _ hstopped)
  refine ⟨?_, ?_, ?_, ?_⟩
  · rw [react, List.map_append, h.ids]
    exact List.range_succ.symm
  · refine List.forall_mem_append.mpr ⟨fun m hm => List.mem_append_left _ (h.spawned m hm), ?_⟩
    exact List.forall_mem_singleton.mpr (List.mem_append_right _ List.mem_cons_self)
  · refine List.forall_mem_append.mpr ⟨?_, List.forall_mem_singleton.mpr ?_⟩
    · intro m hm
      rw [h.stopped m hm]
      simp [TaskLog.spawn]
    · simp [TaskLog.spawn, hstart, hfresh]
  · intro id hid
    apply Nat.lt_succ_of_lt
    apply h.past id
    simpa [TaskLog.spawn] using hid

theorem Populates.stop (h : Populates told log members) (start : A → T)
    (htell : ∀ t, told (tell t) = true) {id : Nat} (hid : id < log.next) : Populates told (log.stop id) (react start tell members (.stopped id)) := by
  refine ⟨?_, ?_, ?_, ?_⟩
  · have hids : (fun m : Member A T => (if m.id = id then { m with task := tell m.task } else m).id) = (·.id) := by
      funext m
      split <;> rfl
    rw [react, List.map_map]
    exact (congrArg (members.map ·) hids).trans h.ids
  · refine List.forall_mem_map.mpr fun m hm => List.mem_append_left _ ?_
    split <;> exact h.spawned m hm
  · refine List.forall_mem_map.mpr fun m hm => ?_
    by_cases hsame : m.id = id
    · rw [if_pos hsame]
      simp [htell, TaskLog.stop, hsame]
    · rw [if_neg hsame, h.stopped m hm]
      simp [TaskLog.stop, hsame]
  · intro i hi
    rcases List.mem_append.mp hi with hold | hnew
    · exact h.past i hold
    · cases List.mem_singleton.mp hnew
      exact hid

theorem Grows.events (h : Grows log log') : ∃ new, log'.events = log.events ++ new := by
  induction h with
  | refl => exact ⟨[], (List.append_nil _).symm⟩
  | @stop log' id _ _ ih =>
      obtain ⟨new, hnew⟩ := ih
      exact ⟨new ++ [.stopped id], by rw [TaskLog.stop, hnew, List.append_assoc]⟩
  | @spawn log' args _ ih =>
      obtain ⟨new, hnew⟩ := ih
      exact ⟨new ++ [.spawned log'.next args], by rw [TaskLog.spawn, hnew, List.append_assoc]⟩

theorem Populates.grow (h : Populates told log members) (hg : Grows log log')
    (hstart : ∀ args, told (start args) = false) (htell : ∀ t, told (tell t) = true) :
    Populates told log' ((log'.events.drop log.events.length).foldl (react start tell) members) := by
  induction hg with
  | refl =>
      rw [List.drop_length]
      exact h
  | @stop log' id hg hid ih =>
      obtain ⟨new, hnew⟩ := hg.events
      have hlen : log.events.length ≤ log'.events.length := by simp [hnew]
      rw [TaskLog.stop, List.drop_append_of_le_length hlen, List.foldl_append]
      exact ih.stop start htell hid
  | @spawn log' args hg ih =>
      obtain ⟨new, hnew⟩ := hg.events
      have hlen : log.events.length ≤ log'.events.length := by simp [hnew]
      rw [TaskLog.spawn, List.drop_append_of_le_length hlen, List.foldl_append]
      exact ih.spawn tell hstart args

theorem forall_react {P : Member A T → Prop} (hstart : ∀ id args, P ⟨id, args, start args⟩)
    (htell : ∀ m, P m → P { m with task := tell m.task }) (events : List (Event A))
    (h : ∀ m ∈ members, P m) : ∀ m ∈ events.foldl (react start tell) members, P m := by
  induction events generalizing members with
  | nil => exact h
  | cons event events ih =>
      apply ih
      cases event with
      | spawned id args => exact List.forall_mem_append.mpr ⟨h, List.forall_mem_singleton.mpr (hstart id args)⟩
      | stopped id =>
          refine List.forall_mem_map.mpr fun m hm => ?_
          split
          · exact htell m (h m hm)
          · exact h m hm

theorem Populates.replace {pre post : List (Member A T)} {m : Member A T} {task : T}
    (h : Populates told log (pre ++ m :: post)) (htold : told task = told m.task) :
    Populates told log (pre ++ { m with task := task } :: post) := by
  have hm : m ∈ pre ++ m :: post := List.mem_append_right _ List.mem_cons_self
  refine ⟨?_, ?_, ?_, h.past⟩
  · rw [← h.ids, List.map_append, List.map_append]
    rfl
  · exact forall_mem_replace rfl h.spawned (h.spawned m hm)
  · apply forall_mem_replace rfl h.stopped
    rw [htold]
    exact h.stopped m hm

theorem Populates.nodup (h : Populates told log members) : members.Nodup := by
  apply List.Nodup.of_map (·.id)
  rw [h.ids]
  exact List.nodup_range

theorem Populates.eq_of_id (h : Populates told log members) {m m' : Member A T} (hm : m ∈ members)
    (hm' : m' ∈ members) (hid : m.id = m'.id) : m = m' := by
  have hnodup : (members.map (·.id)).Nodup := by
    rw [h.ids]
    exact List.nodup_range
  exact List.inj_on_of_nodup_map hnodup hm hm' hid

theorem Populates.getElem? (h : Populates told log members) {m : Member A T} (hm : m ∈ members) :
    members[m.id]? = some m := by
  obtain ⟨i, hi, hget⟩ := List.getElem_of_mem hm
  have hid : (members.map (·.id))[i]? = some m.id := by
    rw [List.getElem?_map, List.getElem?_eq_getElem hi, hget]
    rfl
  rw [h.ids] at hid
  obtain ⟨_, hi'⟩ := List.getElem?_eq_some_iff.mp hid
  rw [List.getElem_range] at hi'
  rw [← hi', List.getElem?_eq_getElem hi, hget]

theorem Populates.live_iff (h : Populates told log members) (hw : WellFormed log) (id : Nat) (args : A) :
    Live log.events id args ↔ ∃ m ∈ members, told m.task = false ∧ m.id = id ∧ m.args = args := by
  constructor
  · rintro ⟨hspawned, hstopped⟩
    have hid : id ∈ members.map (·.id) := by
      rw [h.ids]
      exact List.mem_range.mpr (hw.spawned_lt id args hspawned)
    obtain ⟨m, hm, rfl⟩ := List.mem_map.mp hid
    refine ⟨m, hm, ?_, rfl, hw.spawned_once m.id _ _ (h.spawned m hm) hspawned⟩
    rw [← h.stopped m hm, Bool.not_eq_true] at hstopped
    exact hstopped
  · rintro ⟨m, hm, htold, rfl, rfl⟩
    refine ⟨h.spawned m hm, fun hstopped => ?_⟩
    rw [(h.stopped m hm).mpr hstopped] at htold
    cases htold

variable {κ : Type} [DecidableEq κ]

def serving (key : A → κ) (told : T → Bool) (members : List (Member A T)) (k : κ) : List (Member A T) :=
  members.filter fun m => decide (key m.args = k) && !told m.task

theorem mem_serving {key : A → κ} {k : κ} {m : Member A T} :
    m ∈ serving key told members k ↔ m ∈ members ∧ key m.args = k ∧ told m.task = false := by
  simp [serving]

/-- The list holds the one value that is called for, or nothing if none is. -/
def Sole {B : Type} (calls : B → Prop) (l : List B) : Prop :=
  ∃ o : Option B, l = o.toList ∧ ∀ b, o = some b ↔ calls b

/-- A supervisor's table names, key by key, the tasks that nobody has told to stop. -/
theorem Populates.serving_eq (h : Populates told log members) {key : A → κ} {table : Table κ A}
    (ht : Tracks key table log) (k : κ) :
    (serving key told members k).map (fun m => (m.id, m.args)) = (table k).toList := by
  have hlive (m : Member A T) (hm : m ∈ serving key told members k) : table k = some (m.id, m.args) := by
    obtain ⟨hmem, hkey, htold⟩ := mem_serving.mp hm
    have hl := (h.live_iff ht.wellFormed m.id m.args).mpr ⟨m, hmem, htold, rfl, rfl⟩
    obtain ⟨k', hk'⟩ := (ht.live m.id m.args).mp hl
    rw [← ht.keyed k' m.id m.args hk', hkey] at hk'
    exact hk'
  cases hk : table k with
  | none =>
      apply List.map_eq_nil_iff.mpr
      apply List.eq_nil_iff_forall_not_mem.mpr
      intro m hm
      have hsome := hlive m hm
      rw [hk] at hsome
      cases hsome
  | some entry =>
      obtain ⟨m, hm, htold, hid, hargs⟩ := (h.live_iff ht.wellFormed _ _).mp (ht.mem_log hk)
      have hkey : key m.args = k := by
        rw [hargs]
        exact ht.keyed k _ _ hk
      have hone : serving key told members k = [m] := by
        have hnodup : (serving key told members k).Nodup := h.nodup.filter _
        apply List.perm_singleton.mp
        apply (List.perm_ext_iff_of_nodup hnodup (List.nodup_singleton m)).mpr
        intro m'
        rw [List.mem_singleton]
        constructor
        · intro hm'
          have hsame := hlive m' hm'
          rw [hk, Option.some.injEq] at hsame
          have hid' : m'.id = m.id := by rw [hid, hsame]
          exact h.eq_of_id (mem_serving.mp hm').1 hm hid'
        · rintro rfl
          exact mem_serving.mpr ⟨hm, hkey, htold⟩
      rw [hone, List.map_singleton, hid, hargs]
      rfl

end Ebbflow.Lib.Population
