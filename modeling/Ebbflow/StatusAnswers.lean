import Ebbflow.InfoServer

namespace Ebbflow.StatusAnswers

open Config Daemon Runner RunnerSystem RunnerAtomic InfoServer
open KeyGating (sampleMachine)

/-- A request under way, and how many calls were over when it came in. -/
structure Query where
  path : String
  asked : Nat
  deriving DecidableEq, Repr

structure Answer where
  query : Query
  answered : Nat
  response : Response

/-- The runner behind its mutex, between the loop that calls it and the info
server's requests. -/
structure Shared where
  system : System
  current : Call
  /-- Latest first. -/
  completed : List Call
  queries : List Query
  /-- Latest first. -/
  answers : List Answer

def Shared.new (clock : String) : Shared := ⟨.new clock, ⟨none, none⟩, [], [], []⟩

/-- A call holds the mutex from its first step to its last; a status is put
together while the mutex is free, and any other path is refused without it. -/
inductive Step (machine : Machine) (toStringPretty : DaemonStatus → Option String) : Shared → Shared → Prop
  | call {s : Shared} (c : Call) : s.system.progress = .idle →
      Step machine toStringPretty s { s with system := s.system.call c.config c.key, current := c }
  | runner {s : Shared} {system : System} : RunnerSystem.Step machine s.system system →
      (s.system.progress = .idle → system.progress = .idle) →
      Step machine toStringPretty s { s with
        system := system
        completed := completedBy s.completed s.current s.system.progress system.progress }
  | request (s : Shared) (path : String) :
      Step machine toStringPretty s { s with queries := s.queries ++ [⟨path, s.completed.length⟩] }
  | answer {s : Shared} {pre post : List Query} {q : Query} (metas : TaskId → EndpointMeta) :
      s.queries = pre ++ q :: post → (q.path = statusPath → s.system.progress = .idle) →
      Step machine toStringPretty s { s with
        queries := pre ++ post
        answers := ⟨q, s.completed.length, handle toStringPretty q.path (status metas s.system.runner)⟩ ::
          s.answers }

inductive Reached (machine : Machine) (toStringPretty : DaemonStatus → Option String) : Shared → Prop
  | new (clock : String) : Reached machine toStringPretty (.new clock)
  | step {s s' : Shared} : Reached machine toStringPretty s → Step machine toStringPretty s s' →
      Reached machine toStringPretty s'

variable {machine : Machine} {toStringPretty : DaemonStatus → Option String} {s s' : Shared} {calls : List Call}
  {call : Call} {n : Nat}

def upTo (calls : List Call) (n : Nat) : List Call := calls.drop (calls.length - n)

theorem upTo_cons (call : Call) (h : n ≤ calls.length) : upTo (call :: calls) n = upTo calls n := by
  rw [upTo, List.length_cons, Nat.sub_add_comm h, List.drop_succ_cons, upTo]

theorem upTo_length (calls : List Call) : upTo calls calls.length = calls := by
  rw [upTo, Nat.sub_self, List.drop_zero]

theorem completedBy_cases (calls : List Call) (current : Call) (before after : Progress) :
    completedBy calls current before after = calls ∨ completedBy calls current before after = current :: calls := by
  cases before with
  | idle => exact .inl rfl
  | keyTaken | applying =>
      cases after with
      | idle => exact .inr rfl
      | keyTaken | applying => exact .inl rfl

/-- The response is the status in JSON, or says that it could not be had. -/
def Carries (toStringPretty : DaemonStatus → Option String) (st : DaemonStatus) (r : Response) : Prop :=
  (∃ json, toStringPretty st = some json ∧ r = ⟨200, json⟩) ∨
    toStringPretty st = none ∧ r = ⟨500, "Error getting status"⟩

theorem handle_status (toStringPretty : DaemonStatus → Option String) (st : DaemonStatus) :
    Carries toStringPretty st (handle toStringPretty statusPath st) := by
  rw [handle, if_pos rfl]
  cases hst : toStringPretty st with
  | some json => exact .inl ⟨json, hst, rfl⟩
  | none => exact .inr ⟨hst, rfl⟩

structure Placed (osHostname : String) (toStringPretty : DaemonStatus → Option String) (completed : List Call)
    (a : Answer) : Prop where
  asked : a.query.asked ≤ a.answered
  answered : a.answered ≤ completed.length
  described : a.query.path = statusPath → ∃ st, Describes osHostname (upTo completed a.answered) st ∧
    Carries toStringPretty st a.response
  refused : a.query.path ≠ statusPath → a.response = ⟨400, "Invalid Request"⟩

structure Inv (osHostname : String) (toStringPretty : DaemonStatus → Option String) (s : Shared) : Prop where
  during : During (Meets osHostname) s.completed s.current s.system.runner s.system.progress
  queries : ∀ q ∈ s.queries, q.asked ≤ s.completed.length
  answers : ∀ a ∈ s.answers, Placed osHostname toStringPretty s.completed a
  ordered : s.answers.Pairwise fun later earlier => earlier.answered ≤ later.answered

theorem Placed.more {osHostname : String} {a : Answer} (h : Placed osHostname toStringPretty calls a)
    (call : Call) : Placed osHostname toStringPretty (call :: calls) a where
  asked := h.asked
  answered := Nat.le_succ_of_le h.answered
  described hpath := by
    rw [upTo_cons call h.answered]
    exact h.described hpath
  refused := h.refused

theorem inv_runner (h : Inv machine.osHostname toStringPretty s) {system : System}
    (hs : RunnerSystem.Step machine s.system system) (hidle : s.system.progress = .idle → system.progress = .idle) :
    Inv machine.osHostname toStringPretty { s with
      system := system
      completed := completedBy s.completed s.current s.system.progress system.progress } := by
  have hduring := during_step (meets_closed machine.osHostname) h.during hs hidle
  rcases completedBy_cases s.completed s.current s.system.progress system.progress with hsame | hover
  · rw [hsame] at hduring ⊢
    exact ⟨hduring, h.queries, h.answers, h.ordered⟩
  · rw [hover] at hduring ⊢
    refine ⟨hduring, ?_, ?_, h.ordered⟩
    · intro q hq
      exact Nat.le_succ_of_le (h.queries q hq)
    · intro a ha
      exact (h.answers a ha).more s.current

theorem inv_answer (h : Inv machine.osHostname toStringPretty s) {pre post : List Query} {q : Query}
    (hqueries : s.queries = pre ++ q :: post) (hidle : q.path = statusPath → s.system.progress = .idle)
    (metas : TaskId → EndpointMeta) :
    Inv machine.osHostname toStringPretty { s with
      queries := pre ++ post
      answers := ⟨q, s.completed.length, handle toStringPretty q.path (status metas s.system.runner)⟩ ::
        s.answers } := by
  have hasked := h.queries
  rw [hqueries] at hasked
  refine ⟨h.during, ?_, List.forall_mem_cons.mpr ⟨⟨?_, le_rfl, ?_, fun hpath => if_neg hpath⟩, h.answers⟩,
    List.pairwise_cons.mpr ⟨?_, h.ordered⟩⟩
  · intro q' hq'
    apply hasked q'
    rcases List.mem_append.mp hq' with hpre | hpost
    · exact List.mem_append_left _ hpre
    · exact List.mem_append_right _ (List.mem_cons_of_mem _ hpost)
  · exact hasked q (List.mem_append_right _ List.mem_cons_self)
  · intro hpath
    have hduring := h.during
    rw [hidle hpath] at hduring
    rw [upTo_length, hpath]
    exact ⟨_, hduring.describes metas, handle_status _ _⟩
  · intro a ha
    exact (h.answers a ha).answered

theorem inv_step (h : Inv machine.osHostname toStringPretty s) (hs : Step machine toStringPretty s s') :
    Inv machine.osHostname toStringPretty s' := by
  cases hs with
  | call c hidle =>
      have hduring := h.during
      rw [hidle] at hduring
      exact ⟨⟨rfl, _, hduring, RunDaemon.background_refl _⟩, h.queries, h.answers, h.ordered⟩
  | runner hstep hidle => exact inv_runner h hstep hidle
  | request path =>
      refine ⟨h.during, ?_, h.answers, h.ordered⟩
      intro q hq
      rcases List.mem_append.mp hq with hold | hnew
      · exact h.queries q hold
      · rw [List.mem_singleton.mp hnew]
  | answer metas hqueries hidle => exact inv_answer h hqueries hidle metas

theorem reached_inv (h : Reached machine toStringPretty s) : Inv machine.osHostname toStringPretty s := by
  induction h with
  | new clock => exact ⟨meets_new machine.osHostname clock, by simp [Shared.new], by simp [Shared.new], .nil⟩
  | step _ hs ih => exact inv_step ih hs

/-- Requests for the status, made at any time while the runner works through
its calls entry by entry, are answered as if every call were one step: each
answer says what is configured after a number of calls, at least those that
were over when it was asked for and none that was not over when it was given,
and a later answer never says less. -/
theorem status_is_linearizable (h : Reached machine toStringPretty s) :
    (s.answers.Pairwise fun later earlier => earlier.answered ≤ later.answered) ∧
      ∀ a ∈ s.answers, a.query.asked ≤ a.answered ∧ a.answered ≤ s.completed.length ∧
        (a.query.path = statusPath → ∃ st, Describes machine.osHostname (upTo s.completed a.answered) st ∧
          Carries toStringPretty st a.response) ∧
        (a.query.path ≠ statusPath → a.response = ⟨400, "Invalid Request"⟩) := by
  have hinv := reached_inv h
  refine ⟨hinv.ordered, ?_⟩
  intro a ha
  have hplaced := hinv.answers a ha
  exact ⟨hplaced.asked, hplaced.answered, hplaced.described, hplaced.refused⟩

theorem completedBy_over (calls : List Call) (current : Call) {before : Progress} (h : before ≠ .idle) :
    completedBy calls current before .idle = current :: calls := by
  cases before with
  | idle => exact absurd rfl h
  | keyTaken | applying => rfl

theorem completedBy_busy (calls : List Call) (current : Call) {before after : Progress} (h : after ≠ .idle) :
    completedBy calls current before after = calls := by
  cases after with
  | idle => exact absurd rfl h
  | keyTaken | applying => cases before <;> rfl

theorem reached_busy {start system : System} (hbusy : Relation.ReflTransGen (Busy machine) start system)
    (hend : system.progress = .idle) {s : Shared} (hs : s.system = start) (h : Reached machine toStringPretty s)
    (hne : s.system.progress ≠ .idle) :
    Reached machine toStringPretty { s with system := system, completed := s.current :: s.completed } := by
  induction hbusy using Relation.ReflTransGen.head_induction_on generalizing s with
  | refl =>
      rw [hs] at hne
      exact absurd hend hne
  | @head first next hfirst hrest ih =>
      subst hs
      have hnext := h.step (.runner hfirst.2 fun hidle => absurd hidle hne)
      by_cases hover : next.progress = .idle
      · rw [hover, completedBy_over _ _ hne] at hnext
        obtain rfl | ⟨_, hagain, _⟩ := Relation.ReflTransGen.cases_head hrest
        · exact hnext
        · exact absurd hover hagain.1
      · rw [completedBy_busy _ _ hover] at hnext
        exact ih (s := { s with system := next }) rfl hnext hover

theorem status_is_linearizable_sample : ∃ s a st, Reached sampleMachine (fun _ => some "status") s ∧
    s.answers = [a] ∧ a.query.asked = 0 ∧ a.response = ⟨200, "status"⟩ ∧
    Describes "host" [⟨some sampleConfig, some "key"⟩] st := by
  have hnew : Reached sampleMachine (fun _ => some "status") (.new "") := .new ""
  have hcalled := hnew.step (.call ⟨some sampleConfig, some "key"⟩ rfl)
  have hasked := hcalled.step (.request _ statusPath)
  have hover := reached_busy (call_busy (System.new "") (some sampleConfig) (some "key")) rfl rfl hasked
    (by simp [System.call])
  have hgiven := hover.step (@Step.answer _ _ _ [] [] ⟨statusPath, 0⟩ (fun _ => .new none) rfl fun _ => rfl)
  obtain ⟨_, hall⟩ := status_is_linearizable hgiven
  obtain ⟨_, _, hdescribed, _⟩ := hall _ List.mem_cons_self
  obtain ⟨st, hdescribes, hcarries⟩ := hdescribed rfl
  rcases hcarries with ⟨json, ⟨⟩, hresponse⟩ | ⟨⟨⟩, _⟩
  exact ⟨_, _, st, hgiven, rfl, rfl, hresponse, hdescribes⟩

end Ebbflow.StatusAnswers
