import Ebbflow.Lib.Streams
import Mathlib.Logic.Relation

namespace Ebbflow.Lib.Duplex

open Wire Streams Relation

variable {σ τ : Type}

def extend (s : Stream) (bs : Bytes) : Stream :=
  { s with sent := s.sent ++ bs, unread := s.unread ++ bs }

@[simp] theorem extend_nil (s : Stream) : extend s [] = s := by simp [extend]

@[simp] theorem extend_extend (s : Stream) (bs cs : Bytes) :
    extend (extend s bs) cs = extend s (bs ++ cs) := by
  simp [extend]

theorem readable_extend {s : Stream} {n : Nat} {chunk : Bytes} (h : s.Readable n chunk) (bs : Bytes) :
    (extend s bs).Readable n chunk :=
  ⟨h.1, h.2.1, h.2.2.trans (List.prefix_append _ _)⟩

theorem read_extend {s : Stream} {n : Nat} {chunk : Bytes} (h : s.Readable n chunk) (bs : Bytes) :
    (extend s bs).read chunk = extend (s.read chunk) bs := by
  simp [Stream.read, extend, List.drop_append_of_le_length h.2.2.length_le]

/-- A program at one end of a byte stream. Its steps take the script it was
started with for all that the other end ever sends. -/
structure Party (σ : Type) where
  stream : σ → Stream
  more : σ → Bytes → σ
  start : Bytes → σ
  Step : σ → σ → Prop
  closed : σ → Prop
  stream_start : ∀ script, stream (start script) = .opened script
  stream_more : ∀ s bs, stream (more s bs) = extend (stream s) bs
  start_more : ∀ script bs, more (start script) bs = start (script ++ bs)
  more_nil : ∀ s, more s [] = s
  more_more : ∀ s bs cs, more (more s bs) cs = more s (bs ++ cs)
  sent_step : ∀ {s s'}, Step s s' → (stream s').sent = (stream s).sent
  delivered_step : ∀ {s s'}, Step s s' → (stream s).delivered <+: (stream s').delivered

namespace Party

/-- A step that did not depend on the script being over. -/
def Open (A : Party σ) (s s' : σ) : Prop := ∀ bs, A.Step (A.more s bs) (A.more s' bs)

abbrev Reaches (A : Party σ) (script : Bytes) : σ → Prop := ReflTransGen A.Step (A.start script)

theorem Reaches.sent {A : Party σ} {script : Bytes} {s : σ} (h : A.Reaches script s) :
    (A.stream s).sent = script := by
  induction h with
  | refl =>
      rw [A.stream_start]
      rfl
  | tail _ hstep ih => exact (A.sent_step hstep).trans ih

end Party

/-- Two programs at the two ends of one connection. Either end may have been
told that nothing more will come. -/
structure Joint (σ τ : Type) where
  left : σ
  right : τ
  leftEnded : Bool
  rightEnded : Bool

namespace Joint

def swap (j : Joint σ τ) : Joint τ σ := ⟨j.right, j.left, j.rightEnded, j.leftEnded⟩

end Joint

/-- Either program takes a step of its own, or the connection takes along some of
what was delivered to it, or the end of a stream that was let go. -/
inductive Step (A : Party σ) (B : Party τ) : Joint σ τ → Joint σ τ → Prop
  | left {j : Joint σ τ} {s : σ} : A.Step j.left s → A.Open j.left s ∨ j.leftEnded = true →
      Step A B j { j with left := s }
  | right {j : Joint σ τ} {t : τ} : B.Step j.right t → B.Open j.right t ∨ j.rightEnded = true →
      Step A B j { j with right := t }
  | toLeft {j : Joint σ τ} (bs : Bytes) : j.leftEnded = false →
      (A.stream j.left).sent ++ bs <+: (B.stream j.right).delivered →
      Step A B j { j with left := A.more j.left bs }
  | toRight {j : Joint σ τ} (bs : Bytes) : j.rightEnded = false →
      (B.stream j.right).sent ++ bs <+: (A.stream j.left).delivered →
      Step A B j { j with right := B.more j.right bs }
  | endLeft {j : Joint σ τ} : B.closed j.right →
      (A.stream j.left).sent = (B.stream j.right).delivered → Step A B j { j with leftEnded := true }
  | endRight {j : Joint σ τ} : A.closed j.left →
      (B.stream j.right).sent = (A.stream j.left).delivered → Step A B j { j with rightEnded := true }

abbrev Reaches (A : Party σ) (B : Party τ) : Joint σ τ → Prop :=
  ReflTransGen (Step A B) ⟨A.start [], B.start [], false, false⟩

variable {A : Party σ} {B : Party τ} {j j' : Joint σ τ}

theorem Step.swap (h : Step A B j j') : Step B A j.swap j'.swap := by
  cases h with
  | left hstep hopen => exact .right hstep hopen
  | right hstep hopen => exact .left hstep hopen
  | toLeft bs hended hsent => exact .toRight bs hended hsent
  | toRight bs hended hsent => exact .toLeft bs hended hsent
  | endLeft hclosed hsent => exact .endRight hclosed hsent
  | endRight hclosed hsent => exact .endLeft hclosed hsent

theorem Reaches.swap (h : Reaches A B j) : Reaches B A j.swap := by
  induction h with
  | refl => exact .refl
  | tail _ hstep ih => exact ih.tail hstep.swap

/-- Whatever the other program does, the one on the left goes through a run
against the script that has arrived, and against each that it may still become. -/
theorem Reaches.left_more (h : Reaches A B j) (bs : Bytes) (hbs : j.leftEnded = true → bs = []) :
    A.Reaches ((A.stream j.left).sent ++ bs) (A.more j.left bs) := by
  induction h generalizing bs with
  | refl =>
      rw [A.stream_start, A.start_more]
      exact .refl
  | tail _ hstep ih =>
      cases hstep with
      | right => exact ih bs hbs
      | toRight => exact ih bs hbs
      | endRight => exact ih bs hbs
      | endLeft =>
          obtain rfl := hbs rfl
          exact ih [] fun _ => rfl
      | toLeft cs hended _ =>
          have hrun := ih (cs ++ bs) (by simp [hended])
          rw [← List.append_assoc, ← A.more_more] at hrun
          rw [A.stream_more]
          exact hrun
      | left hown hopen =>
          rw [A.sent_step hown]
          refine (ih bs hbs).tail ?_
          rcases hopen with hopen | hended
          · exact hopen bs
          · obtain rfl := hbs hended
            rw [A.more_nil, A.more_nil]
            exact hown

theorem Reaches.left (h : Reaches A B j) : A.Reaches (A.stream j.left).sent j.left := by
  have hrun := h.left_more [] fun _ => rfl
  rw [List.append_nil, A.more_nil] at hrun
  exact hrun

theorem Reaches.right (h : Reaches A B j) : B.Reaches (B.stream j.right).sent j.right := h.swap.left

theorem Reaches.open_left {s : σ} (h : Reaches A B j) (hopen : A.Open j.left s) :
    Reaches A B { j with left := s } := by
  have hstep := hopen []
  rw [A.more_nil, A.more_nil] at hstep
  exact h.tail (.left hstep (.inl hopen))

theorem Reaches.open_right {t : τ} (h : Reaches A B j) (hopen : B.Open j.right t) :
    Reaches A B { j with right := t } := (h.swap.open_left hopen).swap

theorem Reaches.flow_left (h : Reaches A B j) :
    (A.stream j.left).sent <+: (B.stream j.right).delivered := by
  induction h with
  | refl =>
      rw [A.stream_start]
      exact List.nil_prefix
  | tail _ hstep ih =>
      cases hstep with
      | left hown _ =>
          rw [A.sent_step hown]
          exact ih
      | right hown _ => exact ih.trans (B.delivered_step hown)
      | toLeft cs _ hsent =>
          rw [A.stream_more]
          exact hsent
      | toRight cs _ _ =>
          rw [B.stream_more]
          exact ih
      | endLeft | endRight => exact ih

theorem Reaches.flow_right (h : Reaches A B j) :
    (B.stream j.right).sent <+: (A.stream j.left).delivered := h.swap.flow_left

end Ebbflow.Lib.Duplex
