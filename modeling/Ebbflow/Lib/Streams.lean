import Ebbflow.Lib.Wire

namespace Ebbflow.Lib.Streams

open Wire

/-- One end of a byte stream: what the other end sends and what of it is unread,
and what was written, of which the buffer may hold back a tail until a flush. -/
structure Stream where
  sent : Bytes
  unread : Bytes
  delivered : Bytes
  held : Bytes
  deriving DecidableEq, Repr

namespace Stream

def opened (sent : Bytes) : Stream := ⟨sent, sent, [], []⟩

def written (s : Stream) : Bytes := s.delivered ++ s.held

def Readable (s : Stream) (n : Nat) (chunk : Bytes) : Prop :=
  chunk ≠ [] ∧ chunk.length ≤ n ∧ chunk <+: s.unread

instance (s : Stream) (n : Nat) (chunk : Bytes) : Decidable (s.Readable n chunk) :=
  inferInstanceAs (Decidable (_ ∧ _ ∧ _))

def read (s : Stream) (chunk : Bytes) : Stream := { s with unread := s.unread.drop chunk.length }

def write (s : Stream) (bs : Bytes) : Stream := { s with held := s.held ++ bs }

def push (s : Stream) (n : Nat) : Stream :=
  { s with delivered := s.delivered ++ s.held.take n, held := s.held.drop n }

variable {s : Stream} {n : Nat} {bs chunk : Bytes}

@[simp] theorem write_written : (s.write bs).written = s.written ++ bs :=
  (List.append_assoc s.delivered s.held bs).symm

@[simp] theorem push_unread : (s.push n).unread = s.unread := rfl

@[simp] theorem push_written : (s.push n).written = s.written := by
  simp [written, push]

theorem push_held (h : s.held = []) : (s.push n).held = [] := by
  simp [push, h]

theorem unread_read (h : s.Readable n chunk) : s.unread = chunk ++ (s.read chunk).unread := by
  obtain ⟨_, _, rest, hrest⟩ := h
  simp [read, ← hrest]

theorem delivered_le (s : Stream) : s.delivered <+: s.written := List.prefix_append _ _

end Stream

end Ebbflow.Lib.Streams
