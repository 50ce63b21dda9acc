import Mathlib.Logic.Basic

namespace Ebbflow.Lib.WatchChannel

structure Shared (α : Type) where
  value : α
  version : Nat
  closed : Bool
  deriving DecidableEq, Repr

/-- The version that was received last. A clone of a receiver has seen as much. -/
structure Receiver where
  seen : Nat
  deriving DecidableEq, Repr

variable {α : Type}

def channel (init : α) : Shared α × Receiver := (⟨init, 1, false⟩, ⟨0⟩)

namespace Shared

def broadcast (s : Shared α) (value : α) : Shared α := { s with value := value, version := s.version + 1 }

def close (s : Shared α) : Shared α := { s with closed := true }

/-- What is received, and the receiver after that; `none` blocks. -/
def recv (s : Shared α) (r : Receiver) : Option (Option α × Receiver) :=
  if r.seen ≠ s.version then some (some s.value, ⟨s.version⟩)
  else if s.closed then some (none, r)
  else none

end Shared

variable {s : Shared α} {r : Receiver}

theorem recv_unseen (h : r.seen < s.version) : s.recv r = some (some s.value, ⟨s.version⟩) :=
  if_pos (Nat.ne_of_lt h)

theorem recv_seen (h : r.seen = s.version) : s.recv r = if s.closed then some (none, r) else none := by
  apply if_neg
  rw [Ne, not_not]
  exact h

end Ebbflow.Lib.WatchChannel
