import Ebbflow.EndpointRun
import Ebbflow.Lib.Tally
import Ebbflow.Lib.WatchChannel
import Mathlib.Logic.Relation

namespace Ebbflow.StopSignal

open Lib.Tally Lib.WatchChannel Relation

/-- The clones of a sender share what they send on, and each has a receiver of its
own, which it never receives on. -/
structure SignalSender where
  receiver : Receiver
  deriving DecidableEq, Repr

structure SignalReceiver where
  receiver : Receiver
  deriving DecidableEq, Repr

def SignalSender.newReceiver (sender : SignalSender) : SignalReceiver := ⟨sender.receiver⟩

inductive Turn
  | blocked
  | again (r : SignalReceiver)
  | done (r : SignalReceiver)
  deriving DecidableEq, Repr

namespace SignalReceiver

def turn (r : SignalReceiver) (shared : Shared Bool) : Turn :=
  match shared.recv r.receiver with
  | none => .blocked
  | some (none, receiver) => .done ⟨receiver⟩
  | some (some b, receiver) => if b then .done ⟨receiver⟩ else .again ⟨receiver⟩

/-- `wait` in so many turns at most, with nothing else going on. -/
def wait (shared : Shared Bool) : Nat → SignalReceiver → Option SignalReceiver
  | 0, _ => none
  | turns + 1, r =>
      match r.turn shared with
      | .blocked => none
      | .again r => wait shared turns r
      | .done r => some r

end SignalReceiver

structure Holder where
  receiver : SignalReceiver
  waiting : Bool
  /-- A wait was completed on it, or on one it was cloned from. -/
  completed : Bool
  deriving DecidableEq, Repr

structure System where
  shared : Shared Bool
  sent : Bool
  senders : List SignalSender
  holders : List Holder
  deriving DecidableEq, Repr

namespace System

def new : System :=
  let (shared, receiver) := channel false
  ⟨shared, false, [⟨receiver⟩], []⟩

def sendSignal (s : System) : System := { s with shared := s.shared.broadcast true, sent := true }

/-- The channel closes with the last clone of its sender. -/
def keepSenders (s : System) (senders : List SignalSender) : System :=
  { s with shared := if senders.isEmpty then s.shared.close else s.shared, senders := senders }

def hold (s : System) (holders : List Holder) : System := { s with holders := holders }

def signal (s : System) : EndpointRun.Signal := ⟨s.sent, s.senders.isEmpty⟩

end System

/-- Anybody may act at any moment. A receiver that waits is borrowed, so it is not
cloned, and a wait that is abandoned leaves it as its last turn did. -/
inductive Step : System → System → Prop
  | cloneSender {s : System} {sender : SignalSender} : sender ∈ s.senders →
      Step s { s with senders := s.senders ++ [sender] }
  | dropSender {s : System} {pre post : List SignalSender} {sender : SignalSender} :
      s.senders = pre ++ sender :: post → Step s (s.keepSenders (pre ++ post))
  | sendSignal {s : System} {sender : SignalSender} : sender ∈ s.senders → Step s s.sendSignal
  | newReceiver {s : System} {sender : SignalSender} : sender ∈ s.senders →
      Step s (s.hold (s.holders ++ [⟨sender.newReceiver, false, false⟩]))
  | clone {s : System} {h : Holder} : h ∈ s.holders → h.waiting = false →
      Step s (s.hold (s.holders ++ [h]))
  | start {s : System} {pre post : List Holder} {h : Holder} : s.holders = pre ++ h :: post →
      h.waiting = false → Step s (s.hold (pre ++ { h with waiting := true } :: post))
  | again {s : System} {pre post : List Holder} {h : Holder} {r : SignalReceiver} :
      s.holders = pre ++ h :: post → h.waiting = true → h.receiver.turn s.shared = .again r →
      Step s (s.hold (pre ++ { h with receiver := r } :: post))
  | finish {s : System} {pre post : List Holder} {h : Holder} {r : SignalReceiver} :
      s.holders = pre ++ h :: post → h.waiting = true → h.receiver.turn s.shared = .done r →
      Step s (s.hold (pre ++ ⟨r, false, true⟩ :: post))
  | cancel {s : System} {pre post : List Holder} {h : Holder} : s.holders = pre ++ h :: post →
      h.waiting = true → Step s (s.hold (pre ++ { h with waiting := false } :: post))
  | drop {s : System} {pre post : List Holder} {h : Holder} : s.holders = pre ++ h :: post →
      Step s (s.hold (pre ++ post))

abbrev Steps : System → System → Prop := ReflTransGen Step

variable {s t : System} {pre post holders : List Holder} {h : Holder} {r : SignalReceiver}

/-- It can have seen the first value at most, unless a wait was completed on it. -/
def Early (h : Holder) : Prop := h.completed = false → h.receiver.receiver.seen ≤ 1

structure Inv (s : System) : Prop where
  value : s.shared.value = s.sent
  first : s.sent = false → s.shared.version = 1
  later : s.sent = true → 1 < s.shared.version
  closed : s.shared.closed = s.senders.isEmpty
  senders : ∀ sender ∈ s.senders, sender.receiver.seen ≤ 1
  holders : ∀ h ∈ s.holders, Early h

theorem turn_sent (hs : Inv s) (hsent : s.sent = true) (hr : r.receiver.seen ≤ 1) :
    r.turn s.shared = .done ⟨⟨s.shared.version⟩⟩ := by
  rw [SignalReceiver.turn, recv_unseen (Nat.lt_of_le_of_lt hr (hs.later hsent)), hs.value, hsent]
  rfl

theorem turn_unseen (hs : Inv s) (hsent : s.sent = false) (hr : r.receiver.seen < 1) :
    r.turn s.shared = .again ⟨⟨1⟩⟩ := by
  have hversion := hs.first hsent
  rw [SignalReceiver.turn, recv_unseen (by omega), hs.value, hsent, hversion]
  rfl

theorem turn_seen (hs : Inv s) (hsent : s.sent = false) (hr : r.receiver.seen = 1) :
    r.turn s.shared = if s.senders.isEmpty then .done r else .blocked := by
  rw [SignalReceiver.turn, recv_seen (hr.trans (hs.first hsent).symm), hs.closed]
  cases s.senders.isEmpty <;> rfl

theorem turn_again (hs : Inv s) (hr : r.receiver.seen ≤ 1) {r' : SignalReceiver}
    (hturn : r.turn s.shared = .again r') : s.sent = false ∧ r' = ⟨⟨1⟩⟩ := by
  cases hsent : s.sent with
  | true =>
      rw [turn_sent hs hsent hr] at hturn
      cases hturn
  | false =>
      by_cases hunseen : r.receiver.seen < 1
      · rw [turn_unseen hs hsent hunseen] at hturn
        cases hturn
        exact ⟨rfl, rfl⟩
      · rw [turn_seen hs hsent (by omega)] at hturn
        cases hsenders : s.senders.isEmpty <;> simp [hsenders] at hturn

theorem inv_new : Inv .new where
  value := rfl
  first _ := rfl
  later h := by cases h
  closed := rfl
  senders := by simp [System.new, channel]
  holders := by simp [System.new]

theorem inv_hold (hs : Inv s) (hholders : ∀ h ∈ holders, Early h) : Inv (s.hold holders) :=
  ⟨hs.value, hs.first, hs.later, hs.closed, hs.senders, hholders⟩

theorem inv_replace (hs : Inv s) (hhold : s.holders = pre ++ h :: post) {h' : Holder}
    (hnext : Early h → Early h') : Inv (s.hold (pre ++ h' :: post)) := by
  have hh := hs.holders h (mem_of_split hhold)
  apply inv_hold hs
  exact forall_mem_replace hhold hs.holders (hnext hh)

theorem inv_append (hs : Inv s) (hh : Early h) : Inv (s.hold (s.holders ++ [h])) := by
  apply inv_hold hs
  rw [List.forall_mem_append, List.forall_mem_singleton]
  exact ⟨hs.holders, hh⟩

theorem inv_sendSignal (hs : Inv s) : Inv s.sendSignal := by
  refine ⟨rfl, by simp [System.sendSignal], ?_, hs.closed, hs.senders, hs.holders⟩
  intro _
  apply Nat.lt_succ_of_le
  cases hsent : s.sent with
  | false => exact (hs.first hsent).ge
  | true => exact Nat.le_of_lt (hs.later hsent)

theorem inv_keepSenders {senders : List SignalSender} (hs : Inv s) (hnil : s.senders ≠ [])
    (hkept : ∀ sender ∈ senders, sender.receiver.seen ≤ 1) : Inv (s.keepSenders senders) := by
  have hopen : s.shared.closed = false := by
    rw [hs.closed, List.isEmpty_eq_false_iff]
    exact hnil
  rw [System.keepSenders]
  cases hempty : senders.isEmpty with
  | true =>
      rw [if_pos rfl]
      exact ⟨hs.value, hs.first, hs.later, hempty.symm, hkept, hs.holders⟩
  | false =>
      rw [if_neg Bool.false_ne_true]
      exact ⟨hs.value, hs.first, hs.later, hopen.trans hempty.symm, hkept, hs.holders⟩

theorem inv_step (hs : Inv s) (hstep : Step s t) : Inv t := by
  cases hstep with
  | @cloneSender sender hmem =>
      refine ⟨hs.value, hs.first, hs.later, ?_, ?_, hs.holders⟩
      · rw [hs.closed]
        cases hsenders : s.senders with
        | nil =>
            rw [hsenders] at hmem
            cases hmem
        | cons _ _ => rfl
      · rw [List.forall_mem_append, List.forall_mem_singleton]
        exact ⟨hs.senders, hs.senders sender hmem⟩
  | dropSender hsenders =>
      apply inv_keepSenders hs
      · simp [hsenders]
      · exact forall_mem_remove hsenders hs.senders
  | sendSignal _ => exact inv_sendSignal hs
  | newReceiver hmem => exact inv_append hs fun _ => hs.senders _ hmem
  | clone hmem _ => exact inv_append hs (hs.holders _ hmem)
  | start hhold _ => exact inv_replace hs hhold id
  | again hhold _ hturn =>
      refine inv_replace hs hhold fun hearly hfresh => ?_
      obtain ⟨_, rfl⟩ := turn_again hs (hearly hfresh) hturn
      exact Nat.le_refl 1
  | finish hhold _ _ => exact inv_replace hs hhold fun _ hfalse => by cases hfalse
  | cancel hhold _ => exact inv_replace hs hhold id
  | drop hhold =>
      apply inv_hold hs
      exact forall_mem_remove hhold hs.holders

theorem told_step (hstep : Step s t) (htold : s.signal.told = true) : t.signal.told = true := by
  have hempty (hsenders : s.senders ≠ []) : s.sent = true := by
    simpa [System.signal, EndpointRun.Signal.told, hsenders] using htold
  cases hstep with
  | cloneSender hmem => simp [System.signal, EndpointRun.Signal.told, hempty (List.ne_nil_of_mem hmem)]
  | dropSender hsenders =>
      simp [System.signal, System.keepSenders, EndpointRun.Signal.told, hempty (by simp [hsenders])]
  | sendSignal _ => rfl
  | newReceiver | clone | start | again | finish | cancel | drop => exact htold

end Ebbflow.StopSignal
