import Ebbflow.HandshakeFlush
import Ebbflow.Lib.Duplex

namespace Ebbflow.MockEbb

open Lib.BigEndian Lib.Wire Lib.Streams Lib.Duplex Messaging Messaging.Message AwaitMessage CopyBytes
open HandshakeFlush

inductive Panic
  | Io (e : IoError)
  | Parse (e : MessageError)
  | Unexpected (m : Message)
  | Encode (e : MessageError)
  deriving DecidableEq, Repr

/-- The exchange in the accept loop, and the one in `handleconn`. -/
inductive Exchange
  | hello
  | traffic
  deriving DecidableEq, Repr

namespace Exchange

def sends : Exchange → Message
  | hello => .HelloResponseV0 ⟨none⟩
  | traffic => .StartTrafficV0

def expects : Exchange → Message → Bool
  | hello, .HelloV0 _ => true
  | traffic, .StartTrafficResponseV0 _ => true
  | _, _ => false

end Exchange

/-- Where the mock is with one tested client. `pooled` clients are in `tested_clients`. -/
inductive Serving
  | reading (x : Exchange) (reader : Awaiting)
  | writing (x : Exchange) (rest : Bytes)
  | flushing (x : Exchange)
  | pooled
  | copying (toCustomer fromCustomer : Copy)
  | failed (e : IoError)
  | panicked (p : Panic)

/-- A read returned `chunk`. The mock puts no limit on the length. -/
def receive (reader : Awaiting) (chunk : Bytes) : Awaiting ⊕ Bytes :=
  match reader with
  | .lenbuf got =>
      if (got ++ chunk).length < 4 then .inl (.lenbuf (got ++ chunk))
      else if beNat (got ++ chunk) = 0 then .inr []
      else .inl (.msgbuf (beNat (got ++ chunk)) [])
  | .msgbuf len got =>
      if (got ++ chunk).length < len then .inl (.msgbuf len (got ++ chunk)) else .inr (got ++ chunk)

namespace Serving

def ioFailure : Exchange → IoError → Serving
  | .hello, e => panicked (.Io e)
  | .traffic, e => failed e

def say (cbor : SerdeCbor) (x : Exchange) : Serving :=
  match x.sends.toWireMessage cbor with
  | .ok msgvec => writing x msgvec
  | .error e => panicked (.Encode e)

/-- The answer to a hello is written at once, the one to traffic starts the copying. -/
def onExpected (cbor : SerdeCbor) : Exchange → Serving
  | .hello => say cbor .hello
  | .traffic => copying .reading .reading

def onMessage (cbor : SerdeCbor) (x : Exchange) : Except MessageError Message → Serving
  | .ok m => if x.expects m then onExpected cbor x else panicked (.Unexpected m)
  | .error e => panicked (.Parse e)

def afterReceive (cbor : SerdeCbor) (x : Exchange) : Awaiting ⊕ Bytes → Serving
  | .inl reader => reading x reader
  | .inr msgbuf => onMessage cbor x (fromWireWithoutTheLengthPrefix cbor msgbuf)

def afterFlush : Exchange → Serving
  | .hello => pooled
  | .traffic => reading .traffic .start

end Serving

open Serving

structure Served where
  pc : Serving
  ebb : Stream
  customer : Option Stream

def Served.accepted (sent : Bytes) : Served := ⟨.reading .hello .start, .opened sent, none⟩

/-- The two copying tasks run on their own; nothing stops one when the other ends. -/
inductive Step (cbor : SerdeCbor) : Served → Served → Prop
  | read {s : Served} {x : Exchange} {reader : Awaiting} {chunk : Bytes} : s.pc = .reading x reader →
      s.ebb.Readable reader.missing chunk →
      Step cbor s { s with pc := afterReceive cbor x (receive reader chunk), ebb := s.ebb.read chunk }
  | readEof {s : Served} {x : Exchange} {reader : Awaiting} : s.pc = .reading x reader →
      s.ebb.unread = [] → Step cbor s { s with pc := ioFailure x .UnexpectedEof }
  | readFailed {s : Served} {x : Exchange} {reader : Awaiting} (e : IoError) : s.pc = .reading x reader →
      Step cbor s { s with pc := ioFailure x e }
  | wroteSome {s : Served} {x : Exchange} {bs left : Bytes} : s.pc = .writing x (bs ++ left) →
      bs ≠ [] → left ≠ [] → Step cbor s { s with pc := .writing x left, ebb := s.ebb.write bs }
  | wroteAll {s : Served} {x : Exchange} {rest : Bytes} : s.pc = .writing x rest →
      Step cbor s { s with pc := .flushing x, ebb := s.ebb.write rest }
  | writeFailed {s : Served} {x : Exchange} {rest : Bytes} (e : IoError) : s.pc = .writing x rest →
      Step cbor s { s with pc := ioFailure x e }
  | flushed {s : Served} {x : Exchange} : s.pc = .flushing x → s.ebb.held = [] →
      Step cbor s { s with pc := afterFlush x }
  | flushFailed {s : Served} {x : Exchange} (e : IoError) : s.pc = .flushing x →
      Step cbor s { s with pc := ioFailure x e }
  -- a customer connected, and `handleconn` popped this client for it
  | popped {s : Served} (sent : Bytes) : s.pc = .pooled →
      Step cbor s { s with pc := say cbor .traffic, customer := some (.opened sent) }
  | toCustomer {s : Served} {c c' d : Copy} {customer ebb' customer' : Stream} : s.pc = .copying c d →
      s.customer = some customer → Copy.Step c s.ebb customer c' ebb' customer' →
      Step cbor s ⟨.copying c' d, ebb', some customer'⟩
  | fromCustomer {s : Served} {c d d' : Copy} {customer ebb' customer' : Stream} : s.pc = .copying c d →
      s.customer = some customer → Copy.Step d customer s.ebb d' customer' ebb' →
      Step cbor s ⟨.copying c d', ebb', some customer'⟩
  | pushEbb (s : Served) (n : Nat) : Step cbor s { s with ebb := s.ebb.push n }
  | pushCustomer (s : Served) (n : Nat) : Step cbor s { s with customer := s.customer.map (·.push n) }

/-- The stream is dropped with the task that owned it, or with the second of the
two that share it. -/
def closed (s : Served) : Prop :=
  match s.pc with
  | .failed _ | .panicked _ => True
  | .copying c d => c.isFinished ∧ d.isFinished
  | _ => False

theorem push_delivered (s : Stream) (n : Nat) : s.delivered <+: (s.push n).delivered :=
  List.prefix_append _ _

theorem step_sent {cbor : SerdeCbor} {s s' : Served} (h : Step cbor s s') : s'.ebb.sent = s.ebb.sent := by
  cases h with
  | toCustomer _ _ hcopy => exact (CopyBytes.step_sent hcopy).1
  | fromCustomer _ _ hcopy => exact (CopyBytes.step_sent hcopy).2
  | _ => rfl

theorem step_delivered {cbor : SerdeCbor} {s s' : Served} (h : Step cbor s s') :
    s.ebb.delivered <+: s'.ebb.delivered := by
  cases h with
  | toCustomer _ _ hcopy => exact (copy_delivered hcopy).1 ▸ List.prefix_rfl
  | fromCustomer _ _ hcopy => exact (copy_delivered hcopy).2 ▸ List.prefix_rfl
  | pushEbb n => exact push_delivered _ _
  | _ => exact List.prefix_rfl

def mock (cbor : SerdeCbor) : Party Served where
  stream s := s.ebb
  more s bs := { s with ebb := extend s.ebb bs }
  start := .accepted
  Step := Step cbor
  closed := closed
  stream_start _ := rfl
  stream_more _ _ := rfl
  start_more _ _ := rfl
  more_nil s := by simp
  more_more s bs cs := by simp
  sent_step := step_sent
  delivered_step := step_delivered

def awaits (s : Served) : Bool :=
  match s.pc with
  | .reading _ _ => true
  | .copying c _ => c.isReading
  | _ => false

theorem fromCustomer_open {cbor : SerdeCbor} {s : Served} {c d d' : Copy} {customer ebb' customer' : Stream}
    (hpc : s.pc = .copying c d) (hk : s.customer = some customer)
    (hcopy : Copy.Step d customer s.ebb d' customer' ebb') :
    (mock cbor).Open s ⟨.copying c d', ebb', some customer'⟩ :=
  fun bs => .fromCustomer hpc hk (writer_open hcopy bs)

theorem mock_open {cbor : SerdeCbor} {s s' : Served} (hstep : Step cbor s s')
    (h : awaits s = true → s.ebb.unread ≠ []) : (mock cbor).Open s s' := by
  intro bs
  cases hstep with
  | @read x reader chunk hpc hread =>
      have hstep := @Step.read cbor { s with ebb := extend s.ebb bs } x reader chunk hpc
        (readable_extend hread bs)
      rw [read_extend hread] at hstep
      exact hstep
  | readEof hpc hnil => exact absurd hnil (h (by rw [awaits, hpc]))
  | readFailed e hpc => exact .readFailed e hpc
  | wroteSome hpc hbs hleft => exact .wroteSome hpc hbs hleft
  | wroteAll hpc => exact .wroteAll hpc
  | writeFailed e hpc => exact .writeFailed e hpc
  | flushed hpc hheld => exact .flushed hpc hheld
  | flushFailed e hpc => exact .flushFailed e hpc
  | popped sent hpc => exact .popped sent hpc
  | @toCustomer c _ _ _ _ _ hpc hk hcopy =>
      have hreading (hc : c.isReading = true) : s.ebb.unread ≠ [] := h (by simp [awaits, hpc, hc])
      exact .toCustomer hpc hk (reader_open hcopy hreading bs)
  | fromCustomer hpc hk hcopy => exact fromCustomer_open hpc hk hcopy bs
  | pushEbb n => exact .pushEbb _ n
  | pushCustomer n => exact .pushCustomer _ n

end Ebbflow.MockEbb
