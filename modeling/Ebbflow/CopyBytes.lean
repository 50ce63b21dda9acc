import Ebbflow.AwaitMessage
import Ebbflow.Lib.Duplex

namespace Ebbflow.CopyBytes

open Lib.Wire Lib.Streams Lib.Duplex AwaitMessage

def bufSize : Nat := 10 * 1024

inductive Copy
  | reading
  | writing (rest : Bytes)
  | flushing
  | finished (result : Except ConnectionError Unit)

namespace Copy

def fail (e : IoError) : Copy := finished (.error (.Io e))

def isFinished : Copy → Bool
  | finished _ => true
  | _ => false

def isReading : Copy → Bool
  | reading => true
  | _ => false

inductive Step : Copy → Stream → Stream → Copy → Stream → Stream → Prop
  | readSome (r w chunk) : r.Readable bufSize chunk →
      Step reading r w (writing chunk) (r.read chunk) w
  | readEof {r w : Stream} : r.unread = [] → Step reading r w (finished (.ok ())) r w
  | readFailed (r w e) : Step reading r w (fail e) r w
  | wroteSome (r w) {bs left : Bytes} : bs ≠ [] → left ≠ [] →
      Step (writing (bs ++ left)) r w (writing left) r (w.write bs)
  | wroteAll (r w rest) : Step (writing rest) r w flushing r (w.write rest)
  | writeFailed (r w rest e) : Step (writing rest) r w (fail e) r w
  | flushed {r w : Stream} : w.held = [] → Step flushing r w reading r w
  | flushFailed (r w e) : Step flushing r w (fail e) r w

end Copy

open Copy

/-- What is settled about the bytes copied and those read and not yet copied. -/
def Settled : Copy → (copied lost : Bytes) → Stream → Stream → Prop
  | reading, copied, lost, _, w => lost = [] ∧ (copied = [] ∨ w.held = [])
  | writing rest, _, lost, _, _ => lost = rest
  | flushing, _, lost, _, _ => lost = []
  | finished (.ok _), copied, lost, r, w =>
      lost = [] ∧ r.unread = [] ∧ (copied = [] ∨ w.held = [])
  | finished (.error _), _, _, _, _ => True

/-- `w` was `base` and received a prefix of `source`, whose unread rest is still in `r`. -/
def Relays (source base : Bytes) (c : Copy) (r w : Stream) : Prop :=
  ∃ copied lost, source = copied ++ lost ++ r.unread ∧ w.written = base ++ copied ∧
    Settled c copied lost r w

variable {source base : Bytes} {c c' : Copy} {r r' w w' : Stream}

theorem relays_start (hr : r.unread = source) (hw : w.written = base) :
    Relays source base reading r w :=
  ⟨[], [], hr.symm, by rw [hw, List.append_nil], rfl, Or.inl rfl⟩

theorem step_sent (h : Step c r w c' r' w') : r'.sent = r.sent ∧ w'.sent = w.sent := by
  cases h <;> exact ⟨rfl, rfl⟩

theorem step_other (h : Step c r w c' r' w') :
    r'.written = r.written ∧ r'.held = r.held ∧ w'.unread = w.unread := by
  cases h <;> exact ⟨rfl, rfl, rfl⟩

theorem reader_open (hstep : Copy.Step c r w c' r' w')
    (h : isReading c = true → r.unread ≠ []) (bs : Bytes) :
    Copy.Step c (extend r bs) w c' (extend r' bs) w' := by
  cases hstep with
  | readSome _ _ chunk hread =>
      rw [← read_extend hread]
      exact .readSome _ _ chunk (readable_extend hread bs)
  | readEof hnil => exact absurd hnil (h rfl)
  | readFailed _ _ e => exact .readFailed _ _ e
  | wroteSome _ _ hbs hleft => exact .wroteSome _ _ hbs hleft
  | wroteAll _ _ rest => exact .wroteAll _ _ rest
  | writeFailed _ _ rest e => exact .writeFailed _ _ rest e
  | flushed hheld => exact .flushed hheld
  | flushFailed _ _ e => exact .flushFailed _ _ e

theorem writer_open (hstep : Copy.Step c r w c' r' w') (bs : Bytes) :
    Copy.Step c r (extend w bs) c' r' (extend w' bs) := by
  cases hstep with
  | readSome _ _ chunk hread => exact .readSome _ _ chunk hread
  | readEof hnil => exact .readEof hnil
  | readFailed _ _ e => exact .readFailed _ _ e
  | wroteSome _ _ hbs hleft => exact .wroteSome _ _ hbs hleft
  | wroteAll _ _ rest => exact .wroteAll _ _ rest
  | writeFailed _ _ rest e => exact .writeFailed _ _ rest e
  | flushed hheld => exact .flushed hheld
  | flushFailed _ _ e => exact .flushFailed _ _ e

theorem relays_congr (hr : r'.unread = r.unread) (hw : w'.written = w.written)
    (hheld : w.held = [] → w'.held = []) (h : Relays source base c r w) :
    Relays source base c r' w' := by
  obtain ⟨copied, lost, hsource, hwritten, hsettled⟩ := h
  refine ⟨copied, lost, by rw [hr, hsource], by rw [hw, hwritten], ?_⟩
  cases c with
  | reading => exact ⟨hsettled.1, hsettled.2.imp_right hheld⟩
  | writing rest => exact hsettled
  | flushing => exact hsettled
  | finished result =>
      cases result with
      | error => trivial
      | ok =>
          obtain ⟨hlost, hunread, hflushed⟩ := hsettled
          exact ⟨hlost, hr.trans hunread, hflushed.imp_right hheld⟩

theorem relays_step (h : Relays source base c r w) (hstep : Step c r w c' r' w') :
    Relays source base c' r' w' := by
  obtain ⟨copied, lost, hsource, hwritten, hsettled⟩ := h
  cases hstep with
  | readSome _ _ chunk hread =>
      obtain ⟨rfl, _⟩ := hsettled
      rw [Stream.unread_read hread, List.append_nil, ← List.append_assoc] at hsource
      exact ⟨copied, chunk, hsource, hwritten, rfl⟩
  | readEof hnil =>
      exact ⟨copied, lost, hsource, hwritten, hsettled.1, hnil, hsettled.2⟩
  | readFailed | writeFailed | flushFailed => exact ⟨copied, lost, hsource, hwritten, trivial⟩
  | @wroteSome _ _ bs left =>
      obtain rfl := hsettled
      refine ⟨copied ++ bs, left, by simpa only [List.append_assoc] using hsource, ?_, rfl⟩
      rw [Stream.write_written, hwritten, List.append_assoc]
  | wroteAll =>
      obtain rfl := hsettled
      refine ⟨copied ++ lost, [], by rw [List.append_nil]; exact hsource, ?_, rfl⟩
      rw [Stream.write_written, hwritten, List.append_assoc]
  | flushed hheld => exact ⟨copied, lost, hsource, hwritten, hsettled, Or.inr hheld⟩

theorem Relays.copied (h : Relays source base c r w) :
    ∃ copied, copied <+: source ∧ w.written = base ++ copied := by
  obtain ⟨copied, lost, hsource, hwritten, -⟩ := h
  exact ⟨copied, ⟨lost ++ r.unread, by rw [hsource, List.append_assoc]⟩, hwritten⟩

/-- A loop that returned `Ok` has read its source to the end, and written and flushed it. -/
theorem Relays.finished (h : Relays source base (finished (.ok ())) r w) :
    r.unread = [] ∧ w.written = base ++ source ∧ (source = [] ∨ w.held = []) := by
  obtain ⟨copied, lost, hsource, hwritten, rfl, hunread, hflushed⟩ := h
  rw [hunread, List.append_nil, List.append_nil] at hsource
  subst hsource
  exact ⟨hunread, hwritten, hflushed⟩

end Ebbflow.CopyBytes
