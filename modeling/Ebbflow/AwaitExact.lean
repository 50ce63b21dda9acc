import Ebbflow.AwaitMessage
import Ebbflow.Decoding

namespace Ebbflow.AwaitExact

open Lib.BigEndian Lib.Wire Messaging Messaging.Message AwaitMessage Decoding MessagingCbor

/-- `&buf[start..stop]`, which panics out of bounds. -/
def slice (buf : Bytes) (start stop : Nat) : Option Bytes :=
  if start ≤ stop ∧ stop ≤ buf.length then some ((buf.take stop).drop start) else none

def copyFromSlice (dst src : Bytes) : Option Bytes := if dst.length = src.length then some src else none

/-- `from_wire_without_the_length_prefix` with its buffers; `none` is a panic. -/
def fromWireChecked (cbor : SerdeCbor) (buf : Bytes) : Option (Except MessageError Message) :=
  if buf.length < 4 then some (.error .Parse)
  else do
    let messagebuf ← copyFromSlice (List.replicate 4 0) (← slice buf 0 4)
    let payload ← slice buf 4 buf.length
    return fromPayload cbor payload (beNat messagebuf)

/-- A stream, and the sizes of the vectors that were allocated to read from it. -/
structure Reader where
  unread : Bytes
  allocated : List Nat

def readInto (buf : Bytes) (r : Reader) : Option (Except IoError Bytes × Reader) := do
  let target ← slice buf 0 buf.length
  let (result, unread) := readExact target.length r.unread
  return (result, { r with unread := unread })

def awaitMessageChecked (cbor : SerdeCbor) (r : Reader) : Option (Except ConnectionError Message × Reader) := do
  match ← readInto (List.replicate 4 0) r with
  | (.error e, r) => return (.error (.Io e), r)
  | (.ok lenbuf, r) =>
      let len := beNat lenbuf
      if len > messageLimit then return (.error tooBig, r)
      else
        match ← readInto (List.replicate len 0) { r with allocated := len :: r.allocated } with
        | (.error e, r) => return (.error (.Io e), r)
        | (.ok msgbuf, r) => return ((← fromWireChecked cbor msgbuf).mapError .Messaging, r)

variable {cbor : SerdeCbor} {buf input : Bytes} {n : Nat} {m : Message} {r : Reader}

theorem slice_ok {start stop : Nat} (hstart : start ≤ stop) (hstop : stop ≤ buf.length) :
    slice buf start stop = some ((buf.take stop).drop start) := if_pos ⟨hstart, hstop⟩

theorem fromWireChecked_eq (cbor : SerdeCbor) (buf : Bytes) :
    fromWireChecked cbor buf = some (fromWireWithoutTheLengthPrefix cbor buf) := by
  rw [fromWireChecked, fromWireWithoutTheLengthPrefix]
  by_cases hshort : buf.length < 4
  · rw [if_pos hshort, if_pos hshort]
  · have hlen : 4 ≤ buf.length := Nat.not_lt.mp hshort
    have hcopy : copyFromSlice (List.replicate 4 0) (buf.take 4) = some (buf.take 4) := by
      apply if_pos
      rw [List.length_replicate, List.length_take_of_le hlen]
    rw [if_neg hshort, if_neg hshort, slice_ok (Nat.zero_le 4) hlen, slice_ok hlen le_rfl, List.drop_zero,
      List.take_length]
    simp only [Option.bind_eq_bind, Option.bind_some, hcopy]
    rfl

theorem readInto_eq (n : Nat) (r : Reader) :
    readInto (List.replicate n 0) r =
      some ((readExact n r.unread).1, { r with unread := (readExact n r.unread).2 }) := by
  rw [readInto, slice_ok (Nat.zero_le _) le_rfl]
  simp

def Announces (input : Bytes) (n : Nat) : Prop := 4 ≤ input.length ∧ beNat (input.take 4) = n

def bodyOf (input : Bytes) (n : Nat) : Bytes := (input.drop 4).take n

def bodies (input : Bytes) : List Nat :=
  if 4 ≤ input.length ∧ beNat (input.take 4) ≤ messageLimit then [beNat (input.take 4)] else []

/-- No index is out of bounds, whatever is read. -/
theorem awaitMessageChecked_eq (cbor : SerdeCbor) (r : Reader) :
    awaitMessageChecked cbor r =
      some ((awaitMessage cbor r.unread).1,
        ⟨(awaitMessage cbor r.unread).2, bodies r.unread ++ r.allocated⟩) := by
  rw [awaitMessageChecked, readInto_eq, awaitMessage]
  by_cases hlen : 4 ≤ r.unread.length
  · have hread : readExact 4 r.unread = (.ok (r.unread.take 4), r.unread.drop 4) := if_pos hlen
    simp only [hread, Option.bind_eq_bind, Option.bind_some]
    by_cases hbig : beNat (r.unread.take 4) > messageLimit
    · rw [if_pos hbig, if_pos hbig, bodies, if_neg (by omega)]
      rfl
    · rw [if_neg hbig, if_neg hbig, bodies, if_pos ⟨hlen, Nat.not_lt.mp hbig⟩, readInto_eq, awaitBody]
      dsimp only [Option.bind_some]
      cases hbody : readExact (beNat (r.unread.take 4)) (r.unread.drop 4) with
      | mk result rest =>
          cases result with
          | error e => rfl
          | ok msgbuf =>
              simp only [fromWireChecked_eq, Option.bind_some]
              rfl
  · have hread : readExact 4 r.unread = (.error .UnexpectedEof, []) := if_neg hlen
    simp only [hread, Option.bind_eq_bind, Option.bind_some]
    rw [bodies, if_neg (fun h => hlen h.1)]
    rfl

theorem awaitMessage_cut (h : input.length < 4) :
    awaitMessage cbor input = (.error (.Io .UnexpectedEof), []) := by
  rw [awaitMessage, readExact, if_neg (Nat.not_le.mpr h)]

theorem awaitMessage_announced (h : Announces input n) :
    awaitMessage cbor input =
      if n > messageLimit then (.error tooBig, input.drop 4) else awaitBody cbor n (input.drop 4) := by
  obtain ⟨hlen, rfl⟩ := h
  rw [awaitMessage, readExact, if_pos hlen]

theorem awaitMessage_whole (h : Announces input n) (hn : n ≤ messageLimit)
    (havailable : 4 + n ≤ input.length) :
    awaitMessage cbor input = (decodeBody cbor (bodyOf input n), input.drop (4 + n)) := by
  have hlen : n ≤ (input.drop 4).length := by
    rw [List.length_drop]
    omega
  rw [awaitMessage_announced h, if_neg (Nat.not_lt.mpr hn), awaitBody, readExact, if_pos hlen]
  simp [bodyOf, List.drop_drop]

theorem awaitMessage_short (h : Announces input n) (hn : n ≤ messageLimit) (hcut : input.length < 4 + n) :
    awaitMessage cbor input = (.error (.Io .UnexpectedEof), []) := by
  have hcomplete : 4 ≤ input.length := h.1
  have hlen : ¬ n ≤ (input.drop 4).length := by
    rw [List.length_drop]
    omega
  rw [awaitMessage_announced h, if_neg (Nat.not_lt.mpr hn), awaitBody, readExact, if_neg hlen]

structure Receives (cbor : SerdeCbor) (input : Bytes) (m : Message) (n : Nat) : Prop where
  announced : Announces input n
  least : 4 ≤ n
  most : n ≤ 200 * 1024
  available : 4 + n ≤ input.length
  known : beNat ((bodyOf input n).take 4) ∈ List.range' 1 8
  id : beNat ((bodyOf input n).take 4) = m.messageId.toNat
  payload : Carries cbor m ((bodyOf input n).drop 4)

theorem messageId_known (m : Message) : m.messageId.toNat ∈ List.range' 1 8 := by
  cases m <;> simp [messageId, List.range']

theorem bodyOf_length (h : 4 + n ≤ input.length) : (bodyOf input n).length = n := by
  rw [bodyOf, List.length_take, List.length_drop]
  omega

theorem decodeBody_iff : decodeBody cbor buf = .ok m ↔ fromWireWithoutTheLengthPrefix cbor buf = .ok m := by
  refine ⟨decodeBody_ok, fun h => ?_⟩
  rw [decodeBody, h]
  rfl

theorem awaitMessage_ok_iff : (awaitMessage cbor input).1 = .ok m ↔ ∃ n, Receives cbor input m n := by
  constructor
  · intro h
    by_cases hlen : input.length < 4
    · rw [awaitMessage_cut hlen] at h
      cases h
    · have hn : Announces input (beNat (input.take 4)) := ⟨Nat.not_lt.mp hlen, rfl⟩
      by_cases hbig : beNat (input.take 4) > messageLimit
      · rw [awaitMessage_announced hn, if_pos hbig] at h
        cases h
      · by_cases hcut : input.length < 4 + beNat (input.take 4)
        · rw [awaitMessage_short hn (Nat.not_lt.mp hbig) hcut] at h
          cases h
        · have havailable := Nat.not_lt.mp hcut
          rw [awaitMessage_whole hn (Nat.not_lt.mp hbig) havailable, decodeBody_iff, fromWire_iff,
            bodyOf_length havailable] at h
          obtain ⟨hleast, hid, hpayload⟩ := h
          exact ⟨_, hn, hleast, Nat.not_lt.mp hbig, havailable, hid ▸ messageId_known m, hid, hpayload⟩
  · rintro ⟨n, h⟩
    rw [awaitMessage_whole h.announced h.most h.available, decodeBody_iff, fromWire_iff,
      bodyOf_length h.available]
    exact ⟨h.least, h.id, h.payload⟩

/-- Receiving never panics, yields a message exactly where its frame is, and
reads the whole frame or, if that would be too big, its prefix alone. -/
theorem await_message_exact (cbor : SerdeCbor) (r : Reader) :
    ∃ result r', awaitMessageChecked cbor r = some (result, r') ∧
      (∀ m, result = .ok m ↔ ∃ n, Receives cbor r.unread m n) ∧
      (∀ n, Announces r.unread n → n ≤ 200 * 1024 → 4 + n ≤ r.unread.length →
        r'.unread = r.unread.drop (4 + n)) ∧
      ∀ n, Announces r.unread n → 200 * 1024 < n →
        r'.unread = r.unread.drop 4 ∧ r'.allocated = r.allocated := by
  refine ⟨_, _, awaitMessageChecked_eq cbor r, fun m => awaitMessage_ok_iff, ?_, ?_⟩
  · intro n hn hle havailable
    rw [awaitMessage_whole hn hle havailable]
  · intro n hn hbig
    have hlimit : n > messageLimit := hbig
    refine ⟨by rw [awaitMessage_announced hn, if_pos hlimit], ?_⟩
    obtain ⟨_, rfl⟩ := hn
    rw [bodies, if_neg, List.nil_append]
    exact fun h => Nat.not_lt.mpr h.2 hlimit

end Ebbflow.AwaitExact
