import Ebbflow.Messaging

namespace Ebbflow.AwaitMessage

open Lib.BigEndian Lib.Wire Messaging Messaging.Message

inductive IoError
  | UnexpectedEof
  | WriteZero
  | Other (reason : String)
  deriving DecidableEq, Repr

inductive ConnectionError
  | Io (e : IoError)
  | Timeout (msg : String)
  | Messaging (e : MessageError)
  | BadRequest
  | UnexpectedMessage
  | Forbidden
  | NotFound
  | Shutdown
  | Multiple (errors : String)
  deriving DecidableEq, Repr

/-- `read_exact` on a stream of which `input` is still to come: its result and
what it leaves unread. -/
def readExact (n : Nat) (input : Bytes) : Except IoError Bytes × Bytes :=
  if n ≤ input.length then (.ok (input.take n), input.drop n) else (.error .UnexpectedEof, [])

def messageLimit : Nat := 200 * 1024

def tooBig : ConnectionError := .Messaging (.Internal "message too big safeguard")

def decodeBody (cbor : SerdeCbor) (msgbuf : Bytes) : Except ConnectionError Message :=
  (fromWireWithoutTheLengthPrefix cbor msgbuf).mapError .Messaging

def awaitBody (cbor : SerdeCbor) (len : Nat) (input : Bytes) :
    Except ConnectionError Message × Bytes :=
  match readExact len input with
  | (.error e, rest) => (.error (.Io e), rest)
  | (.ok msgbuf, rest) => (decodeBody cbor msgbuf, rest)

def awaitMessage (cbor : SerdeCbor) (input : Bytes) : Except ConnectionError Message × Bytes :=
  match readExact 4 input with
  | (.error e, rest) => (.error (.Io e), rest)
  | (.ok lenbuf, rest) =>
      let len := beNat lenbuf
      if len > messageLimit then (.error tooBig, rest) else awaitBody cbor len rest

/-- `await_message` between two reads: the buffer it fills and the bytes it holds. -/
inductive Awaiting
  | lenbuf (got : Bytes)
  | msgbuf (len : Nat) (got : Bytes)
  deriving DecidableEq, Repr

namespace Awaiting

def size : Awaiting → Nat
  | lenbuf _ => 4
  | msgbuf len _ => len

def got : Awaiting → Bytes
  | lenbuf got => got
  | msgbuf _ got => got

def missing (a : Awaiting) : Nat := a.size - a.got.length

@[simp] theorem missing_lenbuf (got : Bytes) : (lenbuf got).missing = 4 - got.length := rfl

@[simp] theorem missing_msgbuf (len : Nat) (got : Bytes) :
    (msgbuf len got).missing = len - got.length := rfl

def start : Awaiting := lenbuf []

/-- A length prefix is complete. An empty body is complete at once. -/
def startBody (cbor : SerdeCbor) (len : Nat) : Awaiting ⊕ Except ConnectionError Message :=
  if len > messageLimit then .inr (.error tooBig)
  else if len = 0 then .inr (decodeBody cbor [])
  else .inl (msgbuf len [])

def feed (cbor : SerdeCbor) (a : Awaiting) (chunk : Bytes) :
    Awaiting ⊕ Except ConnectionError Message :=
  match a with
  | lenbuf got =>
      if (got ++ chunk).length < 4 then .inl (lenbuf (got ++ chunk))
      else startBody cbor (beNat (got ++ chunk))
  | msgbuf len got =>
      if (got ++ chunk).length < len then .inl (msgbuf len (got ++ chunk))
      else .inr (decodeBody cbor (got ++ chunk))

def resume (cbor : SerdeCbor) (a : Awaiting) (input : Bytes) :
    Except ConnectionError Message × Bytes :=
  match a with
  | lenbuf got => awaitMessage cbor (got ++ input)
  | msgbuf len got => awaitBody cbor len (got ++ input)

end Awaiting

variable {cbor : SerdeCbor} {a a' : Awaiting} {chunk rest : Bytes}
  {r : Except ConnectionError Message}

theorem readExact_append {n : Nat} {bs : Bytes} (h : bs.length = n) (rest : Bytes) :
    readExact n (bs ++ rest) = (.ok bs, rest) := by
  subst h
  simp [readExact]

theorem awaitBody_append {len : Nat} {bs : Bytes} (h : bs.length = len) (rest : Bytes) :
    awaitBody cbor len (bs ++ rest) = (decodeBody cbor bs, rest) := by
  rw [awaitBody, readExact_append h]

theorem awaitMessage_append {bs : Bytes} (h : bs.length = 4) (rest : Bytes) :
    awaitMessage cbor (bs ++ rest) =
      if beNat bs > messageLimit then (.error tooBig, rest) else awaitBody cbor (beNat bs) rest := by
  rw [awaitMessage, readExact_append h]

/-- A read never asks for more than the room left, so a buffer that is not
short is exactly full. -/
theorem length_of_full {n : Nat} {got chunk : Bytes} (hle : chunk.length ≤ n - got.length)
    (hpos : 0 < n - got.length) (hfull : ¬ (got ++ chunk).length < n) :
    (got ++ chunk).length = n := by
  rw [List.length_append] at hfull ⊢
  omega

theorem startBody_next {len : Nat} (h : Awaiting.startBody cbor len = .inl a') :
    0 < a'.missing ∧ ∀ rest, (if len > messageLimit then (.error tooBig, rest)
      else awaitBody cbor len rest) = a'.resume cbor rest := by
  rw [Awaiting.startBody] at h
  split_ifs at h with hbig hzero
  obtain rfl := Sum.inl.inj h
  refine ⟨by simpa using Nat.pos_of_ne_zero hzero, ?_⟩
  intro rest
  rw [if_neg hbig]
  rfl

theorem startBody_done {len : Nat} (h : Awaiting.startBody cbor len = .inr r) (rest : Bytes) :
    (if len > messageLimit then (.error tooBig, rest) else awaitBody cbor len rest) = (r, rest) := by
  rw [Awaiting.startBody] at h
  split_ifs at h with hbig hzero
  · obtain rfl := Sum.inr.inj h
    rw [if_pos hbig]
  · obtain rfl := Sum.inr.inj h
    rw [if_neg hbig, hzero]
    have hnil : ([] : Bytes).length = 0 := rfl
    exact awaitBody_append hnil rest

theorem feed_next (h : a.feed cbor chunk = .inl a') (hle : chunk.length ≤ a.missing)
    (hpos : 0 < a.missing) :
    0 < a'.missing ∧ ∀ rest, a.resume cbor (chunk ++ rest) = a'.resume cbor rest := by
  cases a with
  | lenbuf got =>
      simp only [Awaiting.feed] at h
      split_ifs at h with hlt
      · obtain rfl := Sum.inl.inj h
        refine ⟨by simpa using hlt, ?_⟩
        intro rest
        simp only [Awaiting.resume, List.append_assoc]
      · have hlen : (got ++ chunk).length = 4 := length_of_full hle hpos hlt
        obtain ⟨hmissing, hnext⟩ := startBody_next h
        refine ⟨hmissing, ?_⟩
        intro rest
        rw [← hnext rest, Awaiting.resume, ← List.append_assoc, awaitMessage_append hlen]
  | msgbuf len got =>
      simp only [Awaiting.feed] at h
      split_ifs at h with hlt
      obtain rfl := Sum.inl.inj h
      refine ⟨by simpa using hlt, ?_⟩
      intro rest
      simp only [Awaiting.resume, List.append_assoc]

theorem feed_done (h : a.feed cbor chunk = .inr r) (hle : chunk.length ≤ a.missing)
    (hpos : 0 < a.missing) (rest : Bytes) : a.resume cbor (chunk ++ rest) = (r, rest) := by
  cases a with
  | lenbuf got =>
      simp only [Awaiting.feed] at h
      split_ifs at h with hlt
      have hlen : (got ++ chunk).length = 4 := length_of_full hle hpos hlt
      rw [Awaiting.resume, ← List.append_assoc, awaitMessage_append hlen]
      exact startBody_done h rest
  | msgbuf len got =>
      simp only [Awaiting.feed] at h
      split_ifs at h with hlt
      obtain rfl := Sum.inr.inj h
      have hlen : (got ++ chunk).length = len := length_of_full hle hpos hlt
      rw [Awaiting.resume, ← List.append_assoc, awaitBody_append hlen]

theorem readExact_ok {n : Nat} {input bs rest : Bytes} (h : readExact n input = (.ok bs, rest)) :
    input = bs ++ rest ∧ bs.length = n := by
  rw [readExact] at h
  split at h
  next hle =>
    obtain ⟨hbs, rfl⟩ := Prod.mk.inj h
    obtain rfl := Except.ok.inj hbs
    exact ⟨(List.take_append_drop n input).symm, List.length_take_of_le hle⟩
  next => cases h

theorem awaitBody_ok {len : Nat} {input : Bytes} {m : Message}
    (h : awaitBody cbor len input = (.ok m, rest)) : rest.length + len = input.length := by
  rw [awaitBody] at h
  split at h
  next => cases h
  next msgbuf tail hread =>
    obtain ⟨_, rfl⟩ := Prod.mk.inj h
    obtain ⟨rfl, hlen⟩ := readExact_ok hread
    rw [List.length_append, hlen, Nat.add_comm]

theorem awaitMessage_ok {input : Bytes} {m : Message}
    (h : awaitMessage cbor input = (.ok m, rest)) : rest.length + 4 ≤ input.length := by
  rw [awaitMessage] at h
  split at h
  next => cases h
  next lenbuf tail hread =>
    obtain ⟨rfl, hlen⟩ := readExact_ok hread
    dsimp only at h
    split at h
    next => cases h
    next =>
      have hbody := awaitBody_ok h
      rw [List.length_append]
      omega

/-- A length prefix, and as many bytes as it says, which decode to `m`. -/
def IsFrame (cbor : SerdeCbor) (bs : Bytes) (m : Message) : Prop :=
  ∃ lenbuf body, bs = lenbuf ++ body ∧ lenbuf.length = 4 ∧ beNat lenbuf = body.length ∧
    body.length ≤ messageLimit ∧ fromWireWithoutTheLengthPrefix cbor body = .ok m

theorem decodeBody_ok {msgbuf : Bytes} {m : Message} (h : decodeBody cbor msgbuf = .ok m) :
    fromWireWithoutTheLengthPrefix cbor msgbuf = .ok m := by
  rw [decodeBody] at h
  cases hwire : fromWireWithoutTheLengthPrefix cbor msgbuf with
  | error cause =>
      rw [hwire] at h
      cases h
  | ok m' =>
      rw [hwire] at h
      exact congrArg Except.ok (Except.ok.inj h)

theorem decodeBody_error {msgbuf : Bytes} {e : ConnectionError}
    (h : decodeBody cbor msgbuf = .error e) : ∃ cause, e = .Messaging cause := by
  rw [decodeBody] at h
  cases hwire : fromWireWithoutTheLengthPrefix cbor msgbuf with
  | ok m =>
      rw [hwire] at h
      cases h
  | error cause =>
      rw [hwire] at h
      exact ⟨cause, (Except.error.inj h).symm⟩

theorem awaitMessage_frame {input : Bytes} {m : Message}
    (h : awaitMessage cbor input = (.ok m, rest)) :
    ∃ frame, IsFrame cbor frame m ∧ input = frame ++ rest := by
  rw [awaitMessage] at h
  split at h
  next => cases h
  next lenbuf tail hread =>
    obtain ⟨rfl, hlen⟩ := readExact_ok hread
    dsimp only at h
    split at h
    next => cases h
    next hbig =>
      rw [awaitBody] at h
      split at h
      next => cases h
      next body tail' hbody =>
        obtain ⟨hdecode, rfl⟩ := Prod.mk.inj h
        obtain ⟨rfl, hbodylen⟩ := readExact_ok hbody
        refine ⟨lenbuf ++ body, ⟨lenbuf, body, rfl, hlen, hbodylen.symm, ?_, decodeBody_ok hdecode⟩,
          (List.append_assoc _ _ _).symm⟩
        rw [hbodylen]
        exact Nat.not_lt.mp hbig

theorem resume_consumes {input : Bytes} {m : Message} (hpos : 0 < a.missing)
    (h : a.resume cbor input = (.ok m, rest)) : rest.length < input.length := by
  cases a with
  | lenbuf got =>
      have hle := awaitMessage_ok h
      simp only [Awaiting.missing_lenbuf, List.length_append] at hpos hle
      omega
  | msgbuf len got =>
      have hle := awaitBody_ok h
      simp only [Awaiting.missing_msgbuf, List.length_append] at hpos hle
      omega

theorem feed_error {e : ConnectionError} (h : a.feed cbor chunk = .inr (.error e)) :
    ∃ cause, e = .Messaging cause := by
  cases a with
  | lenbuf got =>
      simp only [Awaiting.feed, Awaiting.startBody] at h
      split_ifs at h with hlt hbig hzero
      · exact ⟨_, (Except.error.inj (Sum.inr.inj h)).symm⟩
      · exact decodeBody_error (Sum.inr.inj h)
  | msgbuf len got =>
      simp only [Awaiting.feed] at h
      split_ifs at h with hlt
      exact decodeBody_error (Sum.inr.inj h)

end Ebbflow.AwaitMessage
