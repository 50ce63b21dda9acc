import Ebbflow.AwaitMessage
import Ebbflow.MessagingCbor

namespace Ebbflow.Framing

open Lib.BigEndian Lib.Wire Messaging Messaging.Message AwaitMessage MessagingCbor

def awaitMessages (cbor : SerdeCbor) : Nat → Bytes → Except ConnectionError (List Message) × Bytes
  | 0, input => (.ok [], input)
  | n + 1, input =>
      match awaitMessage cbor input with
      | (.error e, rest) => (.error e, rest)
      | (.ok m, rest) => ((awaitMessages cbor n rest).1.map (m :: ·), (awaitMessages cbor n rest).2)

/-- A message whose body the peer's safeguard lets through. -/
def Sendable (cbor : SerdeCbor) (m : Message) : Prop :=
  ∃ payload, m.payload cbor = .ok payload ∧ (body m payload).length ≤ messageLimit

variable {cbor : SerdeCbor}

theorem messageLimit_lt : messageLimit < 2 ^ 32 := by decide

theorem awaitMessage_toWireMessage (hcbor : cbor.RoundTrip) {m : Message} {payload : Bytes}
    (h : m.payload cbor = .ok payload) (hle : (body m payload).length ≤ messageLimit)
    (rest : Bytes) :
    awaitMessage cbor (beBytes 4 (body m payload).length ++ body m payload ++ rest) =
      (.ok m, rest) := by
  have hfit : (body m payload).length < 256 ^ 4 := Nat.lt_of_le_of_lt hle messageLimit_lt
  have hdecode : decodeBody cbor (body m payload) = .ok m := by
    rw [decodeBody, fromWire_body hcbor h]
    rfl
  rw [List.append_assoc, awaitMessage_append (beBytes_length 4 _), beNat_beBytes hfit,
    if_neg (Nat.not_lt.mpr hle), awaitBody_append rfl, hdecode]

/-- The frame of a message. A peer that does not fear its length decodes it to the
message, as long as the codec reads what it writes. -/
structure FrameOf (cbor : SerdeCbor) (m : Message) (bs : Bytes) : Prop where
  bytes : ∃ payload, m.payload cbor = .ok payload ∧
    bs = toBeBytes (4 + .ofNat payload.length) ++ toBeBytes m.messageId ++ payload
  isFrame : cbor.RoundTrip → bs.length ≤ 4 + messageLimit → IsFrame cbor bs m

theorem frameOf_toWireMessage {m : Message} {bs : Bytes} (h : m.toWireMessage cbor = .ok bs) :
    FrameOf cbor m bs := by
  cases hpayload : m.payload cbor with
  | error e =>
      rw [toWireMessage, hpayload] at h
      cases h
  | ok payload =>
      have hbytes : bs = toBeBytes (4 + .ofNat payload.length) ++ toBeBytes m.messageId ++ payload := by
        rw [toWireMessage, hpayload] at h
        exact (Except.ok.inj h).symm
      refine ⟨⟨payload, hpayload, hbytes⟩, fun hcbor hlen => ?_⟩
      have hle : (body m payload).length ≤ messageLimit := by
        rw [hbytes, List.append_assoc, List.length_append, toBeBytes_length] at hlen
        exact Nat.le_of_add_le_add_left hlen
      have hfit := Nat.lt_of_le_of_lt hle messageLimit_lt
      obtain rfl := Except.ok.inj (h.symm.trans (toWireMessage_eq hpayload hfit))
      exact ⟨_, _, rfl, beBytes_length 4 _, beNat_beBytes hfit, hle, fromWire_body hcbor hpayload⟩

theorem awaitMessages_frames (hcbor : cbor.RoundTrip) {ms : List Message}
    (hms : ∀ m ∈ ms, Sendable cbor m) (t : Bytes) :
    ∃ frames, ms.mapM (toWireMessage cbor) = .ok frames ∧
      awaitMessages cbor ms.length (frames.flatten ++ t) = (.ok ms, t) := by
  induction ms with
  | nil => exact ⟨[], rfl, rfl⟩
  | cons m ms ih =>
      obtain ⟨frames, hframes, hawait⟩ := ih fun m' hm' => hms m' (List.mem_cons_of_mem m hm')
      obtain ⟨payload, hpayload, hle⟩ := hms m List.mem_cons_self
      have hwire := toWireMessage_eq hpayload (Nat.lt_of_le_of_lt hle messageLimit_lt)
      have hfirst := awaitMessage_toWireMessage hcbor hpayload hle (frames.flatten ++ t)
      refine ⟨(beBytes 4 (body m payload).length ++ body m payload) :: frames, ?_, ?_⟩
      · rw [List.mapM_cons, hwire, hframes]
        rfl
      · rw [List.flatten_cons, List.append_assoc, List.length_cons, awaitMessages, hfirst]
        simp only [hawait]
        rfl

theorem toWireMessage_length {m : Message} {payload : Bytes} (h : m.payload cbor = .ok payload)
    (hfit : (body m payload).length < 2 ^ 32) :
    ∃ frame, m.toWireMessage cbor = .ok frame ∧
      frame.take 4 = beBytes 4 (frame.drop 4).length ∧ beNat (frame.take 4) = (frame.drop 4).length := by
  have hlen := beBytes_length 4 (body m payload).length
  refine ⟨_, toWireMessage_eq h hfit, ?_, ?_⟩
  · rw [List.take_left' hlen, List.drop_left' hlen]
  · rw [List.take_left' hlen, List.drop_left' hlen]
    exact beNat_beBytes hfit

/-- Frames written one after the other are read back as the messages they
carry, and the reader stops right behind the last of them. -/
theorem framing_round_trip (cbor : SerdeCbor) (hcbor : cbor.RoundTrip) :
    (∀ (ms : List Message) (t : Bytes), (∀ m ∈ ms, Sendable cbor m) →
      ∃ frames, ms.mapM (toWireMessage cbor) = .ok frames ∧
        awaitMessages cbor ms.length (frames.flatten ++ t) = (.ok ms, t)) ∧
    (∀ (m : Message) (payload : Bytes), m.payload cbor = .ok payload →
      (body m payload).length < 2 ^ 32 →
      ∃ frame, m.toWireMessage cbor = .ok frame ∧
        frame.take 4 = beBytes 4 (frame.drop 4).length ∧
        beNat (frame.take 4) = (frame.drop 4).length) := by
  refine ⟨?_, ?_⟩
  · intro ms t hms
    exact awaitMessages_frames hcbor hms t
  · intro m payload h hfit
    exact toWireMessage_length h hfit

def conversation : List Message :=
  [.HelloV0 (.new "key" .Tls "test.mywebsite.com"), .HelloResponseV0 ⟨none⟩, .StartTrafficV0,
    .StartTrafficResponseV0 ⟨true⟩, .EnableDisableRequestV0 ⟨false, .SpecificEndpoints ["a", "b"]⟩,
    .StatusResponseV0 ⟨[⟨.Ssh, "myhost", true⟩]⟩]

theorem conversation_sendable : ∀ m ∈ conversation, Sendable serdeCbor m := by
  simp only [conversation, List.forall_mem_cons, List.not_mem_nil, false_implies, implies_true,
    and_true]
  exact ⟨⟨_, rfl, by decide⟩, ⟨_, rfl, by decide⟩, ⟨_, rfl, by decide⟩, ⟨_, rfl, by decide⟩,
    ⟨_, rfl, by decide⟩, ⟨_, rfl, by decide⟩⟩

theorem framing_round_trip_conversation :
    (∃ frames, conversation.mapM (toWireMessage serdeCbor) = .ok frames ∧
      awaitMessages serdeCbor conversation.length (frames.flatten ++ [7]) = (.ok conversation, [7])) ∧
    ∃ frame, (Message.StartTrafficV0).toWireMessage serdeCbor = .ok frame ∧
      frame.take 4 = beBytes 4 (frame.drop 4).length ∧
      beNat (frame.take 4) = (frame.drop 4).length :=
  ⟨(framing_round_trip serdeCbor serdeCbor_roundTrip).1 conversation [7] conversation_sendable,
    (framing_round_trip serdeCbor serdeCbor_roundTrip).2 .StartTrafficV0 [] rfl (by decide)⟩

end Ebbflow.Framing
