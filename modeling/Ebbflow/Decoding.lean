import Ebbflow.MessagingCbor

namespace Ebbflow.Decoding

open Lib.BigEndian Lib.Wire Messaging Messaging.Message MessagingCbor

def Carries (cbor : SerdeCbor) : Message → Bytes → Prop
  | .HelloV0 x, payload => cbor.hello.fromSlice payload = some x
  | .StatusResponseV0 x, payload => cbor.statusResponse.fromSlice payload = some x
  | .EnableDisableRequestV0 x, payload => cbor.enableDisableRequest.fromSlice payload = some x
  | .HelloResponseV0 x, payload => cbor.helloResponse.fromSlice payload = some x
  | .StartTrafficResponseV0 x, payload => cbor.startTrafficResponse.fromSlice payload = some x
  | .StatusRequestV0, _ | .EnableDisableResponseV0, _ | .StartTrafficV0, _ => True

/-- The ids whose payload is not looked at. -/
def bareIds : List Nat := [2, 5, 7]

variable {α : Type} {cbor : SerdeCbor} {payload buf : Bytes} {id : Nat} {m : Message}

theorem map_orParse_iff {o : Option α} {f : α → Message} :
    (orParse o).map f = .ok m ↔ ∃ x, o = some x ∧ f x = m := by
  cases o <;> simp [orParse, Except.map]

theorem fromPayload_iff :
    fromPayload cbor payload id = .ok m ↔ id = m.messageId.toNat ∧ Carries cbor m payload := by
  constructor
  · intro h
    unfold fromPayload at h
    split at h
    case h_1 | h_3 | h_4 | h_6 | h_8 =>
      obtain ⟨x, hx, rfl⟩ := map_orParse_iff.mp h
      exact ⟨rfl, hx⟩
    case h_2 | h_5 | h_7 =>
      obtain rfl := Except.ok.inj h
      exact ⟨rfl, trivial⟩
    case h_9 => cases h
  · rintro ⟨rfl, hcarries⟩
    cases m with
    | HelloV0 | StatusResponseV0 | EnableDisableRequestV0 | HelloResponseV0 | StartTrafficResponseV0 =>
        exact map_orParse_iff.mpr ⟨_, hcarries, rfl⟩
    | StatusRequestV0 | EnableDisableResponseV0 | StartTrafficV0 => rfl

theorem fromWire_iff :
    fromWireWithoutTheLengthPrefix cbor buf = .ok m ↔
      4 ≤ buf.length ∧ beNat (buf.take 4) = m.messageId.toNat ∧ Carries cbor m (buf.drop 4) := by
  rw [fromWireWithoutTheLengthPrefix]
  by_cases hshort : buf.length < 4
  · rw [if_pos hshort]
    exact iff_of_false (by simp) (by omega)
  · rw [if_neg hshort, fromPayload_iff, and_iff_right (Nat.not_lt.mp hshort)]

/-- The whole input is one document, no shorter front of it is. -/
def IsDocument (codec : Codec α) (x : α) (payload : Bytes) : Prop :=
  codec.fromSlice payload = some x ∧
    ∀ front x', front <+: payload → codec.fromSlice front = some x' → front = payload

def IsPayload (cbor : SerdeCbor) : Message → Bytes → Prop
  | .HelloV0 x, payload => IsDocument cbor.hello x payload
  | .StatusResponseV0 x, payload => IsDocument cbor.statusResponse x payload
  | .EnableDisableRequestV0 x, payload => IsDocument cbor.enableDisableRequest x payload
  | .HelloResponseV0 x, payload => IsDocument cbor.helloResponse x payload
  | .StartTrafficResponseV0 x, payload => IsDocument cbor.startTrafficResponse x payload
  | .StatusRequestV0, payload | .EnableDisableResponseV0, payload | .StartTrafficV0, payload =>
      payload = []

theorem isDocument_of_read {codec : Codec α} (hc : codec.RejectsTrailing) {x : α}
    (h : codec.fromSlice payload = some x) : IsDocument codec x payload := by
  refine ⟨h, ?_⟩
  rintro front x' ⟨extra, rfl⟩ hfront
  rw [hc hfront h, List.append_nil]

theorem isPayload_iff (hc : cbor.RejectsTrailing) (h : Carries cbor m payload) :
    IsPayload cbor m payload ↔ payload = [] ∨ m.messageId.toNat ∉ bareIds := by
  cases m with
  | HelloV0 => exact iff_of_true (isDocument_of_read hc.hello h) (.inr (by simp [messageId, bareIds]))
  | StatusResponseV0 =>
      exact iff_of_true (isDocument_of_read hc.statusResponse h) (.inr (by simp [messageId, bareIds]))
  | EnableDisableRequestV0 =>
      exact iff_of_true (isDocument_of_read hc.enableDisableRequest h) (.inr (by simp [messageId, bareIds]))
  | HelloResponseV0 =>
      exact iff_of_true (isDocument_of_read hc.helloResponse h) (.inr (by simp [messageId, bareIds]))
  | StartTrafficResponseV0 =>
      exact iff_of_true (isDocument_of_read hc.startTrafficResponse h) (.inr (by simp [messageId, bareIds]))
  | StatusRequestV0 | EnableDisableResponseV0 | StartTrafficV0 =>
      exact (or_iff_left (by decide)).symm

theorem payload_of_isPayload (hc : cbor.Canonical) (h : IsPayload cbor m payload) :
    m.payload cbor = .ok payload := by
  cases m with
  | HelloV0 => rw [Message.payload, hc.hello h.1, orParse]
  | StatusResponseV0 => rw [Message.payload, hc.statusResponse h.1, orParse]
  | EnableDisableRequestV0 => rw [Message.payload, hc.enableDisableRequest h.1, orParse]
  | HelloResponseV0 => rw [Message.payload, hc.helloResponse h.1, orParse]
  | StartTrafficResponseV0 => rw [Message.payload, hc.startTrafficResponse h.1, orParse]
  | StatusRequestV0 | EnableDisableResponseV0 | StartTrafficV0 => rw [Message.payload, show payload = [] from h]

theorem toWireMessage_drop (h : m.payload cbor = .ok payload) :
    (m.toWireMessage cbor).map (List.drop 4) = .ok (body m payload) := by
  rw [toWireMessage, h]
  simp only [Except.map, List.append_assoc]
  rw [List.drop_left' (toBeBytes_length _), body]

/-- The decoder leaves no byte of what it accepts unread, exactly unless bytes
stand behind the id of a message that has no payload. -/
theorem ignores_nothing_iff (hc : cbor.RejectsTrailing)
    (h : fromWireWithoutTheLengthPrefix cbor buf = .ok m) :
    (IsPayload cbor m (buf.drop 4) ∧
        (cbor.Canonical → (m.toWireMessage cbor).map (List.drop 4) = .ok buf)) ↔
      buf.length = 4 ∨ beNat (buf.take 4) ∉ bareIds := by
  obtain ⟨hlen, hid, hcarries⟩ := fromWire_iff.mp h
  have hempty : buf.drop 4 = [] ↔ buf.length = 4 := by
    rw [List.drop_eq_nil_iff]
    omega
  have hbody : body m (buf.drop 4) = buf := by
    have htake : (buf.take 4).length = 4 := List.length_take_of_le hlen
    have hbytes : toBeBytes m.messageId = buf.take 4 := by
      have hback := beBytes_beNat (buf.take 4)
      rwa [htake, hid] at hback
    rw [body, hbytes, List.take_append_drop]
  rw [and_iff_left_of_imp, isPayload_iff hc hcarries, hempty, hid]
  intro hpayload hcanonical
  rw [toWireMessage_drop (payload_of_isPayload hcanonical hpayload), hbody]

def forbiddenBody : Bytes :=
  [0, 0, 0, 6, 161, 101, 105, 115, 115, 117, 101, 105, 70, 111, 114, 98, 105, 100, 100, 101, 110]

theorem ignores_nothing_iff_forbidden :
    IsPayload serdeCbor (.HelloResponseV0 ⟨some .Forbidden⟩) (forbiddenBody.drop 4) ∧
      ((Message.HelloResponseV0 ⟨some .Forbidden⟩).toWireMessage serdeCbor).map (List.drop 4) =
        .ok forbiddenBody := by
  have hwire : fromWireWithoutTheLengthPrefix serdeCbor forbiddenBody =
      .ok (.HelloResponseV0 ⟨some .Forbidden⟩) := by decide
  obtain ⟨hpayload, hback⟩ :=
    (ignores_nothing_iff serdeCbor_rejectsTrailing hwire).mpr (.inr (by decide))
  exact ⟨hpayload, hback serdeCbor_canonical⟩

/-- A byte behind the id of `StatusRequestV0` is accepted and lost. -/
theorem bare_message_ignores_bytes :
    ¬ ∀ cbor : SerdeCbor, cbor.RejectsTrailing →
      ∀ buf m, fromWireWithoutTheLengthPrefix cbor buf = .ok m →
      IsPayload cbor m (buf.drop 4) ∧
        (cbor.Canonical → (m.toWireMessage cbor).map (List.drop 4) = .ok buf) := by
  intro h
  have hwire : fromWireWithoutTheLengthPrefix serdeCbor [0, 0, 0, 2, 9] = .ok .StatusRequestV0 := by decide
  have hpayload := (h serdeCbor serdeCbor_rejectsTrailing [0, 0, 0, 2, 9] .StatusRequestV0 hwire).1
  cases hpayload

end Ebbflow.Decoding
