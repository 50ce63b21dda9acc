import Ebbflow.ClientParty
import Ebbflow.Framing
import Ebbflow.HandshakeSafety
import Ebbflow.MockRun

namespace Ebbflow.ProtocolFrames

open Lib.BigEndian Lib.Wire Lib.Streams Lib.Duplex Messaging Messaging.Message AwaitMessage EstablishConnection
open LocalConnection CopyBytes RunConnection Handshake Dialogue ConnectionRun HandshakeSafety Framing
open MockEbb MockRun ClientParty

variable {cbor : SerdeCbor} {env : Env} {c : Conn} {s : Served} {m : Message}
  {bs bs' body body' rest rest' : Bytes}

/-- A message whose body the length prefix can count. -/
def Fits (cbor : SerdeCbor) (m : Message) : Prop :=
  ∃ payload, m.payload cbor = .ok payload ∧ (Messaging.body m payload).length < 2 ^ 32

/-- Every message of the two programs can be sent, and the mock's pass the client's safeguard. -/
structure Speakable (env : Env) : Prop where
  roundTrip : env.cbor.RoundTrip
  hello : Fits env.cbor (helloMessage env.args)
  welcome : Sendable env.cbor (.HelloResponseV0 ⟨none⟩)
  response : ∀ good, Fits env.cbor (.StartTrafficResponseV0 ⟨good⟩)

theorem sendable_start : Sendable cbor .StartTrafficV0 := ⟨[], rfl, by decide⟩

theorem frame_framed (hcbor : cbor.RoundTrip) (h : Fits cbor m) :
    ∃ body, Framed (frame cbor m) body ∧ fromWireWithoutTheLengthPrefix cbor body = .ok m := by
  obtain ⟨payload, hpayload, hfit⟩ := h
  refine ⟨Messaging.body m payload, ⟨_, ?_, beBytes_length 4 _, beNat_beBytes hfit⟩, fromWire_body hcbor hpayload⟩
  rw [frame, toWireMessage_eq hpayload hfit]

theorem frame_awaited (hcbor : cbor.RoundTrip) (h : Sendable cbor m) (rest : Bytes) :
    awaitMessage cbor (frame cbor m ++ rest) = (.ok m, rest) := by
  obtain ⟨payload, hpayload, hle⟩ := h
  rw [frame, toWireMessage_eq hpayload (Nat.lt_of_le_of_lt hle messageLimit_lt)]
  exact awaitMessage_toWireMessage hcbor hpayload hle rest

theorem framed_unique (h : Framed bs body) (h' : Framed bs' body') (he : bs ++ rest = bs' ++ rest') :
    bs = bs' ∧ body = body' ∧ rest = rest' := by
  obtain ⟨lenbuf, rfl, hfour, hlen⟩ := h
  obtain ⟨lenbuf', rfl, hfour', hlen'⟩ := h'
  simp only [List.append_assoc] at he
  obtain ⟨rfl, hrest⟩ := List.append_inj he (hfour.trans hfour'.symm)
  obtain ⟨rfl, rfl⟩ := List.append_inj hrest (hlen.symm.trans hlen')
  exact ⟨rfl, rfl, rfl⟩

theorem createHello_eq (cbor : SerdeCbor) (args : EndpointConnectionArgs) :
    createHello cbor args = ((helloMessage args).toWireMessage cbor).mapError .Messaging := rfl

theorem helloFrame_eq (env : Env) : helloFrame env = frame env.cbor (helloMessage env.args) := by
  rw [helloFrame, hello, createHello_eq, frame]
  cases (helloMessage env.args).toWireMessage env.cbor <;> rfl

theorem responseFrame_eq (env : Env) (good : Bool) :
    responseFrame env good = frame env.cbor (.StartTrafficResponseV0 ⟨good⟩) := by
  rw [responseFrame, response, startTrafficResponse, frame]
  cases (Message.StartTrafficResponseV0 ⟨good⟩).toWireMessage env.cbor <;> rfl

theorem client_written {script : Bytes} {effects : List Effect} (h : Run env script c effects) :
    ∃ good tail, c.wires.ebb.written <+: helloFrame env ++ responseFrame env good ++ tail ∧
      (tail = [] ∨ ∃ loc, c.wires.loc = some loc ∧ tail <+: loc.sent) := by
  cases (run_inv h).1.over with
  | untouched _ hw => exact ⟨true, [], hw.trans ((List.prefix_append _ _).trans (List.prefix_append _ _)), .inl rfl⟩
  | answered _ _ hanswered =>
      refine ⟨c.wires.loc.isSome, [], ?_, .inl rfl⟩
      rw [hanswered.written, List.append_nil]
      exact (List.prefix_append_right_inj _).mpr hanswered.tail
  | tunnelled ht =>
      obtain ⟨_, _, loc, _, hloc, hcopied, _⟩ := ht
      obtain ⟨copied, hle, hw⟩ := hcopied.toEbb
      exact ⟨true, copied, hw ▸ List.prefix_rfl, .inr ⟨loc, hloc, hle⟩⟩

theorem mock_written (h : MockRun.Inv cbor s) :
    ∃ tail, s.ebb.written <+: after cbor .traffic ++ tail ∧
      (tail = [] ∨ ∃ k, s.customer = some k ∧ tail <+: k.sent) := by
  have hframes : s.ebb.written <+: after cbor .traffic → s.ebb.written <+: after cbor .traffic ++ [] := by
    intro hle
    rw [List.append_nil]
    exact hle
  rw [MockRun.Inv] at h
  cases hpc : s.pc with rw [hpc] at h
  | reading x reader => exact ⟨[], hframes (h.1 ▸ (beforeRead_le x).trans (after_le x)), .inl rfl⟩
  | writing x rest => exact ⟨[], hframes (List.IsPrefix.trans ⟨rest, h.1⟩ (after_le x)), .inl rfl⟩
  | flushing x => exact ⟨[], hframes (h.1 ▸ after_le x), .inl rfl⟩
  | pooled => exact ⟨[], hframes (h.1 ▸ after_le .hello), .inl rfl⟩
  | failed e =>
      obtain ⟨_, x, _, hle⟩ := h
      exact ⟨[], hframes (hle.trans (after_le x)), .inl rfl⟩
  | panicked p =>
      obtain ⟨⟨_, x, _, hle⟩, _⟩ := h
      exact ⟨[], hframes (hle.trans (after_le x)), .inl rfl⟩
  | copying c d =>
      obtain ⟨k, hk, _, _, _, _, _, _, _, hfrom⟩ := h
      obtain ⟨copied, hcopied, hw⟩ := hfrom.copied
      exact ⟨copied, hw ▸ List.prefix_rfl, .inr ⟨k, hk, hcopied⟩⟩

theorem unattached (h : s.customer = none) {x : Exchange} (ha : Attached s.customer x) : x = .hello := by
  cases x with
  | hello => rfl
  | traffic => simp [Attached, h] at ha

theorem mock_unattached (h : MockRun.Inv cbor s) (hnone : s.customer = none) :
    s.ebb.written <+: after cbor .hello := by
  rw [MockRun.Inv] at h
  cases hpc : s.pc with rw [hpc] at h
  | reading x reader =>
      obtain ⟨hw, _, _, ha, _⟩ := h
      obtain rfl := unattached hnone ha
      exact hw ▸ List.nil_prefix
  | writing x rest =>
      obtain ⟨hw, _, ha, _⟩ := h
      obtain rfl := unattached hnone ha
      exact ⟨rest, hw⟩
  | flushing x =>
      obtain ⟨hw, _, ha, _⟩ := h
      obtain rfl := unattached hnone ha
      exact hw ▸ List.prefix_rfl
  | pooled => exact h.1 ▸ List.prefix_rfl
  | copying c d =>
      obtain ⟨k, hk, _⟩ := h
      rw [hnone] at hk
      cases hk
  | failed e =>
      obtain ⟨_, x, ha, hle⟩ := h
      obtain rfl := unattached hnone ha
      exact hle
  | panicked p =>
      obtain ⟨⟨_, x, ha, hle⟩, _⟩ := h
      obtain rfl := unattached hnone ha
      exact hle

theorem taken_hello (h : Speakable env) {sent tail taken : Bytes} (hsent : sent <+: helloFrame env ++ tail)
    (hframed : Framed bs body) (htaken : sent = bs ++ taken) :
    bs = helloFrame env ∧ taken <+: tail ∧
      fromWireWithoutTheLengthPrefix env.cbor body = .ok (helloMessage env.args) := by
  obtain ⟨hello, hhello, hdecode⟩ := frame_framed h.roundTrip h.hello
  rw [← helloFrame_eq] at hhello
  obtain ⟨more, hmore⟩ := hsent
  rw [htaken, List.append_assoc] at hmore
  obtain ⟨rfl, rfl, rfl⟩ := framed_unique hframed hhello hmore
  exact ⟨rfl, List.prefix_append _ _, hdecode⟩

theorem taken_response (h : Speakable env) {good : Bool} {sent tail taken : Bytes}
    (hsent : sent <+: responseFrame env good ++ tail) (hframed : Framed bs body) (htaken : sent = bs ++ taken) :
    bs = responseFrame env good ∧ taken <+: tail ∧
      fromWireWithoutTheLengthPrefix env.cbor body = .ok (.StartTrafficResponseV0 ⟨good⟩) := by
  obtain ⟨response, hresponse, hdecode⟩ := frame_framed h.roundTrip (h.response good)
  rw [← responseFrame_eq] at hresponse
  obtain ⟨more, hmore⟩ := hsent
  rw [htaken, List.append_assoc] at hmore
  obtain ⟨rfl, rfl, rfl⟩ := framed_unique hframed hresponse hmore
  exact ⟨rfl, List.prefix_append _ _, hdecode⟩

theorem spoke_hello (h : Speakable env) {sent tail taken : Bytes} (hsent : sent <+: helloFrame env ++ tail)
    (hspoke : Spoke env.cbor .hello bs) (htaken : sent = bs ++ taken) : bs = helloFrame env ∧ taken <+: tail := by
  obtain ⟨body, m, hframed, _⟩ := hspoke
  obtain ⟨hbs, hle, _⟩ := taken_hello h hsent hframed htaken
  exact ⟨hbs, hle⟩

/-- The mock never meets a frame of the client that it does not expect. -/
theorem not_misheard (h : Speakable env) {good : Bool} {sent tail : Bytes} {r : Except MessageError Message}
    (hsent : sent <+: helloFrame env ++ (responseFrame env good ++ tail)) : ¬ Misheard env.cbor sent r := by
  rintro ⟨x, taken, bs, body, rest, hheard, hframed, htaken, hdecode, hnot⟩
  cases x with
  | hello =>
      obtain rfl : taken = [] := hheard
      obtain ⟨_, _, hhello⟩ := taken_hello h hsent hframed htaken
      have hfalse := hnot _ (hdecode.symm.trans hhello)
      cases hfalse
  | traffic =>
      rw [List.append_assoc] at htaken
      obtain ⟨_, hrest⟩ := spoke_hello h hsent hheard htaken
      obtain ⟨_, _, hresponse⟩ := taken_response h hrest hframed rfl
      have hfalse := hnot _ (hdecode.symm.trans hresponse)
      cases hfalse

theorem sends_ok (h : Speakable env) (x : Exchange) (e : MessageError) :
    x.sends.toWireMessage env.cbor ≠ .error e := by
  have hsendable : Sendable env.cbor x.sends := by
    cases x with
    | hello => exact h.welcome
    | traffic => exact sendable_start
  obtain ⟨payload, hpayload, hle⟩ := hsendable
  rw [toWireMessage_eq hpayload (Nat.lt_of_le_of_lt hle messageLimit_lt)]
  exact fun he => by cases he

theorem not_opens (hcbor : cbor.RoundTrip) (h : Sendable cbor m) {sent tail : Bytes}
    (hsent : sent <+: frame cbor m ++ tail) : ¬ Opens cbor sent m := by
  rintro ⟨r, rest, hr, hne, hio⟩
  obtain ⟨more, hmore⟩ := hsent
  have hall := awaitMessage_more hr hio more
  rw [hmore, frame_awaited hcbor h] at hall
  exact hne (Prod.mk.inj hall).1.symm

theorem awaited_pending (hcbor : cbor.RoundTrip) (h : Sendable cbor m) {m' : Message} {sent tail : Bytes}
    (hsent : sent <+: frame cbor m ++ tail) (hr : awaitMessage cbor sent = (.ok m', rest)) : rest <+: tail := by
  obtain ⟨more, hmore⟩ := hsent
  have hall := awaitMessage_more hr (fun e he => by cases he) more
  rw [hmore, frame_awaited hcbor h] at hall
  exact ⟨more, (Prod.mk.inj hall).2.symm⟩

theorem after_traffic (cbor : SerdeCbor) (tail : Bytes) :
    after cbor .traffic ++ tail =
      frame cbor (.HelloResponseV0 ⟨none⟩) ++ (frame cbor .StartTrafficV0 ++ tail) := by
  rw [after, before, List.append_assoc]
  rfl

/-- The client never meets a frame of the mock that it does not expect. -/
theorem not_blames (h : Speakable env) {sent tail : Bytes} (hsent : sent <+: after env.cbor .traffic ++ tail) :
    ¬ Blames env.cbor sent := by
  rw [after_traffic] at hsent
  rintro (hopens | ⟨rest, hwelcomed, hopens⟩)
  · exact not_opens h.roundTrip h.welcome hsent hopens
  · exact not_opens h.roundTrip sendable_start (awaited_pending h.roundTrip h.welcome hsent hwelcomed) hopens

theorem accepted_tail (h : Speakable env) {sent tail payload : Bytes}
    (hsent : sent <+: after env.cbor .traffic ++ tail) (haccepted : Accepted env.cbor sent payload) :
    payload <+: tail := by
  rw [after_traffic] at hsent
  obtain ⟨rest, hwelcomed, hstart⟩ := haccepted
  exact awaited_pending h.roundTrip sendable_start (awaited_pending h.roundTrip h.welcome hsent hwelcomed) hstart

theorem not_accepted (h : Speakable env) {sent payload : Bytes} (hsent : sent <+: after env.cbor .hello) :
    ¬ Accepted env.cbor sent payload := by
  rintro ⟨rest, hwelcomed, hstart⟩
  have hframe : sent <+: frame env.cbor (.HelloResponseV0 ⟨none⟩) ++ [] := by
    rw [List.append_nil]
    exact hsent
  have hrest := awaited_pending h.roundTrip h.welcome hframe hwelcomed
  rw [List.prefix_nil.mp hrest] at hstart
  have hlen := awaitMessage_ok hstart
  simp at hlen

end Ebbflow.ProtocolFrames
