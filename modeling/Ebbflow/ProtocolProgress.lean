import Ebbflow.Protocol

namespace Ebbflow.ProtocolProgress

open Lib.BigEndian Lib.Wire Lib.Streams Lib.Duplex Messaging Messaging.Message AwaitMessage EstablishConnection
open RunConnection Handshake ConnectionRun HandshakeFlush MockEbb MockRun ClientParty ProtocolFrames Protocol

variable {env : Env} {j : Joint Conn Served} {reader : Awaiting} {source bs body rest : Bytes} {m : Message}

/-- All that either side let go of has arrived and was read. -/
structure Quiet (j : Joint Conn Served) : Prop where
  toLeft : j.left.wires.ebb.sent = j.right.ebb.delivered
  toRight : j.right.ebb.sent = j.left.wires.ebb.delivered
  left : j.left.wires.ebb.unread = []
  right : j.right.ebb.unread = []

/-- The mock is about to write, waits for a customer, or has given up. -/
def Moves : Serving → Prop
  | .writing _ _ | .flushing _ | .failed _ | .panicked _ => True
  | _ => False

theorem pending_not_framed (h : Pending reader source []) (hframed : Framed bs body) : ¬ bs <+: source := by
  rintro ⟨rest, rfl⟩
  obtain ⟨lenbuf, rfl, hfour, hlen⟩ := hframed
  cases reader with
  | lenbuf got =>
      obtain ⟨hsource, hlt⟩ := h
      have hle := congrArg List.length hsource
      simp only [List.length_append, List.length_nil] at hle
      omega
  | msgbuf len got =>
      obtain ⟨lenbuf', hsource, hfour', hlen', hlt⟩ := h
      rw [List.append_nil, List.append_assoc] at hsource
      obtain ⟨rfl, rfl⟩ := List.append_inj hsource (hfour.trans hfour'.symm)
      rw [List.length_append] at hlt
      omega

theorem delivered_of_held {s : Stream} (h : s.held = []) : s.delivered = s.written := by
  rw [Stream.written, h, List.append_nil]

theorem not_dry (hcbor : env.cbor.RoundTrip) (hm : Framing.Sendable env.cbor m) (hpos : 0 < reader.missing)
    (h : awaitMessage env.cbor (frame env.cbor m ++ rest) = reader.resume env.cbor []) : False := by
  rw [frame_awaited hcbor hm] at h
  exact Nat.not_lt_zero _ (resume_consumes hpos h.symm)

theorem not_reading_hello (h : Speakable env) (hc : Connected env j) (hq : Quiet j)
    (hsent : j.right.ebb.sent = helloFrame env) : j.right.pc ≠ .reading .hello reader := by
  intro hpc
  obtain ⟨_, _, _, _, taken, source, htaken, hsource, hpending⟩ := hc.inv.at hpc
  obtain rfl : taken = [] := htaken
  rw [hq.right] at hpending
  obtain ⟨body, hframed, _⟩ := frame_framed h.roundTrip h.hello
  rw [← helloFrame_eq, ← hsent] at hframed
  exact pending_not_framed hpending hframed (hsource ▸ List.prefix_rfl)

theorem not_copying (h : Speakable env) (hc : Connected env j) (hsent : j.right.ebb.sent = helloFrame env)
    {c d : CopyBytes.Copy} : j.right.pc ≠ .copying c d := by
  intro hpc
  obtain ⟨k, _, greeting, response, payload, hg, hr, htaken, _⟩ := hc.inv.at hpc
  have hle : j.right.ebb.sent <+: helloFrame env ++ [] := by
    rw [List.append_nil]
    exact hsent ▸ List.prefix_rfl
  rw [List.append_assoc] at htaken
  obtain ⟨_, hrest⟩ := spoke_hello h hle hg htaken
  obtain ⟨body, m, ⟨lenbuf, rfl, hfour, _⟩, _⟩ := hr
  have hlen := hrest.length_le
  simp only [List.length_append, List.length_nil] at hlen
  omega

theorem not_welcomed (h : Speakable env) (hc : Connected env j) (hq : Quiet j)
    (hpc : j.left.pc = .establishing (.awaitHelloResponse reader)) :
    j.right.ebb.delivered ≠ after env.cbor .hello ∧ j.right.ebb.delivered ≠ after env.cbor .traffic := by
  obtain ⟨effects, hrun⟩ := hc.run
  obtain ⟨_, _, hpos, hresume⟩ := (run_inv hrun).1.at hpc
  rw [hq.left, hq.toLeft] at hresume
  constructor
  · intro hd
    have hframe : j.right.ebb.delivered = frame env.cbor (.HelloResponseV0 ⟨none⟩) ++ [] := by
      rw [hd, List.append_nil]
      rfl
    rw [hframe] at hresume
    exact not_dry h.roundTrip h.welcome hpos hresume
  · intro hd
    rw [hd, ← List.append_nil (after env.cbor .traffic), after_traffic] at hresume
    exact not_dry h.roundTrip h.welcome hpos hresume

theorem not_started (h : Speakable env) (hc : Connected env j) (hq : Quiet j)
    (hpc : j.left.pc = .establishing (.awaitTrafficStart reader)) :
    j.right.ebb.delivered ≠ after env.cbor .traffic := by
  intro hd
  obtain ⟨effects, hrun⟩ := hc.run
  obtain ⟨_, _, hpos, tail, hwelcomed, hresume⟩ := (run_inv hrun).1.at hpc
  rw [hq.left] at hresume
  rw [Welcomed, hq.toLeft, hd, ← List.append_nil (after env.cbor .traffic), after_traffic,
    frame_awaited h.roundTrip h.welcome] at hwelcomed
  obtain ⟨_, rfl⟩ := Prod.mk.inj hwelcomed
  exact not_dry h.roundTrip sendable_start hpos hresume

theorem afterHello_cases {pc : Pc} (h : afterHello pc = true) :
    (∃ reader, pc = .establishing (.awaitHelloResponse reader)) ∨
      ∃ reader, pc = .establishing (.awaitTrafficStart reader) := by
  cases pc with
  | establishing e =>
      cases e with
      | awaitHelloResponse reader => exact .inl ⟨reader, rfl⟩
      | awaitTrafficStart reader => exact .inr ⟨reader, rfl⟩
      | tcpConnect | tlsConnect | writeHello | flushHello | finished => cases h
  | _ => cases h

theorem waiting_client (h : Speakable env) (hc : Connected env j) (hq : Quiet j)
    (hwait : afterHello j.left.pc = true) :
    Moves j.right.pc ∨
      (j.right.pc = .pooled ∧ ∃ reader, j.left.pc = .establishing (.awaitTrafficStart reader)) := by
  obtain ⟨effects, hrun⟩ := hc.run
  have hsent : j.right.ebb.sent = helloFrame env := by
    rw [hq.toRight, delivered_of_held (run_held hrun hwait),
      written_hello (run_inv hrun).1 (helloWritten_of_afterHello hwait)]
  cases hpc : j.right.pc with
  | writing x left | flushing x | failed e | panicked p => exact .inl trivial
  | copying c d => exact absurd hpc (not_copying h hc hsent)
  | pooled =>
      obtain ⟨hw, hheld, _⟩ := hc.inv.at hpc
      rcases afterHello_cases hwait with ⟨reader, hleft⟩ | hleft
      · exact absurd (delivered_of_held hheld ▸ hw) (not_welcomed h hc hq hleft).1
      · exact .inr ⟨rfl, hleft⟩
  | reading x reader =>
      cases x with
      | hello => exact absurd hpc (not_reading_hello h hc hq hsent)
      | traffic =>
          obtain ⟨hw, hheld, _⟩ := hc.inv.at hpc
          have hd : j.right.ebb.delivered = after env.cbor .traffic := delivered_of_held hheld ▸ hw
          rcases afterHello_cases hwait with ⟨reader, hleft⟩ | ⟨reader, hleft⟩
          · exact absurd hd (not_welcomed h hc hq hleft).2
          · exact absurd hd (not_started h hc hq hleft)

/-- A mock that waits for the response waits for what the client holds back. -/
theorem waiting_mock (h : Speakable env) (hc : Connected env j) (hq : Quiet j) {good : Bool}
    (hpc : j.right.pc = .reading .traffic reader)
    (hw : helloFrame env ++ responseFrame env good <+: j.left.wires.ebb.written) :
    j.left.wires.ebb.held ≠ [] := by
  intro hheld
  obtain ⟨more, hmore⟩ := hw
  obtain ⟨_, _, _, _, taken, source, htaken, hsource, hpending⟩ := hc.inv.at hpc
  have hsent : j.right.ebb.sent = helloFrame env ++ (responseFrame env good ++ more) := by
    rw [hq.toRight, delivered_of_held hheld, ← hmore, List.append_assoc]
  have hle : j.right.ebb.sent <+: helloFrame env ++ (responseFrame env good ++ more) :=
    hsent ▸ List.prefix_rfl
  obtain ⟨rfl, _⟩ := spoke_hello h hle htaken hsource
  rw [hsource] at hsent
  obtain rfl := List.append_cancel_left hsent
  rw [hq.right] at hpending
  obtain ⟨body, hframed, _⟩ := frame_framed h.roundTrip (h.response good)
  rw [← responseFrame_eq] at hframed
  exact pending_not_framed hpending hframed (List.prefix_append _ _)

/-- The two never wait for each other while nothing is in transit: either it is
the mock's turn, or both wait for a customer, or the client has not let go of
the response that the mock waits for. -/
theorem handshake_never_stalls (env : Env) (h : Speakable env) (j : Joint Conn Served) (hc : Connected env j)
    (hq : Quiet j) :
    (afterHello j.left.pc = true → Moves j.right.pc ∨
      (j.right.pc = .pooled ∧ ∃ reader, j.left.pc = .establishing (.awaitTrafficStart reader))) ∧
    ∀ reader good, j.right.pc = .reading .traffic reader →
      helloFrame env ++ responseFrame env good <+: j.left.wires.ebb.written → j.left.wires.ebb.held ≠ [] :=
  ⟨waiting_client h hc hq, fun _ _ hpc hw => waiting_mock h hc hq hpc hw⟩

theorem handshake_never_stalls_sample :
    Moves pooledSample.right.pc ∨ (pooledSample.right.pc = .pooled ∧
      ∃ reader, pooledSample.left.pc = .establishing (.awaitTrafficStart reader)) :=
  (handshake_never_stalls sampleEnv sample_speakable pooledSample connected_pooled ⟨rfl, rfl, rfl, rfl⟩).1 rfl

end Ebbflow.ProtocolProgress
