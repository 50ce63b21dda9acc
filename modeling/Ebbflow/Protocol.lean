import Ebbflow.ProtocolFrames

namespace Ebbflow.Protocol

open Lib.Wire Lib.Streams Lib.Duplex Messaging Messaging.Message AwaitMessage EstablishConnection
open RunConnection Handshake ConnectionRun HandshakeSafety MockEbb MockRun ClientParty ProtocolFrames

variable {env : Env} {s : Served} {j : Joint Conn Served}

/-- The client and the mock at the two ends of one stream, whatever the local
server, the customer and the network do. -/
abbrev Connected (env : Env) : Joint Conn Served → Prop := Lib.Duplex.Reaches (client env) (mock env.cbor)

theorem Connected.run (h : Connected env j) : ∃ effects, Run env j.left.wires.ebb.sent j.left effects :=
  reaches_run h.left

theorem Connected.inv (h : Connected env j) : MockRun.Inv env.cbor j.right := reaches_inv h.right

theorem Connected.toMock (h : Connected env j) : ∃ good tail,
    j.right.ebb.sent <+: helloFrame env ++ (responseFrame env good ++ tail) ∧
      (tail = [] ∨ ∃ loc, j.left.wires.loc = some loc ∧ tail <+: loc.sent) := by
  obtain ⟨effects, hrun⟩ := h.run
  obtain ⟨good, tail, hw, htail⟩ := client_written hrun
  rw [List.append_assoc] at hw
  exact ⟨good, tail, h.flow_right.trans ((Stream.delivered_le _).trans hw), htail⟩

theorem Connected.toClient (h : Connected env j) : ∃ tail,
    j.left.wires.ebb.sent <+: after env.cbor .traffic ++ tail ∧
      (tail = [] ∨ ∃ k, j.right.customer = some k ∧ tail <+: k.sent) := by
  obtain ⟨tail, hw, htail⟩ := mock_written h.inv
  exact ⟨tail, h.flow_left.trans ((Stream.delivered_le _).trans hw), htail⟩

/-- The two programs keep to one protocol, and carry the bytes of one customer. -/
structure Agrees (j : Joint Conn Served) : Prop where
  mock : ∀ p, j.right.pc = .panicked p → ∃ e, p = .Io e
  client : ∀ e, j.left.pc = .idleRemoved (.failed e) → isOwn e = true
  dialed : j.left.wires.tried ≠ [] → j.right.customer.isSome
  toLocal : ∀ loc, j.left.wires.loc = some loc →
    ∃ k, j.right.customer = some k ∧ loc.delivered <+: k.sent
  toCustomer : ∀ k, j.right.customer = some k → k.delivered = [] ∨
    ∃ loc, j.left.wires.loc = some loc ∧ k.delivered <+: loc.sent

theorem connected_mock (h : Speakable env) (hc : Connected env j) {p : Panic} (hpc : j.right.pc = .panicked p) :
    ∃ e, p = .Io e := by
  obtain ⟨_, hreproached⟩ := hc.inv.at hpc
  obtain ⟨good, tail, hsent, _⟩ := hc.toMock
  cases p with
  | Io e => exact ⟨e, rfl⟩
  | Parse e | Unexpected m => exact absurd hreproached (not_misheard h hsent)
  | Encode e =>
      obtain ⟨x, hx⟩ := hreproached
      exact absurd hx (sends_ok h x e)

theorem createHello_ok (h : Speakable env) (e : ConnectionError) :
    createHello env.cbor env.args ≠ .error e := by
  obtain ⟨payload, hpayload, hfit⟩ := h.hello
  rw [createHello_eq, toWireMessage_eq hpayload hfit]
  exact fun he => by cases he

theorem connected_client (h : Speakable env) (hc : Connected env j) {e : ConnectionError}
    (hpc : j.left.pc = .idleRemoved (.failed e)) : isOwn e = true := by
  obtain ⟨effects, hrun⟩ := hc.run
  obtain ⟨tail, hsent, _⟩ := hc.toClient
  rcases run_explains hrun e (.inr hpc) with hown | hblames | hcreate
  · exact hown
  · exact absurd hblames (not_blames h hsent)
  · exact absurd hcreate (createHello_ok h e)

theorem accepted_customer (h : Speakable env) (hc : Connected env j) {payload : Bytes}
    (haccepted : Accepted env.cbor j.left.wires.ebb.sent payload) :
    ∃ k, j.right.customer = some k ∧ payload <+: k.sent := by
  obtain ⟨tail, hsent, htail⟩ := hc.toClient
  have hpayload := accepted_tail h hsent haccepted
  cases hk : j.right.customer with
  | none =>
      have hle := hc.flow_left.trans ((Stream.delivered_le _).trans (mock_unattached hc.inv hk))
      exact absurd haccepted (not_accepted h hle)
  | some k =>
      refine ⟨k, rfl, hpayload.trans ?_⟩
      rcases htail with rfl | ⟨k', hk', hle⟩
      · exact List.nil_prefix
      · rw [hk] at hk'
        obtain rfl := Option.some.inj hk'
        exact hle

theorem fresh_delivered {loc : Stream} (h : loc.written = []) : loc.delivered = [] := by
  have hle := Stream.delivered_le loc
  rw [h] at hle
  exact List.prefix_nil.mp hle

theorem connected_toLocal (h : Speakable env) (hc : Connected env j) {loc : Stream}
    (hloc : j.left.wires.loc = some loc) : ∃ k, j.right.customer = some k ∧ loc.delivered <+: k.sent := by
  obtain ⟨effects, hrun⟩ := hc.run
  cases run_spoken hrun with
  | silent _ hnone _ | hello _ hnone _ _ =>
      rw [hnone] at hloc
      cases hloc
  | answer _ haccepted _ _ _ hfresh =>
      obtain ⟨k, hk, _⟩ := accepted_customer h hc haccepted
      refine ⟨k, hk, ?_⟩
      rw [fresh_delivered (hfresh loc hloc).1]
      exact List.nil_prefix
  | proxied _ _ haccepted _ hloc' _ _ hle =>
      obtain rfl := Option.some.inj (hloc.symm.trans hloc')
      obtain ⟨k, hk, hpayload⟩ := accepted_customer h hc haccepted
      exact ⟨k, hk, (Stream.delivered_le _).trans (hle.trans hpayload)⟩

theorem connected_dialed (h : Speakable env) (hc : Connected env j) (htried : j.left.wires.tried ≠ []) :
    j.right.customer.isSome := by
  obtain ⟨effects, hrun⟩ := hc.run
  cases run_spoken hrun with
  | silent hnil | hello hnil => exact absurd hnil htried
  | answer _ haccepted | proxied _ _ haccepted =>
      obtain ⟨k, hk, _⟩ := accepted_customer h hc haccepted
      rw [hk]
      rfl

theorem copied_tail (h : Speakable env) {good : Bool} {sent tail greeting response payload : Bytes}
    (hsent : sent <+: helloFrame env ++ (responseFrame env good ++ tail)) (hg : Spoke env.cbor .hello greeting)
    (hr : Spoke env.cbor .traffic response) (htaken : sent = greeting ++ response ++ payload) :
    payload <+: tail := by
  rw [List.append_assoc] at htaken
  obtain ⟨_, hrest⟩ := spoke_hello h hsent hg htaken
  obtain ⟨body, m, hframed, _⟩ := hr
  exact (taken_response h hrest hframed rfl).2.1

theorem served_or_copying {cbor : SerdeCbor} (h : MockRun.Inv cbor s) {k : Stream} (hk : s.customer = some k) :
    k.written = [] ∨ ∃ c d, Copying cbor c d s.ebb k := by
  rw [MockRun.Inv] at h
  cases hpc : s.pc with rw [hpc] at h
  | reading x reader => exact .inl (h.2.2.1 k hk).1
  | writing x rest | flushing x => exact .inl (h.2.1 k hk).1
  | pooled =>
      rw [h.2.2.1] at hk
      cases hk
  | copying c d =>
      obtain ⟨k', hk', hcopying⟩ := h
      obtain rfl := Option.some.inj (hk.symm.trans hk')
      exact .inr ⟨c, d, hcopying⟩
  | failed e => exact .inl (h.1 k hk).1
  | panicked p => exact .inl (h.1.1 k hk).1

theorem connected_toCustomer (h : Speakable env) (hc : Connected env j) {k : Stream}
    (hk : j.right.customer = some k) :
    k.delivered = [] ∨ ∃ loc, j.left.wires.loc = some loc ∧ k.delivered <+: loc.sent := by
  rcases served_or_copying hc.inv hk with hnil | ⟨c, d, greeting, response, payload, hg, hr, htaken, hto, _⟩
  · exact .inl (fresh_delivered hnil)
  · obtain ⟨good, tail, hsent, htail⟩ := hc.toMock
    obtain ⟨copied, hcopied, hwritten⟩ := hto.copied
    have hdelivered := Stream.delivered_le k
    rw [hwritten, List.nil_append] at hdelivered
    have hle := hdelivered.trans (hcopied.trans (copied_tail h hsent hg hr htaken))
    rcases htail with rfl | ⟨loc, hloc, htail⟩
    · exact .inl (List.prefix_nil.mp hle)
    · exact .inr ⟨loc, hloc, hle.trans htail⟩

/-- In every interleaving of the two programs neither meets a message it does
not expect, the client dials for customers only, and what each end of the
tunnel receives is what the other end sent, from its first byte on. -/
theorem client_and_mock_agree (env : Env) (h : Speakable env) (j : Joint Conn Served) (hc : Connected env j) :
    Agrees j where
  mock _ hpc := connected_mock h hc hpc
  client _ hpc := connected_client h hc hpc
  dialed htried := connected_dialed h hc htried
  toLocal _ hloc := connected_toLocal h hc hloc
  toCustomer _ hk := connected_toCustomer h hc hk

theorem sample_speakable : Speakable sampleEnv where
  roundTrip := MessagingCbor.serdeCbor_roundTrip
  hello := ⟨_, rfl, by decide⟩
  welcome := ⟨_, rfl, by decide⟩
  response good := by cases good <;> exact ⟨_, rfl, by decide⟩

theorem Connected.step_left {c' : Conn} {effect : Effect} (h : Connected env j) (told : Bool)
    (hstep : RunConnection.Step env told j.left effect c')
    (hopen : ClientParty.awaits j.left = true → j.left.wires.ebb.unread ≠ []) :
    Connected env { j with left := c' } := h.open_left (client_open hstep hopen)

theorem Connected.step_right {s' : Served} (h : Connected env j) (hstep : MockEbb.Step env.cbor j.right s')
    (hopen : MockEbb.awaits j.right = true → j.right.ebb.unread ≠ []) :
    Connected env { j with right := s' } := h.open_right (mock_open hstep hopen)

theorem Connected.read_right {x : Exchange} {reader : Awaiting} (h : Connected env j) (chunk : Bytes)
    (hpc : j.right.pc = .reading x reader) (hread : j.right.ebb.Readable reader.missing chunk) :
    Connected env { j with
      right := { j.right with
        pc := Serving.afterReceive env.cbor x (receive reader chunk), ebb := j.right.ebb.read chunk } } := by
  refine h.step_right (.read hpc hread) ?_
  intro _ hnil
  exact hread.1 (List.prefix_nil.mp (hnil ▸ hread.2.2))

def pooledSample : Joint Conn Served where
  left := ⟨.establishing (.awaitTrafficStart .start), true,
    ⟨⟨after MessagingCbor.serdeCbor .hello, [], helloFrame sampleEnv, []⟩, none, []⟩, none, false⟩
  right := ⟨.pooled, ⟨helloFrame sampleEnv, [], after MessagingCbor.serdeCbor .hello, []⟩, none⟩
  leftEnded := false
  rightEnded := false

set_option maxRecDepth 8000 in
theorem connected_pooled : Connected sampleEnv pooledSample := by
  have r : Connected sampleEnv _ := .refl
  have r := r.step_left false (.begin rfl) Bool.noConfusion
  have r := r.step_left false (.establish rfl (.tcpConnected _)) Bool.noConfusion
  have r := r.step_left false (.establish rfl (.tlsConnected _)) Bool.noConfusion
  have r := r.step_left false (.establish rfl (.wroteAll _)) Bool.noConfusion
  have r := r.step_left false (.pushEbb _ 1000) Bool.noConfusion
  have r := r.step_left false (.establish rfl (.flushed _ rfl)) Bool.noConfusion
  have r : Connected sampleEnv _ := r.tail (.toRight (helloFrame sampleEnv) rfl (by decide +kernel))
  have r := r.read_right [0, 0, 0, 85] rfl (by decide +kernel)
  have r := r.read_right ((helloFrame sampleEnv).drop 4) rfl (by decide +kernel)
  have r := r.step_right (.wroteAll rfl) Bool.noConfusion
  have r := r.step_right (.pushEbb _ 1000) Bool.noConfusion
  have r := r.step_right (.flushed rfl rfl) Bool.noConfusion
  have r : Connected sampleEnv _ := r.tail (.toLeft (after MessagingCbor.serdeCbor .hello) rfl (by decide +kernel))
  have r := r.step_left false (.establish rfl (.readHelloResponse _ _ [0, 0, 0, 12] (by decide +kernel)))
    (fun _ => by decide +kernel)
  have r := r.step_left false
    (.establish rfl (.readHelloResponse _ _ ((after MessagingCbor.serdeCbor .hello).drop 4) (by decide +kernel)))
    (fun _ => by decide +kernel)
  exact r

set_option maxRecDepth 8000 in
theorem client_and_mock_agree_sample : ∃ j loc k, Connected sampleEnv j ∧ Agrees j ∧
    j.left.wires.loc = some loc ∧ loc.delivered = [1, 2] ∧ j.right.customer = some k ∧ k.sent = [1, 2, 3] := by
  have r := connected_pooled
  have r := r.step_right (.popped [1, 2, 3] rfl) Bool.noConfusion
  have r := r.step_right (.wroteAll rfl) Bool.noConfusion
  have r := r.step_right (.pushEbb _ 1000) Bool.noConfusion
  have r := r.step_right (.flushed rfl rfl) Bool.noConfusion
  have r : Connected sampleEnv _ := r.tail
    (.toLeft (frame MessagingCbor.serdeCbor .StartTrafficV0) rfl (by decide +kernel))
  have r := r.step_left false (.establish rfl (.readTrafficStart _ _ [0, 0, 0, 4] (by decide +kernel)))
    (fun _ => by decide +kernel)
  have r := r.step_left false (.establish rfl (.readTrafficStart _ _ [0, 0, 0, 7] (by decide +kernel)))
    (fun _ => by decide +kernel)
  have r := r.step_left false (.established rfl) Bool.noConfusion
  have r := r.step_left false (.dropIdle rfl) Bool.noConfusion
  have r := r.step_left false (.connectLocal rfl (.dial _ _ _ _)) Bool.noConfusion
  have r := r.step_left false (.connectLocal rfl (.connected _ _ _ _ [9])) Bool.noConfusion
  have r := r.step_left false (.connectLocal rfl (.wroteAll _ _ _)) Bool.noConfusion
  have r := r.step_left false (.pushEbb _ 1000) Bool.noConfusion
  have r := r.step_left false (.connectedLocal rfl) Bool.noConfusion
  have r := r.step_left false (.addActive rfl) Bool.noConfusion
  have r : Connected sampleEnv _ := r.tail (.toRight (responseFrame sampleEnv true) rfl (by decide +kernel))
  have r := r.read_right [0, 0, 0, 32] rfl (by decide +kernel)
  have r := r.read_right ((responseFrame sampleEnv true).drop 4) rfl (by decide +kernel)
  have r : Connected sampleEnv _ := r.open_right (fromCustomer_open rfl rfl (.readSome _ _ [1, 2] (by decide)))
  have r : Connected sampleEnv _ := r.open_right (fromCustomer_open rfl rfl (.wroteAll _ _ _))
  have r : Connected sampleEnv _ := r.tail (.right (.pushEbb _ 1000) (.inl fun _ => .pushEbb _ 1000))
  have r : Connected sampleEnv _ := r.tail (.toLeft [1, 2] rfl (by decide +kernel))
  have r := r.step_left false (.proxy rfl rfl (.ebb2local rfl (.readSome _ _ [1, 2] (by decide +kernel))))
    (fun _ => by decide +kernel)
  have r := r.step_left false (.proxy rfl rfl (.ebb2local rfl (.wroteAll _ _ _))) Bool.noConfusion
  have r := r.step_left false (.pushLocal _ 1000) Bool.noConfusion
  exact ⟨_, _, _, r, client_and_mock_agree _ sample_speakable _ r, rfl, rfl, rfl, rfl⟩

end Ebbflow.Protocol
