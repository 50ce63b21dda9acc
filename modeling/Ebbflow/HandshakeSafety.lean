import Ebbflow.Framing
import Ebbflow.Tunnel

namespace Ebbflow.HandshakeSafety

open Lib.Wire Lib.Streams Messaging AwaitMessage EstablishConnection LocalConnection CopyBytes RunConnection
open Handshake Dialogue ConnectionRun Framing Tunnel
open MessagingCbor (serdeCbor_roundTrip)

variable {env : Env} {told : Bool} {sent : Bytes} {c c' : Conn} {effect : Effect}
  {effects : List Effect}

def helloMessage (args : EndpointConnectionArgs) : Message :=
  .HelloV0
    { key := args.key
      endpointType := match args.ctype with | .Ssh => .Ssh | .Tls => .Tls
      endpointValue := args.endpoint
      metaMap := .singleton "version" VERSION }

/-- What the client has written to Ebbflow and to the local server, before a
contact with the local server and after it. -/
inductive Spoken (env : Env) (sent : Bytes) (w : Wires) : Prop
  | silent : w.tried = [] → w.loc = none → w.ebb.written = [] → Spoken env sent w
  | hello {hello : Bytes} : w.tried = [] → w.loc = none → FrameOf env.cbor (helloMessage env.args) hello →
      w.ebb.written <+: hello → Spoken env sent w
  | answer {hello payload answer : Bytes} : FrameOf env.cbor (helloMessage env.args) hello →
      Accepted env.cbor sent payload → w.ebb.unread = payload → w.ebb.written = hello ++ answer →
      (answer = [] ∨ ∃ response, FrameOf env.cbor (.StartTrafficResponseV0 ⟨w.loc.isSome⟩) response ∧
        answer <+: response) →
      (∀ loc, w.loc = some loc → loc.written = [] ∧ loc.unread = loc.sent) → Spoken env sent w
  | proxied {hello response payload copied : Bytes} {loc : Stream} :
      FrameOf env.cbor (helloMessage env.args) hello →
      FrameOf env.cbor (.StartTrafficResponseV0 ⟨true⟩) response → Accepted env.cbor sent payload →
      w.ebb.unread <:+ payload → w.loc = some loc → w.ebb.written = hello ++ response ++ copied →
      copied <+: loc.sent → loc.written <+: payload → Spoken env sent w

theorem mapError_ok {α ε δ : Type} {f : ε → δ} {r : Except ε α} {a : α} (h : r.mapError f = .ok a) : r = .ok a := by
  cases r with
  | ok b => exact congrArg Except.ok (Except.ok.inj h)
  | error e => cases h

theorem frameOf_createHello {bs : Bytes} (h : createHello env.cbor env.args = .ok bs) :
    FrameOf env.cbor (helloMessage env.args) bs := frameOf_toWireMessage (mapError_ok h)

theorem frameOf_response {good : Bool} {bs : Bytes} (h : startTrafficResponse env.cbor good = .ok bs) :
    FrameOf env.cbor (.StartTrafficResponseV0 ⟨good⟩) bs := frameOf_toWireMessage (mapError_ok h)

theorem frameOf_helloFrame (h : ∃ bs, createHello env.cbor env.args = .ok bs) :
    FrameOf env.cbor (helloMessage env.args) (helloFrame env) := by
  obtain ⟨bs, hbs⟩ := h
  rw [helloFrame, hello, hbs]
  exact frameOf_createHello hbs

theorem response_begun {answer : Bytes} {good : Bool} (h : answer <+: responseFrame env good) :
    answer = [] ∨ ∃ response, FrameOf env.cbor (.StartTrafficResponseV0 ⟨good⟩) response ∧ answer <+: response := by
  rw [responseFrame, response] at h
  cases hresponse : startTrafficResponse env.cbor good with
  | ok bs =>
      rw [hresponse] at h
      exact .inr ⟨bs, frameOf_response hresponse, h⟩
  | error e =>
      rw [hresponse] at h
      exact .inl (List.prefix_nil.mp h)

def mute : Pc → Bool
  | .started => true
  | .establishing .tcpConnect | .establishing .tlsConnect | .establishing (.finished (.error _)) => true
  | .idleRemoved .elapsed | .idleRemoved (.failed _) => true
  | .badErrorDelay | .minimumDelay | .returning | .returned => true
  | _ => false

structure Mute (c : Conn) : Prop where
  pc : mute c.pc = true
  untouched : Untouched c.wires c.proxy
  written : c.wires.ebb.written = []

theorem mute_establish {e e' : Establish} {s s' : Stream} (hnot : ¬ ∃ bs, createHello env.cbor env.args = .ok bs)
    (hpc : mute (.establishing e) = true) (hstep : Establish.Step env.cbor env.args told e s e' s') :
    mute (.establishing e') = true ∧ s' = s := by
  cases hstep with
  | tcpConnected | tcpFailed | tcpTimeout | tlsFailed => exact ⟨rfl, rfl⟩
  | tlsConnected =>
      refine ⟨?_, rfl⟩
      rw [Establish.sayHello]
      cases hcreate : createHello env.cbor env.args with
      | ok bs => exact absurd ⟨bs, hcreate⟩ hnot
      | error e => rfl
  | wroteSome | wroteAll | writeFailed | flushed | flushFailed | readHelloResponse | helloResponseEof
  | helloResponseFailed | helloResponseTimeout | readTrafficStart | trafficStartEof | trafficStartFailed
  | stopped => cases hpc

theorem mute_step (hnot : ¬ ∃ bs, createHello env.cbor env.args = .ok bs) (h : Mute c)
    (hstep : Step env told c effect c') : Mute c' := by
  have hpc := h.pc
  have hu := h.untouched
  cases hstep with
  | begin => exact ⟨rfl, hu, h.written⟩
  | establish hat hest =>
      rw [hat] at hpc
      obtain ⟨hpc', rfl⟩ := mute_establish hnot hpc hest
      exact ⟨hpc', hu, h.written⟩
  | @established r hat =>
      cases r with
      | ok =>
          rw [hat] at hpc
          cases hpc
      | error e => exact ⟨rfl, hu, h.written⟩
  | elapsed | timedOut | badErrorDelayed | minimumDelayed => exact ⟨rfl, hu, h.written⟩
  | @failed e _ =>
      refine ⟨?_, hu, h.written⟩
      simp only [afterError]
      cases refusedFor e <;> rfl
  | returnIdle | returnPlain => exact ⟨rfl, hu, h.written⟩
  | dropIdle hat | connectLocal hat _ | connectedLocal hat | unconnected hat | addActive hat | proxyEnded hat
  | stopped hat | killed hat | removeActive hat =>
      rw [hat] at hpc
      cases hpc
  | proxy hp =>
      rw [hu.proxy] at hp
      cases hp
  | detachedEnded | aborted => exact ⟨hpc, ⟨hu.tried, hu.loc, rfl⟩, h.written⟩
  | pushEbb => exact ⟨hpc, ⟨hu.tried, hu.loc, hu.proxy⟩, by rw [Stream.push_written, h.written]⟩
  | pushLocal => exact ⟨hpc, ⟨hu.tried, by rw [hu.loc]; rfl, hu.proxy⟩, h.written⟩

theorem run_mute (hnot : ¬ ∃ bs, createHello env.cbor env.args = .ok bs) (h : Run env sent c effects) : Mute c := by
  induction h with
  | spawned => exact ⟨rfl, ⟨rfl, rfl, rfl⟩, rfl⟩
  | step told _ hstep ih => exact mute_step hnot ih hstep

theorem run_spoken (h : Run env sent c effects) : Spoken env sent c.wires := by
  obtain ⟨hinv, hsent⟩ := run_inv h
  by_cases hgreets : ∃ bs, createHello env.cbor env.args = .ok bs
  · have hhello := frameOf_helloFrame hgreets
    cases hinv.over with
    | untouched hu hw => exact .hello hu.tried hu.loc hhello hw
    | answered _ haccepted hanswered =>
        exact .answer hhello (hsent ▸ haccepted) hanswered.unread hanswered.written (response_begun hanswered.tail)
          hanswered.fresh
    | tunnelled ht =>
        obtain ⟨hresponse, payload, loc, haccepted, hloc, hcopied, _⟩ := ht
        obtain ⟨copied, hle, hwritten⟩ := hcopied.toEbb
        exact .proxied hhello (frameOf_response hresponse) (hsent ▸ haccepted) hcopied.unread hloc hwritten hle
          hcopied.toLocal
  · have hmute := run_mute hgreets h
    exact .silent hmute.untouched.tried hmute.untouched.loc hmute.written

theorem ran_spoken (h : Ran env c) : Spoken env c.wires.ebb.sent c.wires := by
  obtain ⟨effects, hrun⟩ := h
  exact run_spoken hrun

theorem Spoken.unaccepted {w : Wires} (h : Spoken env sent w)
    (hnot : ¬ ∃ payload, Accepted env.cbor sent payload) : w.tried = [] ∧ w.loc = none ∧
      (w.ebb.written = [] ∨ ∃ hello, FrameOf env.cbor (helloMessage env.args) hello ∧ w.ebb.written <+: hello) := by
  cases h with
  | silent htried hloc hwritten => exact ⟨htried, hloc, .inl hwritten⟩
  | hello htried hloc hhello hwritten => exact ⟨htried, hloc, .inr ⟨_, hhello, hwritten⟩⟩
  | answer _ haccepted | proxied _ _ haccepted => exact absurd ⟨_, haccepted⟩ hnot

theorem failed_step {e : ConnectionError} (hpc : c.pc = .idleRemoved (.failed e))
    (hstep : Step env told c effect c') :
    c'.pc = c.pc ∨ effect = .message (connectionFailed env e) := by
  cases hstep with
  | @failed e' hpc' =>
      obtain rfl := GetStream.failed.inj (Pc.idleRemoved.inj (hpc.symm.trans hpc'))
      exact Or.inr rfl
  | proxy | detachedEnded | aborted | pushEbb | pushLocal => exact Or.inl rfl
  | begin h | establish h | established h | elapsed h | timedOut h | badErrorDelayed h
  | minimumDelayed h | dropIdle h | connectLocal h | connectedLocal h | unconnected h | addActive h
  | proxyEnded h | stopped h | killed h | removeActive h | returnIdle h | returnPlain h =>
      rw [hpc] at h
      cases h

/-- What is reported ends in the error as it is. -/
theorem connectionFailed_names (env : Env) (e : ConnectionError) :
    ∃ about, connectionFailed env e = about ++ env.debug.error e := by
  rw [connectionFailed]
  split
  · exact ⟨_, rfl⟩
  · exact ⟨_, rfl⟩

theorem run_reports {e : ConnectionError} (h : Run env sent c effects)
    (hpc : c.pc = .idleRemoved (.failed e)) : Reports env.cbor e c.wires.ebb := by
  have hinv := (run_inv h).1.at hpc
  exact hinv.2.2

/-- The client speaks no more than the protocol lets it, contacts the local
server after the two frames that call for it only, and reports a refusal as it is. -/
theorem handshake_safety (env : Env) (sent : Bytes) (c : Conn) (effects : List Effect)
    (h : Run env sent c effects) :
    Spoken env sent c.wires ∧
    ((¬ ∃ payload, Accepted env.cbor sent payload) →
      c.wires.tried = [] ∧ c.wires.loc = none ∧ (c.wires.ebb.written = [] ∨
        ∃ hello, FrameOf env.cbor (helloMessage env.args) hello ∧ c.wires.ebb.written <+: hello)) ∧
    ∀ e, c.pc = .idleRemoved (.failed e) →
      (∀ issue, e = Establish.refusal issue → Refused env.cbor issue sent c.wires.ebb.unread) ∧
      (∀ issue rest, Refused env.cbor issue sent rest →
        e = Establish.refusal issue ∨ rest.length < c.wires.ebb.unread.length) ∧
      (∃ about, connectionFailed env e = about ++ env.debug.error e) ∧
      ∀ told effect c', Step env told c effect c' →
        c'.pc = c.pc ∨ effect = .message (connectionFailed env e) := by
  have hspoken := run_spoken h
  have hsent := (run_inv h).2
  refine ⟨hspoken, hspoken.unaccepted, ?_⟩
  intro e hpc
  have hreports := run_reports h hpc
  refine ⟨?_, ?_, connectionFailed_names env e, ?_⟩
  · intro issue he
    exact hsent ▸ hreports.refused issue he
  · intro issue rest hrefused
    exact hreports.reported issue rest (hsent.symm ▸ hrefused)
  · intro told effect c' hstep
    exact failed_step hpc hstep

def forbidden : Bytes :=
  [0, 0, 0, 21, 0, 0, 0, 6, 161, 101, 105, 115, 115, 117, 101, 105, 70, 111, 114, 98, 105, 100, 100,
    101, 110]

set_option maxRecDepth 4000 in
theorem run_forbidden : ∃ effects,
    Run sampleEnv forbidden (saidHello forbidden (.finished (.error .Forbidden)) []) effects := by
  obtain ⟨_, r⟩ := run_saidHello forbidden
  have r := r.step true (.establish rfl (.readHelloResponse _ _ [0, 0] (by decide)))
  have r := r.step false (.establish rfl (.readHelloResponse _ _ [0, 21] (by decide)))
  have r := r.step false (.establish rfl
    (.readHelloResponse _ _ (forbidden.drop 4) (by decide)))
  exact ⟨_, r⟩

set_option maxRecDepth 4000 in
/-- One run opens its tunnel and has copied in both directions, another is refused. -/
theorem handshake_safety_sample :
    (∃ c effects hello response, Run sampleEnv sampleSent c effects ∧
      IsFrame sampleEnv.cbor hello (.HelloV0 (.new "key" .Tls "test.mywebsite.com")) ∧
      IsFrame sampleEnv.cbor response (.StartTrafficResponseV0 ⟨true⟩) ∧
      ∃ copied, c.wires.ebb.written = hello ++ response ++ copied ∧ copied <+: [9]) ∧
    ∃ c effects, Run sampleEnv forbidden c effects ∧ c.pc = .idleRemoved (.failed .Forbidden) ∧
      Spoken sampleEnv forbidden c.wires ∧
      ∀ told effect c', Step sampleEnv told c effect c' →
        c'.pc = c.pc ∨ effect = .message (connectionFailed sampleEnv .Forbidden) := by
  constructor
  · obtain ⟨_, r⟩ := run_openTunnel [9]
    have r := r.step false (.proxy rfl rfl (.ebb2local rfl (.readSome _ _ [1, 2] (by decide))))
    have r := r.step false (.proxy rfl rfl (.ebb2local rfl (.wroteAll _ _ _)))
    have r := r.step false (.proxy rfl rfl (.local2ebb rfl (.readSome _ _ [9] (by decide))))
    have r := r.step false (.proxy rfl rfl (.local2ebb rfl (.wroteAll _ _ _)))
    have hlen : (helloFrame sampleEnv ++ responseFrame sampleEnv true ++ [9]).length ≤ 4 + messageLimit := by decide
    cases (handshake_safety _ _ _ _ r).1 with
    | silent htried | hello htried => cases htried
    | answer _ _ _ _ _ hfresh => cases (hfresh _ rfl).1
    | @proxied hello response _ copied loc hhello hresponse _ _ hloc hwritten hle =>
        obtain rfl := Option.some.inj hloc
        have hall : helloFrame sampleEnv ++ responseFrame sampleEnv true ++ [9] = hello ++ response ++ copied :=
          hwritten
        rw [hall, List.length_append, List.length_append] at hlen
        exact ⟨_, _, hello, response, r, hhello.isFrame serdeCbor_roundTrip (by omega),
          hresponse.isFrame serdeCbor_roundTrip (by omega), copied, hwritten, hle⟩
  · obtain ⟨_, r⟩ := run_forbidden
    have r := r.step false (.established rfl)
    exact ⟨_, _, r, rfl, (handshake_safety _ _ _ _ r).1, ((handshake_safety _ _ _ _ r).2.2 _ rfl).2.2.2⟩

end Ebbflow.HandshakeSafety
