import Ebbflow.HandshakeFlush
import Ebbflow.Lib.Duplex

namespace Ebbflow.ClientParty

open Lib.BigEndian Lib.Wire Lib.Streams Lib.Duplex Messaging AwaitMessage EstablishConnection LocalConnection
open CopyBytes RunConnection Handshake ConnectionRun HandshakeFlush Relation

variable {cbor : SerdeCbor} {env : Env} {told : Bool} {c c' : Conn} {effect : Effect} {input rest more : Bytes}
  {r : Except ConnectionError Message}

def arrive (c : Conn) (bs : Bytes) : Conn :=
  { c with wires := { c.wires with ebb := extend c.wires.ebb bs } }

/-- The Ebbflow stream was dropped: the handshake or the answer gave it up, or
the proxy that owned it is gone. -/
def letGo (c : Conn) : Prop :=
  c.proxy = none ∧
    match c.pc with
    | .started | .establishing _ | .idleRemoved .stream | .connectingLocal _ | .ready | .proxying => False
    | .idleRemoved (.failed _) | .idleRemoved .elapsed | .badErrorDelay | .minimumDelay | .killDelay
    | .proxied | .returning | .returned => True

def client (env : Env) : Party Conn where
  stream c := c.wires.ebb
  more := arrive
  start := .spawned
  Step c c' := ∃ told effect, RunConnection.Step env told c effect c'
  closed := letGo
  stream_start _ := rfl
  stream_more _ _ := rfl
  start_more _ _ := rfl
  more_nil c := by simp [arrive]
  more_more c bs cs := by simp [arrive]
  sent_step := fun ⟨_, _, hstep⟩ => step_sent hstep
  delivered_step := fun ⟨_, _, hstep⟩ => step_grows hstep

theorem reaches_run {script : Bytes} (h : (client env).Reaches script c) :
    ∃ effects, Run env script c effects := by
  induction h with
  | refl => exact ⟨[], .spawned⟩
  | tail _ hstep ih =>
      obtain ⟨effects, hrun⟩ := ih
      obtain ⟨told, effect, hstep⟩ := hstep
      exact ⟨_, hrun.step told hstep⟩

theorem run_reaches {script : Bytes} {effects : List Effect} (h : Run env script c effects) :
    (client env).Reaches script c := by
  induction h with
  | spawned => exact .refl
  | step told _ hstep ih => exact ih.tail ⟨told, _, hstep⟩

def awaiting : Establish → Bool
  | .awaitHelloResponse _ | .awaitTrafficStart _ => true
  | _ => false

def awaits (c : Conn) : Bool :=
  (match c.pc with
    | .establishing e => awaiting e
    | _ => false) || c.proxy.any fun p => p.ebb2local.isReading

theorem establish_open {args : EndpointConnectionArgs} {e e' : Establish} {s s' : Stream}
    (hstep : Establish.Step cbor args told e s e' s') (h : awaiting e = true → s.unread ≠ []) (bs : Bytes) :
    Establish.Step cbor args told e (extend s bs) e' (extend s' bs) := by
  cases hstep with
  | tcpConnected => exact .tcpConnected _
  | tcpFailed _ e => exact .tcpFailed _ e
  | tcpTimeout => exact .tcpTimeout _
  | tlsConnected => exact .tlsConnected _
  | tlsFailed _ e => exact .tlsFailed _ e
  | wroteSome _ hbs hleft => exact .wroteSome _ hbs hleft
  | wroteAll => exact .wroteAll _
  | writeFailed _ rest e => exact .writeFailed _ rest e
  | flushed _ hheld => exact .flushed _ hheld
  | flushFailed _ e => exact .flushFailed _ e
  | readHelloResponse _ reader chunk hread =>
      rw [← read_extend hread]
      exact .readHelloResponse _ reader chunk (readable_extend hread bs)
  | readTrafficStart _ reader chunk hread =>
      rw [← read_extend hread]
      exact .readTrafficStart _ reader chunk (readable_extend hread bs)
  | helloResponseEof _ reader hnil | trafficStartEof _ reader hnil => exact absurd hnil (h rfl)
  | helloResponseFailed _ reader e => exact .helloResponseFailed _ reader e
  | helloResponseTimeout _ reader => exact .helloResponseTimeout _ reader
  | trafficStartFailed _ reader e => exact .trafficStartFailed _ reader e
  | stopped _ reader htold => exact .stopped _ reader htold

theorem connectLocal_open {l l' : ConnectLocal} {w w' : Wires} {m : Option String}
    (hstep : ConnectLocal.Step env.cbor env.debug env.args l w m l' w') (bs : Bytes) :
    ConnectLocal.Step env.cbor env.debug env.args l { w with ebb := extend w.ebb bs } m l'
      { w' with ebb := extend w'.ebb bs } := by
  cases hstep with
  | dial _ addr left errors => exact .dial _ addr left errors
  | connected _ addr left errors sent => exact .connected _ addr left errors sent
  | unusable _ addr left errors e => exact .unusable _ addr left errors e
  | refused _ addr left errors e => exact .refused _ addr left errors e
  | timedOut _ addr left errors => exact .timedOut _ addr left errors
  | exhausted _ errors => exact .exhausted _ errors
  | wroteSome _ outcome hbs hleft => exact .wroteSome _ outcome hbs hleft
  | wroteAll _ outcome rest => exact .wroteAll _ outcome rest
  | writeFailed _ outcome rest e => exact .writeFailed _ outcome rest e

theorem proxy_open {p p' : Proxy} {ebb loc ebb' loc' : Stream} (hstep : Proxy.Step p ebb loc p' ebb' loc')
    (h : p.ebb2local.isReading = true → ebb.unread ≠ []) (bs : Bytes) :
    Proxy.Step p (extend ebb bs) loc p' (extend ebb' bs) loc' := by
  cases hstep with
  | local2ebb hended hcopy => exact .local2ebb hended (writer_open hcopy bs)
  | ebb2local hended hcopy => exact .ebb2local hended (reader_open hcopy h bs)

/-- Only the end of what Ebbflow sends makes a step depend on there being no more. -/
theorem client_open (hstep : RunConnection.Step env told c effect c')
    (h : awaits c = true → c.wires.ebb.unread ≠ []) : (client env).Open c c' := by
  intro bs
  refine ⟨told, effect, ?_⟩
  cases hstep with
  | establish hpc hest =>
      exact .establish hpc (establish_open hest (fun hawait => h (by simp [awaits, hpc, hawait])) bs)
  | connectLocal hpc hlocal => exact .connectLocal hpc (connectLocal_open hlocal bs)
  | proxy hp hloc hproxy =>
      exact .proxy hp hloc (proxy_open hproxy (fun hreading => h (by simp [awaits, hp, hreading])) bs)
  | begin hpc => exact .begin hpc
  | established hpc => exact .established hpc
  | elapsed hpc hr => exact .elapsed hpc hr
  | timedOut hpc => exact .timedOut hpc
  | failed hpc => exact .failed hpc
  | badErrorDelayed hpc => exact .badErrorDelayed hpc
  | minimumDelayed hpc => exact .minimumDelayed hpc
  | dropIdle hpc => exact .dropIdle hpc
  | connectedLocal hpc => exact .connectedLocal hpc
  | unconnected hpc => exact .unconnected hpc
  | addActive hpc => exact .addActive hpc
  | proxyEnded hpc hp hended => exact .proxyEnded hpc hp hended
  | stopped hpc htold => exact .stopped hpc htold
  | killed hpc => exact .killed hpc
  | detachedEnded hpc hp hended => exact .detachedEnded hpc hp hended
  | aborted habort => exact .aborted habort
  | removeActive hpc => exact .removeActive hpc
  | returnIdle hpc hpermit => exact .returnIdle hpc hpermit
  | returnPlain hpc hpermit => exact .returnPlain hpc hpermit
  | pushEbb n => exact .pushEbb _ n
  | pushLocal n => exact .pushLocal _ n

theorem readExact_more {n : Nat} {bs : Bytes} (h : readExact n input = (.ok bs, rest)) (more : Bytes) :
    readExact n (input ++ more) = (.ok bs, rest ++ more) := by
  obtain ⟨rfl, hlen⟩ := readExact_ok h
  rw [List.append_assoc, readExact_append hlen]

theorem awaitBody_more {len : Nat} (h : awaitBody cbor len input = (r, rest))
    (hr : ∀ e, r ≠ .error (.Io e)) (more : Bytes) : awaitBody cbor len (input ++ more) = (r, rest ++ more) := by
  rw [awaitBody] at h
  cases hread : readExact len input with
  | mk result left =>
      rw [hread] at h
      cases result with
      | error e => exact absurd (Prod.mk.inj h).1.symm (hr e)
      | ok msgbuf =>
          obtain ⟨rfl, rfl⟩ := Prod.mk.inj h
          rw [awaitBody, readExact_more hread]

theorem awaitMessage_more (h : awaitMessage cbor input = (r, rest)) (hr : ∀ e, r ≠ .error (.Io e))
    (more : Bytes) : awaitMessage cbor (input ++ more) = (r, rest ++ more) := by
  rw [awaitMessage] at h
  cases hread : readExact 4 input with
  | mk result left =>
      rw [hread] at h
      cases result with
      | error e => exact absurd (Prod.mk.inj h).1.symm (hr e)
      | ok lenbuf =>
          rw [awaitMessage, readExact_more hread]
          dsimp only at h ⊢
          by_cases hbig : beNat lenbuf > messageLimit
          · rw [if_pos hbig] at h ⊢
            obtain ⟨rfl, rfl⟩ := Prod.mk.inj h
            rfl
          · rw [if_neg hbig] at h ⊢
            exact awaitBody_more h hr more

/-- `input` opens with a frame that is whole, or too big, and is not `m`. -/
def Opens (cbor : SerdeCbor) (input : Bytes) (m : Message) : Prop :=
  ∃ r rest, awaitMessage cbor input = (r, rest) ∧ r ≠ .ok m ∧ ∀ e, r ≠ .error (.Io e)

def Blames (cbor : SerdeCbor) (sent : Bytes) : Prop :=
  Opens cbor sent (.HelloResponseV0 ⟨none⟩) ∨
    ∃ rest, Welcomed cbor sent rest ∧ Opens cbor rest .StartTrafficV0

def isOwn : ConnectionError → Bool
  | .Io _ | .Timeout _ | .Shutdown => true
  | _ => false

def Explained (env : Env) (sent : Bytes) (e : ConnectionError) : Prop :=
  isOwn e = true ∨ Blames env.cbor sent ∨ createHello env.cbor env.args = .error e

theorem ne_io (h : ∀ e, r = .error e → ∃ cause, e = .Messaging cause) (e : IoError) : r ≠ .error (.Io e) := by
  intro he
  obtain ⟨cause, hcause⟩ := h _ he
  cases hcause

theorem onHelloResponse_failed {e : ConnectionError} {sent : Bytes} (h : awaitMessage cbor sent = (r, rest))
    (hio : ∀ e, r ≠ .error (.Io e)) (hf : Establish.onHelloResponse r = .finished (.error e)) :
    Blames cbor sent := by
  refine .inl ⟨r, rest, h, ?_, hio⟩
  rintro rfl
  cases hf

theorem onTrafficStart_failed {e : ConnectionError} {sent tail : Bytes} (hw : Welcomed cbor sent tail)
    (h : awaitMessage cbor tail = (r, rest)) (hio : ∀ e, r ≠ .error (.Io e))
    (hf : Establish.onTrafficStart r = .finished (.error e)) : Blames cbor sent := by
  refine .inr ⟨tail, hw, r, rest, h, ?_, hio⟩
  rintro rfl
  cases hf

theorem establish_failed {e e' : Establish} {s s' : Stream} {error : ConnectionError}
    (hs : Holds env.cbor env.args e s) (hstep : Establish.Step env.cbor env.args told e s e' s')
    (he : e' = .finished (.error error)) : Explained env s.sent error := by
  cases hstep with
  | tcpConnected | wroteSome | wroteAll | flushed => cases he
  | tcpFailed | tcpTimeout | tlsFailed | writeFailed | flushFailed | helloResponseEof | helloResponseFailed
  | helloResponseTimeout | trafficStartEof | trafficStartFailed | stopped =>
      cases he
      exact .inl rfl
  | tlsConnected =>
      rw [Establish.sayHello] at he
      cases hcreate : createHello env.cbor env.args with
      | ok bs =>
          rw [hcreate] at he
          cases he
      | error error' =>
          rw [hcreate] at he
          cases he
          exact .inr (.inr hcreate)
  | readHelloResponse _ reader chunk hread =>
      obtain ⟨_, hpos, hresume⟩ := hs
      rw [Stream.unread_read hread] at hresume
      cases hfeed : reader.feed env.cbor chunk with
      | inl next =>
          rw [hfeed] at he
          cases he
      | inr r =>
          rw [hfeed] at he
          have hdone := feed_done hfeed hread.2.1 hpos (s.read chunk).unread
          have hio : ∀ e, r ≠ .error (.Io e) := ne_io (by rintro error rfl; exact feed_error hfeed)
          exact .inr (.inl (onHelloResponse_failed (hresume.trans hdone) hio he))
  | readTrafficStart _ reader chunk hread =>
      obtain ⟨_, hpos, rest, hfirst, hresume⟩ := hs
      rw [Stream.unread_read hread] at hresume
      cases hfeed : reader.feed env.cbor chunk with
      | inl next =>
          rw [hfeed] at he
          cases he
      | inr r =>
          rw [hfeed] at he
          have hdone := feed_done hfeed hread.2.1 hpos (s.read chunk).unread
          have hio : ∀ e, r ≠ .error (.Io e) := ne_io (by rintro error rfl; exact feed_error hfeed)
          exact .inr (.inl (onTrafficStart_failed hfirst (hresume.trans hdone) hio he))

def Explains (env : Env) (c : Conn) : Prop :=
  ∀ e, c.pc = .establishing (.finished (.error e)) ∨ c.pc = .idleRemoved (.failed e) →
    Explained env c.wires.ebb.sent e

theorem explains_step (hinv : Inv env c) (h : Explains env c) (hstep : RunConnection.Step env told c effect c') :
    Explains env c' := by
  intro e he
  rw [step_sent hstep]
  cases hstep with
  | establish hpc hest =>
      rcases he with he | he
      · exact establish_failed (hinv.at hpc).2 hest (Pc.establishing.inj he)
      · cases he
  | @established r hpc =>
      cases r with
      | ok => rcases he with he | he <;> cases he
      | error error =>
          rcases he with he | he
          · cases he
          · cases he
            exact h _ (.inl hpc)
  | @failed error hpc =>
      simp only [afterError] at he
      split at he <;> rcases he with he | he <;> cases he
  | proxy | detachedEnded | aborted | pushEbb | pushLocal => exact h e he
  | begin | elapsed | timedOut | badErrorDelayed | minimumDelayed | dropIdle | connectLocal | connectedLocal
  | unconnected | addActive | proxyEnded | stopped | killed | removeActive | returnIdle | returnPlain =>
      rcases he with he | he <;> cases he

theorem run_explains {script : Bytes} {effects : List Effect} (h : Run env script c effects) :
    Explains env c := by
  induction h with
  | spawned =>
      intro e he
      rcases he with he | he <;> cases he
  | step told hrun hstep ih => exact explains_step (run_inv hrun).1 ih hstep

theorem no_proxy (hinv : ConnectionRun.Inv env c) (h : afterHello c.pc = true) : c.proxy = none := by
  rw [ConnectionRun.Inv] at hinv
  cases hpc : c.pc with rw [hpc] at h hinv
  | establishing e => exact hinv.1.proxy
  | _ => cases h

theorem run_held {script : Bytes} {effects : List Effect} (h : Run env script c effects)
    (hafter : afterHello c.pc = true) : c.wires.ebb.held = [] := by
  induction h with
  | spawned => cases hafter
  | @step c c' effects effect told hrun hstep ih =>
      cases hstep with
      | @establish e e' ebb hpc hest =>
          rw [hpc] at ih
          cases hest with
          | tcpConnected | tcpFailed | tcpTimeout | tlsFailed | wroteSome | wroteAll | writeFailed
          | flushFailed | helloResponseEof | helloResponseFailed | helloResponseTimeout | trafficStartEof
          | trafficStartFailed | stopped => cases hafter
          | tlsConnected =>
              rw [Establish.sayHello] at hafter
              split at hafter <;> cases hafter
          | flushed _ hheld => exact hheld
          | readHelloResponse | readTrafficStart => exact ih rfl
      | @failed error hpc =>
          rw [afterError] at hafter
          split at hafter <;> cases hafter
      | proxy hp =>
          have hnone := no_proxy (run_inv hrun).1 hafter
          rw [hp] at hnone
          cases hnone
      | detachedEnded | aborted | pushLocal => exact ih hafter
      | pushEbb n => exact Stream.push_held (ih hafter)
      | begin | established | elapsed | timedOut | badErrorDelayed | minimumDelayed | dropIdle | connectLocal
      | connectedLocal | unconnected | addActive | proxyEnded | stopped | killed | removeActive | returnIdle
      | returnPlain => cases hafter

end Ebbflow.ClientParty
