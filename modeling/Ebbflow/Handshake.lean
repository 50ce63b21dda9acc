import Ebbflow.EstablishConnection

namespace Ebbflow.Handshake

open Lib.Wire Lib.Streams Messaging AwaitMessage EstablishConnection EstablishConnection.Establish

variable {cbor : SerdeCbor} {args : EndpointConnectionArgs} {told : Bool}
  {e e' : Establish} {s s' : Stream}

def hello (cbor : SerdeCbor) (args : EndpointConnectionArgs) : Bytes :=
  match createHello cbor args with
  | .ok bs => bs
  | .error _ => []

def Welcomed (cbor : SerdeCbor) (input rest : Bytes) : Prop :=
  awaitMessage cbor input = (.ok (.HelloResponseV0 ⟨none⟩), rest)

def Refused (cbor : SerdeCbor) (issue : HelloResponseIssue) (input rest : Bytes) : Prop :=
  awaitMessage cbor input = (.ok (.HelloResponseV0 ⟨some issue⟩), rest)

/-- `input` opens with the two frames that let traffic start; `payload` follows them. -/
def Accepted (cbor : SerdeCbor) (input payload : Bytes) : Prop :=
  ∃ rest, Welcomed cbor input rest ∧ awaitMessage cbor rest = (.ok .StartTrafficV0, payload)

/-- `error` tells a refusal exactly when one was read in full. -/
structure Reports (cbor : SerdeCbor) (error : ConnectionError) (s : Stream) : Prop where
  refused : ∀ issue, error = refusal issue → Refused cbor issue s.sent s.unread
  reported : ∀ issue rest, Refused cbor issue s.sent rest →
    error = refusal issue ∨ rest.length < s.unread.length

def Holds (cbor : SerdeCbor) (args : EndpointConnectionArgs) : Establish → Stream → Prop
  | tcpConnect, s => s.written = [] ∧ s.unread = s.sent
  | tlsConnect, s => s.written = [] ∧ s.unread = s.sent
  | writeHello rest, s => s.written ++ rest = hello cbor args ∧ s.unread = s.sent
  | flushHello, s => s.written = hello cbor args ∧ s.unread = s.sent
  | awaitHelloResponse reader, s =>
      s.written = hello cbor args ∧ 0 < reader.missing ∧
        awaitMessage cbor s.sent = reader.resume cbor s.unread
  | awaitTrafficStart reader, s =>
      s.written = hello cbor args ∧ 0 < reader.missing ∧
        ∃ rest, Welcomed cbor s.sent rest ∧ awaitMessage cbor rest = reader.resume cbor s.unread
  | finished (.ok _), s => s.written = hello cbor args ∧ Accepted cbor s.sent s.unread
  | finished (.error error), s => s.written <+: hello cbor args ∧ Reports cbor error s

theorem refusedFor_refusal (issue : HelloResponseIssue) :
    refusedFor (refusal issue) = some issue := by
  cases issue <;> rfl

theorem ne_refusal {error : ConnectionError} (h : refusedFor error = none)
    (issue : HelloResponseIssue) : error ≠ refusal issue := by
  rintro rfl
  rw [refusedFor_refusal] at h
  cases h

theorem reports_early {error : ConnectionError} (hne : refusedFor error = none)
    {reader : Awaiting} (hpos : 0 < reader.missing)
    (h : awaitMessage cbor s.sent = reader.resume cbor s.unread) : Reports cbor error s where
  refused issue he := absurd he (ne_refusal hne issue)
  reported issue rest hr := by
    right
    rw [Refused, h] at hr
    exact resume_consumes hpos hr

theorem reports_unread {error : ConnectionError} (hne : refusedFor error = none)
    (h : s.unread = s.sent) : Reports cbor error s := by
  have hpos : 0 < Awaiting.start.missing := by decide
  exact reports_early hne hpos (by rw [h]; rfl)

theorem reports_welcomed {error : ConnectionError} (hne : refusedFor error = none)
    {rest : Bytes} (h : Welcomed cbor s.sent rest) : Reports cbor error s where
  refused issue he := absurd he (ne_refusal hne issue)
  reported issue rest' hr := by
    rw [Refused, h] at hr
    cases hr

theorem holds_onHelloResponse {r : Except ConnectionError Message}
    (hwritten : s.written = hello cbor args) (h : awaitMessage cbor s.sent = (r, s.unread))
    (herror : ∀ error, r = .error error → ∃ cause, error = .Messaging cause) :
    Holds cbor args (onHelloResponse r) s := by
  have hpre : s.written <+: hello cbor args := hwritten ▸ List.prefix_rfl
  have hother : ∀ error, refusedFor error = none →
      (∀ issue, r ≠ .ok (.HelloResponseV0 ⟨some issue⟩)) → Reports cbor error s := by
    intro error hne hr
    refine ⟨fun issue he => absurd he (ne_refusal hne issue), ?_⟩
    intro issue rest hrefused
    rw [Refused, h] at hrefused
    exact absurd (Prod.mk.inj hrefused).1 (hr issue)
  match r with
  | .ok (.HelloResponseV0 ⟨none⟩) =>
      exact ⟨hwritten, by decide, s.unread, h, rfl⟩
  | .ok (.HelloResponseV0 ⟨some issue⟩) =>
      refine ⟨hpre, ?_, ?_⟩
      · intro issue' he
        have hsame := congrArg refusedFor he
        rw [refusedFor_refusal, refusedFor_refusal] at hsame
        obtain rfl := Option.some.inj hsame
        exact h
      · intro issue' rest hrefused
        rw [Refused, h] at hrefused
        obtain ⟨hm, -⟩ := Prod.mk.inj hrefused
        left
        cases hm
        rfl
  | .ok (.HelloV0 _) | .ok .StatusRequestV0 | .ok (.StatusResponseV0 _)
  | .ok (.EnableDisableRequestV0 _) | .ok .EnableDisableResponseV0 | .ok .StartTrafficV0
  | .ok (.StartTrafficResponseV0 _) =>
      exact ⟨hpre, hother _ rfl (fun issue hr => by cases hr)⟩
  | .error error =>
      obtain ⟨cause, rfl⟩ := herror error rfl
      exact ⟨hpre, hother _ rfl (fun issue hr => by cases hr)⟩

theorem holds_onTrafficStart {r : Except ConnectionError Message}
    (hwritten : s.written = hello cbor args) {rest : Bytes} (hfirst : Welcomed cbor s.sent rest)
    (h : awaitMessage cbor rest = (r, s.unread))
    (herror : ∀ error, r = .error error → ∃ cause, error = .Messaging cause) :
    Holds cbor args (onTrafficStart r) s := by
  have hpre : s.written <+: hello cbor args := hwritten ▸ List.prefix_rfl
  match r with
  | .ok .StartTrafficV0 => exact ⟨hwritten, rest, hfirst, h⟩
  | .ok (.HelloV0 _) | .ok .StatusRequestV0 | .ok (.StatusResponseV0 _)
  | .ok (.EnableDisableRequestV0 _) | .ok .EnableDisableResponseV0 | .ok (.HelloResponseV0 _)
  | .ok (.StartTrafficResponseV0 _) =>
      exact ⟨hpre, reports_welcomed rfl hfirst⟩
  | .error error =>
      obtain ⟨cause, rfl⟩ := herror error rfl
      exact ⟨hpre, reports_welcomed rfl hfirst⟩

theorem holds_sayHello (hwritten : s.written = []) (hunread : s.unread = s.sent) :
    Holds cbor args (sayHello cbor args) s := by
  rw [sayHello]
  cases hcreate : createHello cbor args with
  | ok bs => exact ⟨by rw [hwritten, hello, hcreate]; rfl, hunread⟩
  | error error =>
      have hmessaging : ∃ cause, error = .Messaging cause := by
        rw [createHello] at hcreate
        generalize (Message.HelloV0 _).toWireMessage cbor = frame at hcreate
        cases frame with
        | ok bs => cases hcreate
        | error cause => exact ⟨cause, (Except.error.inj hcreate).symm⟩
      obtain ⟨cause, rfl⟩ := hmessaging
      exact ⟨by rw [hwritten]; exact List.nil_prefix,
        reports_unread rfl hunread⟩

theorem step_sent (h : Step cbor args told e s e' s') : s'.sent = s.sent := by
  cases h <;> rfl

theorem holds_step (hs : Holds cbor args e s) (h : Step cbor args told e s e' s') :
    Holds cbor args e' s' := by
  cases h with
  | tcpConnected => exact hs
  | tcpFailed _ cause =>
      exact ⟨by rw [hs.1]; exact List.nil_prefix, reports_unread rfl hs.2⟩
  | tcpTimeout =>
      exact ⟨by rw [hs.1]; exact List.nil_prefix, reports_unread rfl hs.2⟩
  | tlsConnected => exact holds_sayHello hs.1 hs.2
  | tlsFailed _ cause =>
      exact ⟨by rw [hs.1]; exact List.nil_prefix, reports_unread rfl hs.2⟩
  | wroteSome =>
      obtain ⟨hwritten, hunread⟩ := hs
      exact ⟨by rw [Stream.write_written, List.append_assoc, hwritten], hunread⟩
  | wroteAll =>
      obtain ⟨hwritten, hunread⟩ := hs
      exact ⟨by rw [Stream.write_written, hwritten], hunread⟩
  | writeFailed _ rest cause =>
      obtain ⟨hwritten, hunread⟩ := hs
      exact ⟨⟨rest, hwritten⟩, reports_unread rfl hunread⟩
  | flushed =>
      obtain ⟨hwritten, hunread⟩ := hs
      exact ⟨hwritten, by decide, by rw [hunread]; rfl⟩
  | flushFailed _ cause =>
      obtain ⟨hwritten, hunread⟩ := hs
      exact ⟨hwritten ▸ List.prefix_rfl, reports_unread rfl hunread⟩
  | readHelloResponse s reader chunk hread =>
      obtain ⟨hwritten, hpos, hresume⟩ := hs
      rw [Stream.unread_read hread] at hresume
      cases hfeed : reader.feed cbor chunk with
      | inl next =>
          obtain ⟨hnext, heq⟩ := feed_next hfeed hread.2.1 hpos
          exact ⟨hwritten, hnext, hresume.trans (heq _)⟩
      | inr r =>
          have hdone := feed_done hfeed hread.2.1 hpos (s.read chunk).unread
          exact holds_onHelloResponse hwritten (hresume.trans hdone)
            (fun error he => feed_error (he ▸ hfeed))
  | helloResponseEof _ reader hnil =>
      obtain ⟨hwritten, hpos, hresume⟩ := hs
      exact ⟨hwritten ▸ List.prefix_rfl, reports_early rfl hpos hresume⟩
  | helloResponseFailed _ reader cause =>
      obtain ⟨hwritten, hpos, hresume⟩ := hs
      exact ⟨hwritten ▸ List.prefix_rfl, reports_early rfl hpos hresume⟩
  | helloResponseTimeout _ reader =>
      obtain ⟨hwritten, hpos, hresume⟩ := hs
      exact ⟨hwritten ▸ List.prefix_rfl, reports_early rfl hpos hresume⟩
  | readTrafficStart s reader chunk hread =>
      obtain ⟨hwritten, hpos, rest, hfirst, hresume⟩ := hs
      rw [Stream.unread_read hread] at hresume
      cases hfeed : reader.feed cbor chunk with
      | inl next =>
          obtain ⟨hnext, heq⟩ := feed_next hfeed hread.2.1 hpos
          exact ⟨hwritten, hnext, rest, hfirst, hresume.trans (heq _)⟩
      | inr r =>
          have hdone := feed_done hfeed hread.2.1 hpos (s.read chunk).unread
          exact holds_onTrafficStart hwritten hfirst (hresume.trans hdone)
            (fun error he => feed_error (he ▸ hfeed))
  | trafficStartEof _ reader hnil =>
      obtain ⟨hwritten, _, rest, hfirst, _⟩ := hs
      exact ⟨hwritten ▸ List.prefix_rfl, reports_welcomed rfl hfirst⟩
  | trafficStartFailed _ reader cause =>
      obtain ⟨hwritten, _, rest, hfirst, _⟩ := hs
      exact ⟨hwritten ▸ List.prefix_rfl, reports_welcomed rfl hfirst⟩
  | stopped _ reader =>
      obtain ⟨hwritten, _, rest, hfirst, _⟩ := hs
      exact ⟨hwritten ▸ List.prefix_rfl, reports_welcomed rfl hfirst⟩

theorem reports_push {error : ConnectionError} {n : Nat} (h : Reports cbor error s) :
    Reports cbor error (s.push n) := ⟨h.refused, h.reported⟩

theorem holds_push {n : Nat} (hs : Holds cbor args e s) : Holds cbor args e (s.push n) := by
  cases e with
  | finished result =>
      cases result with
      | ok =>
          obtain ⟨hwritten, haccepted⟩ := hs
          exact ⟨by rw [Stream.push_written, hwritten], haccepted⟩
      | error error =>
          obtain ⟨hpre, hreports⟩ := hs
          exact ⟨by rw [Stream.push_written]; exact hpre, reports_push hreports⟩
  | _ =>
      obtain ⟨hwritten, hrest⟩ := hs
      exact ⟨by rw [Stream.push_written, hwritten], hrest⟩

theorem written_le_hello (hs : Holds cbor args e s) : s.written <+: hello cbor args := by
  cases e with
  | tcpConnect | tlsConnect =>
      rw [hs.1]
      exact List.nil_prefix
  | writeHello rest => exact ⟨rest, hs.1⟩
  | finished result =>
      cases result with
      | ok => exact hs.1 ▸ List.prefix_rfl
      | error => exact hs.1
  | flushHello | awaitHelloResponse | awaitTrafficStart => exact hs.1 ▸ List.prefix_rfl

end Ebbflow.Handshake
