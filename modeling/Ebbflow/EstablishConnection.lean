import Ebbflow.AwaitMessage
import Ebbflow.Daemon
import Ebbflow.Lib.Streams

namespace Ebbflow.EstablishConnection

open Lib.Wire Lib.Streams Messaging Messaging.Message AwaitMessage Daemon

inductive IpAddr
  | V4 (bits : BitVec 32)
  | V6 (bits : BitVec 128)
  deriving DecidableEq, Repr

structure SocketAddr where
  ip : IpAddr
  port : UInt16
  deriving DecidableEq, Repr

structure EndpointConnectionArgs where
  endpoint : String
  key : String
  addrs : List SocketAddr
  ctype : EndpointConnectionType
  deriving DecidableEq, Repr

def createHello (cbor : SerdeCbor) (args : EndpointConnectionArgs) :
    Except ConnectionError Bytes :=
  let t := match args.ctype with
    | .Ssh => EndpointType.Ssh
    | .Tls => EndpointType.Tls
  let hello := HelloV0.new args.key t args.endpoint
  ((Message.HelloV0 hello).toWireMessage cbor).mapError .Messaging

inductive Establish
  | tcpConnect
  | tlsConnect
  | writeHello (rest : Bytes)
  | flushHello
  | awaitHelloResponse (reader : Awaiting)
  | awaitTrafficStart (reader : Awaiting)
  | finished (result : Except ConnectionError Unit)

def refusedFor : ConnectionError → Option HelloResponseIssue
  | .Forbidden => some .Forbidden
  | .NotFound => some .NotFound
  | .BadRequest => some .BadRequest
  | _ => none

namespace Establish

def fail (e : ConnectionError) : Establish := finished (.error e)

def refusal : HelloResponseIssue → ConnectionError
  | .Forbidden => .Forbidden
  | .NotFound => .NotFound
  | .BadRequest => .BadRequest

def sayHello (cbor : SerdeCbor) (args : EndpointConnectionArgs) : Establish :=
  match createHello cbor args with
  | .ok hello => writeHello hello
  | .error e => fail e

def onHelloResponse : Except ConnectionError Message → Establish
  | .ok (.HelloResponseV0 hr) =>
      match hr.issue with
      | some issue => fail (refusal issue)
      | none => awaitTrafficStart .start
  | .ok _ => fail .UnexpectedMessage
  | .error e => fail e

def onTrafficStart : Except ConnectionError Message → Establish
  | .ok .StartTrafficV0 => finished (.ok ())
  | .ok _ => fail .UnexpectedMessage
  | .error e => fail e

def afterFeed (wait : Awaiting → Establish) (next : Except ConnectionError Message → Establish) :
    Awaiting ⊕ Except ConnectionError Message → Establish
  | .inl reader => wait reader
  | .inr r => next r

/-- What may end each wait. Only the wait for traffic watches the stop signal,
which the receiver sees once it is `told`. -/
inductive Step (cbor : SerdeCbor) (args : EndpointConnectionArgs) (told : Bool) :
    Establish → Stream → Establish → Stream → Prop
  | tcpConnected (s) : Step cbor args told tcpConnect s tlsConnect s
  | tcpFailed (s e) : Step cbor args told tcpConnect s (fail (.Io e)) s
  | tcpTimeout (s) : Step cbor args told tcpConnect s (fail (.Timeout "connecting to ebbflow")) s
  | tlsConnected (s) : Step cbor args told tlsConnect s (sayHello cbor args) s
  | tlsFailed (s e) : Step cbor args told tlsConnect s (fail (.Io e)) s
  | wroteSome (s) {bs left : Bytes} : bs ≠ [] → left ≠ [] →
      Step cbor args told (writeHello (bs ++ left)) s (writeHello left) (s.write bs)
  | wroteAll (s) {rest : Bytes} :
      Step cbor args told (writeHello rest) s flushHello (s.write rest)
  | writeFailed (s rest e) : Step cbor args told (writeHello rest) s (fail (.Io e)) s
  | flushed (s) : s.held = [] →
      Step cbor args told flushHello s (awaitHelloResponse .start) s
  | flushFailed (s e) : Step cbor args told flushHello s (fail (.Io e)) s
  | readHelloResponse (s reader chunk) : s.Readable reader.missing chunk →
      Step cbor args told (awaitHelloResponse reader) s
        (afterFeed awaitHelloResponse onHelloResponse (reader.feed cbor chunk)) (s.read chunk)
  | helloResponseEof (s reader) : s.unread = [] →
      Step cbor args told (awaitHelloResponse reader) s (fail (.Io .UnexpectedEof)) s
  | helloResponseFailed (s reader e) :
      Step cbor args told (awaitHelloResponse reader) s (fail (.Io e)) s
  | helloResponseTimeout (s reader) :
      Step cbor args told (awaitHelloResponse reader) s
        (fail (.Timeout "error waiting for hello response")) s
  | readTrafficStart (s reader chunk) : s.Readable reader.missing chunk →
      Step cbor args told (awaitTrafficStart reader) s
        (afterFeed awaitTrafficStart onTrafficStart (reader.feed cbor chunk)) (s.read chunk)
  | trafficStartEof (s reader) : s.unread = [] →
      Step cbor args told (awaitTrafficStart reader) s (fail (.Io .UnexpectedEof)) s
  | trafficStartFailed (s reader e) :
      Step cbor args told (awaitTrafficStart reader) s (fail (.Io e)) s
  | stopped (s reader) : told = true →
      Step cbor args told (awaitTrafficStart reader) s (fail .Shutdown) s

end Establish

end Ebbflow.EstablishConnection
