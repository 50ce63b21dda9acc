import Ebbflow.Lib.BigEndian
import Ebbflow.Lib.Wire

namespace Ebbflow.Messaging

open Lib.BigEndian Lib.Wire

def VERSION : String := "1.1.0"

inductive MessageError
  | Parse
  | UnknownMessage
  | Internal (reason : String)
  deriving DecidableEq, Repr

inductive EndpointType
  | Ssh
  | Tls
  deriving DecidableEq, Repr

/-- A `HashMap<String, String>` up to its iteration order: the entries by key. -/
structure StringMap where
  entries : List (String × String)
  sorted : entries.Pairwise fun a b => a.1 < b.1
  deriving DecidableEq, Repr

def StringMap.singleton (key value : String) : StringMap :=
  ⟨[(key, value)], List.pairwise_singleton _ _⟩

structure HelloV0 where
  key : String
  endpointType : EndpointType
  endpointValue : String
  metaMap : StringMap
  deriving DecidableEq, Repr

def HelloV0.new (key : String) (endpoint : EndpointType) (e : String) : HelloV0 where
  key := key
  endpointType := endpoint
  endpointValue := e
  metaMap := .singleton "version" VERSION

inductive EnableDisableTarget
  | AllEverything
  | AllEndpoints
  | Ssh
  | SpecificEndpoints (endpoints : List String)
  deriving DecidableEq, Repr

structure EnableDisableRequestV0 where
  shouldBeRunning : Bool
  target : EnableDisableTarget
  deriving DecidableEq, Repr

structure StatusV0 where
  endpointType : EndpointType
  endpointValue : String
  enabled : Bool
  deriving DecidableEq, Repr

structure StatusResponseV0 where
  statuses : List StatusV0
  deriving DecidableEq, Repr

inductive HelloResponseIssue
  | NotFound
  | Forbidden
  | BadRequest
  deriving DecidableEq, Repr

structure HelloResponseV0 where
  issue : Option HelloResponseIssue
  deriving DecidableEq, Repr

structure StartTrafficResponseV0 where
  openLocalSuccessReady : Bool
  deriving DecidableEq, Repr

inductive Message
  | HelloV0 (x : Messaging.HelloV0)
  | StatusRequestV0
  | StatusResponseV0 (x : Messaging.StatusResponseV0)
  | EnableDisableRequestV0 (x : Messaging.EnableDisableRequestV0)
  | EnableDisableResponseV0
  | HelloResponseV0 (x : Messaging.HelloResponseV0)
  | StartTrafficV0
  | StartTrafficResponseV0 (x : Messaging.StartTrafficResponseV0)
  deriving DecidableEq, Repr

structure Codec (α : Type) where
  toVec : α → Option Bytes
  fromSlice : Bytes → Option α

def Codec.RoundTrip {α : Type} (codec : Codec α) : Prop :=
  ∀ {x bs}, codec.toVec x = some bs → codec.fromSlice bs = some x

def Codec.RejectsTrailing {α : Type} (codec : Codec α) : Prop :=
  ∀ {bs extra x x'}, codec.fromSlice bs = some x → codec.fromSlice (bs ++ extra) = some x' → extra = []

def Codec.Canonical {α : Type} (codec : Codec α) : Prop :=
  ∀ {bs x}, codec.fromSlice bs = some x → codec.toVec x = some bs

/-- What the program uses of `serde_cbor`, one codec for each payload type. -/
structure SerdeCbor where
  hello : Codec HelloV0
  statusResponse : Codec StatusResponseV0
  enableDisableRequest : Codec EnableDisableRequestV0
  helloResponse : Codec HelloResponseV0
  startTrafficResponse : Codec StartTrafficResponseV0

structure SerdeCbor.RoundTrip (cbor : SerdeCbor) : Prop where
  hello : cbor.hello.RoundTrip
  statusResponse : cbor.statusResponse.RoundTrip
  enableDisableRequest : cbor.enableDisableRequest.RoundTrip
  helloResponse : cbor.helloResponse.RoundTrip
  startTrafficResponse : cbor.startTrafficResponse.RoundTrip

structure SerdeCbor.RejectsTrailing (cbor : SerdeCbor) : Prop where
  hello : cbor.hello.RejectsTrailing
  statusResponse : cbor.statusResponse.RejectsTrailing
  enableDisableRequest : cbor.enableDisableRequest.RejectsTrailing
  helloResponse : cbor.helloResponse.RejectsTrailing
  startTrafficResponse : cbor.startTrafficResponse.RejectsTrailing

structure SerdeCbor.Canonical (cbor : SerdeCbor) : Prop where
  hello : cbor.hello.Canonical
  statusResponse : cbor.statusResponse.Canonical
  enableDisableRequest : cbor.enableDisableRequest.Canonical
  helloResponse : cbor.helloResponse.Canonical
  startTrafficResponse : cbor.startTrafficResponse.Canonical

variable {α : Type}

def orParse : Option α → Except MessageError α
  | some a => .ok a
  | none => .error .Parse

namespace Message

def payload (cbor : SerdeCbor) : Message → Except MessageError Bytes
  | HelloV0 x => orParse (cbor.hello.toVec x)
  | StatusRequestV0 => .ok []
  | StatusResponseV0 x => orParse (cbor.statusResponse.toVec x)
  | EnableDisableRequestV0 x => orParse (cbor.enableDisableRequest.toVec x)
  | EnableDisableResponseV0 => .ok []
  | HelloResponseV0 x => orParse (cbor.helloResponse.toVec x)
  | StartTrafficV0 => .ok []
  | StartTrafficResponseV0 x => orParse (cbor.startTrafficResponse.toVec x)

def messageId : Message → UInt32
  | HelloV0 _ => 1
  | StatusRequestV0 => 2
  | StatusResponseV0 _ => 3
  | EnableDisableRequestV0 _ => 4
  | EnableDisableResponseV0 => 5
  | HelloResponseV0 _ => 6
  | StartTrafficV0 => 7
  | StartTrafficResponseV0 _ => 8

def toBeBytes (n : UInt32) : Bytes := beBytes 4 n.toNat

/-- The casts to `u32` truncate and the sum wraps, as in a release build. -/
def toWireMessage (cbor : SerdeCbor) (m : Message) : Except MessageError Bytes :=
  let messageId := toBeBytes m.messageId
  match m.payload cbor with
  | .error e => .error e
  | .ok payload =>
      let len := UInt32.ofNat messageId.length + UInt32.ofNat payload.length
      .ok (toBeBytes len ++ messageId ++ payload)

def fromPayload (cbor : SerdeCbor) (payload : Bytes) : Nat → Except MessageError Message
  | 1 => (orParse (cbor.hello.fromSlice payload)).map HelloV0
  | 2 => .ok StatusRequestV0
  | 3 => (orParse (cbor.statusResponse.fromSlice payload)).map StatusResponseV0
  | 4 => (orParse (cbor.enableDisableRequest.fromSlice payload)).map EnableDisableRequestV0
  | 5 => .ok EnableDisableResponseV0
  | 6 => (orParse (cbor.helloResponse.fromSlice payload)).map HelloResponseV0
  | 7 => .ok StartTrafficV0
  | 8 => (orParse (cbor.startTrafficResponse.fromSlice payload)).map StartTrafficResponseV0
  | _ => .error .UnknownMessage

def fromWireWithoutTheLengthPrefix (cbor : SerdeCbor) (buf : Bytes) : Except MessageError Message :=
  if buf.length < 4 then .error .Parse
  else fromPayload cbor (buf.drop 4) (beNat (buf.take 4))

end Message

open Message

theorem orParse_ok {o : Option α} {a : α} (h : orParse o = .ok a) : o = some a := by
  cases o with
  | none => cases h
  | some b =>
      obtain rfl := Except.ok.inj h
      rfl

@[simp] theorem toBeBytes_length (n : UInt32) : (toBeBytes n).length = 4 := beBytes_length 4 _

@[simp] theorem beNat_toBeBytes (n : UInt32) : beNat (toBeBytes n) = n.toNat :=
  beNat_beBytes n.toNat_lt

theorem fromPayload_payload {cbor : SerdeCbor} (hcbor : cbor.RoundTrip) {m : Message}
    {payload : Bytes} (h : m.payload cbor = .ok payload) :
    fromPayload cbor payload m.messageId.toNat = .ok m := by
  cases m with
  | HelloV0 x =>
      have hx := hcbor.hello (orParse_ok h)
      simp [fromPayload, messageId, hx, orParse, Except.map]
  | StatusRequestV0 => rfl
  | StatusResponseV0 x =>
      have hx := hcbor.statusResponse (orParse_ok h)
      simp [fromPayload, messageId, hx, orParse, Except.map]
  | EnableDisableRequestV0 x =>
      have hx := hcbor.enableDisableRequest (orParse_ok h)
      simp [fromPayload, messageId, hx, orParse, Except.map]
  | EnableDisableResponseV0 => rfl
  | HelloResponseV0 x =>
      have hx := hcbor.helloResponse (orParse_ok h)
      simp [fromPayload, messageId, hx, orParse, Except.map]
  | StartTrafficV0 => rfl
  | StartTrafficResponseV0 x =>
      have hx := hcbor.startTrafficResponse (orParse_ok h)
      simp [fromPayload, messageId, hx, orParse, Except.map]

def body (m : Message) (payload : Bytes) : Bytes := toBeBytes m.messageId ++ payload

@[simp] theorem body_length (m : Message) (payload : Bytes) :
    (body m payload).length = 4 + payload.length := by
  simp [body]

theorem fromWire_body {cbor : SerdeCbor} (hcbor : cbor.RoundTrip) {m : Message} {payload : Bytes}
    (h : m.payload cbor = .ok payload) :
    fromWireWithoutTheLengthPrefix cbor (body m payload) = .ok m := by
  have hlen : ¬ (body m payload).length < 4 := by
    rw [body_length]
    omega
  have htake : (body m payload).take 4 = toBeBytes m.messageId := List.take_left' (by simp)
  have hdrop : (body m payload).drop 4 = payload := List.drop_left' (by simp)
  rw [fromWireWithoutTheLengthPrefix, if_neg hlen, htake, hdrop, beNat_toBeBytes]
  exact fromPayload_payload hcbor h

theorem toWireMessage_eq {cbor : SerdeCbor} {m : Message} {payload : Bytes}
    (h : m.payload cbor = .ok payload) (hfit : (body m payload).length < 2 ^ 32) :
    m.toWireMessage cbor = .ok (beBytes 4 (body m payload).length ++ body m payload) := by
  rw [body_length] at hfit
  have hlen : (UInt32.ofNat 4 + UInt32.ofNat payload.length).toNat = (body m payload).length := by
    rw [body_length, UInt32.toNat_add, UInt32.toNat_ofNat', UInt32.toNat_ofNat']
    omega
  rw [toWireMessage, h]
  simp only [toBeBytes_length, List.append_assoc]
  rw [toBeBytes, hlen]
  rfl

end Ebbflow.Messaging
