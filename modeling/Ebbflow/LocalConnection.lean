import Ebbflow.EstablishConnection

namespace Ebbflow.LocalConnection

open Lib.Wire Lib.Streams Messaging Messaging.Message AwaitMessage EstablishConnection

/-- The texts that `{:?}` gives. -/
structure Debug where
  error : ConnectionError → String
  addr : SocketAddr → String

def Debug.addrs (debug : Debug) (addrs : List SocketAddr) : String :=
  "[" ++ String.intercalate ", " (addrs.map debug.addr) ++ "]"

/-- What one connection is linked to. A stream that was dropped keeps its record,
and `tried` lists the local addresses that a connect was started to. -/
structure Wires where
  ebb : Stream
  loc : Option Stream
  tried : List SocketAddr

def startTrafficResponse (cbor : SerdeCbor) (good : Bool) : Except ConnectionError Bytes :=
  ((Message.StartTrafficResponseV0 ⟨good⟩).toWireMessage cbor).mapError .Messaging

/-- Where `connect_local_with_ebbflow_communication` waits. A response carries
what is returned once it is written. -/
inductive ConnectLocal
  | connecting (left : List SocketAddr) (errors : List (SocketAddr × ConnectionError))
  | dialing (addr : SocketAddr) (left : List SocketAddr)
      (errors : List (SocketAddr × ConnectionError))
  | responding (outcome : Except ConnectionError Unit) (rest : Bytes)
  | finished (result : Except ConnectionError Unit)

namespace ConnectLocal

def good : Except ConnectionError Unit → Bool
  | .ok _ => true
  | .error _ => false

def multiple (debug : Debug) (errors : List (SocketAddr × ConnectionError)) : ConnectionError :=
  let texts := errors.map fun e => s!"{debug.addr e.1} - {debug.error e.2}"
  .Multiple ("multiple " ++ String.intercalate ", " texts)

def couldNotConnect (debug : Debug) (args : EndpointConnectionArgs) (e : ConnectionError) : String :=
  s!"ERROR: Received traffic but could not connect to local host addr {debug.addrs args.addrs} " ++
    s!"for {args.endpoint} {debug.error e}"

def respond (cbor : SerdeCbor) (outcome : Except ConnectionError Unit) : ConnectLocal :=
  match startTrafficResponse cbor (good outcome) with
  | .ok response => responding outcome response
  | .error e => finished (.error e)

inductive Step (cbor : SerdeCbor) (debug : Debug) (args : EndpointConnectionArgs) :
    ConnectLocal → Wires → Option String → ConnectLocal → Wires → Prop
  | dial (w addr left errors) :
      Step cbor debug args (connecting (addr :: left) errors) w none (dialing addr left errors)
        { w with tried := w.tried ++ [addr] }
  | connected (w addr left errors) (sent : Bytes) :
      Step cbor debug args (dialing addr left errors) w none (respond cbor (.ok ()))
        { w with loc := some (.opened sent) }
  -- the connect succeeds, but setting an option of the socket fails
  | unusable (w addr left errors) (e : IoError) :
      Step cbor debug args (dialing addr left errors) w
        (some (couldNotConnect debug args (.Io e))) (respond cbor (.error (.Io e))) w
  | refused (w addr left errors) (e : IoError) :
      Step cbor debug args (dialing addr left errors) w none
        (connecting left (errors ++ [(addr, .Io e)])) w
  | timedOut (w addr left errors) :
      Step cbor debug args (dialing addr left errors) w none
        (connecting left (errors ++ [(addr, .Timeout "connecting to local host")])) w
  | exhausted (w errors) :
      Step cbor debug args (connecting [] errors) w
        (some (couldNotConnect debug args (multiple debug errors)))
        (respond cbor (.error (multiple debug errors))) w
  | wroteSome (w outcome) {bs left : Bytes} : bs ≠ [] → left ≠ [] →
      Step cbor debug args (responding outcome (bs ++ left)) w none (responding outcome left)
        { w with ebb := w.ebb.write bs }
  | wroteAll (w outcome rest) :
      Step cbor debug args (responding outcome rest) w none (finished outcome)
        { w with ebb := w.ebb.write rest }
  | writeFailed (w outcome rest) (e : IoError) :
      Step cbor debug args (responding outcome rest) w none (finished (.error (.Io e))) w

end ConnectLocal

end Ebbflow.LocalConnection
