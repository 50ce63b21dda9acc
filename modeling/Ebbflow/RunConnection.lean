import Ebbflow.LocalConnection
import Ebbflow.CopyBytes

namespace Ebbflow.RunConnection

open Lib.Wire Lib.Streams Messaging AwaitMessage EstablishConnection LocalConnection CopyBytes

/-- The two copy loops that `proxy` selects from. -/
structure Proxy where
  local2ebb : Copy
  ebb2local : Copy

namespace Proxy

def new : Proxy := ⟨.reading, .reading⟩

def ended (p : Proxy) : Bool := p.local2ebb.isFinished || p.ebb2local.isFinished

inductive Step : Proxy → (ebb loc : Stream) → Proxy → (ebb loc : Stream) → Prop
  | local2ebb {p : Proxy} {ebb loc ebb' loc' : Stream} {c : Copy} : p.ended = false →
      Copy.Step p.local2ebb loc ebb c loc' ebb' → Step p ebb loc { p with local2ebb := c } ebb' loc'
  | ebb2local {p : Proxy} {ebb loc ebb' loc' : Stream} {c : Copy} : p.ended = false →
      Copy.Step p.ebb2local ebb loc c ebb' loc' → Step p ebb loc { p with ebb2local := c } ebb' loc'

end Proxy

inductive GetStream
  | stream
  | failed (e : ConnectionError)
  | elapsed

inductive Pc
  | started
  | establishing (e : Establish)
  | idleRemoved (r : GetStream)
  | badErrorDelay
  | minimumDelay
  | connectingLocal (l : ConnectLocal)
  | ready
  | proxying
  | killDelay
  | proxied
  | returning
  | returned

/-- What a step does to what the connections of an endpoint share. -/
inductive Effect
  | silent
  | addIdle
  | removeIdle
  | releaseIdle
  | addActive
  | removeActive
  | message (m : String)
  deriving DecidableEq, Repr

/-- A task that runs `run_connection`. After a stop the proxy runs on by itself,
until it notices that it is to `abort`. -/
structure Conn where
  pc : Pc
  idlePermit : Bool
  wires : Wires
  proxy : Option Proxy
  abort : Bool

def Conn.spawned (sent : Bytes) : Conn := ⟨.started, true, ⟨.opened sent, none, []⟩, none, false⟩

structure Env where
  cbor : SerdeCbor
  debug : Debug
  args : EndpointConnectionArgs

def connectionFailed (env : Env) (e : ConnectionError) : String :=
  match refusedFor e with
  | some _ => s!"A connection for endpoint {env.args.endpoint} failed due to {env.debug.error e}"
  | none =>
      s!"Failed to connect to Ebbflow for endpoint {env.args.endpoint} failed due to {env.debug.error e}"

def afterError (e : ConnectionError) : Pc :=
  match refusedFor e with
  | some _ => .badErrorDelay
  | none => .minimumDelay

def getStream : Except ConnectionError Unit → GetStream
  | .ok _ => .stream
  | .error e => .failed e

def noted : Option String → Effect
  | some m => .message m
  | none => .silent

inductive Step (env : Env) (told : Bool) : Conn → Effect → Conn → Prop
  | begin {c : Conn} : c.pc = .started →
      Step env told c .addIdle { c with pc := .establishing .tcpConnect }
  | establish {c : Conn} {e e' : Establish} {ebb : Stream} : c.pc = .establishing e →
      Establish.Step env.cbor env.args told e c.wires.ebb e' ebb →
      Step env told c .silent
        { c with pc := .establishing e', wires := { c.wires with ebb := ebb } }
  | established {c : Conn} {r : Except ConnectionError Unit} :
      c.pc = .establishing (.finished r) →
      Step env told c .removeIdle { c with pc := .idleRemoved (getStream r) }
  -- the idle time may run out at any await of the handshake
  | elapsed {c : Conn} {e : Establish} : c.pc = .establishing e → (∀ r, e ≠ .finished r) →
      Step env told c .removeIdle { c with pc := .idleRemoved .elapsed }
  | timedOut {c : Conn} : c.pc = .idleRemoved .elapsed →
      Step env told c .silent { c with pc := .returning }
  | failed {c : Conn} {e : ConnectionError} : c.pc = .idleRemoved (.failed e) →
      Step env told c (.message (connectionFailed env e)) { c with pc := afterError e }
  | badErrorDelayed {c : Conn} : c.pc = .badErrorDelay →
      Step env told c .silent { c with pc := .minimumDelay }
  | minimumDelayed {c : Conn} : c.pc = .minimumDelay →
      Step env told c .silent { c with pc := .returning }
  | dropIdle {c : Conn} : c.pc = .idleRemoved .stream →
      Step env told c .releaseIdle
        { c with idlePermit := false, pc := .connectingLocal (.connecting env.args.addrs []) }
  | connectLocal {c : Conn} {l l' : ConnectLocal} {m : Option String} {w : Wires} :
      c.pc = .connectingLocal l → ConnectLocal.Step env.cbor env.debug env.args l c.wires m l' w →
      Step env told c (noted m) { c with pc := .connectingLocal l', wires := w }
  | connectedLocal {c : Conn} : c.pc = .connectingLocal (.finished (.ok ())) →
      Step env told c .silent { c with pc := .ready }
  | unconnected {c : Conn} {e : ConnectionError} : c.pc = .connectingLocal (.finished (.error e)) →
      Step env told c .silent { c with pc := .minimumDelay }
  | addActive {c : Conn} : c.pc = .ready →
      Step env told c .addActive { c with pc := .proxying, proxy := some .new }
  | proxy {c : Conn} {p p' : Proxy} {loc ebb' loc' : Stream} : c.proxy = some p →
      c.wires.loc = some loc → Proxy.Step p c.wires.ebb loc p' ebb' loc' →
      Step env told c .silent
        { c with proxy := some p', wires := { c.wires with ebb := ebb', loc := some loc' } }
  | proxyEnded {c : Conn} {p : Proxy} : c.pc = .proxying → c.proxy = some p → p.ended = true →
      Step env told c .silent { c with pc := .proxied, proxy := none }
  | stopped {c : Conn} : c.pc = .proxying → told = true →
      Step env told c .silent { c with pc := .killDelay }
  | killed {c : Conn} : c.pc = .killDelay →
      Step env told c .silent { c with pc := .proxied, abort := true }
  | detachedEnded {c : Conn} {p : Proxy} : c.pc ≠ .proxying → c.proxy = some p → p.ended = true →
      Step env told c .silent { c with proxy := none }
  | aborted {c : Conn} : c.abort = true → Step env told c .silent { c with proxy := none }
  | removeActive {c : Conn} : c.pc = .proxied →
      Step env told c .removeActive { c with pc := .returning }
  | returnIdle {c : Conn} : c.pc = .returning → c.idlePermit = true →
      Step env told c .releaseIdle { c with pc := .returned, idlePermit := false }
  | returnPlain {c : Conn} : c.pc = .returning → c.idlePermit = false →
      Step env told c .silent { c with pc := .returned }
  | pushEbb (c : Conn) (n : Nat) :
      Step env told c .silent { c with wires := { c.wires with ebb := c.wires.ebb.push n } }
  | pushLocal (c : Conn) (n : Nat) :
      Step env told c .silent { c with wires := { c.wires with loc := c.wires.loc.map (·.push n) } }

/-- A run of one connection. The stop signal may come at any point of it, and
`sent` is all that Ebbflow ever sends. -/
inductive Run (env : Env) (sent : Bytes) : Conn → List Effect → Prop
  | spawned : Run env sent (.spawned sent) []
  | step {c c' : Conn} {effects : List Effect} {effect : Effect} (told : Bool) :
      Run env sent c effects → Step env told c effect c' → Run env sent c' (effects ++ [effect])

end Ebbflow.RunConnection
