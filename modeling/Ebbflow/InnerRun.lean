import Ebbflow.RunConnection

namespace Ebbflow.InnerRun

open Lib.Wire Messaging Daemon EstablishConnection LocalConnection RunConnection

structure Setup where
  cbor : SerdeCbor
  debug : Debug
  args : EndpointArgs
  addrs : List SocketAddr

def createArgs (info : SharedInfo) (args : EndpointArgs) (addrs : List SocketAddr) :
    EndpointConnectionArgs where
  endpoint := args.endpoint
  key := info.key.getD "unset"
  addrs := addrs
  ctype := args.ctype

/-- Where the loop of `inner_run_endpoint` waits, or that its future was dropped. -/
inductive LoopPc
  | acquireMax
  | acquireIdle
  | createArgs
  | dropped
  deriving DecidableEq, Repr

namespace LoopPc

def heldMax : LoopPc → Nat
  | acquireMax => 0
  | acquireIdle => 1
  | createArgs => 1
  | dropped => 0

def heldIdle : LoopPc → Nat
  | acquireMax => 0
  | acquireIdle => 0
  | createArgs => 1
  | dropped => 0

end LoopPc

/-- A spawned connection. Its max permit is dropped after `run_connection` returned. -/
structure ConnectionTask where
  env : Env
  conn : Conn
  maxPermit : Bool

def ConnectionTask.spawned (setup : Setup) (info : SharedInfo) (sent : Bytes) : ConnectionTask where
  env := ⟨setup.cbor, setup.debug, createArgs info setup.args setup.addrs⟩
  conn := .spawned sent
  maxPermit := true

/-- One call of `inner_run_endpoint`: its loop, the free permits of its
semaphores and the connections it has spawned. -/
structure Generation where
  loop : LoopPc
  idlesem : Nat
  maxsem : Nat
  tasks : List ConnectionTask

namespace Generation

def start (args : EndpointArgs) : Generation :=
  ⟨.acquireMax, args.idleconns.toNat, args.maxconns.toNat, []⟩

/-- Dropping the loop's future releases the permits it holds. -/
def drop (g : Generation) : Generation :=
  { g with
    loop := .dropped
    idlesem := g.idlesem + g.loop.heldIdle
    maxsem := g.maxsem + g.loop.heldMax }

end Generation

def counted : Effect → EndpointMeta → EndpointMeta
  | .addIdle, m => m.addIdle
  | .removeIdle, m => m.removeIdle
  | .addActive, m => m.addActive
  | .removeActive, m => m.removeActive
  | .silent, m => m
  | .releaseIdle, m => m
  | .message _, m => m

def released : Effect → Nat
  | .releaseIdle => 1
  | _ => 0

inductive Step (setup : Setup) (told : Bool) :
    Generation → EndpointMeta → Effect → Generation → EndpointMeta → Prop
  | acquireMax {g : Generation} {m : EndpointMeta} : g.loop = .acquireMax → 0 < g.maxsem →
      Step setup told g m .silent { g with loop := .acquireIdle, maxsem := g.maxsem - 1 } m
  | acquireIdle {g : Generation} {m : EndpointMeta} : g.loop = .acquireIdle → 0 < g.idlesem →
      Step setup told g m .silent { g with loop := .createArgs, idlesem := g.idlesem - 1 } m
  | spawn {g : Generation} {m : EndpointMeta} (info : SharedInfo) (sent : Bytes) :
      g.loop = .createArgs →
      Step setup told g m .silent
        { g with loop := .acquireMax, tasks := g.tasks ++ [.spawned setup info sent] } m
  | panicked {g : Generation} {m : EndpointMeta} : g.loop = .createArgs →
      Step setup told g m .silent g.drop m
  | stopped {g : Generation} {m : EndpointMeta} : told = true → g.loop ≠ .dropped →
      Step setup told g m .silent g.drop m
  | connection {g : Generation} {m : EndpointMeta} {pre post : List ConnectionTask} {t : ConnectionTask} {conn : Conn}
      {effect : Effect} : g.tasks = pre ++ t :: post →
      RunConnection.Step t.env told t.conn effect conn →
      Step setup told g m effect
        { g with
          idlesem := g.idlesem + released effect
          tasks := pre ++ { t with conn := conn } :: post }
        (counted effect m)
  | ended {g : Generation} {m : EndpointMeta} {pre post : List ConnectionTask} {t : ConnectionTask} :
      g.tasks = pre ++ t :: post → t.conn.pc = .returned → t.maxPermit = true →
      Step setup told g m .silent
        { g with maxsem := g.maxsem + 1, tasks := pre ++ { t with maxPermit := false } :: post } m

/-- A run of one generation over counters that stood at `start` when it was called. -/
inductive Run (setup : Setup) (start : EndpointMeta) : Generation → EndpointMeta → Prop
  | called : Run setup start (.start setup.args) start
  | step {g g' : Generation} {m m' : EndpointMeta} {effect : Effect} (told : Bool) :
      Run setup start g m → Step setup told g m effect g' m' → Run setup start g' m'

end Ebbflow.InnerRun
