import Ebbflow.Health
import Ebbflow.Lib.Supervisor

namespace Ebbflow.Daemon

open Config Health Lib.Supervisor

def maxIdle : UInt64 := 1000

inductive EndpointConnectionType
  | Ssh
  | Tls
  deriving DecidableEq, Repr

structure EndpointArgs where
  ctype : EndpointConnectionType
  idleconns : UInt64
  maxconns : UInt64
  endpoint : String
  port : UInt16
  healthcheck : Option HealthCheck
  deriving DecidableEq, Repr

structure SharedInfo where
  key : Option String

def SharedInfo.updateKey (info : SharedInfo) (newkey : String) : SharedInfo :=
  { info with key := some newkey }

structure MessageQueue where
  q : List (String × String)

def MessageQueue.new : MessageQueue := ⟨[]⟩

def MessageQueue.addMessage (queue : MessageQueue) (now m : String) : MessageQueue :=
  ⟨((now, m) :: queue.q).take 25⟩

def MessageQueue.getMessages (queue : MessageQueue) : List (String × String) := queue.q

inductive HealthOverall
  | NOT_CONFIGURED
  | HEALTHY (datapoints : List (Bool × Nat))
  | UNHEALTHY (datapoints : List (Bool × Nat))
  deriving DecidableEq, Repr

/-- The counters are 64-bit and wrap, as `fetch_add` and `fetch_sub` do. -/
structure EndpointMeta where
  idle : UInt64
  active : UInt64
  healthdata : Option HealthMaster
  deriving DecidableEq, Repr

namespace EndpointMeta

def new (hm : Option HealthMaster) : EndpointMeta := ⟨0, 0, hm⟩

def numActive (m : EndpointMeta) : UInt64 := m.active

def numIdle (m : EndpointMeta) : UInt64 := m.idle

def health (m : EndpointMeta) : HealthOverall :=
  match m.healthdata with
  | none => .NOT_CONFIGURED
  | some hm => if hm.data.1 then .HEALTHY hm.data.2 else .UNHEALTHY hm.data.2

def addIdle (m : EndpointMeta) : EndpointMeta := { m with idle := m.idle + 1 }

def removeIdle (m : EndpointMeta) : EndpointMeta := { m with idle := m.idle - 1 }

def addActive (m : EndpointMeta) : EndpointMeta := { m with active := m.active + 1 }

def removeActive (m : EndpointMeta) : EndpointMeta := { m with active := m.active - 1 }

end EndpointMeta

/-- A spawned endpoint is known by the number of its task; the handle the
daemon keeps of it stands for its meta data and its stop signal. -/
abbrev TaskId := Nat

/-- What the runner shares with the rest of the process. `clock` is what a
reading of the clock prints during the current call. -/
structure Runtime where
  info : SharedInfo
  messageQueue : MessageQueue
  clock : String
  log : TaskLog EndpointArgs

def Runtime.addMessage (rt : Runtime) (m : String) : Runtime :=
  { rt with messageQueue := rt.messageQueue.addMessage rt.clock m }

def Runtime.stop (rt : Runtime) (task : TaskId) : Runtime := { rt with log := rt.log.stop task }

def capIdle (args : EndpointArgs) : EndpointArgs :=
  { args with idleconns := min args.idleconns maxIdle }

theorem capIdle_toNat (args : EndpointArgs) :
    (capIdle args).idleconns.toNat = min args.idleconns.toNat maxIdle.toNat := by
  have hmin : (capIdle args).idleconns =
      if args.idleconns ≤ maxIdle then args.idleconns else maxIdle := rfl
  rw [hmin]
  split
  next hle => exact (Nat.min_eq_left (UInt64.le_iff_toNat_le.mp hle)).symm
  next hnot =>
    have hlt := UInt64.le_iff_toNat_le.not.mp hnot
    exact (Nat.min_eq_right (by omega)).symm

def spawnEndpoint (rt : Runtime) (args : EndpointArgs) : TaskId × Runtime :=
  let args := capIdle args
  let rt := rt.addMessage s!"Endpoint {args.endpoint} is enabled"
  (rt.log.next, { rt with log := rt.log.spawn args })

@[simp] theorem addMessage_log (rt : Runtime) (m : String) : (rt.addMessage m).log = rt.log := rfl

end Ebbflow.Daemon
