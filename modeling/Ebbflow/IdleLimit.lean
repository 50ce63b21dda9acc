import Ebbflow.ConfigCommands
import Ebbflow.EntryTasks
import Ebbflow.Limits

namespace Ebbflow.IdleLimit

open Config ConfigCommands Daemon Runner EntryTasks InnerRun Limits Lib.Supervisor

structure RunBlockingArgs where
  dns : Option String
  port : Option UInt16
  maxconns : Option UInt16
  maxidle : Option UInt16
  healthcheckPort : Option UInt16
  healthcheckConsiderHealthy : Option UInt16
  healthcheckConsiderUnhealthy : Option UInt16
  healthcheckFrequencySecs : Option UInt16
  deriving DecidableEq, Repr

/-- The endpoint that `run_blocking` spawns; it panics without a name or a port. -/
def runBlocking (args : RunBlockingArgs) : Option EndpointArgs := do
  let dns ← args.dns
  let port ← args.port
  return {
    ctype := .Tls
    idleconns := (args.maxidle.getD 10).toUInt64
    maxconns := (args.maxconns.getD 5000).toUInt64
    endpoint := dns
    port := port
    healthcheck := args.healthcheckPort.map fun p =>
      { frequencySecs := args.healthcheckFrequencySecs
        considerHealthyThreshold := args.healthcheckConsiderHealthy
        considerUnhealthyThreshold := args.healthcheckConsiderUnhealthy
        type := .TCP
        port := some p } }

inductive Request
  | addEndpoint (args : AddEndpointArgs)
  | setupSsh (args : SetupSshArgs)
  | runBlocking (args : RunBlockingArgs)
  | endpointEntry (e : Endpoint)
  | sshEntry (ssh : Ssh)

namespace Request

def requested : Request → Nat
  | addEndpoint args => (args.maxidle.getD 40).toNat
  | setupSsh args => (args.maxidle.getD defaultSshIdle).toNat
  | runBlocking args => (args.maxidle.getD 10).toNat
  | endpointEntry e => e.maxidle.toNat
  | sshEntry ssh => ssh.maxidle.toNat

def spawn (osHostname : String) (rt : Runtime) : Request → Option (TaskId × Runtime)
  | addEndpoint args => some (spawnEndpointasdfsfa (newendpoint args) rt)
  | setupSsh args => some (spawnEndpoint rt (sshArgs (sshConfiguration osHostname (newssh args))))
  | runBlocking args => (IdleLimit.runBlocking args).map (spawnEndpoint rt)
  | endpointEntry e => some (spawnEndpointasdfsfa e rt)
  | sshEntry ssh => some (spawnEndpoint rt (sshArgs (sshConfiguration osHostname ssh)))

/-- The 16 bits that `add-endpoint` keeps of its argument ask for as much. -/
def Fits : Request → Prop
  | addEndpoint args => (args.maxidle.getD 40).toNat < 65536 ∨ 1000 ≤ (args.maxidle.getD 40).toNat % 65536
  | setupSsh _ | runBlocking _ | endpointEntry _ | sshEntry _ => True

end Request

theorem start_idlesem (args : EndpointArgs) :
    (Generation.start (capIdle args)).idlesem = min args.idleconns.toNat 1000 := capIdle_toNat args

theorem endpoint_idlesem (e : Endpoint) :
    (Generation.start (capIdle (endpointArgs e))).idlesem = min e.maxidle.toNat 1000 :=
  (endpointArgs_isTask e).idleconns

theorem ssh_idlesem (osHostname : String) (ssh : Ssh) :
    (Generation.start (capIdle (sshArgs (sshConfiguration osHostname ssh)))).idlesem =
      min ssh.maxidle.toNat 1000 := by
  rw [← (sshConfiguration_is osHostname ssh).maxidle]
  exact (sshArgs_isTask _).idleconns

theorem newssh_maxidle (args : SetupSshArgs) :
    (newssh args).maxidle.toNat = min (args.maxidle.getD defaultSshIdle).toNat 1000 := by
  rw [newssh, toNat_min]
  rfl

theorem newendpoint_maxidle (args : AddEndpointArgs) :
    (newendpoint args).maxidle.toNat = (args.maxidle.getD 40).toNat % 65536 := by
  rw [newendpoint, UInt64.toNat_toUInt16]

theorem runBlocking_idleconns {args : RunBlockingArgs} {ea : EndpointArgs} (h : runBlocking args = some ea) :
    ea.idleconns.toNat = (args.maxidle.getD 10).toNat := by
  simp only [runBlocking, Option.bind_eq_bind, Option.bind_eq_some_iff] at h
  obtain ⟨dns, _, port, _, hea⟩ := h
  obtain rfl := Option.some.inj hea
  exact UInt16.toNat_toUInt64 _

/-- The idle limit is the request capped, unless `add-endpoint` is asked for a
number whose low 16 bits say less. -/
theorem idle_permits_iff {osHostname : String} {rt : Runtime} {request : Request} {r : TaskId × Runtime}
    (h : request.spawn osHostname rt = some r) :
    ∃ args, r.2.log = rt.log.spawn args ∧
      ((Generation.start args).idlesem = min request.requested 1000 ↔ request.Fits) := by
  cases request with
  | addEndpoint args =>
      obtain rfl := Option.some.inj h
      refine ⟨_, rfl, ?_⟩
      rw [endpoint_idlesem, newendpoint_maxidle, Request.requested, Request.Fits]
      omega
  | setupSsh args =>
      obtain rfl := Option.some.inj h
      refine ⟨_, rfl, iff_of_true ?_ trivial⟩
      rw [ssh_idlesem, newssh_maxidle, Request.requested]
      omega
  | runBlocking args =>
      obtain ⟨ea, hea, rfl⟩ := Option.map_eq_some_iff.mp h
      refine ⟨_, rfl, iff_of_true ?_ trivial⟩
      rw [start_idlesem, runBlocking_idleconns hea, Request.requested]
  | endpointEntry e =>
      obtain rfl := Option.some.inj h
      exact ⟨_, rfl, iff_of_true (endpoint_idlesem e) trivial⟩
  | sshEntry ssh =>
      obtain rfl := Option.some.inj h
      exact ⟨_, rfl, iff_of_true (ssh_idlesem osHostname ssh) trivial⟩

def addWith (maxidle : UInt64) : Request :=
  .addEndpoint ⟨"a.example", 8080, none, some maxidle, false, none, none, none, none⟩

theorem idle_permits_iff_sample :
    ∃ args, ((spawnEndpointasdfsfa ⟨8080, "a.example", 5000, 4464, true, none⟩
        ⟨⟨none⟩, .new, "", .empty⟩).2.log = TaskLog.empty.spawn args) ∧
      (Generation.start args).idlesem = 1000 := by
  have hspawn : (addWith 70000).spawn "host" ⟨⟨none⟩, .new, "", .empty⟩ = some _ := rfl
  obtain ⟨args, hlog, hiff⟩ := idle_permits_iff hspawn
  exact ⟨args, hlog, hiff.mpr (.inr (by decide))⟩

/-- A request for 65536 idle connections makes an endpoint that never connects. -/
theorem idle_limit_wraps :
    ¬ ∀ osHostname rt (request : Request) r, request.spawn osHostname rt = some r →
      ∃ args, r.2.log = rt.log.spawn args ∧
        (Generation.start args).idlesem = min request.requested 1000 := by
  intro h
  obtain ⟨args, hlog, hidle⟩ := h "host" ⟨⟨none⟩, .new, "", .empty⟩ (addWith 65536) _ rfl
  have hevents : [Event.spawned 0 (capIdle (endpointArgs ⟨8080, "a.example", 5000, 0, true, none⟩))] =
      [.spawned 0 args] := congrArg TaskLog.events hlog
  simp only [List.cons.injEq, Event.spawned.injEq, true_and, and_true] at hevents
  subst hevents
  exact absurd hidle (by decide)

end Ebbflow.IdleLimit
