import Ebbflow.Lib.HashTable
import Ebbflow.Daemon

namespace Ebbflow.Runner

open Config Daemon Lib.HashTable Lib.Supervisor

def maxMaxIdle : UInt64 := 1000

inductive DaemonStatusMeta
  | Uninitialized
  | Good
  deriving DecidableEq, Repr

inductive DaemonEndpointStatus
  | Disabled
  | Enabled (active idle : UInt64) (health : Option HealthOverall)
  deriving DecidableEq, Repr

structure DaemonStatus where
  statusmeta : DaemonStatusMeta
  endpoints : List (String × DaemonEndpointStatus)
  ssh : Option (String × DaemonEndpointStatus)
  messages : List (String × String)

inductive EnabledDisabled
  | Enabled (task : TaskId)
  | Disabled
  deriving DecidableEq, Repr

def EnabledDisabled.stop : EnabledDisabled → Runtime → EnabledDisabled × Runtime
  | .Enabled task, rt => (.Disabled, rt.stop task)
  | .Disabled, rt => (.Disabled, rt)

structure EndpointInstance where
  enabledisable : EnabledDisabled
  existingConfig : Endpoint
  deriving DecidableEq, Repr

structure SshConfiguration where
  port : UInt16
  max : UInt64
  hostname : String
  enabled : Bool
  maxidle : UInt64
  deriving DecidableEq, Repr

structure SshInstance where
  existingConfig : SshConfiguration
  enabledisable : EnabledDisabled
  deriving DecidableEq, Repr

structure InnerDaemonRunner where
  endpoints : HashMap String EndpointInstance
  statusmeta : DaemonStatusMeta
  ssh : Option SshInstance
  rt : Runtime

def InnerDaemonRunner.new (info : SharedInfo) (clock : String) : InnerDaemonRunner :=
  ⟨∅, .Uninitialized, none, ⟨info, .new, clock, .empty⟩⟩

def endpointArgs (e : Endpoint) : EndpointArgs where
  ctype := .Tls
  idleconns := (min e.maxidle maxMaxIdle.toUInt16).toUInt64
  maxconns := e.maxconns.toUInt64
  endpoint := e.dns
  port := e.port
  healthcheck := e.healthcheck

def spawnEndpointasdfsfa (e : Endpoint) (rt : Runtime) : TaskId × Runtime :=
  spawnEndpoint rt (endpointArgs e)

def sshConfiguration (osHostname : String) (newcfg : Ssh) : SshConfiguration where
  port := newcfg.port
  max := newcfg.maxconns.toUInt64
  hostname := newcfg.hostnameOverride.getD osHostname
  enabled := newcfg.enabled
  maxidle := newcfg.maxidle.toUInt64

def sshArgs (newconfig : SshConfiguration) : EndpointArgs where
  ctype := .Ssh
  idleconns := newconfig.maxidle
  maxconns := newconfig.max
  endpoint := newconfig.hostname
  port := newconfig.port
  healthcheck := none

/-- What both arms of the loop do with an enabled or a disabled entry. -/
def startIfEnabled (endpoint : Endpoint) (rt : Runtime) : EnabledDisabled × Runtime :=
  if endpoint.enabled then
    let r := spawnEndpointasdfsfa endpoint rt
    (.Enabled r.1, r.2)
  else (.Disabled, rt)

def startSshIfEnabled (newconfig : SshConfiguration) (rt : Runtime) : EnabledDisabled × Runtime :=
  if newconfig.enabled then
    let r := spawnEndpoint rt (sshArgs newconfig)
    (.Enabled r.1, r.2)
  else (.Disabled, rt)

def keepConfigured (set : List String) (dns : String) (inst : EndpointInstance) (rt : Runtime) :
    Bool × EndpointInstance × Runtime :=
  if dns ∈ set then (true, inst, rt)
  else
    let r := inst.enabledisable.stop rt
    (false, { inst with enabledisable := r.1 }, r.2)

def retainConfigured (s : InnerDaemonRunner) (set : List String) : InnerDaemonRunner :=
  let r := retain s.endpoints (keepConfigured set) s.rt
  { s with endpoints := r.1, rt := r.2 }

def applyEndpoint (s : InnerDaemonRunner) (endpoint : Endpoint) : InnerDaemonRunner :=
  match s.endpoints.lookup endpoint.dns with
  | some current =>
      if current.existingConfig = endpoint then s
      else
        let stopped := current.enabledisable.stop s.rt
        let started := startIfEnabled endpoint stopped.2
        { s with endpoints := s.endpoints.insert endpoint.dns ⟨started.1, endpoint⟩, rt := started.2 }
  | none =>
      let started := startIfEnabled endpoint s.rt
      { s with endpoints := s.endpoints.insert endpoint.dns ⟨started.1, endpoint⟩, rt := started.2 }

def applySsh (osHostname : String) (s : InnerDaemonRunner) (ssh : Option Ssh) : InnerDaemonRunner :=
  match ssh, s.ssh with
  | some newcfg, none =>
      let newconfig := sshConfiguration osHostname newcfg
      let started := startSshIfEnabled newconfig s.rt
      { s with ssh := some ⟨newconfig, started.1⟩, rt := started.2 }
  | some newcfg, some inst =>
      let newconfig := sshConfiguration osHostname newcfg
      if newconfig ≠ inst.existingConfig then
        let stopped := inst.enabledisable.stop s.rt
        let started := startSshIfEnabled newconfig stopped.2
        { s with ssh := some ⟨newconfig, started.1⟩, rt := started.2 }
      else s
  | none, some oldcfg =>
      let stopped := oldcfg.enabledisable.stop s.rt
      { s with ssh := none, rt := stopped.2 }
  | none, none => s

def applyConfig (osHostname : String) (s : InnerDaemonRunner) (config : EbbflowDaemonConfig) :
    InnerDaemonRunner :=
  let s := retainConfigured s (config.endpoints.map (·.dns))
  let s := config.endpoints.foldl applyEndpoint s
  applySsh osHostname s config.ssh

def takeKey (s : InnerDaemonRunner) (key : Option String) : InnerDaemonRunner :=
  match key with
  | some k => { s with rt := { s.rt with info := s.rt.info.updateKey k } }
  | none => s

def updateConfig (osHostname : String) (s : InnerDaemonRunner) (config : Option EbbflowDaemonConfig)
    (key : Option String) : InnerDaemonRunner :=
  let s := takeKey s key
  if s.rt.info.key.isNone then
    { s with
      statusmeta := .Uninitialized
      rt := s.rt.addMessage s!"INFO: Key not set, doing nothing (cfg present {config.isSome})" }
  else
    let s := { s with statusmeta := .Good }
    match config with
    | some config => applyConfig osHostname s config
    | none => s

/-- The entry of a new or changed endpoint, over whatever `rt` is once the
entry's former task is stopped. -/
def putEndpoint (s : InnerDaemonRunner) (endpoint : Endpoint) (rt : Runtime) : InnerDaemonRunner :=
  let started := startIfEnabled endpoint rt
  { s with endpoints := s.endpoints.insert endpoint.dns ⟨started.1, endpoint⟩, rt := started.2 }

def putSsh (s : InnerDaemonRunner) (newconfig : SshConfiguration) (rt : Runtime) : InnerDaemonRunner :=
  let started := startSshIfEnabled newconfig rt
  { s with ssh := some ⟨newconfig, started.1⟩, rt := started.2 }

theorem applyEndpoint_cases (s : InnerDaemonRunner) (e : Endpoint) :
    (∃ current, s.endpoints.lookup e.dns = some current ∧ current.existingConfig = e ∧
        applyEndpoint s e = s) ∨
      (∃ current, s.endpoints.lookup e.dns = some current ∧ current.existingConfig ≠ e ∧
        applyEndpoint s e = putEndpoint s e (current.enabledisable.stop s.rt).2) ∨
      (s.endpoints.lookup e.dns = none ∧ applyEndpoint s e = putEndpoint s e s.rt) := by
  rw [applyEndpoint]
  cases hl : s.endpoints.lookup e.dns with
  | none => exact .inr (.inr ⟨rfl, rfl⟩)
  | some current =>
      by_cases he : current.existingConfig = e
      · exact .inl ⟨current, rfl, he, if_pos he⟩
      · exact .inr (.inl ⟨current, rfl, he, if_neg he⟩)

theorem applySsh_cases (osHostname : String) (s : InnerDaemonRunner) (ssh : Option Ssh) :
    (s.ssh.map (·.existingConfig) = ssh.map (sshConfiguration osHostname) ∧
        applySsh osHostname s ssh = s) ∨
      (∃ inst, ssh = none ∧ s.ssh = some inst ∧
        applySsh osHostname s ssh = { s with ssh := none, rt := (inst.enabledisable.stop s.rt).2 }) ∨
      (∃ newcfg inst, ssh = some newcfg ∧ s.ssh = some inst ∧
        sshConfiguration osHostname newcfg ≠ inst.existingConfig ∧
        applySsh osHostname s ssh =
          putSsh s (sshConfiguration osHostname newcfg) (inst.enabledisable.stop s.rt).2) ∨
      ∃ newcfg, ssh = some newcfg ∧ s.ssh = none ∧
        applySsh osHostname s ssh = putSsh s (sshConfiguration osHostname newcfg) s.rt := by
  cases ssh with
  | none =>
      cases hs : s.ssh with
      | none => exact .inl ⟨rfl, by simp [applySsh, hs]⟩
      | some inst => exact .inr (.inl ⟨inst, rfl, rfl, by simp [applySsh, hs]⟩)
  | some newcfg =>
      cases hs : s.ssh with
      | none => exact .inr (.inr (.inr ⟨newcfg, rfl, rfl, by simp [applySsh, hs, putSsh]⟩))
      | some inst =>
          by_cases he : sshConfiguration osHostname newcfg = inst.existingConfig
          · exact .inl ⟨by simp [he], by simp [applySsh, hs, he]⟩
          · exact .inr (.inr (.inl ⟨newcfg, inst, rfl, rfl, he, by simp [applySsh, hs, he, putSsh]⟩))

theorem takeKey_key (s : InnerDaemonRunner) (key : Option String) :
    (takeKey s key).rt.info.key = key.or s.rt.info.key := by
  cases key <;> rfl

theorem takeKey_frame (s : InnerDaemonRunner) (key : Option String) :
    (takeKey s key).endpoints = s.endpoints ∧ (takeKey s key).ssh = s.ssh ∧
      (takeKey s key).rt.log = s.rt.log := by
  cases key <;> exact ⟨rfl, rfl, rfl⟩

theorem updateConfig_cases (osHostname : String) (s : InnerDaemonRunner)
    (config : Option EbbflowDaemonConfig) (key : Option String) :
    ((config = none ∨ (s.rt.info.key = none ∧ key = none)) ∧
        (updateConfig osHostname s config key).endpoints = s.endpoints ∧
        (updateConfig osHostname s config key).ssh = s.ssh ∧
        (updateConfig osHostname s config key).rt.log = s.rt.log) ∨
      ∃ c, config = some c ∧ (s.rt.info.key.isSome ∨ key.isSome) ∧
        updateConfig osHostname s config key =
          applyConfig osHostname { takeKey s key with statusmeta := .Good } c := by
  obtain ⟨he, hs, hl⟩ := takeKey_frame s key
  have hkey := takeKey_key s key
  cases hk : (takeKey s key).rt.info.key with
  | none =>
      rw [hk, eq_comm, Option.or_eq_none_iff] at hkey
      refine .inl ⟨.inr hkey.symm, ?_⟩
      simp [updateConfig, hk, he, hs, hl]
  | some k =>
      have hset : s.rt.info.key.isSome ∨ key.isSome := by
        rw [or_comm, ← Bool.or_eq_true, ← Option.isSome_or, ← hkey, hk]
        rfl
      cases config with
      | none => exact .inl ⟨.inl rfl, by simp [updateConfig, hk, he, hs, hl]⟩
      | some c => exact .inr ⟨c, rfl, hset, by simp [updateConfig, hk]⟩

/-- `metas` is what the handles of the running endpoints point at. -/
def DaemonEndpointStatus.fromRef (metas : TaskId → EndpointMeta) : EnabledDisabled → DaemonEndpointStatus
  | .Disabled => .Disabled
  | .Enabled task =>
      .Enabled (metas task).numActive (metas task).numIdle (some (metas task).health)

def status (metas : TaskId → EndpointMeta) (s : InnerDaemonRunner) : DaemonStatus where
  statusmeta := s.statusmeta
  endpoints := s.endpoints.entries.map fun e => (e.1, .fromRef metas e.2.enabledisable)
  ssh := s.ssh.map fun i => (i.existingConfig.hostname, .fromRef metas i.enabledisable)
  messages := s.rt.messageQueue.getMessages

structure Call where
  config : Option EbbflowDaemonConfig
  key : Option String

/-- What the rest of the process may do between two calls: other tasks post
messages, time passes, and the map may list its entries in another order. -/
structure Background (s t : InnerDaemonRunner) : Prop where
  endpoints : t.endpoints.entries.Perm s.endpoints.entries
  statusmeta : t.statusmeta = s.statusmeta
  ssh : t.ssh = s.ssh
  info : t.rt.info = s.rt.info
  log : t.rt.log = s.rt.log

/-- The states after a sequence of calls, the last call first in the list. -/
inductive Run (osHostname : String) : List Call → InnerDaemonRunner → Prop
  | new (info : SharedInfo) (clock : String) : Run osHostname [] (.new info clock)
  | call {calls s} (c : Call) : Run osHostname calls s →
      Run osHostname (c :: calls) (updateConfig osHostname s c.config c.key)
  | background {calls s t} : Run osHostname calls s → Background s t → Run osHostname calls t

end Ebbflow.Runner
