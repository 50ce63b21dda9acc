import Ebbflow.Runner

namespace Ebbflow.EntryTasks

open Config Daemon Runner

/-- The arguments of the task that runs for an enabled entry, one by one. -/
structure IsEndpointTask (e : Endpoint) (args : EndpointArgs) : Prop where
  ctype : args.ctype = .Tls
  endpoint : args.endpoint = e.dns
  port : args.port = e.port
  maxconns : args.maxconns.toNat = e.maxconns.toNat
  idleconns : args.idleconns.toNat = min e.maxidle.toNat 1000
  healthcheck : args.healthcheck = e.healthcheck

structure IsSshConfiguration (osHostname : String) (ssh : Ssh) (c : SshConfiguration) : Prop where
  port : c.port = ssh.port
  max : c.max.toNat = ssh.maxconns.toNat
  hostname : c.hostname = ssh.hostnameOverride.getD osHostname
  enabled : c.enabled = ssh.enabled
  maxidle : c.maxidle.toNat = ssh.maxidle.toNat

structure IsSshTask (c : SshConfiguration) (args : EndpointArgs) : Prop where
  ctype : args.ctype = .Ssh
  endpoint : args.endpoint = c.hostname
  port : args.port = c.port
  maxconns : args.maxconns = c.max
  idleconns : args.idleconns.toNat = min c.maxidle.toNat 1000
  healthcheck : args.healthcheck = none

variable {e : Endpoint} {args : EndpointArgs} {osHostname : String} {ssh : Ssh} {c : SshConfiguration}

theorem toNat_min (a b : UInt16) : (min a b).toNat = min a.toNat b.toNat := by
  have hmin : min a b = if a ≤ b then a else b := rfl
  rw [hmin]
  split
  next hle => exact (Nat.min_eq_left (UInt16.le_iff_toNat_le.mp hle)).symm
  next hnot =>
    have hlt := UInt16.le_iff_toNat_le.not.mp hnot
    exact (Nat.min_eq_right (by omega)).symm

theorem endpointArgs_isTask (e : Endpoint) : IsEndpointTask e (capIdle (endpointArgs e)) where
  ctype := rfl
  endpoint := rfl
  port := rfl
  maxconns := UInt16.toNat_toUInt64 _
  idleconns := by
    have hcap : (endpointArgs e).idleconns.toNat = min e.maxidle.toNat 1000 := by
      rw [endpointArgs, UInt16.toNat_toUInt64, toNat_min]
      rfl
    have hmax : maxIdle.toNat = 1000 := rfl
    rw [capIdle_toNat, hcap, hmax]
    omega
  healthcheck := rfl

theorem sshConfiguration_is (osHostname : String) (ssh : Ssh) :
    IsSshConfiguration osHostname ssh (sshConfiguration osHostname ssh) where
  port := rfl
  max := UInt16.toNat_toUInt64 _
  hostname := rfl
  enabled := rfl
  maxidle := UInt16.toNat_toUInt64 _

theorem sshArgs_isTask (c : SshConfiguration) : IsSshTask c (capIdle (sshArgs c)) where
  ctype := rfl
  endpoint := rfl
  port := rfl
  maxconns := rfl
  idleconns := capIdle_toNat (sshArgs c)
  healthcheck := rfl

theorem args_ext {a b : EndpointArgs} (hctype : a.ctype = b.ctype) (hendpoint : a.endpoint = b.endpoint)
    (hport : a.port = b.port) (hmax : a.maxconns.toNat = b.maxconns.toNat)
    (hidle : a.idleconns.toNat = b.idleconns.toNat) (hhealth : a.healthcheck = b.healthcheck) : a = b := by
  cases a
  cases b
  rw [EndpointArgs.mk.injEq]
  exact ⟨hctype, UInt64.toNat_inj.mp hidle, UInt64.toNat_inj.mp hmax, hendpoint, hport, hhealth⟩

/-- The fields leave nothing open. -/
theorem isEndpointTask_iff : IsEndpointTask e args ↔ capIdle (endpointArgs e) = args := by
  constructor
  · intro h
    have hargs := endpointArgs_isTask e
    apply args_ext
    · rw [hargs.ctype, h.ctype]
    · rw [hargs.endpoint, h.endpoint]
    · rw [hargs.port, h.port]
    · rw [hargs.maxconns, h.maxconns]
    · rw [hargs.idleconns, h.idleconns]
    · rw [hargs.healthcheck, h.healthcheck]
  · rintro rfl
    exact endpointArgs_isTask e

theorem isSshTask_iff : IsSshTask c args ↔ capIdle (sshArgs c) = args := by
  constructor
  · intro h
    have hargs := sshArgs_isTask c
    apply args_ext
    · rw [hargs.ctype, h.ctype]
    · rw [hargs.endpoint, h.endpoint]
    · rw [hargs.port, h.port]
    · rw [hargs.maxconns, h.maxconns]
    · rw [hargs.idleconns, h.idleconns]
    · rw [hargs.healthcheck, h.healthcheck]
  · rintro rfl
    exact sshArgs_isTask c

theorem isSshConfiguration_iff : IsSshConfiguration osHostname ssh c ↔ sshConfiguration osHostname ssh = c := by
  constructor
  · intro h
    have hc := sshConfiguration_is osHostname ssh
    cases c
    rw [sshConfiguration, SshConfiguration.mk.injEq]
    exact ⟨h.port.symm, UInt64.toNat_inj.mp (hc.max.trans h.max.symm), h.hostname.symm, h.enabled.symm,
      UInt64.toNat_inj.mp (hc.maxidle.trans h.maxidle.symm)⟩
  · rintro rfl
    exact sshConfiguration_is osHostname ssh

theorem ssh_rel_iff {ssh : Option Ssh} {c : Option SshConfiguration} :
    Option.Rel (IsSshConfiguration osHostname) ssh c ↔ c = ssh.map (sshConfiguration osHostname) := by
  constructor
  · rintro (h | _)
    · rw [Option.map_some, isSshConfiguration_iff.mp h]
    · rfl
  · rintro rfl
    cases ssh with
    | none => exact .none
    | some ssh => exact .some (sshConfiguration_is osHostname ssh)

end Ebbflow.EntryTasks
