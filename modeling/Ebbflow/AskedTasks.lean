import Ebbflow.RunnerConfig

namespace Ebbflow.AskedTasks

open Config Daemon Runner EntryTasks RunnerTasks RunnerConfig

/-- What runs in a slot: the task of its entry if that is enabled. -/
inductive Asks (osHostname : String) (entry : String → Option Endpoint) (ssh : Option Ssh) :
    Slot → EndpointArgs → Prop
  | endpoint {dns : String} {e : Endpoint} {args : EndpointArgs} : entry dns = some e → e.enabled = true →
      IsEndpointTask e args → Asks osHostname entry ssh (.endpoint dns) args
  | ssh {cfg : Ssh} {c : SshConfiguration} {args : EndpointArgs} : ssh = some cfg → cfg.enabled = true →
      IsSshConfiguration osHostname cfg c → IsSshTask c args → Asks osHostname entry ssh .ssh args

def asked (entry : String → Option Endpoint) (ssh : Option SshConfiguration) : Slot → Option EndpointArgs
  | .endpoint dns => ((entry dns).filter (·.enabled)).map fun e => capIdle (endpointArgs e)
  | .ssh => (ssh.filter (·.enabled)).map fun c => capIdle (sshArgs c)

variable {osHostname : String} {entry : String → Option Endpoint} {ssh : Option Ssh} {slot : Slot}
  {args : EndpointArgs} {s : InnerDaemonRunner}

theorem asked_eq_some :
    asked entry (ssh.map (sshConfiguration osHostname)) slot = some args ↔ Asks osHostname entry ssh slot args := by
  constructor
  · intro h
    cases slot with
    | endpoint dns =>
        obtain ⟨e, he, hargs⟩ := Option.map_eq_some_iff.mp h
        obtain ⟨hentry, henabled⟩ := Option.filter_eq_some_iff.mp he
        exact .endpoint hentry henabled (isEndpointTask_iff.mpr hargs)
    | ssh =>
        obtain ⟨c, hc, hargs⟩ := Option.map_eq_some_iff.mp h
        obtain ⟨hmap, henabled⟩ := Option.filter_eq_some_iff.mp hc
        obtain ⟨cfg, hcfg, rfl⟩ := Option.map_eq_some_iff.mp hmap
        exact .ssh hcfg henabled (sshConfiguration_is osHostname cfg) (isSshTask_iff.mpr hargs)
  · intro h
    cases h with
    | endpoint hentry henabled hargs =>
        refine Option.map_eq_some_iff.mpr ⟨_, ?_, isEndpointTask_iff.mp hargs⟩
        exact Option.filter_eq_some_iff.mpr ⟨hentry, henabled⟩
    | ssh hcfg henabled hc hargs =>
        refine Option.map_eq_some_iff.mpr ⟨_, ?_, isSshTask_iff.mp hargs⟩
        refine Option.filter_eq_some_iff.mpr ⟨Option.map_eq_some_iff.mpr ⟨_, hcfg, isSshConfiguration_iff.mp hc⟩, ?_⟩
        exact hc.enabled.trans henabled

theorem entries_asked (h : FlagsMatch s) (slot : Slot) :
    (enabledEntries s slot).map Prod.snd = asked (configOf s) (s.ssh.map (·.existingConfig)) slot := by
  cases slot with
  | endpoint dns =>
      rw [enabledEntries, tableOf, asked, configOf]
      cases hl : s.endpoints.lookup dns with
      | none => rfl
      | some inst =>
          have hflag := h.endpoints dns inst hl
          cases htask : taskOf inst.enabledisable <;> rw [htask] at hflag <;>
            simp [endpointTask, htask, Option.filter_some, ← hflag]
  | ssh =>
      rw [enabledEntries, tableOf, asked]
      cases hs : s.ssh with
      | none => rfl
      | some inst =>
          have hflag := h.ssh inst hs
          cases htask : taskOf inst.enabledisable <;> rw [htask] at hflag <;>
            simp [sshTask, htask, Option.filter_some, ← hflag]

end Ebbflow.AskedTasks
