import Ebbflow.RunnerConfig
import Mathlib.Data.List.Perm.Basic

namespace Ebbflow.RunnerStatus

open Config Daemon Runner RunnerTasks RunnerConfig Lib.HashTable

def isEnabled : DaemonEndpointStatus → Bool
  | .Disabled => false
  | .Enabled _ _ _ => true

/-- What a status says is configured, and whether it is enabled. -/
def listed (st : DaemonStatus) : List (String × Bool) × Option (String × Bool) :=
  (st.endpoints.map fun e => (e.1, isEnabled e.2), st.ssh.map fun e => (e.1, isEnabled e.2))

theorem isEnabled_fromRef (metas : TaskId → EndpointMeta) (ed : EnabledDisabled) :
    isEnabled (.fromRef metas ed) = (taskOf ed).isSome := by
  cases ed <;> rfl

theorem mem_listed (metas : TaskId → EndpointMeta) (s : InnerDaemonRunner) (dns : String) (b : Bool) :
    (dns, b) ∈ (listed (status metas s)).1 ↔
      ∃ inst, s.endpoints.lookup dns = some inst ∧ (taskOf inst.enabledisable).isSome = b := by
  simp only [listed, status, List.map_map, List.mem_map, Function.comp_apply, isEnabled_fromRef,
    Prod.mk.injEq]
  constructor
  · rintro ⟨e, he, rfl, rfl⟩
    exact ⟨e.2, AList.mem_lookup_iff.mpr he, rfl⟩
  · rintro ⟨inst, hl, rfl⟩
    exact ⟨⟨dns, inst⟩, AList.mem_lookup_iff.mp hl, rfl, rfl⟩

theorem listed_nodup (metas : TaskId → EndpointMeta) (s : InnerDaemonRunner) :
    (listed (status metas s)).1.Nodup := by
  apply List.Nodup.of_map Prod.fst
  have hkeys : (listed (status metas s)).1.map Prod.fst = s.endpoints.keys := by
    simp only [listed, status, List.map_map]
    rfl
  rw [hkeys]
  exact s.endpoints.keys_nodup

theorem configured_mem_listed {osHostname : String} {c : EbbflowDaemonConfig}
    {s : InnerDaemonRunner} (h : ConfiguredAs osHostname c s) (metas : TaskId → EndpointMeta)
    (dns : String) (b : Bool) :
    (dns, b) ∈ (listed (status metas s)).1 ↔
      ∃ e, lastNamed c.endpoints dns = some e ∧ e.enabled = b := by
  rw [mem_listed]
  constructor
  · rintro ⟨inst, hl, rfl⟩
    refine ⟨inst.existingConfig, h.last dns inst hl, ?_⟩
    rw [Bool.eq_iff_iff, taskOf_isSome]
    exact (h.enabled dns inst hl).symm
  · rintro ⟨e, he, rfl⟩
    obtain ⟨inst, hl, rfl⟩ := h.lookup he
    refine ⟨inst, hl, ?_⟩
    rw [Bool.eq_iff_iff, taskOf_isSome]
    exact h.enabled dns inst hl

theorem configured_listed_ssh {osHostname : String} {c : EbbflowDaemonConfig}
    {s : InnerDaemonRunner} (h : ConfiguredAs osHostname c s) (metas : TaskId → EndpointMeta) :
    (listed (status metas s)).2 =
      c.ssh.map fun ssh => (ssh.hostnameOverride.getD osHostname, ssh.enabled) := by
  have hs := h.sshConfig
  cases hi : s.ssh with
  | none =>
      rw [hi] at hs
      cases hc : c.ssh with
      | none => simp [listed, status, hi]
      | some ssh => simp [hc] at hs
  | some inst =>
      rw [hi] at hs
      cases hc : c.ssh with
      | none => simp [hc] at hs
      | some ssh =>
          simp only [hc, Option.map_some, Option.some.injEq] at hs
          have he : (taskOf inst.enabledisable).isSome = ssh.enabled := by
            rw [Bool.eq_iff_iff, taskOf_isSome, h.sshEnabled inst hi, hs]
            rfl
          simp [listed, status, hi, isEnabled_fromRef, hs, he, sshConfiguration]

theorem listed_perm {osHostname : String} {c c' : EbbflowDaemonConfig} {s s' : InnerDaemonRunner}
    (h : ConfiguredAs osHostname c s) (h' : ConfiguredAs osHostname c' s')
    (hlast : ∀ dns, lastNamed c.endpoints dns = lastNamed c'.endpoints dns) (hssh : c.ssh = c'.ssh)
    (metas metas' : TaskId → EndpointMeta) :
    (listed (status metas s)).1.Perm (listed (status metas' s')).1 ∧
      (listed (status metas s)).2 = (listed (status metas' s')).2 := by
  constructor
  · rw [List.perm_ext_iff_of_nodup (listed_nodup metas s) (listed_nodup metas' s')]
    rintro ⟨dns, b⟩
    rw [configured_mem_listed h, configured_mem_listed h', hlast]
  · rw [configured_listed_ssh h, configured_listed_ssh h', hssh]

theorem configuredAs_updateConfig {osHostname : String} {calls : List Call} {s : InnerDaemonRunner}
    (h : Run osHostname calls s) (c : EbbflowDaemonConfig) (key : Option String)
    (hkey : s.rt.info.key.isSome ∨ key.isSome) :
    ConfiguredAs osHostname c (updateConfig osHostname s (some c) key) := by
  rw [updateConfig_some osHostname s c key hkey]
  apply configuredAs_applyConfig
  have hf := run_flagsMatch h
  cases key <;> exact ⟨hf.endpoints, hf.ssh⟩

/-- After a call with a configuration the runner holds that configuration,
whatever it held before; what it reports as configured and as enabled does not
depend on the calls before, nor on the order of entries with distinct names. -/
theorem updateConfig_depends_only_on_config {osHostname : String} {calls : List Call}
    {s : InnerDaemonRunner} (h : Run osHostname calls s) (c : EbbflowDaemonConfig)
    (key : Option String) (hkey : s.rt.info.key.isSome ∨ key.isSome) :
    ConfiguredAs osHostname c (updateConfig osHostname s (some c) key) ∧
      (∀ calls' s' key', Run osHostname calls' s' → s'.rt.info.key.isSome ∨ key'.isSome →
        ∀ metas metas',
          (listed (status metas (updateConfig osHostname s (some c) key))).1.Perm
            (listed (status metas' (updateConfig osHostname s' (some c) key'))).1 ∧
          (listed (status metas (updateConfig osHostname s (some c) key))).2 =
            (listed (status metas' (updateConfig osHostname s' (some c) key'))).2) ∧
      ((c.endpoints.map (·.dns)).Nodup → ∀ es, es.Perm c.endpoints → ∀ metas metas',
        (listed (status metas (updateConfig osHostname s (some c) key))).1.Perm
          (listed (status metas' (updateConfig osHostname s (some { c with endpoints := es }) key))).1 ∧
        (listed (status metas (updateConfig osHostname s (some c) key))).2 =
          (listed (status metas'
            (updateConfig osHostname s (some { c with endpoints := es }) key))).2) := by
  have hc := configuredAs_updateConfig h c key hkey
  refine ⟨hc, ?_, ?_⟩
  · intro calls' s' key' h' hkey' metas metas'
    have hc' := configuredAs_updateConfig h' c key' hkey'
    exact listed_perm hc hc' (fun _ => rfl) rfl metas metas'
  · intro hn es hp metas metas'
    have hc' := configuredAs_updateConfig h { c with endpoints := es } key hkey
    exact listed_perm hc hc' (fun dns => (lastNamed_perm hn hp dns).symm) rfl metas metas'

theorem updateConfig_depends_only_on_config_sample :
    ∃ s, s = updateConfig "host"
        (updateConfig "host" (.new ⟨none⟩ "") (some sampleConfig) (some "key")) (some sampleEdit) none ∧
      ConfiguredAs "host" sampleEdit s ∧
      ∃ inst task, s.ssh = some inst ∧ inst.enabledisable = .Enabled task ∧ inst.existingConfig.port = 2222 ∧
        inst.existingConfig.max.toNat = 20 ∧ inst.existingConfig.hostname = "host" := by
  have hc : ConfiguredAs "host" sampleEdit (updateConfig "host"
      (updateConfig "host" (.new ⟨none⟩ "") (some sampleConfig) (some "key")) (some sampleEdit) none) :=
    (updateConfig_depends_only_on_config
      (.call ⟨some sampleConfig, some "key"⟩ (.new ⟨none⟩ "")) sampleEdit none (.inl (by decide))).1
  obtain ⟨s, hs⟩ : ∃ s, s = updateConfig "host"
      (updateConfig "host" (.new ⟨none⟩ "") (some sampleConfig) (some "key")) (some sampleEdit) none := ⟨_, rfl⟩
  rw [← hs] at hc
  refine ⟨s, hs, hc, ?_⟩
  have hssh := hc.ssh
  cases hi : s.ssh with
  | none =>
      rw [hi] at hssh
      cases hssh
  | some inst =>
      rw [hi] at hssh
      cases hssh with
      | some hssh =>
          obtain ⟨task, htask⟩ := (hc.sshEnabled inst hi).mpr hssh.enabled
          exact ⟨inst, task, rfl, htask, hssh.port, hssh.max, hssh.hostname⟩

end Ebbflow.RunnerStatus
