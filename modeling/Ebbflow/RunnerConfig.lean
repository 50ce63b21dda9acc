import Ebbflow.RunnerTasks

namespace Ebbflow.RunnerConfig

open Config Daemon Runner EntryTasks RunnerTasks Lib.HashTable

def lastNamed (es : List Endpoint) (dns : String) : Option Endpoint :=
  (es.filter fun e => e.dns = dns).getLast?

def configOf (s : InnerDaemonRunner) (dns : String) : Option Endpoint :=
  (s.endpoints.lookup dns).map (·.existingConfig)

theorem lastNamed_cons (e : Endpoint) (es : List Endpoint) (dns : String) :
    lastNamed (e :: es) dns = (lastNamed es dns).or (if e.dns = dns then some e else none) := by
  simp only [lastNamed]
  by_cases he : e.dns = dns
  · rw [List.filter_cons_of_pos (by simpa using he), List.getLast?_cons, if_pos he]
    cases (es.filter fun e => e.dns = dns).getLast? <;> rfl
  · rw [List.filter_cons_of_neg (by simpa using he), if_neg he, Option.or_none]

theorem lastNamed_isSome (es : List Endpoint) (dns : String) :
    (lastNamed es dns).isSome ↔ dns ∈ es.map (·.dns) := by
  simp [lastNamed]

theorem lastNamed_mem {es : List Endpoint} {dns : String} {e : Endpoint}
    (h : lastNamed es dns = some e) : e ∈ es ∧ e.dns = dns := by
  have hm := List.mem_of_getLast? h
  simpa using hm

theorem filter_of_nodup {es : List Endpoint} (hn : (es.map (·.dns)).Nodup) {e : Endpoint}
    (he : e ∈ es) : es.filter (fun e' => e'.dns = e.dns) = [e] := by
  induction es with
  | nil => cases he
  | cons a es ih =>
      obtain ⟨ha, hes⟩ := List.nodup_cons.mp hn
      rcases List.mem_cons.mp he with rfl | hmem
      · rw [List.filter_cons_of_pos (by simp), List.filter_eq_nil_iff.mpr]
        intro e' he' hsame
        exact ha (List.mem_map.mpr ⟨e', he', of_decide_eq_true hsame⟩)
      · have hne : a.dns ≠ e.dns := fun hsame => ha (List.mem_map.mpr ⟨e, hmem, hsame.symm⟩)
        rw [List.filter_cons_of_neg (by simpa using hne)]
        exact ih hes hmem

theorem lastNamed_of_nodup {es : List Endpoint} (hn : (es.map (·.dns)).Nodup) {e : Endpoint}
    (he : e ∈ es) : lastNamed es e.dns = some e := by
  rw [lastNamed, filter_of_nodup hn he, List.getLast?_singleton]

theorem lastNamed_perm {es es' : List Endpoint} (hn : (es.map (·.dns)).Nodup) (hp : es'.Perm es)
    (dns : String) : lastNamed es' dns = lastNamed es dns := by
  have hn' : (es'.map (·.dns)).Nodup := (hp.map _).nodup_iff.mpr hn
  apply Option.ext
  intro e
  constructor
  · intro h
    obtain ⟨hm, rfl⟩ := lastNamed_mem h
    exact lastNamed_of_nodup hn (hp.mem_iff.mp hm)
  · intro h
    obtain ⟨hm, rfl⟩ := lastNamed_mem h
    exact lastNamed_of_nodup hn' (hp.mem_iff.mpr hm)

theorem applyEndpoint_other (s : InnerDaemonRunner) (e : Endpoint) {dns : String} (hd : dns ≠ e.dns) :
    (applyEndpoint s e).endpoints.lookup dns = s.endpoints.lookup dns := by
  rcases applyEndpoint_cases s e with ⟨_, _, _, ha⟩ | ⟨_, _, _, ha⟩ | ⟨_, ha⟩ <;> rw [ha]
  · exact AList.lookup_insert_ne hd
  · exact AList.lookup_insert_ne hd

theorem configOf_applyEndpoint (s : InnerDaemonRunner) (e : Endpoint) (dns : String) :
    configOf (applyEndpoint s e) dns = if e.dns = dns then some e else configOf s dns := by
  by_cases hd : e.dns = dns
  · subst hd
    rw [if_pos rfl]
    rcases applyEndpoint_cases s e with ⟨current, hl, he, ha⟩ | ⟨_, _, _, ha⟩ | ⟨_, ha⟩ <;>
      rw [ha, configOf]
    · rw [hl, Option.map_some, he]
    · simp [putEndpoint]
    · simp [putEndpoint]
  · rw [if_neg hd, configOf, applyEndpoint_other s e (Ne.symm hd)]
    rfl

theorem configOf_foldl (s : InnerDaemonRunner) (es : List Endpoint) (dns : String) :
    configOf (es.foldl applyEndpoint s) dns = (lastNamed es dns).or (configOf s dns) := by
  induction es generalizing s with
  | nil => simp [lastNamed]
  | cons e es ih =>
      rw [List.foldl_cons, ih, configOf_applyEndpoint, lastNamed_cons, Option.or_assoc]
      congr 1
      split <;> simp

theorem lookup_retainConfigured (s : InnerDaemonRunner) (set : List String) (dns : String) :
    (retainConfigured s set).endpoints.lookup dns =
      if dns ∈ set then s.endpoints.lookup dns else none := by
  have h := lookup_retain s.endpoints (keepConfigured set) s.rt (fun d => decide (d ∈ set))
    (fun d inst rt => by rw [keepConfigured]; split <;> simp_all)
    (fun d inst rt hd => by rw [keepConfigured, if_pos (of_decide_eq_true hd)]) dns
  simp only [decide_eq_true_eq] at h
  exact h

@[simp] theorem applySsh_endpoints (osHostname : String) (s : InnerDaemonRunner) (ssh : Option Ssh) :
    (applySsh osHostname s ssh).endpoints = s.endpoints := by
  rcases applySsh_cases osHostname s ssh with
    ⟨_, ha⟩ | ⟨_, _, _, ha⟩ | ⟨_, _, _, _, _, ha⟩ | ⟨_, _, _, ha⟩ <;> rw [ha] <;> rfl

@[simp] theorem applyEndpoint_ssh (s : InnerDaemonRunner) (e : Endpoint) :
    (applyEndpoint s e).ssh = s.ssh := by
  rcases applyEndpoint_cases s e with ⟨_, _, _, ha⟩ | ⟨_, _, _, ha⟩ | ⟨_, ha⟩ <;> rw [ha] <;> rfl

@[simp] theorem foldl_ssh (s : InnerDaemonRunner) (es : List Endpoint) :
    (es.foldl applyEndpoint s).ssh = s.ssh := by
  induction es generalizing s with
  | nil => rfl
  | cons e es ih => rw [List.foldl_cons, ih, applyEndpoint_ssh]

theorem sshConfig_applySsh (osHostname : String) (s : InnerDaemonRunner) (ssh : Option Ssh) :
    (applySsh osHostname s ssh).ssh.map (·.existingConfig) = ssh.map (sshConfiguration osHostname) := by
  rcases applySsh_cases osHostname s ssh with
    ⟨hs, ha⟩ | ⟨_, rfl, _, ha⟩ | ⟨_, _, rfl, _, _, ha⟩ | ⟨_, rfl, _, ha⟩ <;> rw [ha]
  · exact hs
  · rfl
  · rfl
  · rfl

theorem configOf_applyConfig (osHostname : String) (s : InnerDaemonRunner)
    (c : EbbflowDaemonConfig) (dns : String) :
    configOf (applyConfig osHostname s c) dns = lastNamed c.endpoints dns := by
  have hc : configOf (applyConfig osHostname s c) dns = configOf
      (c.endpoints.foldl applyEndpoint (retainConfigured s (c.endpoints.map (·.dns)))) dns := by
    simp [configOf, applyConfig]
  rw [hc, configOf_foldl]
  cases hl : lastNamed c.endpoints dns with
  | some e => rfl
  | none =>
      have hout : dns ∉ c.endpoints.map (·.dns) := by
        rw [← lastNamed_isSome, hl]
        simp
      rw [configOf, lookup_retainConfigured, if_neg hout]
      rfl

/-- An entry runs a task exactly when its configuration is enabled. This is
what makes it right to skip an entry that did not change. -/
structure FlagsMatch (s : InnerDaemonRunner) : Prop where
  endpoints : ∀ dns inst, s.endpoints.lookup dns = some inst →
    (taskOf inst.enabledisable).isSome = inst.existingConfig.enabled
  ssh : ∀ inst, s.ssh = some inst → (taskOf inst.enabledisable).isSome = inst.existingConfig.enabled

theorem startIfEnabled_isSome (e : Endpoint) (rt : Runtime) :
    (taskOf (startIfEnabled e rt).1).isSome = e.enabled := by
  rw [startIfEnabled_task]
  cases e.enabled <;> rfl

theorem startSshIfEnabled_isSome (c : SshConfiguration) (rt : Runtime) :
    (taskOf (startSshIfEnabled c rt).1).isSome = c.enabled := by
  rw [startSshIfEnabled_task]
  cases c.enabled <;> rfl

theorem flagsMatch_retain {s : InnerDaemonRunner} (h : FlagsMatch s) (set : List String) :
    FlagsMatch (retainConfigured s set) where
  endpoints dns inst hl := by
    rw [lookup_retainConfigured] at hl
    split at hl
    · exact h.endpoints dns inst hl
    · cases hl
  ssh := h.ssh

theorem flagsMatch_putEndpoint {s : InnerDaemonRunner} (h : FlagsMatch s) (e : Endpoint) (rt : Runtime) :
    FlagsMatch (putEndpoint s e rt) where
  endpoints dns inst hl := by
    by_cases hd : dns = e.dns
    · subst hd
      rw [putEndpoint, AList.lookup_insert] at hl
      cases hl
      exact startIfEnabled_isSome e rt
    · rw [putEndpoint, AList.lookup_insert_ne hd] at hl
      exact h.endpoints dns inst hl
  ssh := h.ssh

theorem flagsMatch_applyEndpoint {s : InnerDaemonRunner} (h : FlagsMatch s) (e : Endpoint) :
    FlagsMatch (applyEndpoint s e) := by
  rcases applyEndpoint_cases s e with ⟨_, _, _, ha⟩ | ⟨_, _, _, ha⟩ | ⟨_, ha⟩ <;> rw [ha]
  · exact h
  · exact flagsMatch_putEndpoint h e _
  · exact flagsMatch_putEndpoint h e _

theorem flagsMatch_foldl {s : InnerDaemonRunner} (h : FlagsMatch s) (es : List Endpoint) :
    FlagsMatch (es.foldl applyEndpoint s) := by
  induction es generalizing s with
  | nil => exact h
  | cons e es ih => exact ih (flagsMatch_applyEndpoint h e)

theorem flagsMatch_applySsh {s : InnerDaemonRunner} (h : FlagsMatch s) (osHostname : String)
    (ssh : Option Ssh) : FlagsMatch (applySsh osHostname s ssh) where
  endpoints dns inst hl := by
    rw [applySsh_endpoints] at hl
    exact h.endpoints dns inst hl
  ssh := by
    rcases applySsh_cases osHostname s ssh with
      ⟨_, ha⟩ | ⟨_, _, _, ha⟩ | ⟨_, _, _, _, _, ha⟩ | ⟨_, _, _, ha⟩ <;> rw [ha] <;> intro inst hs
    · exact h.ssh inst hs
    · cases hs
    · cases hs
      exact startSshIfEnabled_isSome _ _
    · cases hs
      exact startSshIfEnabled_isSome _ _

theorem flagsMatch_applyConfig {s : InnerDaemonRunner} (h : FlagsMatch s) (osHostname : String)
    (c : EbbflowDaemonConfig) : FlagsMatch (applyConfig osHostname s c) :=
  flagsMatch_applySsh (flagsMatch_foldl (flagsMatch_retain h _) _) _ _

theorem flagsMatch_congr {s t : InnerDaemonRunner} (h : FlagsMatch s)
    (he : t.endpoints.entries.Perm s.endpoints.entries) (hs : t.ssh = s.ssh) : FlagsMatch t := by
  refine ⟨fun dns inst hl => ?_, fun inst hi => h.ssh inst (hs ▸ hi)⟩
  rw [AList.perm_lookup he] at hl
  exact h.endpoints dns inst hl

theorem flagsMatch_updateConfig {s : InnerDaemonRunner} (h : FlagsMatch s) (osHostname : String)
    (config : Option EbbflowDaemonConfig) (key : Option String) :
    FlagsMatch (updateConfig osHostname s config key) := by
  rcases updateConfig_cases osHostname s config key with ⟨_, he, hs, _⟩ | ⟨c, _, _, hu⟩
  · exact flagsMatch_congr h (.of_eq (congrArg _ he)) hs
  · have hgood : FlagsMatch { takeKey s key with statusmeta := .Good } := by
      cases key <;> exact ⟨h.endpoints, h.ssh⟩
    rw [hu]
    exact flagsMatch_applyConfig hgood osHostname c

theorem run_flagsMatch {osHostname : String} {calls : List Call} {s : InnerDaemonRunner}
    (h : Run osHostname calls s) : FlagsMatch s := by
  induction h with
  | new info clock => exact ⟨fun dns inst hl => by simp [InnerDaemonRunner.new] at hl, nofun⟩
  | call c _ ih => exact flagsMatch_updateConfig ih _ _ _
  | background _ hb ih => exact flagsMatch_congr ih hb.endpoints hb.ssh

theorem updateConfig_some (osHostname : String) (s : InnerDaemonRunner) (c : EbbflowDaemonConfig)
    (key : Option String) (hkey : s.rt.info.key.isSome ∨ key.isSome) :
    updateConfig osHostname s (some c) key =
      applyConfig osHostname { takeKey s key with statusmeta := .Good } c := by
  rcases updateConfig_cases osHostname s (some c) key with ⟨hn, _⟩ | ⟨_, hc, _, hu⟩
  · rcases hn with hn | ⟨hk, rfl⟩
    · cases hn
    · simp [hk] at hkey
  · cases hc
    exact hu

/-- The runner holds what a configuration asks for, and nothing else. -/
structure ConfiguredAs (osHostname : String) (c : EbbflowDaemonConfig) (s : InnerDaemonRunner) :
    Prop where
  names : ∀ dns, dns ∈ s.endpoints ↔ ∃ e ∈ c.endpoints, e.dns = dns
  last : ∀ dns inst, s.endpoints.lookup dns = some inst →
    lastNamed c.endpoints dns = some inst.existingConfig
  enabled : ∀ dns inst, s.endpoints.lookup dns = some inst →
    ((∃ task, inst.enabledisable = .Enabled task) ↔ inst.existingConfig.enabled)
  ssh : Option.Rel (IsSshConfiguration osHostname) c.ssh (s.ssh.map (·.existingConfig))
  sshEnabled : ∀ inst, s.ssh = some inst →
    ((∃ task, inst.enabledisable = .Enabled task) ↔ inst.existingConfig.enabled)

theorem taskOf_isSome (ed : EnabledDisabled) : (taskOf ed).isSome ↔ ∃ task, ed = .Enabled task := by
  cases ed <;> simp [taskOf]

theorem configuredAs_applyConfig {s : InnerDaemonRunner} (h : FlagsMatch s) (osHostname : String)
    (c : EbbflowDaemonConfig) : ConfiguredAs osHostname c (applyConfig osHostname s c) := by
  have hf := flagsMatch_applyConfig h osHostname c
  have hc := configOf_applyConfig osHostname s c
  refine ⟨?_, ?_, ?_, ssh_rel_iff.mpr (sshConfig_applySsh _ _ _), ?_⟩
  · intro dns
    have hn := lastNamed_isSome c.endpoints dns
    rw [← hc, configOf, Option.isSome_map, AList.lookup_isSome] at hn
    simpa using hn
  · intro dns inst hl
    rw [← hc, configOf, hl]
    rfl
  · intro dns inst hl
    rw [← taskOf_isSome, hf.endpoints dns inst hl]
  · intro inst hs
    rw [← taskOf_isSome, hf.ssh inst hs]

theorem configuredAs_congr {osHostname : String} {c : EbbflowDaemonConfig} {s t : InnerDaemonRunner}
    (h : ConfiguredAs osHostname c s) (he : t.endpoints.entries.Perm s.endpoints.entries)
    (hs : t.ssh = s.ssh) : ConfiguredAs osHostname c t := by
  have hlookup : ∀ dns, t.endpoints.lookup dns = s.endpoints.lookup dns :=
    fun dns => AList.perm_lookup he
  refine ⟨?_, ?_, ?_, ?_, ?_⟩
  · intro dns
    rw [← h.names dns, ← AList.lookup_isSome, hlookup, AList.lookup_isSome]
  · intro dns inst hl
    exact h.last dns inst (hlookup dns ▸ hl)
  · intro dns inst hl
    exact h.enabled dns inst (hlookup dns ▸ hl)
  · rw [hs]
    exact h.ssh
  · rw [hs]
    exact h.sshEnabled

theorem ConfiguredAs.sshConfig {osHostname : String} {c : EbbflowDaemonConfig} {s : InnerDaemonRunner}
    (h : ConfiguredAs osHostname c s) :
    s.ssh.map (·.existingConfig) = c.ssh.map (sshConfiguration osHostname) := ssh_rel_iff.mp h.ssh

theorem ConfiguredAs.flagsMatch {osHostname : String} {c : EbbflowDaemonConfig} {s : InnerDaemonRunner}
    (h : ConfiguredAs osHostname c s) : FlagsMatch s where
  endpoints dns inst hl := by
    rw [Bool.eq_iff_iff, taskOf_isSome]
    exact h.enabled dns inst hl
  ssh inst hs := by
    rw [Bool.eq_iff_iff, taskOf_isSome]
    exact h.sshEnabled inst hs

theorem ConfiguredAs.lookup {osHostname : String} {c : EbbflowDaemonConfig} {s : InnerDaemonRunner}
    (h : ConfiguredAs osHostname c s) {dns : String} {e : Endpoint}
    (he : lastNamed c.endpoints dns = some e) :
    ∃ inst : EndpointInstance, s.endpoints.lookup dns = some inst ∧ inst.existingConfig = e := by
  obtain ⟨hm, hd⟩ := lastNamed_mem he
  have hmem : dns ∈ s.endpoints := (h.names dns).mpr ⟨e, hm, hd⟩
  obtain ⟨inst, hl⟩ := Option.isSome_iff_exists.mp (AList.lookup_isSome.mpr hmem)
  have hlast := h.last dns inst hl
  rw [he, Option.some.injEq] at hlast
  exact ⟨inst, hl, hlast.symm⟩

end Ebbflow.RunnerConfig
