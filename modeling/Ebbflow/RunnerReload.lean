import Ebbflow.RunnerConfig

namespace Ebbflow.RunnerReload

open Config Daemon Runner EntryTasks RunnerTasks RunnerConfig Lib.HashTable Lib.Supervisor

def GrowsOutside (P : Slot → Prop) (old new : TaskLog EndpointArgs) : Prop :=
  ∃ es, new.events = old.events ++ es ∧ ∀ task args, .spawned task args ∈ es → ¬ P (slotOf args)

variable {P : Slot → Prop}

theorem GrowsOutside.refl (log : TaskLog EndpointArgs) : GrowsOutside P log log :=
  ⟨[], by simp, by simp⟩

theorem GrowsOutside.trans {a b c : TaskLog EndpointArgs} (hab : GrowsOutside P a b)
    (hbc : GrowsOutside P b c) : GrowsOutside P a c := by
  obtain ⟨es, he, hes⟩ := hab
  obtain ⟨fs, hf, hfs⟩ := hbc
  refine ⟨es ++ fs, by rw [hf, he, List.append_assoc], ?_⟩
  intro task args hm
  rcases List.mem_append.mp hm with hm | hm
  · exact hes task args hm
  · exact hfs task args hm

theorem growsOutside_stop (ed : EnabledDisabled) (rt : Runtime) :
    GrowsOutside P rt.log (ed.stop rt).2.log := by
  cases ed with
  | Enabled task => exact ⟨[.stopped task], rfl, by simp⟩
  | Disabled => exact .refl _

theorem growsOutside_spawn (rt : Runtime) (args : EndpointArgs) (h : ¬ P (slotOf (capIdle args))) :
    GrowsOutside P rt.log (spawnEndpoint rt args).2.log := by
  refine ⟨[.spawned rt.log.next (capIdle args)], rfl, ?_⟩
  intro task args' hm
  simp only [List.mem_singleton, Event.spawned.injEq] at hm
  rw [hm.2]
  exact h

theorem growsOutside_startIfEnabled (e : Endpoint) (rt : Runtime) (h : ¬ P (.endpoint e.dns)) :
    GrowsOutside P rt.log (startIfEnabled e rt).2.log := by
  rw [startIfEnabled_log]
  split
  · exact growsOutside_spawn rt (endpointArgs e) h
  · exact .refl _

theorem growsOutside_startSshIfEnabled (c : SshConfiguration) (rt : Runtime) (h : ¬ P .ssh) :
    GrowsOutside P rt.log (startSshIfEnabled c rt).2.log := by
  rw [startSshIfEnabled_log]
  split
  · exact growsOutside_spawn rt (sshArgs c) h
  · exact .refl _

theorem growsOutside_retain (s : InnerDaemonRunner) (set : List String) :
    GrowsOutside P s.rt.log (retainConfigured s set).rt.log := by
  refine retain_induction s.endpoints (keepConfigured set) s.rt
    (fun _ rt => GrowsOutside P s.rt.log rt.log) ?_ (.refl _)
  intro lookup dns inst rt _ h
  rw [keepConfigured]
  split
  · exact h
  · exact h.trans (growsOutside_stop inst.enabledisable rt)

/-- An entry that equals what its slot holds does nothing; any other entry
works on its own slot only. -/
theorem growsOutside_applyEndpoint (s : InnerDaemonRunner) (e : Endpoint)
    (h : P (.endpoint e.dns) → configOf s e.dns = some e) :
    GrowsOutside P s.rt.log (applyEndpoint s e).rt.log := by
  rcases applyEndpoint_cases s e with ⟨_, _, _, ha⟩ | ⟨current, hl, hne, ha⟩ | ⟨hl, ha⟩ <;> rw [ha]
  · exact .refl _
  · have hout : ¬ P (.endpoint e.dns) := by
      intro hp
      have he := h hp
      rw [configOf, hl, Option.map_some, Option.some.injEq] at he
      exact hne he
    exact (growsOutside_stop current.enabledisable s.rt).trans (growsOutside_startIfEnabled e _ hout)
  · have hout : ¬ P (.endpoint e.dns) := by
      intro hp
      have he := h hp
      simp [configOf, hl] at he
    exact growsOutside_startIfEnabled e s.rt hout

theorem applyEndpoint_unchanged (s : InnerDaemonRunner) (e : Endpoint)
    (h : configOf s e.dns = some e) : applyEndpoint s e = s := by
  rcases applyEndpoint_cases s e with ⟨_, _, _, ha⟩ | ⟨current, hl, hne, _⟩ | ⟨hl, _⟩
  · exact ha
  · rw [configOf, hl, Option.map_some, Option.some.injEq] at h
    exact absurd h hne
  · simp [configOf, hl] at h

theorem foldl_unchanged {s : InnerDaemonRunner} {dns : String} {inst : EndpointInstance}
    (hl : s.endpoints.lookup dns = some inst) (es : List Endpoint)
    (hes : ∀ e ∈ es, e.dns = dns → e = inst.existingConfig) :
    (es.foldl applyEndpoint s).endpoints.lookup dns = some inst ∧
      GrowsOutside (· = .endpoint dns) s.rt.log (es.foldl applyEndpoint s).rt.log := by
  induction es generalizing s with
  | nil => exact ⟨hl, .refl _⟩
  | cons e es ih =>
      have hsame : e.dns = dns → configOf s e.dns = some e := by
        intro hd
        rw [hd, configOf, hl, hes e (by simp) hd]
        rfl
      have hstep : (applyEndpoint s e).endpoints.lookup dns = some inst := by
        by_cases hd : e.dns = dns
        · rw [applyEndpoint_unchanged s e (hsame hd), hl]
        · rw [applyEndpoint_other s e (Ne.symm hd), hl]
      obtain ⟨hlookup, hgrow⟩ := ih hstep (fun e he => hes e (List.mem_cons_of_mem _ he))
      refine ⟨hlookup, .trans (growsOutside_applyEndpoint s e ?_) hgrow⟩
      intro hp
      exact hsame (Slot.endpoint.inj hp)

theorem growsOutside_foldl_ssh (s : InnerDaemonRunner) (es : List Endpoint) :
    GrowsOutside (· = .ssh) s.rt.log (es.foldl applyEndpoint s).rt.log := by
  induction es generalizing s with
  | nil => exact .refl _
  | cons e es ih => exact (growsOutside_applyEndpoint s e nofun).trans (ih _)

theorem growsOutside_applySsh (osHostname : String) (s : InnerDaemonRunner) (ssh : Option Ssh)
    (h : P .ssh → ssh = none ∨ s.ssh.map (·.existingConfig) = ssh.map (sshConfiguration osHostname)) :
    GrowsOutside P s.rt.log (applySsh osHostname s ssh).rt.log := by
  rcases applySsh_cases osHostname s ssh with
    ⟨_, ha⟩ | ⟨inst, _, _, ha⟩ | ⟨newcfg, inst, rfl, hs, hne, ha⟩ | ⟨newcfg, rfl, hs, ha⟩ <;> rw [ha]
  · exact .refl _
  · exact growsOutside_stop inst.enabledisable s.rt
  · apply (growsOutside_stop inst.enabledisable s.rt).trans
    apply growsOutside_startSshIfEnabled
    intro hp
    rcases h hp with he | he
    · cases he
    · simp only [hs, Option.map_some, Option.some.injEq] at he
      exact hne he.symm
  · apply growsOutside_startSshIfEnabled
    intro hp
    rcases h hp with he | he
    · cases he
    · simp [hs] at he

theorem applySsh_same {osHostname : String} {s : InnerDaemonRunner} {ssh : Option Ssh}
    (h : s.ssh.map (·.existingConfig) = ssh.map (sshConfiguration osHostname)) :
    applySsh osHostname s ssh = s := by
  rcases applySsh_cases osHostname s ssh with
    ⟨_, ha⟩ | ⟨_, rfl, hs, _⟩ | ⟨_, _, rfl, hs, hne, _⟩ | ⟨_, rfl, hs, _⟩
  · exact ha
  · simp [hs] at h
  · rw [hs, Option.map_some, Option.map_some, Option.some.injEq] at h
    exact absurd h.symm hne
  · simp [hs] at h

theorem not_stopped {t : InnerDaemonRunner} (h : Consistent t) {slot : Slot} {task : TaskId}
    {args : EndpointArgs} (hs : enabledEntries t slot = some (task, args)) :
    .stopped task ∉ t.rt.log.events :=
  (h.mem_log hs).2

/-- What a call may have done to the log without touching a slot: it stopped
other tasks and spawned tasks of other slots. -/
def Undisturbed (slot : Slot) (running : Option TaskId) (s t : InnerDaemonRunner) : Prop :=
  ∃ es, t.rt.log.events = s.rt.log.events ++ es ∧
    (∀ task, running = some task → .stopped task ∉ es) ∧
    ∀ task args, .spawned task args ∈ es → slotOf args ≠ slot

section

variable {slot : Slot} {running : Option TaskId} {a b c : InnerDaemonRunner}

theorem undisturbed_same (h : b.rt.log = a.rt.log) : Undisturbed slot running a b :=
  ⟨[], by simp [h], by simp, by simp⟩

theorem undisturbed_trans (h : Undisturbed slot running a b) (h' : Undisturbed slot running b c) :
    Undisturbed slot running a c := by
  obtain ⟨es, he, hstop, hspawn⟩ := h
  obtain ⟨fs, hf, hstop', hspawn'⟩ := h'
  refine ⟨es ++ fs, by rw [hf, he, List.append_assoc], ?_, ?_⟩
  · intro task htask hm
    exact (List.mem_append.mp hm).elim (hstop task htask) (hstop' task htask)
  · intro task args hm
    exact (List.mem_append.mp hm).elim (hspawn task args) (hspawn' task args)

end

theorem undisturbed_of_grows {s t : InnerDaemonRunner} (ht : Consistent t) {slot : Slot}
    {running : Option TaskId}
    (hrun : ∀ task, running = some task → ∃ args, enabledEntries t slot = some (task, args))
    (hg : GrowsOutside (· = slot) s.rt.log t.rt.log) : Undisturbed slot running s t := by
  obtain ⟨es, he, hes⟩ := hg
  refine ⟨es, he, ?_, hes⟩
  intro task htask hstop
  obtain ⟨args, hentry⟩ := hrun task htask
  apply not_stopped ht hentry
  rw [he]
  exact List.mem_append_right _ hstop

theorem updateConfig_idle (osHostname : String) (s : InnerDaemonRunner)
    {config : Option EbbflowDaemonConfig} {key : Option String}
    (h : config = none ∨ (s.rt.info.key = none ∧ key = none)) :
    (updateConfig osHostname s config key).endpoints = s.endpoints ∧
      (updateConfig osHostname s config key).ssh = s.ssh ∧
      (updateConfig osHostname s config key).rt.log = s.rt.log := by
  rcases updateConfig_cases osHostname s config key with ⟨_, hsame⟩ | ⟨c, hc, hk, _⟩
  · exact hsame
  · rcases h with hn | ⟨hs, rfl⟩
    · cases hc.symm.trans hn
    · simp [hs] at hk

theorem endpoint_undisturbed {osHostname : String} {s : InnerDaemonRunner} (h : Consistent s)
    (c : EbbflowDaemonConfig) (key : Option String) {dns : String} {inst : EndpointInstance}
    (hl : s.endpoints.lookup dns = some inst)
    (honce : c.endpoints.filter (fun e => e.dns = dns) = [inst.existingConfig]) :
    (updateConfig osHostname s (some c) key).endpoints.lookup dns = some inst ∧
      Undisturbed (.endpoint dns) (taskOf inst.enabledisable) s
        (updateConfig osHostname s (some c) key) := by
  have hes : ∀ e ∈ c.endpoints, e.dns = dns → e = inst.existingConfig := by
    intro e he hd
    have hm : e ∈ c.endpoints.filter (fun e => e.dns = dns) := by simp [he, hd]
    rw [honce] at hm
    exact List.mem_singleton.mp hm
  have hset : dns ∈ c.endpoints.map (·.dns) := by
    have hm : inst.existingConfig ∈ c.endpoints.filter (fun e => e.dns = dns) := by simp [honce]
    rw [List.mem_filter, decide_eq_true_eq] at hm
    exact List.mem_map.mpr ⟨_, hm.1, hm.2⟩
  have ht : Consistent (updateConfig osHostname s (some c) key) :=
    consistent_updateConfig h osHostname (some c) key
  rcases updateConfig_cases osHostname s (some c) key with ⟨_, he, _, hlog⟩ | ⟨_, hc, _, hu⟩
  · rw [he]
    exact ⟨hl, [], by simp [hlog], by simp, by simp⟩
  · cases hc
    rw [hu] at ht ⊢
    let s₀ : InnerDaemonRunner := { takeKey s key with statusmeta := .Good }
    have hs₀ : s₀.endpoints = s.endpoints ∧ s₀.rt.log = s.rt.log := by
      cases key <;> exact ⟨rfl, rfl⟩
    have hkept : (retainConfigured s₀ (c.endpoints.map (·.dns))).endpoints.lookup dns = some inst := by
      rw [lookup_retainConfigured, if_pos hset, hs₀.1, hl]
    obtain ⟨hlookup, hgrow⟩ := foldl_unchanged hkept c.endpoints hes
    have hfinal : (applyConfig osHostname s₀ c).endpoints.lookup dns = some inst := by
      rw [applyConfig, applySsh_endpoints]
      exact hlookup
    refine ⟨hfinal, undisturbed_of_grows ht ?_ ?_⟩
    · intro task htask
      refine ⟨capIdle (endpointArgs inst.existingConfig), ?_⟩
      change (AList.lookup dns (applyConfig osHostname s₀ c).endpoints).bind endpointTask = _
      rw [hfinal, Option.bind_some, endpointTask, htask]
      rfl
    · rw [← hs₀.2]
      exact (growsOutside_retain s₀ _).trans (hgrow.trans (growsOutside_applySsh _ _ _ (by simp)))

theorem ssh_undisturbed {osHostname : String} {s : InnerDaemonRunner} (h : Consistent s)
    (c : EbbflowDaemonConfig) (key : Option String) {inst : SshInstance} (hs : s.ssh = some inst)
    (hsame : c.ssh.map (sshConfiguration osHostname) = some inst.existingConfig) :
    (updateConfig osHostname s (some c) key).ssh = some inst ∧
      Undisturbed .ssh (taskOf inst.enabledisable) s (updateConfig osHostname s (some c) key) := by
  have ht : Consistent (updateConfig osHostname s (some c) key) :=
    consistent_updateConfig h osHostname (some c) key
  rcases updateConfig_cases osHostname s (some c) key with ⟨_, _, he, hlog⟩ | ⟨_, hc, _, hu⟩
  · rw [he]
    exact ⟨hs, [], by simp [hlog], by simp, by simp⟩
  · cases hc
    rw [hu] at ht ⊢
    let s₀ : InnerDaemonRunner := { takeKey s key with statusmeta := .Good }
    have hs₀ : s₀.ssh = s.ssh ∧ s₀.rt.log = s.rt.log := by
      cases key <;> exact ⟨rfl, rfl⟩
    let s₁ := c.endpoints.foldl applyEndpoint (retainConfigured s₀ (c.endpoints.map (·.dns)))
    have hs₁ : s₁.ssh = some inst := by
      rw [foldl_ssh]
      exact hs₀.1.trans hs
    have hunchanged : applyConfig osHostname s₀ c = s₁ := by
      apply applySsh_same
      rw [hs₁, Option.map_some, hsame]
    have hfinal : (applyConfig osHostname s₀ c).ssh = some inst := by rw [hunchanged, hs₁]
    refine ⟨hfinal, undisturbed_of_grows ht ?_ ?_⟩
    · intro task htask
      refine ⟨capIdle (sshArgs inst.existingConfig), ?_⟩
      change (applyConfig osHostname s₀ c).ssh.bind sshTask = _
      rw [hfinal, Option.bind_some, sshTask, htask]
      rfl
    · change GrowsOutside _ _ (applyConfig osHostname s₀ c).rt.log
      rw [← hs₀.2, hunchanged]
      exact (growsOutside_retain s₀ _).trans (growsOutside_foldl_ssh _ _)

/-- A reload touches only what changed. -/
theorem reload_touches_only_changes {osHostname : String} {calls : List Call} {s : InnerDaemonRunner}
    (h : Run osHostname calls s) (key : Option String) :
    (∀ (c : EbbflowDaemonConfig) dns inst, s.endpoints.lookup dns = some inst →
      c.endpoints.filter (fun e => e.dns = dns) = [inst.existingConfig] →
        (updateConfig osHostname s (some c) key).endpoints.lookup dns = some inst ∧
        Undisturbed (.endpoint dns) (taskOf inst.enabledisable) s
          (updateConfig osHostname s (some c) key)) ∧
      (∀ (c : EbbflowDaemonConfig) ssh inst, s.ssh = some inst → c.ssh = some ssh →
        IsSshConfiguration osHostname ssh inst.existingConfig →
          (updateConfig osHostname s (some c) key).ssh = some inst ∧
          Undisturbed .ssh (taskOf inst.enabledisable) s (updateConfig osHostname s (some c) key)) ∧
      ∀ config, config = none ∨ (s.rt.info.key = none ∧ key = none) →
        (updateConfig osHostname s config key).endpoints = s.endpoints ∧
        (updateConfig osHostname s config key).ssh = s.ssh ∧
        (updateConfig osHostname s config key).rt.log = s.rt.log := by
  have hc := run_consistent h
  refine ⟨?_, ?_, ?_⟩
  · intro c dns inst hl honce
    exact endpoint_undisturbed hc c key hl honce
  · intro c ssh inst hs hssh hsame
    have hresolved : c.ssh.map (sshConfiguration osHostname) = some inst.existingConfig := by
      rw [hssh, Option.map_some, isSshConfiguration_iff.mp hsame]
    exact ssh_undisturbed hc c key hs hresolved
  · intro config hidle
    exact updateConfig_idle osHostname s hidle

theorem reload_touches_only_changes_sample :
    (updateConfig "host" (updateConfig "host" (.new ⟨none⟩ "") (some sampleConfig) (some "key"))
        (some sampleEdit) (some "other key")).endpoints.lookup "a.example" =
      some ⟨.Enabled 1, ⟨8081, "a.example", 200, 2000, true, none⟩⟩ :=
  ((reload_touches_only_changes (.call ⟨some sampleConfig, some "key"⟩ (.new ⟨none⟩ ""))
    (some "other key")).1 sampleEdit "a.example" _ (by decide) (by decide)).1

end Ebbflow.RunnerReload
