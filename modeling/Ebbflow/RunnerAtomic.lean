import Ebbflow.RunDaemon
import Ebbflow.RunnerStatus
import Ebbflow.RunnerSystem

namespace Ebbflow.RunnerAtomic

open Config Daemon Runner RunnerSystem RunnerTasks RunnerConfig RunnerStatus Lib.HashTable Lib.Supervisor

variable {osHostname : String} {machine : Machine} {s t : InnerDaemonRunner} {sys sys' : System}
  {calls : List Call} {current : Call}

theorem background_applyEndpoint (h : Background s t) (e : Endpoint) :
    Background (applyEndpoint s e) (applyEndpoint t e) := by
  have hlookup : t.endpoints.lookup e.dns = s.endpoints.lookup e.dns := AList.perm_lookup h.endpoints
  have hput (rt rt' : Runtime) (hinfo : rt'.info = rt.info) (hlog : rt'.log = rt.log) :
      Background (putEndpoint s e rt) (putEndpoint t e rt') := by
    have htask : (startIfEnabled e rt').1 = (startIfEnabled e rt).1 := by
      simp only [startIfEnabled, spawnEndpointasdfsfa, spawnEndpoint, addMessage_log, hlog]
      split <;> rfl
    refine ⟨?_, h.statusmeta, h.ssh, ?_, ?_⟩
    · simp only [putEndpoint, htask]
      exact AList.perm_insert h.endpoints
    · simp only [putEndpoint, startIfEnabled]
      split <;> exact hinfo
    · simp only [putEndpoint, startIfEnabled_log, hlog]
  rcases applyEndpoint_cases s e with ⟨current, hl, he, ha⟩ | ⟨current, hl, he, ha⟩ | ⟨hl, ha⟩
  · have hb : applyEndpoint t e = t := by simp [applyEndpoint, hlookup, hl, he]
    rw [ha, hb]
    exact h
  · have hb : applyEndpoint t e = putEndpoint t e (current.enabledisable.stop t.rt).2 := by
      simp [applyEndpoint, hlookup, hl, he, putEndpoint]
    rw [ha, hb]
    apply hput
    · cases current.enabledisable <;> exact h.info
    · simp only [stop_log, h.log]
  · have hb : applyEndpoint t e = putEndpoint t e t.rt := by simp [applyEndpoint, hlookup, hl, putEndpoint]
    rw [ha, hb]
    exact hput _ _ h.info h.log

theorem background_applySsh (h : Background s t) (osHostname : String) (ssh : Option Ssh) :
    Background (applySsh osHostname s ssh) (applySsh osHostname t ssh) := by
  have hput (c : SshConfiguration) (rt rt' : Runtime) (hinfo : rt'.info = rt.info) (hlog : rt'.log = rt.log) :
      Background (putSsh s c rt) (putSsh t c rt') := by
    have htask : (startSshIfEnabled c rt').1 = (startSshIfEnabled c rt).1 := by
      simp only [startSshIfEnabled, spawnEndpoint, addMessage_log, hlog]
      split <;> rfl
    refine ⟨h.endpoints, h.statusmeta, ?_, ?_, ?_⟩
    · simp only [putSsh, htask]
    · simp only [putSsh, startSshIfEnabled]
      split <;> exact hinfo
    · simp only [putSsh, startSshIfEnabled_log, hlog]
  have hstop (inst : SshInstance) :
      (inst.enabledisable.stop t.rt).2.info = (inst.enabledisable.stop s.rt).2.info ∧
        (inst.enabledisable.stop t.rt).2.log = (inst.enabledisable.stop s.rt).2.log := by
    refine ⟨?_, by simp only [stop_log, h.log]⟩
    cases inst.enabledisable <;> exact h.info
  rcases applySsh_cases osHostname s ssh with
    ⟨hsame, ha⟩ | ⟨inst, rfl, hs, ha⟩ | ⟨newcfg, inst, rfl, hs, hne, ha⟩ | ⟨newcfg, rfl, hs, ha⟩
  · have hb : applySsh osHostname t ssh = t := by
      rcases applySsh_cases osHostname t ssh with
        ⟨_, hb⟩ | ⟨inst, rfl, ht, _⟩ | ⟨newcfg, inst, rfl, ht, hne, _⟩ | ⟨newcfg, rfl, ht, _⟩
      · exact hb
      · rw [← h.ssh, ht] at hsame
        cases hsame
      · rw [← h.ssh, ht] at hsame
        exact absurd (Option.some.inj hsame).symm hne
      · rw [← h.ssh, ht] at hsame
        cases hsame
    rw [ha, hb]
    exact h
  · have hb : applySsh osHostname t none = { t with ssh := none, rt := (inst.enabledisable.stop t.rt).2 } := by
      simp [applySsh, h.ssh, hs]
    rw [ha, hb]
    exact ⟨h.endpoints, h.statusmeta, rfl, (hstop inst).1, (hstop inst).2⟩
  · have hb : applySsh osHostname t (some newcfg) =
        putSsh t (sshConfiguration osHostname newcfg) (inst.enabledisable.stop t.rt).2 := by
      simp [applySsh, h.ssh, hs, hne, putSsh]
    rw [ha, hb]
    exact hput _ _ _ (hstop inst).1 (hstop inst).2
  · have hb : applySsh osHostname t (some newcfg) = putSsh t (sshConfiguration osHostname newcfg) t.rt := by
      simp [applySsh, h.ssh, hs, putSsh]
    rw [ha, hb]
    exact hput _ _ _ h.info h.log

def accepted (s : InnerDaemonRunner) (key : Option String) (c : EbbflowDaemonConfig) : InnerDaemonRunner :=
  retainConfigured { takeKey s key with statusmeta := .Good } (c.endpoints.map (·.dns))

/-- What the runner is in the middle of a call, by the atomic calls that are over. -/
def During (P : List Call → InnerDaemonRunner → Prop) (calls : List Call) (current : Call)
    (runner : InnerDaemonRunner) : Progress → Prop
  | .idle => P calls runner
  | .keyTaken config => config = current.config ∧ ∃ before, P calls before ∧
      Background (takeKey before current.key) runner
  | .applying es ssh => ∃ before c done, P calls before ∧ current.config = some c ∧
      (takeKey before current.key).rt.info.key.isSome ∧ c.endpoints = done ++ es ∧ c.ssh = ssh ∧
      Background (done.foldl applyEndpoint (accepted before current.key c)) runner

structure Closed (osHostname : String) (P : List Call → InnerDaemonRunner → Prop) : Prop where
  call : ∀ calls s (c : Call), P calls s → P (c :: calls) (updateConfig osHostname s c.config c.key)
  background : ∀ calls s t, P calls s → Background s t → P calls t

theorem before_taken {P : List Call → InnerDaemonRunner → Prop} (hP : Closed osHostname P)
    (h : P calls s) {key : Option String} (hb : Background (takeKey s key) t) :
    ∃ before, P calls before ∧ takeKey before key = t := by
  refine ⟨{ t with rt := { t.rt with info := s.rt.info } }, ?_, ?_⟩
  · apply hP.background calls s _ h
    cases key <;> exact ⟨hb.endpoints, hb.statusmeta, hb.ssh, rfl, hb.log⟩
  · have hinfo := hb.info
    cases key with
    | none =>
        have hsame : s.rt.info = t.rt.info := hinfo.symm
        rw [takeKey, hsame]
    | some k =>
        have hsame : s.rt.info.updateKey k = t.rt.info := hinfo.symm
        simp only [takeKey, hsame]

variable {P : List Call → InnerDaemonRunner → Prop}

/-- The calls that are over once the runner has come from one point to another. -/
def completedBy (calls : List Call) (current : Call) : Progress → Progress → List Call
  | .idle, _ => calls
  | .keyTaken _, .idle | .applying _ _, .idle => current :: calls
  | .keyTaken _, .keyTaken _ | .keyTaken _, .applying _ _ | .applying _ _, .keyTaken _
  | .applying _ _, .applying _ _ => calls

theorem completedBy_same (calls : List Call) (current : Call) (progress : Progress) :
    completedBy calls current progress progress = calls := by
  cases progress <;> rfl

theorem during_background (hP : Closed osHostname P) {progress : Progress}
    (h : During P calls current s progress) (hb : Background s t) : During P calls current t progress := by
  cases progress with
  | idle => exact hP.background calls s t h hb
  | keyTaken config =>
      obtain ⟨hconfig, before, hbefore, hb'⟩ := h
      exact ⟨hconfig, before, hbefore, RunDaemon.background_trans hb' hb⟩
  | applying es ssh =>
      obtain ⟨before, c, done, hbefore, hc, hkey, hes, hssh, hb'⟩ := h
      exact ⟨before, c, done, hbefore, hc, hkey, hes, hssh, RunDaemon.background_trans hb' hb⟩

theorem during_accept (hP : Closed osHostname P) {config : Option EbbflowDaemonConfig}
    (h : During P calls current sys.runner (.keyTaken config)) :
    During P (completedBy calls current (.keyTaken config) (sys.accept config).progress) current
      (sys.accept config).runner (sys.accept config).progress := by
  obtain ⟨rfl, start, hstart, hb⟩ := h
  obtain ⟨before, hbefore, htaken⟩ := before_taken hP hstart hb
  have hcall := hP.call calls before current hbefore
  rw [updateConfig, htaken] at hcall
  by_cases hk : sys.runner.rt.info.key.isNone
  · have haccept : sys.accept current.config = _ := if_pos hk
    rw [if_pos hk] at hcall
    rw [haccept]
    exact hcall
  · have haccept : sys.accept current.config = _ := if_neg hk
    rw [if_neg hk] at hcall
    rw [haccept]
    cases hc : current.config with
    | none =>
        rw [hc] at hcall
        exact hcall
    | some c =>
        refine ⟨before, c, [], hbefore, hc, ?_, rfl, rfl, ?_⟩
        · rw [htaken]
          exact Option.isSome_iff_ne_none.mpr (mt Option.isNone_iff_eq_none.mpr hk)
        · rw [List.foldl_nil, accepted, htaken]
          exact RunDaemon.background_refl _

theorem during_step (hP : Closed machine.osHostname P) (h : During P calls current sys.runner sys.progress)
    (hs : RunnerSystem.Step machine sys sys') (hidle : sys.progress = .idle → sys'.progress = .idle) :
    During P (completedBy calls current sys.progress sys'.progress) current sys'.runner sys'.progress := by
  cases hs with
  | call config key hprogress => cases hidle hprogress
  | accept hprogress =>
      rw [hprogress] at h ⊢
      exact during_accept hP h
  | @endpoint e es ssh hprogress =>
      rw [hprogress] at h ⊢
      obtain ⟨before, c, done, hbefore, hc, hkey, hes, hssh, hb⟩ := h
      refine ⟨before, c, done ++ [e], hbefore, hc, hkey, ?_, hssh, ?_⟩
      · rw [hes, List.append_assoc, List.singleton_append]
      · rw [List.foldl_append]
        exact background_applyEndpoint hb e
  | @ssh ssh hprogress =>
      rw [hprogress] at h ⊢
      obtain ⟨before, c, done, hbefore, hc, hkey, hes, rfl, hb⟩ := h
      rw [List.append_nil] at hes
      have hcall := hP.call calls before current hbefore
      have hset : ¬ (takeKey before current.key).rt.info.key.isNone :=
        mt Option.isNone_iff_eq_none.mp (Option.isSome_iff_ne_none.mp hkey)
      rw [updateConfig, if_neg hset, hc] at hcall
      apply hP.background (current :: calls) _ _ hcall
      rw [← hes] at hb
      exact background_applySsh hb machine.osHostname c.ssh
  | background hb =>
      rw [completedBy_same]
      exact during_background hP h hb
  | startUp | loop =>
      rw [completedBy_same]
      exact h

end Ebbflow.RunnerAtomic
