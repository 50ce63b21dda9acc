import Ebbflow.Runner

namespace Ebbflow.RunnerKey

open Config Daemon Runner Lib.HashTable

@[simp] theorem stop_info (ed : EnabledDisabled) (rt : Runtime) : (ed.stop rt).2.info = rt.info := by
  cases ed <;> rfl

@[simp] theorem startIfEnabled_info (e : Endpoint) (rt : Runtime) :
    (startIfEnabled e rt).2.info = rt.info := by
  rw [startIfEnabled]
  split <;> rfl

@[simp] theorem startSshIfEnabled_info (c : SshConfiguration) (rt : Runtime) :
    (startSshIfEnabled c rt).2.info = rt.info := by
  rw [startSshIfEnabled]
  split <;> rfl

@[simp] theorem retainConfigured_info (s : InnerDaemonRunner) (set : List String) :
    (retainConfigured s set).rt.info = s.rt.info := by
  refine retain_induction s.endpoints (keepConfigured set) s.rt (fun _ rt => rt.info = s.rt.info) ?_ rfl
  intro lookup dns inst rt _ h
  rw [keepConfigured]
  split
  · exact h
  · exact (stop_info inst.enabledisable rt).trans h

@[simp] theorem applyEndpoint_info (s : InnerDaemonRunner) (e : Endpoint) :
    (applyEndpoint s e).rt.info = s.rt.info := by
  rcases applyEndpoint_cases s e with ⟨_, _, _, ha⟩ | ⟨_, _, _, ha⟩ | ⟨_, ha⟩ <;> simp [ha, putEndpoint]

@[simp] theorem foldl_info (s : InnerDaemonRunner) (es : List Endpoint) :
    (es.foldl applyEndpoint s).rt.info = s.rt.info := by
  induction es generalizing s with
  | nil => rfl
  | cons e es ih => rw [List.foldl_cons, ih, applyEndpoint_info]

@[simp] theorem applySsh_info (osHostname : String) (s : InnerDaemonRunner) (ssh : Option Ssh) :
    (applySsh osHostname s ssh).rt.info = s.rt.info := by
  rcases applySsh_cases osHostname s ssh with
    ⟨_, ha⟩ | ⟨_, _, _, ha⟩ | ⟨_, _, _, _, _, ha⟩ | ⟨_, _, _, ha⟩ <;> simp [ha, putSsh]

@[simp] theorem applyConfig_info (osHostname : String) (s : InnerDaemonRunner) (c : EbbflowDaemonConfig) :
    (applyConfig osHostname s c).rt.info = s.rt.info := by
  simp [applyConfig]

theorem updateConfig_info (osHostname : String) (s : InnerDaemonRunner)
    (config : Option EbbflowDaemonConfig) (key : Option String) :
    (updateConfig osHostname s config key).rt.info = (takeKey s key).rt.info := by
  simp only [updateConfig]
  split
  · rfl
  · cases config <;> simp

theorem updateConfig_key (osHostname : String) (s : InnerDaemonRunner)
    (config : Option EbbflowDaemonConfig) (key : Option String) :
    (updateConfig osHostname s config key).rt.info.key = key.or s.rt.info.key := by
  rw [updateConfig_info, takeKey_key]

end Ebbflow.RunnerKey
