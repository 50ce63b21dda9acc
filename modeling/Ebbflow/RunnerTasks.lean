import Ebbflow.EntryTasks

namespace Ebbflow.RunnerTasks

open Config Daemon Runner EntryTasks Lib.HashTable Lib.Supervisor

inductive Slot
  | endpoint (dns : String)
  | ssh
  deriving DecidableEq, Repr

def slotOf (args : EndpointArgs) : Slot :=
  match args.ctype with
  | .Tls => .endpoint args.endpoint
  | .Ssh => .ssh

def taskOf : EnabledDisabled → Option TaskId
  | .Enabled task => some task
  | .Disabled => none

def endpointTask (inst : EndpointInstance) : Option (TaskId × EndpointArgs) :=
  (taskOf inst.enabledisable).map fun task => (task, capIdle (endpointArgs inst.existingConfig))

def sshTask (inst : SshInstance) : Option (TaskId × EndpointArgs) :=
  (taskOf inst.enabledisable).map fun task => (task, capIdle (sshArgs inst.existingConfig))

def tableOf (lookup : String → Option EndpointInstance) (ssh : Option SshInstance) :
    Table Slot EndpointArgs
  | .endpoint dns => (lookup dns).bind endpointTask
  | .ssh => ssh.bind sshTask

/-- The Enabled entries of the runner, each with its task and the arguments
that its `existing_config` calls for. -/
def enabledEntries (s : InnerDaemonRunner) : Table Slot EndpointArgs :=
  tableOf (fun dns => s.endpoints.lookup dns) s.ssh

/-- The same, said by the fields of the entry and of the arguments. -/
inductive EntryOf (s : InnerDaemonRunner) : Slot → TaskId → EndpointArgs → Prop
  | endpoint {dns : String} {inst : EndpointInstance} {task : TaskId} {args : EndpointArgs} :
      s.endpoints.lookup dns = some inst → inst.enabledisable = .Enabled task →
      IsEndpointTask inst.existingConfig args → EntryOf s (.endpoint dns) task args
  | ssh {inst : SshInstance} {task : TaskId} {args : EndpointArgs} : s.ssh = some inst →
      inst.enabledisable = .Enabled task → IsSshTask inst.existingConfig args → EntryOf s .ssh task args

theorem taskOf_eq_some {ed : EnabledDisabled} {task : TaskId} : taskOf ed = some task ↔ ed = .Enabled task := by
  cases ed <;> simp [taskOf]

theorem endpointTask_eq_some {inst : EndpointInstance} {task : TaskId} {args : EndpointArgs} :
    endpointTask inst = some (task, args) ↔
      inst.enabledisable = .Enabled task ∧ IsEndpointTask inst.existingConfig args := by
  simp [endpointTask, taskOf_eq_some, isEndpointTask_iff]

theorem sshTask_eq_some {inst : SshInstance} {task : TaskId} {args : EndpointArgs} :
    sshTask inst = some (task, args) ↔ inst.enabledisable = .Enabled task ∧ IsSshTask inst.existingConfig args := by
  simp [sshTask, taskOf_eq_some, isSshTask_iff]

theorem enabledEntries_eq_some {s : InnerDaemonRunner} {slot : Slot} {task : TaskId} {args : EndpointArgs} :
    enabledEntries s slot = some (task, args) ↔ EntryOf s slot task args := by
  rw [enabledEntries]
  constructor
  · intro h
    cases slot with
    | endpoint dns =>
        obtain ⟨inst, hl, hentry⟩ := Option.bind_eq_some_iff.mp h
        obtain ⟨htask, hargs⟩ := endpointTask_eq_some.mp hentry
        exact .endpoint hl htask hargs
    | ssh =>
        obtain ⟨inst, hs, hentry⟩ := Option.bind_eq_some_iff.mp h
        obtain ⟨htask, hargs⟩ := sshTask_eq_some.mp hentry
        exact .ssh hs htask hargs
  · intro h
    cases h with
    | endpoint hl htask hargs =>
        exact Option.bind_eq_some_iff.mpr ⟨_, hl, endpointTask_eq_some.mpr ⟨htask, hargs⟩⟩
    | ssh hs htask hargs => exact Option.bind_eq_some_iff.mpr ⟨_, hs, sshTask_eq_some.mpr ⟨htask, hargs⟩⟩

theorem tableOf_update (lookup : String → Option EndpointInstance) (ssh : Option SshInstance)
    (dns : String) (entry : Option EndpointInstance) :
    tableOf (Function.update lookup dns entry) ssh =
      Function.update (tableOf lookup ssh) (.endpoint dns) (entry.bind endpointTask) := by
  funext slot
  cases slot with
  | endpoint d =>
      by_cases hd : d = dns
      · subst hd
        simp [tableOf]
      · simp [tableOf, hd]
  | ssh => simp [tableOf]

theorem tableOf_ssh (lookup : String → Option EndpointInstance) (ssh ssh' : Option SshInstance) :
    tableOf lookup ssh' = Function.update (tableOf lookup ssh) .ssh (ssh'.bind sshTask) := by
  funext slot
  cases slot with
  | endpoint d => simp [tableOf]
  | ssh => simp [tableOf]

theorem stop_log (ed : EnabledDisabled) (rt : Runtime) :
    (ed.stop rt).2.log = rt.log.stop? (taskOf ed) := by
  cases ed <;> rfl

theorem startIfEnabled_log (e : Endpoint) (rt : Runtime) :
    (startIfEnabled e rt).2.log =
      if e.enabled then rt.log.spawn (capIdle (endpointArgs e)) else rt.log := by
  rw [startIfEnabled]
  split <;> rfl

theorem startIfEnabled_task (e : Endpoint) (rt : Runtime) :
    taskOf (startIfEnabled e rt).1 = if e.enabled then some rt.log.next else none := by
  rw [startIfEnabled]
  split <;> rfl

theorem startSshIfEnabled_log (c : SshConfiguration) (rt : Runtime) :
    (startSshIfEnabled c rt).2.log =
      if c.enabled then rt.log.spawn (capIdle (sshArgs c)) else rt.log := by
  rw [startSshIfEnabled]
  split <;> rfl

theorem startSshIfEnabled_task (c : SshConfiguration) (rt : Runtime) :
    taskOf (startSshIfEnabled c rt).1 = if c.enabled then some rt.log.next else none := by
  rw [startSshIfEnabled]
  split <;> rfl

variable {lookup : String → Option EndpointInstance} {ssh : Option SshInstance} {rt : Runtime}

theorem tracks_stop_endpoint (h : Tracks slotOf (tableOf lookup ssh) rt.log) {dns : String}
    {inst : EndpointInstance} (hl : lookup dns = some inst) :
    Tracks slotOf (tableOf (Function.update lookup dns none) ssh) (inst.enabledisable.stop rt).2.log := by
  have hc := h.clear (.endpoint dns)
  have ht : (tableOf lookup ssh (.endpoint dns)).map Prod.fst = taskOf inst.enabledisable := by
    simp [tableOf, hl, endpointTask, Function.comp_def]
  rw [ht, ← stop_log] at hc
  rw [tableOf_update]
  exact hc

theorem tracks_start_endpoint (h : Tracks slotOf (tableOf lookup ssh) rt.log) (e : Endpoint)
    (hl : lookup e.dns = none) :
    Tracks slotOf
      (tableOf (Function.update lookup e.dns (some ⟨(startIfEnabled e rt).1, e⟩)) ssh)
      (startIfEnabled e rt).2.log := by
  have hfree : tableOf lookup ssh (.endpoint e.dns) = none := by simp [tableOf, hl]
  rw [tableOf_update, startIfEnabled_log]
  simp only [Option.bind_some, endpointTask, startIfEnabled_task]
  split
  · exact h.spawn hfree rfl
  · rw [Option.map_none, ← hfree, Function.update_eq_self]
    exact h

theorem tracks_stop_ssh (h : Tracks slotOf (tableOf lookup ssh) rt.log) {inst : SshInstance}
    (hs : ssh = some inst) :
    Tracks slotOf (tableOf lookup none) (inst.enabledisable.stop rt).2.log := by
  have hc := h.clear .ssh
  have ht : (tableOf lookup ssh .ssh).map Prod.fst = taskOf inst.enabledisable := by
    simp [tableOf, hs, sshTask, Function.comp_def]
  rw [ht, ← stop_log] at hc
  rw [tableOf_ssh lookup ssh none]
  exact hc

theorem tracks_start_ssh (h : Tracks slotOf (tableOf lookup none) rt.log) (c : SshConfiguration) :
    Tracks slotOf (tableOf lookup (some ⟨c, (startSshIfEnabled c rt).1⟩))
      (startSshIfEnabled c rt).2.log := by
  have hfree : tableOf lookup none .ssh = none := rfl
  rw [tableOf_ssh lookup none, startSshIfEnabled_log]
  simp only [Option.bind_some, sshTask, startSshIfEnabled_task]
  split
  · exact h.spawn hfree rfl
  · rw [Option.map_none, ← hfree, Function.update_eq_self]
    exact h

def Consistent (s : InnerDaemonRunner) : Prop := Tracks slotOf (enabledEntries s) s.rt.log

theorem consistent_retain {s : InnerDaemonRunner} (h : Consistent s) (set : List String) :
    Consistent (retainConfigured s set) := by
  refine retain_induction s.endpoints (keepConfigured set) s.rt
    (fun lookup rt => Tracks slotOf (tableOf lookup s.ssh) rt.log) ?_ h
  intro lookup dns inst rt hl ht
  rw [keepConfigured]
  split
  · rw [if_pos rfl, ← hl, Function.update_eq_self]
    exact ht
  · rw [if_neg Bool.false_ne_true]
    exact tracks_stop_endpoint ht hl

theorem consistent_applyEndpoint {s : InnerDaemonRunner} (h : Consistent s) (e : Endpoint) :
    Consistent (applyEndpoint s e) := by
  rcases applyEndpoint_cases s e with ⟨_, _, _, ha⟩ | ⟨current, hl, _, ha⟩ | ⟨hl, ha⟩ <;> rw [ha]
  · exact h
  · have hstop := tracks_stop_endpoint h hl
    have hstart := tracks_start_endpoint hstop e (Function.update_self _ _ _)
    rw [Function.update_idem, ← lookup_insert_eq] at hstart
    exact hstart
  · have hstart := tracks_start_endpoint h e hl
    rw [← lookup_insert_eq] at hstart
    exact hstart

theorem consistent_foldl {s : InnerDaemonRunner} (h : Consistent s) (es : List Endpoint) :
    Consistent (es.foldl applyEndpoint s) := by
  induction es generalizing s with
  | nil => exact h
  | cons e es ih => exact ih (consistent_applyEndpoint h e)

theorem consistent_applySsh {s : InnerDaemonRunner} (h : Consistent s) (osHostname : String)
    (ssh : Option Ssh) : Consistent (applySsh osHostname s ssh) := by
  rcases applySsh_cases osHostname s ssh with
    ⟨_, ha⟩ | ⟨inst, _, hs, ha⟩ | ⟨newcfg, inst, _, hs, _, ha⟩ | ⟨newcfg, _, hs, ha⟩ <;> rw [ha]
  · exact h
  · exact tracks_stop_ssh h hs
  · exact tracks_start_ssh (tracks_stop_ssh h hs) _
  · have h' : Tracks slotOf (tableOf (fun dns => s.endpoints.lookup dns) none) s.rt.log := by
      rw [← hs]
      exact h
    exact tracks_start_ssh h' _

theorem consistent_congr {s t : InnerDaemonRunner} (h : Consistent s)
    (he : t.endpoints.entries.Perm s.endpoints.entries) (hs : t.ssh = s.ssh)
    (hl : t.rt.log = s.rt.log) : Consistent t := by
  have htable : enabledEntries t = enabledEntries s := by
    simp only [enabledEntries, hs, AList.perm_lookup he]
  rw [Consistent, htable, hl]
  exact h

theorem consistent_updateConfig {s : InnerDaemonRunner} (h : Consistent s) (osHostname : String)
    (config : Option EbbflowDaemonConfig) (key : Option String) :
    Consistent (updateConfig osHostname s config key) := by
  rcases updateConfig_cases osHostname s config key with ⟨_, he, hs, hl⟩ | ⟨c, _, _, hu⟩
  · exact consistent_congr h (.of_eq (congrArg _ he)) hs hl
  · have hgood : Consistent { takeKey s key with statusmeta := .Good } := by cases key <;> exact h
    rw [hu]
    exact consistent_applySsh (consistent_foldl (consistent_retain hgood _) _) _ _

theorem run_consistent {osHostname : String} {calls : List Call} {s : InnerDaemonRunner}
    (h : Run osHostname calls s) : Consistent s := by
  induction h with
  | new info clock =>
      apply (tracks_empty slotOf).congr
      intro slot
      cases slot <;> rfl
  | call c _ ih => exact consistent_updateConfig ih _ _ _
  | background _ hb ih => exact consistent_congr ih hb.endpoints hb.ssh hb.log

/-- The tasks that were ever spawned and not told to stop are those of the
Enabled entries, one for each, with the arguments of their configurations;
and no moment of any call saw two tasks for one dns name or two for SSH. -/
theorem live_tasks_are_enabled_entries {osHostname : String} {calls : List Call}
    {s : InnerDaemonRunner} (h : Run osHostname calls s) :
    (∀ slot task args, EntryOf s slot task args → Live s.rt.log.events task args) ∧
      (∀ task args, Live s.rt.log.events task args → ∃! slot, EntryOf s slot task args) ∧
      (∀ task args args', .spawned task args ∈ s.rt.log.events →
        .spawned task args' ∈ s.rt.log.events → args = args') ∧
      ∀ moment, moment <+: s.rt.log.events → ∀ i j a b, Live moment i a → Live moment j b →
        (a.ctype = .Tls → b.ctype = .Tls → a.endpoint = b.endpoint → i = j) ∧
        (a.ctype = .Ssh → b.ctype = .Ssh → i = j) := by
  have hc := run_consistent h
  refine ⟨fun slot task args hs => hc.mem_log (enabledEntries_eq_some.mpr hs), ?_, hc.wellFormed.spawned_once, ?_⟩
  · intro task args hl
    obtain ⟨slot, hs⟩ := (hc.live task args).mp hl
    exact ⟨slot, enabledEntries_eq_some.mp hs, fun slot' hs' => hc.slot_unique (enabledEntries_eq_some.mpr hs') hs⟩
  · intro moment hm i j a b hi hj
    have hu := hc.unique moment hm i j a b hi hj
    constructor
    · intro ha hb he
      exact hu (by simp [slotOf, ha, hb, he])
    · intro ha hb
      exact hu (by simp [slotOf, ha, hb])

theorem live_tasks_are_enabled_entries_sample :
    ∃! slot, EntryOf (updateConfig "host" (.new ⟨none⟩ "") (some sampleConfig) (some "key")) slot 1
      ⟨.Tls, 1000, 200, "a.example", 8081, none⟩ :=
  (live_tasks_are_enabled_entries (.call ⟨some sampleConfig, some "key"⟩ (.new ⟨none⟩ ""))).2.1 1 _
    (by decide)

end Ebbflow.RunnerTasks
