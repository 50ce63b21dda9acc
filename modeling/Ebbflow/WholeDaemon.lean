import Ebbflow.Limits
import Ebbflow.RunnerTasks
import Ebbflow.RunnerSystem
import Ebbflow.Lib.Population

namespace Ebbflow.WholeDaemon

open Config Daemon EstablishConnection Runner RunnerTasks Lifecycle Limits Accounting
open Lib.Supervisor Lib.Population Lib.Tally
open RunnerSystem (Machine)
open EndpointRun (EndpointTask)
open InnerRun (Setup)

/-- A spawned endpoint, with the addresses that `get_addrs` found for it. -/
structure Running where
  addrs : List SocketAddr
  task : EndpointTask

namespace Running

/-- The arguments in the log are those that `spawn_endpoint` has capped. -/
def setup (machine : Machine) (args : EndpointArgs) (r : Running) : Setup :=
  ⟨machine.cbor, machine.debug, args, r.addrs⟩

def told (r : Running) : Bool := r.task.stopper.told

def spawned (addrs : EndpointArgs → List SocketAddr) (args : EndpointArgs) : Running :=
  ⟨addrs args, .spawned args⟩

def stop (r : Running) : Running :=
  { r with task := { r.task with stopper := { r.task.stopper with sent := true } } }

end Running

/-- The runner and every endpoint it ever spawned, in the order of their spawning. -/
structure System where
  daemon : RunnerSystem.System
  tasks : List (Member EndpointArgs Running)

def System.new (clock : String) : System := ⟨.new clock, []⟩

/-- A step of the runner with what it asks of its tasks, or a step that a task
takes by itself. -/
inductive Step (machine : Machine) : System → System → Prop
  | runner {s : System} {daemon : RunnerSystem.System} (addrs : EndpointArgs → List SocketAddr) :
      RunnerSystem.Step machine s.daemon daemon →
      Step machine s
        ⟨daemon, (daemon.runner.rt.log.events.drop s.daemon.runner.rt.log.events.length).foldl
          (react (.spawned addrs) .stop) s.tasks⟩
  | task {s : System} {pre post : List (Member EndpointArgs Running)} {m : Member EndpointArgs Running}
      {task : EndpointTask} : s.tasks = pre ++ m :: post →
      EndpointRun.Step (m.task.setup machine m.args) m.task.task task →
      task.stopper = m.task.task.stopper →
      Step machine s { s with tasks := pre ++ { m with task := { m.task with task := task } } :: post }

inductive Reached (machine : Machine) : System → Prop
  | new (clock : String) : Reached machine (.new clock)
  | step {s s' : System} : Reached machine s → Step machine s s' → Reached machine s'

section Growth

variable {lookup : String → Option EndpointInstance} {ssh : Option SshInstance} {rt : Runtime}
  {s : InnerDaemonRunner} {log : TaskLog EndpointArgs}

theorem Tracks.known {table : Table Slot EndpointArgs} (h : Tracks slotOf table log) (slot : Slot) :
    ∀ id ∈ (table slot).map Prod.fst, id < log.next := by
  intro id hid
  obtain ⟨⟨id', args⟩, hentry, rfl⟩ := Option.map_eq_some_iff.mp hid
  exact h.wellFormed.spawned_lt id' args (h.mem_log hentry).1

theorem grows_stop_endpoint (h : Tracks slotOf (tableOf lookup ssh) rt.log) {dns : String}
    {inst : EndpointInstance} (hl : lookup dns = some inst) :
    Grows rt.log (inst.enabledisable.stop rt).2.log := by
  have hknown := Tracks.known h (.endpoint dns)
  have htask : (tableOf lookup ssh (.endpoint dns)).map Prod.fst = taskOf inst.enabledisable := by
    simp [tableOf, hl, endpointTask, Function.comp_def]
  rw [htask] at hknown
  rw [stop_log]
  exact Grows.refl.stop? hknown

theorem grows_stop_ssh (h : Tracks slotOf (tableOf lookup ssh) rt.log) {inst : SshInstance}
    (hs : ssh = some inst) : Grows rt.log (inst.enabledisable.stop rt).2.log := by
  have hknown := Tracks.known h .ssh
  have htask : (tableOf lookup ssh .ssh).map Prod.fst = taskOf inst.enabledisable := by
    simp [tableOf, hs, sshTask, Function.comp_def]
  rw [htask] at hknown
  rw [stop_log]
  exact Grows.refl.stop? hknown

theorem grows_startIfEnabled (e : Endpoint) (rt : Runtime) : Grows rt.log (startIfEnabled e rt).2.log := by
  rw [startIfEnabled_log]
  split
  · exact .spawn _ .refl
  · exact .refl

theorem grows_startSshIfEnabled (c : SshConfiguration) (rt : Runtime) :
    Grows rt.log (startSshIfEnabled c rt).2.log := by
  rw [startSshIfEnabled_log]
  split
  · exact .spawn _ .refl
  · exact .refl

theorem grows_retain (h : Consistent s) (set : List String) :
    Grows s.rt.log (retainConfigured s set).rt.log := by
  refine (Lib.HashTable.retain_induction s.endpoints (keepConfigured set) s.rt
    (fun lookup rt => Tracks slotOf (tableOf lookup s.ssh) rt.log ∧ Grows s.rt.log rt.log) ?_ ⟨h, .refl⟩).2
  intro lookup dns inst rt hl ⟨ht, hg⟩
  rw [keepConfigured]
  split
  · rw [if_pos rfl, ← hl, Function.update_eq_self]
    exact ⟨ht, hg⟩
  · rw [if_neg Bool.false_ne_true]
    exact ⟨tracks_stop_endpoint ht hl, hg.trans (grows_stop_endpoint ht hl)⟩

theorem grows_applyEndpoint (h : Consistent s) (e : Endpoint) : Grows s.rt.log (applyEndpoint s e).rt.log := by
  rcases applyEndpoint_cases s e with ⟨_, _, _, ha⟩ | ⟨current, hl, _, ha⟩ | ⟨_, ha⟩ <;> rw [ha]
  · exact .refl
  · exact (grows_stop_endpoint h hl).trans (grows_startIfEnabled e _)
  · exact grows_startIfEnabled e _

theorem grows_applySsh (h : Consistent s) (osHostname : String) (ssh : Option Ssh) :
    Grows s.rt.log (applySsh osHostname s ssh).rt.log := by
  rcases applySsh_cases osHostname s ssh with
    ⟨_, ha⟩ | ⟨inst, _, hs, ha⟩ | ⟨newcfg, inst, _, hs, _, ha⟩ | ⟨newcfg, _, _, ha⟩ <;> rw [ha]
  · exact .refl
  · exact grows_stop_ssh h hs
  · exact (grows_stop_ssh h hs).trans (grows_startSshIfEnabled _ _)
  · exact grows_startSshIfEnabled _ _

theorem runner_step {machine : Machine} {s t : RunnerSystem.System} (h : Consistent s.runner)
    (hs : RunnerSystem.Step machine s t) : Consistent t.runner ∧ Grows s.runner.rt.log t.runner.rt.log := by
  cases hs with
  | call config key =>
      obtain ⟨he, hssh, hl⟩ := takeKey_frame s.runner key
      refine ⟨consistent_congr h (.of_eq (congrArg _ he)) hssh hl, ?_⟩
      rw [RunnerSystem.System.call, hl]
      exact .refl
  | @accept config =>
      by_cases hk : s.runner.rt.info.key.isNone
      · have haccept : s.accept config = _ := if_pos hk
        rw [haccept]
        exact ⟨consistent_congr h (.refl _) rfl rfl, .refl⟩
      · have haccept : s.accept config = _ := if_neg hk
        have hgood : Consistent { s.runner with statusmeta := .Good } := consistent_congr h (.refl _) rfl rfl
        rw [haccept]
        cases config with
        | none => exact ⟨hgood, .refl⟩
        | some c => exact ⟨consistent_retain hgood _, grows_retain hgood _⟩
  | endpoint => exact ⟨consistent_applyEndpoint h _, grows_applyEndpoint h _⟩
  | ssh => exact ⟨consistent_applySsh h _ _, grows_applySsh h _ _⟩
  | background hb =>
      refine ⟨consistent_congr h hb.endpoints hb.ssh hb.log, ?_⟩
      rw [hb.log]
      exact .refl
  | startUp | loop => exact ⟨h, .refl⟩

end Growth

/-- The books of the runner are right, its tasks are those in its books, and
each has run as a task does by itself. -/
structure Inv (machine : Machine) (s : System) : Prop where
  consistent : Consistent s.daemon.runner
  populates : Populates Running.told s.daemon.runner.rt.log s.tasks
  runs : ∀ m ∈ s.tasks, EndpointRun.Run (m.task.setup machine m.args) m.task.task

variable {machine : Machine} {s s' : System}

theorem inv_new (clock : String) : Inv machine (.new clock) where
  consistent := by
    apply (tracks_empty slotOf).congr
    intro slot
    cases slot <;> rfl
  populates := populates_empty Running.told
  runs m hm := by cases hm

theorem inv_step (h : Inv machine s) (hs : Step machine s s') : Inv machine s' := by
  cases hs with
  | runner addrs hrunner =>
      obtain ⟨hconsistent, hgrows⟩ := runner_step h.consistent hrunner
      refine ⟨hconsistent, ?_, ?_⟩
      · apply h.populates.grow hgrows
        · intro args
          rfl
        · intro r
          rfl
      · apply forall_react _ _ _ h.runs
        · intro id args
          exact .spawned
        · intro m hm
          exact hm.step (.stop _)
  | task hsplit htask hstopper =>
      have hm := h.runs _ (mem_of_split hsplit)
      refine ⟨h.consistent, ?_, forall_mem_replace hsplit h.runs (hm.step htask)⟩
      apply Populates.replace (hsplit ▸ h.populates)
      simp only [Running.told, hstopper]

theorem reached_inv (h : Reached machine s) : Inv machine s := by
  induction h with
  | new clock => exact inv_new clock
  | step _ hs ih => exact inv_step ih hs

end Ebbflow.WholeDaemon
