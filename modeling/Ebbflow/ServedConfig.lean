import Ebbflow.AskedTasks
import Ebbflow.InfoServer
import Ebbflow.ServingTasks

namespace Ebbflow.ServedConfig

open Config Daemon Runner RunnerTasks RunnerConfig AskedTasks RunnerAtomic InfoServer WholeDaemon
open Lib.Supervisor Lib.Population
open RunnerSystem (Machine Progress)
open KeyGating (sampleMachine)

/-- The entry of a name once all but the last entries `es` of `c` are applied. -/
def midway (old c : EbbflowDaemonConfig) (es : List Endpoint) (dns : String) : Option Endpoint :=
  (lastNamed (c.endpoints.take (c.endpoints.length - es.length)) dns).or
    (if dns ∈ c.endpoints.map (·.dns) then lastNamed old.endpoints dns else none)

/-- The entries after some calls, and so far into the current one. -/
def expected (completed : List Call) (current : Call) : Progress → String → Option Endpoint
  | .applying es _ => midway (configOfCalls completed) (current.config.getD ⟨[], none, none⟩) es
  | .idle | .keyTaken _ => lastNamed (configOfCalls completed).endpoints

/-- The runs of the whole daemon, with the calls of its runner, latest first. -/
inductive Called (machine : Machine) : System → Call → List Call → Prop
  | new (clock : String) : Called machine (.new clock) ⟨none, none⟩ []
  | call {s : System} {current : Call} {completed : List Call} (c : Call) : Called machine s current completed →
      s.daemon.progress = .idle →
      Called machine ⟨s.daemon.call c.config c.key, s.tasks⟩ c completed
  | step {s s' : System} {current : Call} {completed : List Call} : Called machine s current completed →
      Step machine s s' → (s.daemon.progress = .idle → s'.daemon.progress = .idle) →
      Called machine s' current (completedBy completed current s.daemon.progress s'.daemon.progress)

variable {machine : Machine} {s s' : System} {current : Call} {completed : List Call} {r t : InnerDaemonRunner}

theorem call_log (s : RunnerSystem.System) (c : Call) : (s.call c.config c.key).runner.rt.log = s.runner.rt.log :=
  (takeKey_frame s.runner c.key).2.2

theorem called_reached (h : Called machine s current completed) : Reached machine s := by
  induction h with
  | new clock => exact .new clock
  | @call s _ _ c _ hidle ih =>
      have hstep := ih.step (.runner (fun _ => []) (.call c.config c.key hidle))
      rw [call_log, List.drop_length] at hstep
      exact hstep
  | step _ hs _ ih => exact ih.step hs

theorem called_during (h : Called machine s current completed) :
    During (Meets machine.osHostname) completed current s.daemon.runner s.daemon.progress := by
  induction h with
  | new clock => exact meets_new machine.osHostname clock
  | @call s _ _ c _ hidle ih =>
      rw [hidle] at ih
      exact ⟨rfl, _, ih, RunDaemon.background_refl _⟩
  | step _ hs hidle ih =>
      cases hs with
      | runner _ hrunner => exact during_step (meets_closed machine.osHostname) ih hrunner hidle
      | task =>
          rw [completedBy_same]
          exact ih

theorem configOf_background (h : Background r t) (dns : String) : configOf t dns = configOf r dns := by
  rw [configOf, configOf, AList.perm_lookup h.endpoints]

theorem meets_configOf {osHostname : String} (h : Meets osHostname completed r) (dns : String) :
    configOf r dns = lastNamed (configOfCalls completed).endpoints dns := by
  cases hl : lastNamed (configOfCalls completed).endpoints dns with
  | some e =>
      obtain ⟨inst, hinst, hsame⟩ := h.config.lookup hl
      rw [configOf, hinst, Option.map_some, hsame]
  | none =>
      cases hinst : r.endpoints.lookup dns with
      | none => rw [configOf, hinst, Option.map_none]
      | some inst =>
          have hlast := h.config.last dns inst hinst
          rw [hl] at hlast
          cases hlast

theorem configOf_accepted (s : InnerDaemonRunner) (key : Option String) (c : EbbflowDaemonConfig) (dns : String) :
    configOf (accepted s key c) dns = if dns ∈ c.endpoints.map (·.dns) then configOf s dns else none := by
  have hsame : (takeKey s key).endpoints = s.endpoints := (takeKey_frame s key).1
  rw [configOf, accepted, lookup_retainConfigured]
  split
  · rw [hsame]
    rfl
  · rfl

theorem flagsMatch_accepted (h : FlagsMatch r) (key : Option String) (c : EbbflowDaemonConfig) :
    FlagsMatch (accepted r key c) := by
  obtain ⟨he, hs, _⟩ := takeKey_frame r key
  apply flagsMatch_retain
  exact flagsMatch_congr h (.of_eq (congrArg _ he)) hs

theorem entries_expected {osHostname : String} {progress : Progress}
    (h : During (Meets osHostname) completed current r progress) (slot : Slot) :
    (enabledEntries r slot).map Prod.snd =
      asked (expected completed current progress)
        ((configOfCalls completed).ssh.map (sshConfiguration osHostname)) slot := by
  cases progress with
  | idle => rw [entries_asked (run_flagsMatch h.run), funext (meets_configOf h), h.config.sshConfig, expected]
  | keyTaken config =>
      obtain ⟨_, before, hmeets, hb⟩ := h
      obtain ⟨he, hs, _⟩ := takeKey_frame before current.key
      have hperm : r.endpoints.entries.Perm before.endpoints.entries := he ▸ hb.endpoints
      have hssh : r.ssh = before.ssh := hb.ssh.trans hs
      have hsame : configOf r = configOf before := by
        funext dns
        rw [configOf, configOf, AList.perm_lookup hperm]
      rw [entries_asked (flagsMatch_congr (run_flagsMatch hmeets.run) hperm hssh), hsame, hssh,
        funext (meets_configOf hmeets), hmeets.config.sshConfig, expected]
  | applying es ssh =>
      obtain ⟨before, c, done, hmeets, hc, _, hes, _, hb⟩ := h
      have hflags := flagsMatch_foldl (flagsMatch_accepted (run_flagsMatch hmeets.run) current.key c) done
      have hssh : r.ssh = before.ssh := by
        rw [hb.ssh, foldl_ssh]
        exact (takeKey_frame before current.key).2.1
      have hdone : c.endpoints.take (c.endpoints.length - es.length) = done := by
        rw [hes, List.length_append, Nat.add_sub_cancel, List.take_left]
      have hconfig : configOf r = midway (configOfCalls completed) c es := by
        funext dns
        rw [configOf_background hb, configOf_foldl, configOf_accepted, meets_configOf hmeets, midway, hdone]
      rw [entries_asked (flagsMatch_congr hflags hb.endpoints hb.ssh), hconfig, hssh, hmeets.config.sshConfig, expected,
        hc, Option.getD_some]

/-- Between any two steps of the daemon and of its tasks, within a call and
between two of them, each slot is served as the configurations so far have it:
by the last entry of its name that the call under way has come to, else by the
entry before that call, unless the name is no longer configured. -/
theorem tasks_serve_the_configuration (h : Called machine s current completed) (slot : Slot) :
    Sole (Asks machine.osHostname (expected completed current s.daemon.progress) (configOfCalls completed).ssh slot)
      ((serving slotOf Running.told s.tasks slot).map (·.args)) := by
  have hinv := reached_inv (called_reached h)
  have hserving := congrArg (List.map Prod.snd) (hinv.populates.serving_eq hinv.consistent slot)
  rw [List.map_map, ← Option.toList_map, entries_expected (called_during h)] at hserving
  exact ⟨_, hserving, fun _ => asked_eq_some⟩

theorem called_midway : ∃ s completed, Called sampleMachine s ⟨some sampleEdit, none⟩ completed ∧
    s.daemon.progress = .applying [⟨8081, "a.example", 200, 2000, true, none⟩] sampleEdit.ssh ∧
    completed = [⟨some sampleConfig, some "key"⟩] := by
  have r : Called sampleMachine (.new "") _ _ := .new ""
  have r := r.call ⟨some sampleConfig, some "key"⟩ rfl
  have r := r.step (.runner (fun _ => []) (.accept rfl)) nofun
  have r := r.step (.runner (fun _ => []) (.endpoint rfl)) nofun
  have r := r.step (.runner (fun _ => []) (.endpoint rfl)) nofun
  have r := r.step (.runner (fun _ => []) (.endpoint rfl)) nofun
  have r := r.step (.runner (fun _ => []) (.ssh rfl)) nofun
  have r := r.call ⟨some sampleEdit, none⟩ rfl
  have r := r.step (.runner (fun _ => []) (.accept rfl)) nofun
  have r := r.step (.runner (fun _ => []) (.endpoint rfl)) nofun
  exact ⟨_, _, r, rfl, rfl⟩

theorem tasks_serve_the_configuration_sample :
    ∃ s completed, Called sampleMachine s ⟨some sampleEdit, none⟩ completed ∧
      (serving slotOf Running.told s.tasks (.endpoint "c.example")).map (·.args) =
        [⟨.Tls, 2, 10, "c.example", 9001, none⟩] := by
  obtain ⟨s, completed, r, hprogress, rfl⟩ := called_midway
  obtain ⟨o, hserving, hasks⟩ := tasks_serve_the_configuration r (.endpoint "c.example")
  rw [hprogress] at hasks
  have hwanted := (hasks ⟨.Tls, 2, 10, "c.example", 9001, none⟩).mpr (asked_eq_some.mp (by decide))
  rw [hwanted] at hserving
  exact ⟨s, _, r, hserving⟩

end Ebbflow.ServedConfig
