import Ebbflow.AskedTasks
import Ebbflow.Convergence

namespace Ebbflow.ServedMap

open Config ConfigFile ConfigRefinement Convergence Daemon Runner EntryTasks RunnerTasks RunnerConfig AskedTasks
open RunDaemon
open Lib.HashTable Lib.KeyedList Lib.Supervisor Lib.Text
open Console (Restored restored_of_roundTrip wanted)
open TornWrites (savedYaml savedText savedConfig savedYaml_roundTrip)

variable {y : SerdeYaml} {osHostname : String} {s t u : System} {runner : InnerDaemonRunner} {m : ConfigMap}
  {d : DistinctConfig}

/-- The daemon does what the map says: it has its entries, and the tasks that
run are those of the enabled ones, one for each. -/
structure Serves (osHostname : String) (m : ConfigMap) (s : InnerDaemonRunner) : Prop where
  entry : ∀ dns, configOf s dns = m.endpoints.value dns
  ssh : Option.Rel (IsSshConfiguration osHostname) m.ssh (s.ssh.map (·.existingConfig))
  running : ∀ slot args, (∃ task, Live s.rt.log.events task args ∧ slotOf args = slot) ↔
    Asks osHostname m.endpoints.value m.ssh slot args
  unique : ∀ i j a b, Live s.rt.log.events i a → Live s.rt.log.events j b → slotOf a = slotOf b → i = j

theorem asks_endpoint (d : DistinctConfig) {dns : String} {args : EndpointArgs} :
    Asks osHostname d.view.endpoints.value d.view.ssh (.endpoint dns) args ↔
      ∃ e ∈ d.config.endpoints, e.dns = dns ∧ e.enabled = true ∧ IsEndpointTask e args := by
  constructor
  · rintro (⟨hvalue, henabled, hargs⟩ | _)
    exact ⟨_, List.mem_of_find?_eq_some hvalue, by simpa using List.find?_some hvalue, henabled, hargs⟩
  · rintro ⟨e, he, rfl, henabled, hargs⟩
    exact .endpoint (view_value d he) henabled hargs

theorem asks_ssh (d : DistinctConfig) {args : EndpointArgs} :
    Asks osHostname d.view.endpoints.value d.view.ssh .ssh args ↔ ∃ ssh c, d.config.ssh = some ssh ∧
      ssh.enabled = true ∧ IsSshConfiguration osHostname ssh c ∧ IsSshTask c args := by
  constructor
  · rintro (_ | ⟨hssh, henabled, hc, hargs⟩)
    exact ⟨_, _, hssh, henabled, hc, hargs⟩
  · rintro ⟨ssh, c, hssh, henabled, hc, hargs⟩
    exact .ssh hssh henabled hc hargs

theorem configured_entry (h : ConfiguredAs osHostname d.config runner) (dns : String) :
    configOf runner dns = d.view.endpoints.value dns := by
  rw [configOf]
  cases hl : runner.endpoints.lookup dns with
  | some inst =>
      obtain ⟨hmem, rfl⟩ := lastNamed_mem (h.last dns inst hl)
      exact (view_value d hmem).symm
  | none =>
      symm
      rw [Option.map_none, ← Option.not_isSome_iff_eq_none, OrderedMap.value_isSome]
      intro hkey
      have hmem := (h.names dns).mpr (List.mem_map.mp hkey)
      rw [← AList.lookup_isSome, hl] at hmem
      cases hmem

theorem configured_asks (h : ConfiguredAs osHostname d.config runner) {slot : Slot} {args : EndpointArgs} :
    (enabledEntries runner slot).map Prod.snd = some args ↔
      Asks osHostname d.view.endpoints.value d.view.ssh slot args := by
  have hentry : configOf runner = d.view.endpoints.value := funext (configured_entry h)
  rw [entries_asked h.flagsMatch, hentry, h.sshConfig]
  exact asked_eq_some

theorem configured_serves (h : ConfiguredAs osHostname d.config runner) (hc : Consistent runner) :
    Serves osHostname d.view runner where
  entry := configured_entry h
  ssh := h.ssh
  running slot args := by
    rw [← configured_asks h, Option.map_eq_some_iff]
    constructor
    · rintro ⟨task, hlive, rfl⟩
      obtain ⟨slot, hslot⟩ := (hc.live task args).mp hlive
      rw [hc.keyed slot task args hslot]
      exact ⟨(task, args), hslot, rfl⟩
    · rintro ⟨⟨task, args⟩, hslot, rfl⟩
      exact ⟨task, hc.mem_log hslot, hc.keyed slot task args hslot⟩
  unique := hc.unique _ List.prefix_rfl

theorem traced_serves (h : Traced y osHostname s) {calls : List Call}
    (hrun : Runner.Run osHostname calls s.loop.runner) :
    Serves osHostname (wanted (shown s.loop.loads)).current s.loop.runner := by
  obtain ⟨d, hview, hconfigured⟩ := h.shown
  rw [← hview]
  exact configured_serves hconfigured (run_consistent hrun)

theorem shown_past (h : Traced y osHostname s) : shown s.loop.loads <+: s.session.history :=
  shown_le fun load hload => (h.loads load hload).past

theorem shown_step (h : Traced y osHostname s) (hs : Step y osHostname s t) :
    shown s.loop.loads <+: shown t.loop.loads := by
  cases hs with
  | session | deliver | spurious | background => exact List.prefix_rfl
  | loop _ _ hnext =>
      have hphase := h.phase
      cases Loop.next_step hnext with
      | readConfig | failConfig | readKey | failKey | consume | park | resume => exact List.prefix_rfl
      | apply hp =>
          rw [hp] at hphase
          exact shown_cons hphase.2

abbrev Steps (y : SerdeYaml) (osHostname : String) : System → System → Prop :=
  Relation.ReflTransGen (Step y osHostname)

theorem Reached.steps (h : Reached y osHostname s) (hs : Steps y osHostname s t) : Reached y osHostname t := by
  induction hs with
  | refl => exact h
  | tail _ hstep ih => exact .step ih hstep

theorem steps_history (hs : Steps y osHostname s t) : s.session.history <+: t.session.history := by
  induction hs with
  | refl => exact List.prefix_rfl
  | tail _ hstep ih => exact ih.trans (session_history hstep)

theorem shown_steps (hy : Restored y t.session.history) (hempty : y.EmptyDocument) (h : Reached y osHostname s)
    (hs : Steps y osHostname s t) : shown s.loop.loads <+: shown t.loop.loads := by
  induction hs with
  | refl => exact List.prefix_rfl
  | tail hsteps hstep ih =>
      have hbefore := hy.before (session_history hstep)
      exact (ih hbefore).trans (shown_step (reached_traced hempty (Reached.steps h hsteps) hbefore) hstep)

/-- However saves, notifications and loads interleave, the daemon does what a
past state of the map says, with a key that was asked for, and never goes back
to an earlier one. -/
theorem daemon_follows_the_map (hempty : y.EmptyDocument) (h : Reached y osHostname s)
    (hs : Steps y osHostname s t) (hy : Restored y t.session.history) :
    shown s.loop.loads <+: s.session.history ∧
      Serves osHostname (wanted (shown s.loop.loads)).current s.loop.runner ∧
      (∀ k, s.loop.runner.rt.info.key = some k → ∃ p, p <+: s.session.history ∧ (wanted p).key = some k) ∧
      shown s.loop.loads <+: shown t.loop.loads := by
  have htraced := reached_traced hempty h (hy.before (steps_history hs))
  obtain ⟨_, hrun⟩ := reached_run h
  exact ⟨shown_past htraced, traced_serves htraced hrun, htraced.key, shown_steps hy hempty h hs⟩

def servedConfig : DistinctConfig := ⟨savedConfig, by simp [savedConfig]⟩

def servedEvents : List Console.Event := [.keyed (trim "key"), .saved (.command sampleAdd)]

theorem Reached.loop (h : Reached y osHostname s) {l : Loop Stamp}
    (hs : Loop.Step y osHostname s.stamp s.session.files.config s.session.files.key s.loop l) :
    Reached y osHostname { s with loop := l } :=
  h.step (.loop (.inl rfl) (.inl rfl) (Loop.step_next hs))

theorem served_edit : (Console.newConfig none).view.edit sampleAdd = .ok (servedConfig.view, none) := by
  have hrefines : Refines (.ok (savedConfig, none)) _ := edit_refines (Console.newConfig none) sampleAdd
  obtain ⟨⟨_, _⟩, rfl, hedit⟩ := hrefines
  exact hedit

theorem served_wanted : wanted servedEvents = ⟨some servedConfig.view, some "key"⟩ := by
  have hkey : trim (trim "key") = "key" := by decide
  simp [wanted, servedEvents, Console.Event.apply, Console.Change.apply, Console.Wanted.current, hkey, served_edit]

theorem served_run : ∃ s, Reached savedYaml "host" s ∧ s.session.todo = [] ∧ s.session.history = servedEvents ∧
    s.undelivered = 4 ∧ s.loop.phase = .notifying ∧ s.loop.notify = .EMPTY ∧ shown s.loop.loads = servedEvents := by
  have hops : Console.Request.ops savedYaml (.error .NotFound) (.Config sampleAdd) =
      [.truncateConfig, .writeConfig (.command sampleAdd) savedText] := rfl
  have htext : reloadConfig savedYaml (.ok (encode savedText)) = .ok (some savedConfig) := by
    simp only [reloadConfig, loadFromFilePath, savedYaml_roundTrip savedConfig savedText rfl]
  have hkey : reloadKey (.ok (setkey (trim "key"))) = .ok (some "key") := by
    have htrim : trim (trim "key") = "key" := by decide
    simp only [reloadKey, getkey_setkey, htrim, if_neg (show "key" ≠ "" by decide)]
  have hnew : Reached savedYaml "host" (.new (.error .NotFound) (.error .NotFound) "") :=
    .new "" (.inl rfl) (.inl rfl)
  have hinit := hnew.step (.session (.ask (.InitNonInteractive "key") rfl))
  have hopened := hinit.step (.session (.perform rfl))
  have hkeyed := hopened.step (.session (.perform rfl))
  have hadd := hkeyed.step (.session (.ask (.Config sampleAdd) rfl))
  have htruncated := hadd.step (.session (.perform hops))
  have hsaved := htruncated.step (.session (.perform rfl))
  have hread := Reached.loop hsaved (.readConfig rfl htext)
  have hloaded := Reached.loop hread (.readKey rfl hkey)
  have happlied := Reached.loop hloaded (.apply rfl)
  exact ⟨_, happlied, rfl, rfl, rfl, rfl, rfl, rfl⟩

theorem daemon_follows_the_map_sample : ∃ s, Reached savedYaml "host" s ∧ shown s.loop.loads = servedEvents ∧
    Serves "host" servedConfig.view s.loop.runner := by
  obtain ⟨s, hreached, _, _, _, _, _, hshown⟩ := served_run
  obtain ⟨_, hserves, _⟩ := daemon_follows_the_map (tableYaml_emptyDocument (by decide)) hreached .refl
    (restored_of_roundTrip savedYaml_roundTrip _)
  rw [hshown, served_wanted] at hserves
  exact ⟨s, hreached, hshown, hserves⟩

end Ebbflow.ServedMap
