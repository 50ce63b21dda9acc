import Ebbflow.RunDaemon
import Ebbflow.RunnerKey
import Ebbflow.RunnerReload
import Ebbflow.RunnerStatus
import Ebbflow.TornFiles

namespace Ebbflow.TornWrites

open Config ConfigFile Daemon Runner RunnerTasks RunnerConfig RunnerKey RunnerReload RunnerStatus
open RunDaemon TornFiles Lib.HashTable Lib.Supervisor Lib.Text Lib.Wire Relation

/-- The daemon's loop while saves are at work on its two files. A load is
stamped with the number of configurations written before its file was read. -/
structure System where
  files : SavedFiles
  loop : Loop Nat

/-- Files that were saved to before are those of a run whose first steps are saves. -/
def System.new (clock : String) : System := ⟨.empty, .new 0 (.new ⟨none⟩ clock)⟩

inductive Step (y : SerdeYaml) (osHostname : String) : System → System → Prop
  | save {s : System} {files : SavedFiles} : Save y s.files files →
      Step y osHostname s { s with files := files }
  | notified {s : System} : Step y osHostname s { s with loop := s.loop.notified }
  | loop {s : System} {config key : File} {l : Loop Nat} : Reads s.files.config config →
      Reads s.files.key key → s.loop.next y osHostname s.files.configs.length config key = some l →
      Step y osHostname s { s with loop := l }
  | background {s : System} {runner : InnerDaemonRunner} : Background s.loop.runner runner →
      Step y osHostname s { s with loop := { s.loop with runner := runner } }

abbrev Steps (y : SerdeYaml) (osHostname : String) : System → System → Prop :=
  ReflTransGen (Step y osHostname)

/-- The configuration that a load brought into effect, with its stamp. Without
a key the runner does nothing. -/
def applied (load : Load Nat) : Option (EbbflowDaemonConfig × Nat) :=
  match load.result with
  | .ok (some c, _) => if load.left.rt.info.key.isSome then some (c, load.read) else none
  | _ => none

def lastApplied (loads : List (Load Nat)) : Option (EbbflowDaemonConfig × Nat) :=
  loads.findSome? applied

def configOf : Reloaded → Option EbbflowDaemonConfig
  | .ok r => r.1
  | .error _ => none

def keyOf : Reloaded → Option String
  | .ok r => r.2
  | .error _ => none

def ReadAt (configs : List EbbflowDaemonConfig) (read : Nat) (c : EbbflowDaemonConfig) : Prop :=
  ∃ i, read = i + 1 ∧ configs[i]? = some c

structure ReadOf (fs : SavedFiles) (loads : List (Load Nat)) (read : Nat)
    (cfg : Option EbbflowDaemonConfig) : Prop where
  before : read ≤ fs.configs.length
  after : ∀ load ∈ loads, load.read ≤ read
  config : ∀ c, cfg = some c → ReadAt fs.configs read c

def PhaseSound (fs : SavedFiles) (loads : List (Load Nat)) : Phase Nat → Prop
  | .readingKey _ read cfg => ReadOf fs loads read cfg
  | .loaded _ read result =>
      ReadOf fs loads read (configOf result) ∧ ∀ k, keyOf result = some k → k ∈ fs.keys
  | .readingConfig _ | .notifying | .parked | .woken => True

structure Kept (y : SerdeYaml) (osHostname clock : String) (s : System) : Prop where
  files : Sound y s.files
  recorded : Recorded osHostname (.new ⟨none⟩ clock) s.loop.loads s.loop.runner
  loads : ∀ load ∈ s.loop.loads, load.read ≤ s.files.configs.length
  phase : PhaseSound s.files s.loop.loads s.loop.phase
  applied : ∀ c read, lastApplied s.loop.loads = some (c, read) →
    ReadAt s.files.configs read c ∧ ConfiguredAs osHostname c s.loop.runner
  key : ∀ k, s.loop.runner.rt.info.key = some k → k ∈ s.files.keys

variable {y : SerdeYaml} {osHostname clock : String} {s t u : System} {fs fs' : SavedFiles}
  {loads : List (Load Nat)} {read : Nat} {c : EbbflowDaemonConfig} {cfg : Option EbbflowDaemonConfig}
  {runner runner' : InnerDaemonRunner}

theorem ReadAt.mono {configs configs' : List EbbflowDaemonConfig} (h : ReadAt configs read c)
    (hle : configs <+: configs') : ReadAt configs' read c := by
  obtain ⟨i, rfl, hi⟩ := h
  obtain ⟨more, rfl⟩ := hle
  refine ⟨i, rfl, ?_⟩
  rw [List.getElem?_append_left (List.getElem?_eq_some_iff.mp hi).1, hi]

theorem ReadOf.mono (h : ReadOf fs loads read cfg) (hle : fs.configs <+: fs'.configs) :
    ReadOf fs' loads read cfg :=
  ⟨h.before.trans hle.length_le, h.after, fun c hc => (h.config c hc).mono hle⟩

theorem phaseSound_save {phase : Phase Nat} (h : PhaseSound fs loads phase) (hs : Save y fs fs') :
    PhaseSound fs' loads phase := by
  cases phase with
  | readingKey => exact ReadOf.mono h (configs_grow hs)
  | loaded => exact ⟨h.1.mono (configs_grow hs), fun k hk => keys_grow hs (h.2 k hk)⟩
  | readingConfig | notifying | parked | woken => trivial

theorem readAt_last {configs : List EbbflowDaemonConfig} (h : configs.getLast? = some c) :
    ReadAt configs configs.length c := by
  rw [List.getLast?_eq_getElem?] at h
  have hlt := (List.getElem?_eq_some_iff.mp h).1
  exact ⟨configs.length - 1, by omega, h⟩

theorem applyReloaded_key (osHostname : String) (runner : InnerDaemonRunner) (result : Reloaded) :
    (applyReloaded osHostname runner result).rt.info.key = (keyOf result).or runner.rt.info.key := by
  cases result with
  | error => rfl
  | ok r => exact updateConfig_key osHostname runner r.1 r.2

theorem applied_cases {calls : List Call} (h : Run osHostname calls runner) (load : Load Nat)
    (hleft : load.left = applyReloaded osHostname runner load.result) :
    (∃ c, applied load = some (c, load.read) ∧ configOf load.result = some c ∧
        ConfiguredAs osHostname c load.left) ∨
      (applied load = none ∧ load.left.endpoints = runner.endpoints ∧ load.left.ssh = runner.ssh) := by
  have hkey := applyReloaded_key osHostname runner load.result
  rw [← hleft] at hkey
  cases hr : load.result with
  | error e =>
      rw [hr] at hleft
      exact .inr ⟨by simp [applied, hr], by rw [hleft]; rfl, by rw [hleft]; rfl⟩
  | ok r =>
      obtain ⟨cfg, key⟩ := r
      rw [hr] at hleft hkey
      cases cfg with
      | none =>
          obtain ⟨he, hs, _⟩ := updateConfig_idle osHostname runner (.inl rfl)
          exact .inr ⟨by simp [applied, hr], hleft ▸ he, hleft ▸ hs⟩
      | some c =>
          cases hset : load.left.rt.info.key.isSome with
          | true =>
              have hsome := hset
              rw [hkey, Option.isSome_or, Bool.or_eq_true, or_comm] at hsome
              refine .inl ⟨c, by simp [applied, hr, hset], rfl, ?_⟩
              rw [hleft]
              exact configuredAs_updateConfig h c key hsome
          | false =>
              have hnone := hset
              rw [hkey, Option.isSome_eq_false_iff, Option.isNone_iff_eq_none, Option.or_eq_none_iff] at hnone
              obtain ⟨he, hs, _⟩ := updateConfig_idle osHostname runner (.inr hnone.symm)
              exact .inr ⟨by simp [applied, hr, hset], hleft ▸ he, hleft ▸ hs⟩

theorem kept_apply (h : Kept y osHostname clock s) {began : Nat} {result : Reloaded}
    (hp : s.loop.phase = .loaded began read result) {runner : InnerDaemonRunner}
    (hleft : runner = applyReloaded osHostname s.loop.runner result) :
    ∀ c stamp, lastApplied (⟨began, read, result, runner⟩ :: s.loop.loads) = some (c, stamp) →
      ReadAt s.files.configs stamp c ∧ ConfiguredAs osHostname c runner := by
  intro c stamp hlast
  have hphase := h.phase
  rw [hp] at hphase
  rw [lastApplied, List.findSome?_cons] at hlast
  rcases applied_cases h.recorded.run ⟨began, read, result, runner⟩ hleft with
    ⟨c', happlied, hconfig, hconfigured⟩ | ⟨happlied, he, hs⟩
  · simp only [happlied, Option.some.injEq, Prod.mk.injEq] at hlast
    obtain ⟨rfl, rfl⟩ := hlast
    exact ⟨hphase.1.config _ hconfig, hconfigured⟩
  · simp only [happlied] at hlast
    obtain ⟨hread, hconfigured⟩ := h.applied c stamp hlast
    exact ⟨hread, configuredAs_congr hconfigured (.of_eq (congrArg _ he)) hs⟩

theorem kept_loop (hy : ∀ c ∈ s.files.configs, y.Restores c) (hempty : y.EmptyDocument)
    (h : Kept y osHostname clock s) {config key : File} {l : Loop Nat} (hconfig : Reads s.files.config config)
    (hkey : Reads s.files.key key)
    (hstep : Loop.Step y osHostname s.files.configs.length config key s.loop l) :
    Kept y osHostname clock { s with loop := l } := by
  have hrecorded := h.recorded.step hstep
  have hphase := h.phase
  cases hstep with
  | readConfig hp hr =>
      refine ⟨h.files, hrecorded, h.loads, ⟨le_rfl, h.loads, ?_⟩, h.applied, h.key⟩
      rintro c rfl
      exact readAt_last (h.files.reload_config hy hempty hconfig hr)
  | failConfig hp _ =>
      exact ⟨h.files, hrecorded, h.loads, ⟨⟨le_rfl, h.loads, by simp [configOf]⟩, by simp [keyOf]⟩,
        h.applied, h.key⟩
  | readKey hp hr =>
      rw [hp] at hphase
      refine ⟨h.files, hrecorded, h.loads, ⟨hphase, ?_⟩, h.applied, h.key⟩
      rintro k rfl
      exact h.files.reload_key hkey hr
  | failKey hp _ =>
      rw [hp] at hphase
      exact ⟨h.files, hrecorded, h.loads,
        ⟨⟨hphase.before, hphase.after, by simp [configOf]⟩, by simp [keyOf]⟩, h.applied, h.key⟩
  | apply hp =>
      rw [hp] at hphase
      refine ⟨h.files, hrecorded, ?_, trivial, kept_apply h hp rfl, ?_⟩
      · exact List.forall_mem_cons.mpr ⟨hphase.1.before, h.loads⟩
      · intro k hk
        rw [applyReloaded_key, Option.or_eq_some_iff] at hk
        rcases hk with hk | ⟨_, hk⟩
        · exact hphase.2 k hk
        · exact h.key k hk
  | consume _ _ | park _ _ | resume _ =>
      exact ⟨h.files, hrecorded, h.loads, trivial, h.applied, h.key⟩

theorem phaseSound_notified (h : PhaseSound fs s.loop.loads s.loop.phase) :
    PhaseSound fs s.loop.notified.loads s.loop.notified.phase := by
  simp only [Loop.notified]
  split
  · trivial
  · exact h

theorem kept_step (hy : ∀ c ∈ s.files.configs, y.Restores c) (hempty : y.EmptyDocument)
    (h : Kept y osHostname clock s) (hstep : Step y osHostname s t) : Kept y osHostname clock t := by
  cases hstep with
  | save hs =>
      refine ⟨sound_save h.files hs, h.recorded, ?_, phaseSound_save h.phase hs, ?_, ?_⟩
      · intro load hload
        exact (h.loads load hload).trans (configs_grow hs).length_le
      · intro c read hlast
        obtain ⟨hread, hconfigured⟩ := h.applied c read hlast
        exact ⟨hread.mono (configs_grow hs), hconfigured⟩
      · intro k hk
        exact keys_grow hs (h.key k hk)
  | notified => exact ⟨h.files, h.recorded, h.loads, phaseSound_notified h.phase, h.applied, h.key⟩
  | loop hconfig hkey hnext => exact kept_loop hy hempty h hconfig hkey (Loop.next_step hnext)
  | background hb =>
      refine ⟨h.files, .background h.recorded hb, h.loads, h.phase, ?_, ?_⟩
      · intro c read hlast
        obtain ⟨hread, hconfigured⟩ := h.applied c read hlast
        exact ⟨hread, configuredAs_congr hconfigured hb.endpoints hb.ssh⟩
      · intro k hk
        rw [hb.info] at hk
        exact h.key k hk

theorem kept_new (clock : String) : Kept y osHostname clock (.new clock) where
  files := sound_empty
  recorded := .new
  loads := by simp [System.new, Loop.new]
  phase := trivial
  applied := by simp [System.new, Loop.new, lastApplied]
  key := by simp [System.new, Loop.new, InnerDaemonRunner.new]

theorem step_configs (h : Step y osHostname s t) : s.files.configs <+: t.files.configs := by
  cases h with
  | save hs => exact configs_grow hs
  | notified | loop | background => exact List.prefix_rfl

theorem steps_configs (h : Steps y osHostname s t) : s.files.configs <+: t.files.configs := by
  induction h with
  | refl => exact List.prefix_rfl
  | tail _ hstep ih => exact ih.trans (step_configs hstep)

theorem steps_kept (hy : ∀ c ∈ t.files.configs, y.Restores c) (hempty : y.EmptyDocument)
    (h : Kept y osHostname clock s) (hsteps : Steps y osHostname s t) : Kept y osHostname clock t := by
  induction hsteps with
  | refl => exact h
  | tail _ hstep ih =>
      have hbefore := fun c hc => hy c ((step_configs hstep).subset hc)
      exact kept_step hbefore hempty (ih hbefore) hstep

theorem applyReloaded_undisturbed {calls : List Call} (h : Run osHostname calls runner) (result : Reloaded)
    {dns : String} {inst : EndpointInstance} (hl : runner.endpoints.lookup dns = some inst)
    (hsame : ∀ c, configOf result = some c →
      c.endpoints.filter (fun e => e.dns = dns) = [inst.existingConfig]) :
    (applyReloaded osHostname runner result).endpoints.lookup dns = some inst ∧
      Undisturbed (.endpoint dns) (taskOf inst.enabledisable) runner
        (applyReloaded osHostname runner result) := by
  cases result with
  | error e => exact ⟨hl, undisturbed_same rfl⟩
  | ok r =>
      obtain ⟨cfg, key⟩ := r
      cases cfg with
      | none =>
          obtain ⟨he, _, hlog⟩ := updateConfig_idle osHostname runner (.inl rfl)
          exact ⟨by rw [applyReloaded, he, hl], undisturbed_same hlog⟩
      | some c => exact endpoint_undisturbed (run_consistent h) c key hl (hsame c rfl)

/-- The entry is the same in the configuration read at `read` and in every one
written after it. -/
structure Lasting (configs : List EbbflowDaemonConfig) (read : Nat) (e : Endpoint) : Prop where
  held : ∃ c, ReadAt configs read c ∧ e ∈ c.endpoints
  later : ∀ c ∈ configs.drop read, e ∈ c.endpoints

theorem Lasting.mem {configs : List EbbflowDaemonConfig} {e : Endpoint} (h : Lasting configs read e)
    {stamp : Nat} (hread : ReadAt configs stamp c) (hle : read ≤ stamp) : e ∈ c.endpoints := by
  obtain ⟨c', ⟨j, hj, hc'⟩, he⟩ := h.held
  obtain ⟨i, rfl, hc⟩ := hread
  by_cases hij : i = j
  · subst hij
    obtain rfl := Option.some.inj (hc'.symm.trans hc)
    exact he
  · apply h.later
    apply List.mem_of_getElem? (i := i - read)
    rw [List.getElem?_drop, Nat.add_sub_cancel' (by omega), hc]

theorem ReadAt.configs_mem {configs : List EbbflowDaemonConfig} (h : ReadAt configs read c) : c ∈ configs := by
  obtain ⟨i, _, hi⟩ := h
  exact List.mem_of_getElem? hi

theorem drop_subset {configs configs' : List EbbflowDaemonConfig} (h : configs <+: configs') (read : Nat) :
    configs.drop read ⊆ configs'.drop read := by
  obtain ⟨more, rfl⟩ := h
  rw [List.drop_append]
  exact List.subset_append_left _ _

theorem step_loads (h : Step y osHostname s t) : s.loop.loads ⊆ t.loop.loads := by
  cases h with
  | loop _ _ hnext =>
      cases Loop.next_step hnext with
      | apply => exact List.subset_cons_self _ _
      | readConfig | failConfig | readKey | failKey | consume | park | resume => exact List.Subset.refl _
  | save | notified | background => exact List.Subset.refl _

theorem steps_loads (h : Steps y osHostname s t) : s.loop.loads ⊆ t.loop.loads := by
  induction h with
  | refl => exact List.Subset.refl _
  | tail _ hstep ih => exact List.Subset.trans ih (step_loads hstep)

theorem step_undisturbed (h : Kept y osHostname clock s) (hstep : Step y osHostname s t) {load : Load Nat}
    (hload : load ∈ s.loop.loads) {inst : EndpointInstance}
    (hlasting : Lasting s.files.configs load.read inst.existingConfig)
    (hl : s.loop.runner.endpoints.lookup inst.existingConfig.dns = some inst) :
    t.loop.runner.endpoints.lookup inst.existingConfig.dns = some inst ∧
      Undisturbed (.endpoint inst.existingConfig.dns) (taskOf inst.enabledisable) s.loop.runner
        t.loop.runner := by
  cases hstep with
  | save | notified => exact ⟨hl, undisturbed_same rfl⟩
  | background hb => exact ⟨(AList.perm_lookup hb.endpoints).trans hl, undisturbed_same hb.log⟩
  | loop _ _ hnext =>
      cases Loop.next_step hnext with
      | readConfig | failConfig | readKey | failKey | consume | park | resume =>
          exact ⟨hl, undisturbed_same rfl⟩
      | @apply _ _ result hp =>
          have hphase := h.phase
          rw [hp] at hphase
          apply applyReloaded_undisturbed h.recorded.run result hl
          intro c hc
          have hread := hphase.1.config c hc
          exact filter_of_nodup (h.files.configs c hread.configs_mem)
            (hlasting.mem hread (hphase.1.after load hload))

theorem steps_undisturbed (hy : ∀ c ∈ t.files.configs, y.Restores c) (hempty : y.EmptyDocument)
    (h : Kept y osHostname clock s) (hsteps : Steps y osHostname s t) {load : Load Nat} (hload : load ∈ s.loop.loads)
    {inst : EndpointInstance} (hheld : ReadAt s.files.configs load.read c ∧ inst.existingConfig ∈ c.endpoints)
    (hlater : ∀ c ∈ t.files.configs.drop load.read, inst.existingConfig ∈ c.endpoints)
    (hl : s.loop.runner.endpoints.lookup inst.existingConfig.dns = some inst) :
    t.loop.runner.endpoints.lookup inst.existingConfig.dns = some inst ∧
      Undisturbed (.endpoint inst.existingConfig.dns) (taskOf inst.enabledisable) s.loop.runner
        t.loop.runner := by
  induction hsteps with
  | refl => exact ⟨hl, undisturbed_same rfl⟩
  | @tail u t hsteps hstep ih =>
      have hbefore : ∀ c ∈ u.files.configs.drop load.read, inst.existingConfig ∈ c.endpoints :=
        fun c hc => hlater c (drop_subset (step_configs hstep) _ hc)
      have hy' := fun c hc => hy c ((step_configs hstep).subset hc)
      obtain ⟨hlookup, hsame⟩ := ih hy' hbefore
      have hlasting : Lasting u.files.configs load.read inst.existingConfig :=
        ⟨⟨c, hheld.1.mono (steps_configs hsteps), hheld.2⟩, hbefore⟩
      obtain ⟨hlookup', hsame'⟩ := step_undisturbed (steps_kept hy' hempty h hsteps) hstep
        (steps_loads hsteps hload) hlasting hlookup
      exact ⟨hlookup', undisturbed_trans hsame hsame'⟩

theorem lastApplied_load (h : lastApplied loads = some (c, read)) : ∃ load ∈ loads, load.read = read := by
  obtain ⟨load, hload, happlied⟩ := List.exists_of_findSome?_eq_some h
  refine ⟨load, hload, ?_⟩
  rw [applied] at happlied
  split at happlied
  · split at happlied
    · exact (Prod.mk.inj (Option.some.inj happlied)).2
    · cases happlied
  · cases happlied

theorem Kept.lookup (h : Kept y osHostname clock s) (hlast : lastApplied s.loop.loads = some (c, read))
    {e : Endpoint} (he : e ∈ c.endpoints) :
    ∃ inst : EndpointInstance, inst.existingConfig = e ∧
      s.loop.runner.endpoints.lookup e.dns = some inst := by
  obtain ⟨hread, hconfigured⟩ := h.applied c read hlast
  have hnodup := h.files.configs c hread.configs_mem
  obtain ⟨inst, hl, hsame⟩ := hconfigured.lookup (lastNamed_of_nodup hnodup he)
  exact ⟨inst, hsame, hl⟩

theorem step_key (h : Step y osHostname s t) (hset : s.loop.runner.rt.info.key.isSome) :
    t.loop.runner.rt.info.key.isSome := by
  cases h with
  | save | notified => exact hset
  | background hb =>
      rw [hb.info]
      exact hset
  | loop _ _ hnext =>
      cases Loop.next_step hnext with
      | apply =>
          rw [applyReloaded_key, Option.isSome_or, hset, Bool.or_true]
      | readConfig | failConfig | readKey | failKey | consume | park | resume => exact hset

theorem steps_key (h : Steps y osHostname s t) (hset : s.loop.runner.rt.info.key.isSome) :
    t.loop.runner.rt.info.key.isSome := by
  induction h with
  | refl => exact hset
  | tail _ hstep ih => exact step_key hstep ih

/-- Saves that are seen half done neither stop nor restart what they do not
change, and never take the key away. -/
theorem torn_writes_do_no_harm (hy : ∀ c ∈ t.files.configs, y.Restores c) (hempty : y.EmptyDocument)
    (h : Steps y osHostname (.new clock) s) (h' : Steps y osHostname s t) :
    (∀ c read e, lastApplied s.loop.loads = some (c, read) → e ∈ c.endpoints →
      (∀ c' ∈ t.files.configs.drop read, e ∈ c'.endpoints) →
      ∃ inst : EndpointInstance, inst.existingConfig = e ∧
        s.loop.runner.endpoints.lookup e.dns = some inst ∧
        t.loop.runner.endpoints.lookup e.dns = some inst ∧
        Undisturbed (.endpoint e.dns) (taskOf inst.enabledisable) s.loop.runner t.loop.runner) ∧
      (s.loop.runner.rt.info.key.isSome →
        ∃ k ∈ t.files.keys, t.loop.runner.rt.info.key = some k ∧ k ≠ "") := by
  have hkept : Kept y osHostname clock s :=
    steps_kept (fun c hc => hy c ((steps_configs h').subset hc)) hempty (kept_new clock) h
  constructor
  · intro c read e hlast he hlater
    obtain ⟨inst, rfl, hl⟩ := hkept.lookup hlast he
    obtain ⟨load, hload, rfl⟩ := lastApplied_load hlast
    have hheld := (hkept.applied c load.read hlast).1
    obtain ⟨hl', hsame⟩ := steps_undisturbed hy hempty hkept h' hload ⟨hheld, he⟩ hlater hl
    exact ⟨inst, rfl, hl, hl', hsame⟩
  · intro hset
    obtain ⟨k, hk⟩ := Option.isSome_iff_exists.mp (steps_key h' hset)
    have hkept' := steps_kept hy hempty hkept h'
    have hmem := hkept'.key k hk
    exact ⟨k, hmem, hk, hkept'.files.keys k hmem⟩

def savedConfig : EbbflowDaemonConfig := ⟨[⟨8080, "a.example", 5000, 40, true, none⟩], none, none⟩

def savedText : String :=
  "---\nendpoints:\n  - port: 8080\n    dns: a.example\n    maxconns: 5000\n    maxidle: 40\n" ++
    "    enabled: true\n    healthcheck: ~\nssh: ~\nloglevel: ~"

def savedYaml : SerdeYaml := tableYaml [(savedConfig, savedText)]

theorem savedYaml_roundTrip : savedYaml.RoundTrip := tableYaml_roundTrip (by simp)

theorem Steps.next (h : Steps y osHostname s t) {l : Loop Nat}
    (hstep : Loop.Step y osHostname t.files.configs.length (.ok t.files.config) (.ok t.files.key) t.loop l) :
    Steps y osHostname s { t with loop := l } :=
  h.tail (.loop (.inl rfl) (.inl rfl) (Loop.step_next hstep))

theorem saved_run : ∃ files runner loads,
    Steps savedYaml "host" (.new "") ⟨files, ⟨.notifying, .EMPTY, runner, loads⟩⟩ ∧
      files.configs = [savedConfig] ∧ lastApplied loads = some (savedConfig, 1) ∧
      runner.rt.info.key = some "key" := by
  have htext : reloadConfig savedYaml (.ok (encode savedText)) = .ok (some savedConfig) := by
    simp only [reloadConfig, loadFromFilePath, savedYaml_roundTrip savedConfig savedText rfl]
  have hkey : reloadKey (.ok (setkey "key")) = .ok (some "key") := by
    have htrim : trim "key" = "key" := by decide
    simp only [reloadKey, getkey_setkey, htrim, if_neg (show "key" ≠ "" by decide)]
  have hnew : Steps savedYaml "host" (.new "") _ := .refl
  have hopened := hnew.tail (.save (.truncateConfig (c := savedConfig) rfl (by simp [savedConfig])))
  have hwritten := hopened.tail (.save (@Save.writeConfig savedYaml _ [] [] savedConfig _ rfl rfl))
  have hkeyOpened := hwritten.tail (.save (.truncateKey (k := "key") (by decide)))
  have hkeyWritten := hkeyOpened.tail (.save (@Save.writeKey savedYaml _ [] [] "key" rfl))
  have hread := Steps.next hkeyWritten (.readConfig rfl htext)
  have hloaded := Steps.next hread (.readKey rfl hkey)
  have happlied := Steps.next hloaded (.apply rfl)
  exact ⟨_, _, _, happlied, rfl, rfl, rfl⟩

/-- The second load comes when the configuration is truncated by one save and the key by another. -/
theorem torn_writes_do_no_harm_sample : ∃ s t, Steps savedYaml "host" (.new "") s ∧
    Steps savedYaml "host" s t ∧ t.files.config = [] ∧ t.files.key = [] ∧
    t.loop.loads.length = s.loop.loads.length + 1 ∧
    (∃ inst : EndpointInstance, s.loop.runner.endpoints.lookup "a.example" = some inst ∧
      t.loop.runner.endpoints.lookup "a.example" = some inst) ∧
    ∃ k ∈ t.files.keys, t.loop.runner.rt.info.key = some k := by
  obtain ⟨files, runner, loads, hsaved, hconfigs, hlast, hkey⟩ := saved_run
  have hsame : Steps savedYaml "host" ⟨files, ⟨.notifying, .EMPTY, runner, loads⟩⟩ _ := .refl
  have htorn := hsame.tail (.save (.truncateConfig (c := savedConfig) rfl (by simp [savedConfig])))
  have hkeyTorn := htorn.tail (.save (.truncateKey (k := "other") (by decide)))
  have hnotified := hkeyTorn.tail .notified
  have hconsumed := Steps.next hnotified (.consume rfl rfl)
  have hnil : savedYaml.fromSlice [] = none := tableYaml_nil (by decide)
  have hparse : reloadConfig savedYaml (.ok []) = .error .Parsing := by
    simp only [reloadConfig, loadFromFilePath, hnil]
  have hfailed := Steps.next hconsumed (.failConfig rfl hparse)
  have hkept := Steps.next hfailed (.apply rfl)
  obtain ⟨hendpoint, hkeys⟩ :=
    torn_writes_do_no_harm (fun c _ => savedYaml_roundTrip c) (tableYaml_emptyDocument (by decide)) hsaved hkept
  obtain ⟨inst, _, hl, hl', _⟩ := hendpoint savedConfig 1 _ hlast List.mem_cons_self (by simp [hconfigs])
  obtain ⟨k, hk, hset, _⟩ := hkeys (by simp [hkey])
  exact ⟨_, _, hsaved, hkept, rfl, rfl, rfl, ⟨inst, hl, hl'⟩, k, hk, hset⟩

end Ebbflow.TornWrites
