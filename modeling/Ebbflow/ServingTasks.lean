import Ebbflow.KeyGating
import Ebbflow.WholeDaemon

namespace Ebbflow.ServingTasks

open Config Daemon EndpointRun Runner RunnerTasks Lifecycle Limits Accounting WholeDaemon
open Lib.Supervisor Lib.Population Lib.Tally
open RunnerSystem (Machine)
open InnerRun (Setup Generation)
open KeyGating (sampleMachine)

variable {machine : Machine} {setup : Setup} {told : Bool} {effect : RunConnection.Effect} {g g' : Generation}
  {m m' : EndpointMeta} {t t' : EndpointTask} {s : WholeDaemon.System}

def Named (setup : Setup) (g : Generation) : Prop :=
  ∀ c ∈ g.tasks, c.env.args.endpoint = setup.args.endpoint ∧ c.env.args.ctype = setup.args.ctype ∧
    c.env.args.addrs = setup.addrs

theorem named_inner (h : Named setup g) (hs : InnerRun.Step setup told g m effect g' m') : Named setup g' := by
  cases hs with
  | acquireMax | acquireIdle | panicked | stopped => exact h
  | spawn info sent =>
      intro c hc
      rcases List.mem_append.mp hc with hold | hnew
      · exact h c hold
      · rw [List.mem_singleton.mp hnew]
        exact ⟨rfl, rfl, rfl⟩
  | connection hsplit | ended hsplit =>
      have hc := h _ (mem_of_split hsplit)
      exact forall_mem_replace hsplit h hc

theorem named_step (h : ∀ g ∈ generations t, Named setup g) (hs : EndpointRun.Step setup t t') :
    ∀ g ∈ generations t', Named setup g := by
  cases step_change hs with
  | same hg => exact hg ▸ h
  | created hg =>
      rw [hg, List.forall_mem_cons]
      refine ⟨?_, h⟩
      intro c hc
      cases hc
  | stepped hg hg' hinner =>
      rw [hg']
      exact forall_mem_replace hg h (named_inner (h _ (mem_of_split hg)) hinner)

theorem run_named (h : EndpointRun.Run setup t) : ∀ g ∈ generations t, Named setup g := by
  induction h with
  | spawned =>
      intro g hg
      cases hg
  | step _ hs _ ih => exact named_step ih hs

/-- What an endpoint's task has of connections at any one time. -/
structure Orderly (setup : Setup) (t : EndpointTask) : Prop where
  live : t.periods.countP (·.signal.live) ≤ 1
  left : t.phase = .left → t.stopper.told = true ∧ ∀ p ∈ t.periods, p.signal.live = false
  named : ∀ g ∈ generations t, Named setup g
  idle : ∀ g ∈ generations t, numIdle g ≤ setup.args.idleconns.toNat
  total : ∀ g ∈ generations t, numIdle g + numActive g ≤ setup.args.maxconns.toNat

theorem run_orderly (h : EndpointRun.Run setup t) : Orderly setup t where
  live := by
    have hle := countP_live_le (run_inv h).tail
    rw [signals, List.countP_map] at hle
    exact hle
  left hphase := by
    obtain ⟨hnone, htold⟩ := (run_inv h).at hphase
    exact ⟨htold, noneLive_periods hnone⟩
  named := run_named h
  idle g hg := ((run_adds h).accounted g hg).numIdle_le
  total g hg := ((run_adds h).accounted g hg).total_le

def metas (s : WholeDaemon.System) (id : TaskId) : EndpointMeta :=
  (s.tasks[id]?).elim (.new none) (·.task.task.endpointMeta)

/-- The first task was told to stop and is not yet polled; the second connects. -/
theorem reached_connecting : ∃ s, Reached sampleMachine s ∧
    EntryOf s.daemon.runner (.endpoint "a.example") 1 ⟨.Tls, 1000, 200, "a.example", 8081, none⟩ ∧
    s.tasks.length = 3 ∧ (metas s 1).numIdle = 1 := by
  have r : Reached sampleMachine (.new "") := .new ""
  have r := r.step (.runner (fun _ => []) (.call (some sampleConfig) (some "key") rfl))
  have r := r.step (.runner (fun _ => []) (.accept rfl))
  have r := r.step (.runner (fun _ => []) (.endpoint rfl))
  have r := r.step (.runner (fun _ => []) (.endpoint rfl))
  have r := r.step (.runner (fun _ => []) (.endpoint rfl))
  have r := r.step (.runner (fun _ => []) (.ssh rfl))
  have r := r.step (@Step.task _ _ [_] [_] _ _ rfl (.healthyUnchecked rfl rfl) rfl)
  have r := r.step (@Step.task _ _ [_] [_] _ _ rfl (.startUp rfl) rfl)
  have r := r.step (@Step.task _ _ [_] [_] _ _ rfl
    (.generation (rfl : _ = [] ++ _ :: []) (.acquireMax rfl (by decide))) rfl)
  have r := r.step (@Step.task _ _ [_] [_] _ _ rfl
    (.generation (rfl : _ = [] ++ _ :: []) (.acquireIdle rfl (by decide))) rfl)
  have r := r.step (@Step.task _ _ [_] [_] _ _ rfl
    (.generation (rfl : _ = [] ++ _ :: []) (.spawn ⟨some "key"⟩ [] rfl)) rfl)
  have r := r.step (@Step.task _ _ [_] [_] _ _ rfl
    (.generation (rfl : _ = [] ++ _ :: []) (.connection (rfl : _ = [] ++ _ :: []) (.begin rfl))) rfl)
  exact ⟨_, r, enabledEntries_eq_some.mp (by decide), rfl, rfl⟩

/-- Between any two steps of the runner and of the tasks it spawned, each slot
has the one task of its Enabled entry, which is still in its loop, or none;
every other task was told to stop, and none is ever beyond its limits. -/
theorem one_task_per_enabled_entry (h : Reached machine s) :
    (∀ slot, Sole (fun e => EntryOf s.daemon.runner slot e.1 e.2)
      ((serving slotOf Running.told s.tasks slot).map fun m => (m.id, m.args))) ∧
    (∀ m ∈ s.tasks, m.task.told = false →
      m ∈ serving slotOf Running.told s.tasks (slotOf m.args) ∧ m.task.task.phase ≠ .left) ∧
    ∀ m ∈ s.tasks, Orderly (m.task.setup machine m.args) m.task.task := by
  have hinv := reached_inv h
  refine ⟨fun slot => ⟨_, hinv.populates.serving_eq hinv.consistent slot, fun e => enabledEntries_eq_some⟩, ?_,
    fun m hm => run_orderly (hinv.runs m hm)⟩
  intro m hm htold
  refine ⟨mem_serving.mpr ⟨hm, rfl, htold⟩, fun hphase => ?_⟩
  have hleft := (run_orderly (hinv.runs m hm)).left hphase
  rw [Running.told, hleft.1] at htold
  cases htold

theorem one_task_per_enabled_entry_sample : ∃ s, Reached sampleMachine s ∧ s.tasks.length = 3 ∧
    (serving slotOf Running.told s.tasks (.endpoint "a.example")).map (fun m => (m.id, m.args)) =
      [(1, ⟨.Tls, 1000, 200, "a.example", 8081, none⟩)] := by
  obtain ⟨s, r, hentry, hlen, _⟩ := reached_connecting
  obtain ⟨o, hserving, hsole⟩ := (one_task_per_enabled_entry r).1 (.endpoint "a.example")
  rw [(hsole (1, _)).mpr hentry] at hserving
  exact ⟨s, r, hlen, hserving⟩

theorem metas_eq (h : Inv machine s) {m : Member EndpointArgs Running} (hm : m ∈ s.tasks) :
    metas s m.id = m.task.task.endpointMeta := by
  rw [metas, h.populates.getElem? hm]
  rfl

theorem health_configured (h : EndpointRun.Run setup t) :
    t.endpointMeta.health = .NOT_CONFIGURED ↔ setup.args.healthcheck = none := by
  have hdata := congrArg Option.isNone (run_healthdata h)
  rw [Option.isNone_map, Option.isNone_map] at hdata
  rw [← Option.isNone_iff_eq_none, ← hdata, EndpointMeta.health]
  cases t.endpointMeta.healthdata with
  | none => simp
  | some hm =>
      refine iff_of_false ?_ Bool.false_ne_true
      dsimp only
      split <;> simp

theorem unhealthy_idle (h : EndpointRun.Run setup t) (htold : t.stopper.told = false)
    {datapoints : List (Bool × Nat)} (hhealth : t.endpointMeta.health = .UNHEALTHY datapoints) :
    t.phase = .shuttingDown ∨ ∀ p ∈ t.periods, p.signal.live = false := by
  by_contra hnot
  obtain ⟨hphase, hlive⟩ := not_or.mp hnot
  obtain ⟨p, hp, hpl⟩ : ∃ p ∈ t.periods, p.signal.live = true := by simpa using hlive
  rw [EndpointMeta.health] at hhealth
  cases hdata : t.endpointMeta.healthdata with rw [hdata] at hhealth
  | none => cases hhealth
  | some hm =>
      have hflag := (run_inv h).healthy hdata ⟨p, hp, hpl⟩ htold hphase
      simp only [hflag, if_true] at hhealth
      cases hhealth

/-- What a status loads through the handle of an Enabled entry is, at the moment
of each load, the number of active and of idle connections in all generations of
the one task that serves the slot; it is not loaded as unhealthy while that task
makes connections. -/
theorem handles_are_exact (h : Reached machine s) {slot : Slot} {id : TaskId} {args : EndpointArgs}
    (hentry : EntryOf s.daemon.runner slot id args) :
    ∃ m health, serving slotOf Running.told s.tasks slot = [m] ∧
      DaemonEndpointStatus.fromRef (metas s) (.Enabled id) =
        .Enabled (counter 0 (total numActive (generations m.task.task)))
          (counter 0 (total numIdle (generations m.task.task))) (some health) ∧
      (health = .NOT_CONFIGURED ↔ args.healthcheck = none) ∧
      ∀ datapoints, health = .UNHEALTHY datapoints →
        m.task.task.phase = .shuttingDown ∨ ∀ p ∈ m.task.task.periods, p.signal.live = false := by
  have hinv := reached_inv h
  have hserving := hinv.populates.serving_eq hinv.consistent slot
  rw [enabledEntries_eq_some.mpr hentry] at hserving
  obtain ⟨m, hm, hsame⟩ := List.map_eq_singleton_iff.mp hserving
  obtain ⟨hmem, _, htold⟩ := mem_serving.mp (hm ▸ List.mem_singleton_self m)
  obtain ⟨rfl, rfl⟩ := Prod.mk.inj hsame
  have hrun := hinv.runs m hmem
  have hadds := run_adds hrun
  refine ⟨m, _, hm, ?_, health_configured hrun, fun _ => unhealthy_idle hrun htold⟩
  rw [DaemonEndpointStatus.fromRef, metas_eq hinv hmem, EndpointMeta.numActive, EndpointMeta.numIdle, hadds.active,
    hadds.idle]

theorem handles_are_exact_sample : ∃ s m, Reached sampleMachine s ∧ s.tasks.length = 3 ∧
    serving slotOf Running.told s.tasks (.endpoint "a.example") = [m] ∧
    1 = counter 0 (total numIdle (generations m.task.task)) := by
  obtain ⟨s, r, hentry, hlen, hidle⟩ := reached_connecting
  obtain ⟨m, health, hm, hloaded, _⟩ := handles_are_exact r hentry
  rw [DaemonEndpointStatus.fromRef, DaemonEndpointStatus.Enabled.injEq] at hloaded
  exact ⟨s, m, r, hlen, hm, hidle.symm.trans hloaded.2.1⟩

end Ebbflow.ServingTasks
