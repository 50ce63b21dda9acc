import Ebbflow.Accounting
import Ebbflow.Lifecycle

namespace Ebbflow.Limits

open Lib.Tally Daemon Messaging EstablishConnection LocalConnection RunConnection InnerRun Permits Accounting
open EndpointRun Lifecycle

variable {setup : Setup} {told : Bool} {env : Env} {c c' : Conn} {effect : Effect}
  {g g' : Generation} {m m' : EndpointMeta} {s s' : EndpointTask} {p : Period}
  {newer older : List Period} {ready : EndpointTask → Prop}

/-- What the documentation of the configuration promises of the two counters. -/
def WithinLimits (args : EndpointArgs) (m : EndpointMeta) : Prop :=
  m.numIdle.toNat + m.numActive.toNat ≤ args.maxconns.toNat ∧
    m.numIdle.toNat ≤ min args.idleconns.toNat maxIdle.toNat

instance (args : EndpointArgs) (m : EndpointMeta) : Decidable (WithinLimits args m) :=
  inferInstanceAs (Decidable (_ ∧ _))

/-- A connection that is not counted and will not be. -/
def spent (c : Conn) : Bool :=
  match c.pc with
  | .idleRemoved (.failed _) | .idleRemoved .elapsed | .badErrorDelay | .minimumDelay
  | .returning | .returned => true
  | _ => false

structure Drained (g : Generation) : Prop where
  loop : g.loop = .dropped
  tasks : ∀ t ∈ g.tasks, spent t.conn = true

/-- The endpoint is never given a connection. -/
def Unused (args : EndpointArgs) : Prop := args.idleconns = 0 ∨ args.maxconns = 0

/-- A generation may be created: those before it are drained. -/
def Clear (args : EndpointArgs) (s : EndpointTask) : Prop :=
  Unused args ∨ ∀ p ∈ s.periods, Drained p.generation

theorem spent_step (hc : spent c = true) (h : RunConnection.Step env told c effect c') :
    spent c' = true := by
  cases h with
  | timedOut | badErrorDelayed | minimumDelayed | returnIdle | returnPlain => rfl
  | @failed e hpc => obtain he | he := afterError_cases e <;> simp only [spent, he]
  | proxy | detachedEnded | aborted | pushEbb | pushLocal => exact hc
  | removeActive => rfl
  | begin hpc | establish hpc | established hpc | elapsed hpc | dropIdle hpc | connectLocal hpc
  | connectedLocal hpc | unconnected hpc | addActive hpc | proxyEnded hpc | stopped hpc
  | killed hpc =>
      rw [spent, hpc] at hc
      cases hc

theorem spent_uncounted (hc : spent c = true) :
    idleCounted c = false ∧ activeCounted c = false := by
  rw [spent] at hc
  split at hc <;> simp_all [idleCounted, activeCounted]

theorem drained_step (hg : Drained g) (h : InnerRun.Step setup told g m effect g' m') :
    Drained g' := by
  cases h with
  | acquireMax hloop | acquireIdle hloop | spawn _ _ hloop | panicked hloop =>
      rw [hg.loop] at hloop
      cases hloop
  | stopped _ hne => exact absurd hg.loop hne
  | connection hsplit hconn =>
      have ht := hg.tasks _ (mem_of_split hsplit)
      exact ⟨hg.loop, forall_mem_replace hsplit hg.tasks (spent_step ht hconn)⟩
  | ended hsplit =>
      have ht := hg.tasks _ (mem_of_split hsplit)
      exact ⟨hg.loop, forall_mem_replace hsplit hg.tasks ht⟩

theorem Drained.counts (h : Drained g) : numIdle g = 0 ∧ numActive g = 0 :=
  ⟨countP_eq_zero _ fun t ht => (spent_uncounted (h.tasks t ht)).1,
    countP_eq_zero _ fun t ht => (spent_uncounted (h.tasks t ht)).2⟩

theorem tasks_nil_step {idleconns maxconns : Nat} (hzero : idleconns = 0 ∨ maxconns = 0)
    (ha : Accounted idleconns maxconns g) (hg : g.tasks = [])
    (h : InnerRun.Step setup told g m effect g' m') : g'.tasks = [] := by
  cases h with
  | acquireMax | acquireIdle | panicked | stopped => exact hg
  | spawn _ _ hloop =>
      have hidle := ha.idle
      have hmax := ha.max
      rw [hloop] at hidle hmax
      simp only [LoopPc.heldIdle, LoopPc.heldMax] at hidle hmax
      omega
  | connection hsplit | ended hsplit =>
      rw [hg] at hsplit
      simp at hsplit

def generations (s : EndpointTask) : List Generation := s.periods.map (·.generation)

def SameCounters (m m' : EndpointMeta) : Prop := m'.idle = m.idle ∧ m'.active = m.active

inductive Change (setup : Setup) (s s' : EndpointTask) : Prop
  | same : generations s' = generations s → SameCounters s.endpointMeta s'.endpointMeta →
      Change setup s s'
  | created : generations s' = .start setup.args :: generations s →
      SameCounters s.endpointMeta s'.endpointMeta → s.periods.length < s'.periods.length →
      Change setup s s'
  | stepped {told : Bool} {effect : Effect} {newer older : List Generation} {g g' : Generation} :
      generations s = newer ++ g :: older → generations s' = newer ++ g' :: older →
      InnerRun.Step setup told g s.endpointMeta effect g' s'.endpointMeta → Change setup s s'

theorem generations_onNewest (f : Signal → Signal) (periods : List Period) :
    (onNewest f periods).map (·.generation) = periods.map (·.generation) := by
  cases periods <;> rfl

theorem step_change (h : Step setup s s') : Change setup s s' := by
  cases h with
  | startUp => exact .created rfl ⟨rfl, rfl⟩ (Nat.lt_succ_self _)
  | shutDown => exact .same (generations_onNewest (fun _ => ⟨true, true⟩) s.periods) ⟨rfl, rfl⟩
  | leave =>
      have hg := generations_onNewest (fun signal => { signal with dropped := true }) s.periods
      exact .same hg ⟨rfl, rfl⟩
  | @generation newer older p g m effect hsplit hinner =>
      have hg : generations s =
          newer.map (·.generation) ++ p.generation :: older.map (·.generation) := by
        rw [generations, hsplit, List.map_append, List.map_cons]
      refine .stepped hg ?_ hinner
      rw [generations, List.map_append, List.map_cons]
  | _ => exact .same rfl ⟨rfl, rfl⟩

def total (f : Generation → Nat) (gs : List Generation) : Nat := (gs.map f).sum

theorem total_split (f : Generation → Nat) (newer older : List Generation) (g : Generation) :
    total f (newer ++ g :: older) = total f (newer ++ older) + f g := by
  simp only [total, List.map_append, List.map_cons, List.sum_append, List.sum_cons]
  omega

/-- The counters add up over all generations, those that drain included. -/
structure Adds (setup : Setup) (s : EndpointTask) : Prop where
  accounted : ∀ g ∈ generations s,
    Accounted setup.args.idleconns.toNat setup.args.maxconns.toNat g
  idle : s.endpointMeta.idle = counter 0 (total numIdle (generations s))
  active : s.endpointMeta.active = counter 0 (total numActive (generations s))

theorem adds_spawned : Adds setup (.spawned setup.args) where
  accounted := nofun
  idle := rfl
  active := rfl

theorem adds_step (h : Adds setup s) (hstep : Step setup s s') : Adds setup s' := by
  cases step_change hstep with
  | same hg hm => exact ⟨hg ▸ h.accounted, by rw [hm.1, hg, h.idle], by rw [hm.2, hg, h.active]⟩
  | created hg hm =>
      refine ⟨?_, ?_, ?_⟩
      · rw [hg, List.forall_mem_cons]
        exact ⟨accounted_start setup.args, h.accounted⟩
      · rw [hm.1, hg, h.idle, ← List.nil_append (_ :: _), total_split]
        rfl
      · rw [hm.2, hg, h.active, ← List.nil_append (_ :: _), total_split]
        rfl
  | @stepped _ _ newer older g g' hg hg' hinner =>
      have hcounts : Counts ⟨counter 0 (total numIdle (newer ++ older)),
          counter 0 (total numActive (newer ++ older)), none⟩ g s.endpointMeta := by
        refine ⟨?_, ?_⟩
        · rw [h.idle, hg, total_split, counter_add]
        · rw [h.active, hg, total_split, counter_add]
      have hnext := counts_step hcounts hinner
      have hg₀ := h.accounted g (mem_of_split hg)
      refine ⟨?_, ?_, ?_⟩
      · rw [hg']
        exact forall_mem_replace hg h.accounted (accounted_step hg₀ hinner)
      · rw [hg', total_split, counter_add]
        exact hnext.idle
      · rw [hg', total_split, counter_add]
        exact hnext.active

theorem unused_toNat {args : EndpointArgs} (h : Unused args) :
    args.idleconns.toNat = 0 ∨ args.maxconns.toNat = 0 := by
  obtain h | h := h
  · exact Or.inl (by rw [h]; rfl)
  · exact Or.inr (by rw [h]; rfl)

theorem unused_step (hunused : Unused setup.args) (ha : Adds setup s)
    (h : ∀ g ∈ generations s, g.tasks = []) (hstep : Step setup s s') :
    ∀ g ∈ generations s', g.tasks = [] := by
  cases step_change hstep with
  | same hg => exact hg ▸ h
  | created hg =>
      rw [hg, List.forall_mem_cons]
      exact ⟨rfl, h⟩
  | @stepped _ _ newer older g g' hg hg' hinner =>
      have hmem := mem_of_split hg
      have hnil := tasks_nil_step (unused_toNat hunused) (ha.accounted g hmem) (h g hmem) hinner
      rw [hg']
      exact forall_mem_replace hg h hnil

theorem drained_tail_step (h : ∀ g ∈ (generations s).tail, Drained g) (hstep : Step setup s s')
    (hclear : s.periods.length < s'.periods.length → ∀ p ∈ s.periods, Drained p.generation) :
    ∀ g ∈ (generations s').tail, Drained g := by
  cases step_change hstep with
  | same hg => exact hg ▸ h
  | created hg _ hlen =>
      rw [hg]
      intro g hg'
      obtain ⟨p, hp, rfl⟩ := List.mem_map.mp hg'
      exact hclear hlen p hp
  | @stepped _ _ newer older g g' hg hg' hinner =>
      rw [hg] at h
      rw [hg']
      cases newer with
      | nil => exact h
      | cons first newer =>
          have hdrained := drained_step (h g (mem_of_split rfl)) hinner
          exact forall_mem_replace rfl h hdrained

theorem run_adds (h : RunWhen setup ready s) : Adds setup s := by
  induction h with
  | spawned => exact adds_spawned
  | step _ hstep _ ih => exact adds_step ih hstep

theorem run_unused (hunused : Unused setup.args) (h : RunWhen setup ready s) :
    ∀ g ∈ generations s, g.tasks = [] := by
  induction h with
  | spawned => exact nofun
  | step hrun hstep _ ih => exact unused_step hunused (run_adds hrun) ih hstep

theorem run_drained (hused : ¬ Unused setup.args) (h : RunWhen setup (Clear setup.args) s) :
    ∀ g ∈ (generations s).tail, Drained g := by
  induction h with
  | spawned => exact nofun
  | step _ hstep hready ih =>
      exact drained_tail_step ih hstep fun hlen => (hready hlen).resolve_left hused

theorem total_eq_zero {f : Generation → Nat} {gs : List Generation} (h : ∀ g ∈ gs, f g = 0) :
    total f gs = 0 := by
  induction gs with
  | nil => rfl
  | cons g gs ih =>
      have hrest := ih fun x hx => h x (List.mem_cons_of_mem g hx)
      rw [total, List.map_cons, List.sum_cons, h g List.mem_cons_self, Nat.zero_add]
      exact hrest

theorem totals_le {idleconns maxconns : Nat} {gs : List Generation}
    (ha : ∀ g ∈ gs, Accounted idleconns maxconns g) (hd : ∀ g ∈ gs.tail, Drained g) :
    total numIdle gs ≤ idleconns ∧ total numIdle gs + total numActive gs ≤ maxconns := by
  cases gs with
  | nil => exact ⟨Nat.zero_le _, Nat.zero_le _⟩
  | cons g older =>
      have hidle : total numIdle older = 0 := total_eq_zero fun x hx => (hd x hx).counts.1
      have hactive : total numActive older = 0 := total_eq_zero fun x hx => (hd x hx).counts.2
      have hg := ha g List.mem_cons_self
      have hle := hg.numIdle_le
      have hall := hg.total_le
      simp only [total, List.map_cons, List.sum_cons] at hidle hactive ⊢
      omega

theorem totals_unused {idleconns maxconns : Nat} {gs : List Generation}
    (h : ∀ g ∈ gs, g.tasks = []) :
    total numIdle gs ≤ idleconns ∧ total numIdle gs + total numActive gs ≤ maxconns := by
  have hidle : total numIdle gs = 0 := total_eq_zero fun g hg => by rw [numIdle, h g hg]; rfl
  have hactive : total numActive gs = 0 := total_eq_zero fun g hg => by rw [numActive, h g hg]; rfl
  omega

theorem run_totals (h : RunWhen setup (Clear setup.args) s) :
    total numIdle (generations s) ≤ setup.args.idleconns.toNat ∧
      total numIdle (generations s) + total numActive (generations s) ≤
        setup.args.maxconns.toNat := by
  by_cases hunused : Unused setup.args
  · exact totals_unused (run_unused hunused h)
  · exact totals_le (run_adds h).accounted (run_drained hunused h)

theorem counters_exact {setup : Setup} (ha : Adds setup s)
    (h : total numIdle (generations s) + total numActive (generations s) ≤
      setup.args.maxconns.toNat) :
    s.endpointMeta.numIdle.toNat = total numIdle (generations s) ∧
      s.endpointMeta.numActive.toNat = total numActive (generations s) := by
  have hlt := setup.args.maxconns.toNat_lt
  have hzero : (0 : UInt64).toNat = 0 := rfl
  refine ⟨?_, ?_⟩
  · rw [EndpointMeta.numIdle, ha.idle, counter_toNat (by omega)]
    omega
  · rw [EndpointMeta.numActive, ha.active, counter_toNat (by omega)]
    omega

/-- An endpoint whose connection still dials when its service flaps: the next
healthy period starts with all permits free and dials once more. -/
theorem limits_exceeded_when_flapping :
    ∃ s, Run checkedSetup s ∧ s.endpointMeta.numIdle = 2 ∧
      ¬ WithinLimits checkedArgs s.endpointMeta := by
  have r : Run checkedSetup _ := .spawned
  have r := r.step (.consideredHealthy true none rfl rfl (checked_report _ _ _))
  have r := r.step (.startUp rfl)
  have r := r.step (.generation (rfl : _ = [] ++ _ :: []) (.acquireMax rfl (by decide)))
  have r := r.step (.generation (rfl : _ = [] ++ _ :: []) (.acquireIdle rfl (by decide)))
  have r := r.step (.generation (rfl : _ = [] ++ _ :: []) (.spawn ⟨some "key"⟩ [] rfl))
  have r := r.step (.generation (rfl : _ = [] ++ _ :: [])
    (.connection (rfl : _ = [] ++ _ :: []) (.begin rfl)))
  have r := r.step (.consideredUnhealthy false none rfl rfl (checked_report _ _ _))
  have r := r.step (.shutDown rfl)
  have r := r.step (.generation (rfl : _ = [] ++ _ :: []) (.stopped rfl nofun))
  have r := r.step (.consideredHealthy true none rfl rfl (checked_report _ _ _))
  have r := r.step (.startUp rfl)
  have r := r.step (.generation (rfl : _ = [] ++ _ :: [_]) (.acquireMax rfl (by decide)))
  have r := r.step (.generation (rfl : _ = [] ++ _ :: [_]) (.acquireIdle rfl (by decide)))
  have r := r.step (.generation (rfl : _ = [] ++ _ :: [_]) (.spawn ⟨some "key"⟩ [] rfl))
  have r := r.step (.generation (rfl : _ = [] ++ _ :: [_])
    (.connection (rfl : _ = [] ++ _ :: []) (.begin rfl)))
  exact ⟨_, r, rfl, by decide⟩

/-- The limits hold in every run in which a generation is created only once
those before it are drained. -/
theorem within_limits_when_drained (cbor : SerdeCbor) (debug : Debug) (args : EndpointArgs)
    (addrs : List SocketAddr) (s : EndpointTask)
    (h : RunWhen (setupOf cbor debug args addrs) (Clear (capIdle args)) s) :
    WithinLimits args s.endpointMeta := by
  obtain ⟨hidle, hall⟩ := run_totals h
  obtain ⟨hnumIdle, hnumActive⟩ := counters_exact (run_adds h) hall
  refine ⟨?_, ?_⟩
  · rw [hnumIdle, hnumActive]
    exact hall
  · rw [hnumIdle]
    exact hidle.trans (capIdle_toNat args).le

theorem drained_run : ∃ messages, RunWhen checkedSetup (Clear (capIdle checkedArgs))
    ⟨.awaitUnhealthy .checking, .new, ⟨0, 0, some ⟨⟨true, [(true, 0)]⟩, checkedCfg⟩⟩,
      [⟨.new, .start checkedSetup.args⟩, ⟨⟨true, true⟩, ⟨.dropped, 1, 1, []⟩⟩], messages⟩ := by
  have r : RunWhen checkedSetup (Clear (capIdle checkedArgs)) _ := .spawned
  have r := r.keep (.consideredHealthy true none rfl rfl (checked_report _ _ _)) rfl
  have r := r.step (.startUp rfl) fun _ => Or.inr nofun
  have r := r.keep (.consideredUnhealthy false none rfl rfl (checked_report _ _ _)) rfl
  have r := r.keep (.shutDown rfl) rfl
  have r := r.keep (.generation (rfl : _ = [] ++ _ :: []) (.stopped rfl nofun)) rfl
  have r := r.keep (.consideredHealthy true none rfl rfl (checked_report _ _ _)) rfl
  have r := r.step (.startUp rfl) fun _ => Or.inr (List.forall_mem_singleton.mpr ⟨rfl, List.forall_mem_nil _⟩)
  exact ⟨_, r⟩

theorem within_limits_when_drained_checked :
    ∃ s, RunWhen checkedSetup (Clear (capIdle checkedArgs)) s ∧ s.periods.length = 2 ∧
      s.endpointMeta.numIdle = 1 ∧ WithinLimits checkedArgs s.endpointMeta := by
  obtain ⟨_, r⟩ := drained_run
  have r := r.keep (.generation (rfl : _ = [] ++ _ :: [_]) (.acquireMax rfl (by decide))) rfl
  have r := r.keep (.generation (rfl : _ = [] ++ _ :: [_]) (.acquireIdle rfl (by decide))) rfl
  have r := r.keep (.generation (rfl : _ = [] ++ _ :: [_]) (.spawn ⟨some "key"⟩ [] rfl)) rfl
  have r := r.keep (.generation (rfl : _ = [] ++ _ :: [_])
    (.connection (rfl : _ = [] ++ _ :: []) (.begin rfl))) rfl
  exact ⟨_, r, rfl, rfl, within_limits_when_drained _ _ _ _ _ r⟩

end Ebbflow.Limits
