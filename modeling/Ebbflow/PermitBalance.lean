import Ebbflow.Accounting
import Ebbflow.MessagingCbor

namespace Ebbflow.PermitBalance

open Lib.Tally Lib.Wire Daemon RunConnection InnerRun Permits Accounting

variable {told : Bool} {effect : Effect} {g g' : Generation} {m m' start : EndpointMeta}
  {idleconns maxconns : Nat} {setup : Setup} {t : ConnectionTask}

/-- The books of one generation whose counters stood at `start` when it was called. -/
structure Balanced (idleconns maxconns : Nat) (start : EndpointMeta) (g : Generation)
    (m : EndpointMeta) : Prop where
  idlePermits : g.idlesem + g.loop.heldIdle + g.tasks.countP holdsIdle = idleconns
  maxPermits : g.maxsem + g.loop.heldMax + g.tasks.countP (·.maxPermit) = maxconns
  idleCounter : m.idle = counter start.idle (numIdle g)
  activeCounter : m.active = counter start.active (numActive g)
  idleExact : start.idle.toNat + maxconns < 2 ^ 64 → m.idle.toNat = start.idle.toNat + numIdle g
  activeExact : start.active.toNat + maxconns < 2 ^ 64 →
    m.active.toNat = start.active.toNat + numActive g
  idleHolds : ∀ t ∈ g.tasks, isIdle t = true → holdsIdle t = true ∧ t.maxPermit = true
  activeHolds : ∀ t ∈ g.tasks, isActive t = true → t.maxPermit = true
  settled : (∀ t ∈ g.tasks, t.maxPermit = false) →
    g.idlesem + g.loop.heldIdle = idleconns ∧ g.maxsem + g.loop.heldMax = maxconns ∧
    m.idle = start.idle ∧ m.active = start.active
  freed : g.loop = .dropped → (∀ t ∈ g.tasks, t.maxPermit = false) → g.idlesem = idleconns ∧ g.maxsem = maxconns

structure NoWrap (maxconns : Nat) (start : EndpointMeta) (effect : Effect) (g : Generation)
    (m : EndpointMeta) : Prop where
  idle : effect = .removeIdle →
    0 < numIdle g ∧ (start.idle.toNat + maxconns < 2 ^ 64 → 0 < m.idle.toNat)
  active : effect = .removeActive →
    0 < numActive g ∧ (start.active.toNat + maxconns < 2 ^ 64 → 0 < m.active.toNat)

theorem Accounted.settled (h : Accounted idleconns maxconns g)
    (hended : ∀ t ∈ g.tasks, t.maxPermit = false) :
    (g.tasks.countP holdsIdle = 0 ∧ g.tasks.countP (·.maxPermit) = 0) ∧
      numIdle g = 0 ∧ numActive g = 0 := by
  have hmax : g.tasks.countP (·.maxPermit) = 0 := countP_eq_zero _ hended
  have hidle : g.tasks.countP holdsIdle = 0 := by
    apply countP_eq_zero
    intro t ht
    have hpc := (h.sound t ht).running (hended t ht)
    have hpermitted := (h.sound t ht).permitted
    rw [Permitted, hpc] at hpermitted
    exact hpermitted
  have hnone : ∀ t ∈ g.tasks, isIdle t = false ∧ isActive t = false := by
    intro t ht
    have hpc := (h.sound t ht).running (hended t ht)
    simp only [isIdle, isActive, idleCounted, activeCounted, hpc, and_self]
  exact ⟨⟨hidle, hmax⟩, countP_eq_zero _ fun t ht => (hnone t ht).1,
    countP_eq_zero _ fun t ht => (hnone t ht).2⟩

theorem balanced (ha : Accounted idleconns maxconns g) (hc : Counts start g m) :
    Balanced idleconns maxconns start g m where
  idlePermits := ha.idle
  maxPermits := ha.max
  idleCounter := hc.idle
  activeCounter := hc.active
  idleExact hroom := by
    have := ha.total_le
    rw [hc.idle, counter_toNat (by omega)]
  activeExact hroom := by
    have := ha.total_le
    rw [hc.active, counter_toNat (by omega)]
  idleHolds t ht hi := ⟨(ha.sound t ht).idle hi, (ha.sound t ht).max (Or.inl hi)⟩
  activeHolds t ht hact := (ha.sound t ht).max (Or.inr hact)
  settled hended := by
    obtain ⟨⟨hholds, hmax⟩, hidle, hactive⟩ := Accounted.settled ha hended
    have hidlePermits := ha.idle
    have hmaxPermits := ha.max
    refine ⟨by omega, by omega, ?_, ?_⟩
    · rw [hc.idle, hidle, counter_zero]
    · rw [hc.active, hactive, counter_zero]
  freed hloop hended := by
    obtain ⟨⟨hholds, hmax⟩, _⟩ := Accounted.settled ha hended
    have hidlePermits := ha.idle
    have hmaxPermits := ha.max
    rw [hloop, hholds] at hidlePermits
    rw [hloop, hmax] at hmaxPermits
    exact ⟨hidlePermits, hmaxPermits⟩

/-- The loop is stopped, or panics, whatever permits it holds by then. -/
def Leaves (told : Bool) (g : Generation) : Prop := told = true ∧ g.loop ≠ .dropped ∨ g.loop = .createArgs

theorem leaves_step (h : Leaves told g) : Step setup told g m .silent g.drop m := by
  rcases h with ⟨htold, hloop⟩ | hloop
  · exact .stopped htold hloop
  · exact .panicked hloop

theorem noWrap (h : Balanced idleconns maxconns start g m) (hstep : Step setup told g m effect g' m') :
    NoWrap maxconns start effect g m := by
  cases hstep with
  | connection hsplit hconn =>
      refine ⟨?_, ?_⟩
      · intro he
        have hpos : 0 < numIdle g :=
          countP_pos_of_split isIdle hsplit ((idle_toggles hconn).2.1 he).1
        refine ⟨hpos, ?_⟩
        intro hroom
        rw [h.idleExact hroom]
        exact Nat.add_pos_right _ hpos
      · intro he
        have hpos : 0 < numActive g :=
          countP_pos_of_split isActive hsplit ((active_toggles hconn).2.1 he).1
        refine ⟨hpos, ?_⟩
        intro hroom
        rw [h.activeExact hroom]
        exact Nat.add_pos_right _ hpos
  | acquireMax | acquireIdle | spawn | panicked | stopped | ended =>
      exact ⟨nofun, nofun⟩

/-- In every run of `inner_run_endpoint` the permits add up, the counters follow
the connections that are counted, and no step wraps a counter; also when the
loop is dropped. -/
theorem permits_and_counters_balance (setup : Setup) (start : EndpointMeta) (g : Generation)
    (m : EndpointMeta) (h : Run setup start g m) :
    Balanced setup.args.idleconns.toNat setup.args.maxconns.toNat start g m ∧
    (∀ told effect g' m', Step setup told g m effect g' m' →
      NoWrap setup.args.maxconns.toNat start effect g m) ∧
    ∀ told, Leaves told g → Step setup told g m .silent g.drop m ∧ g.drop.loop = .dropped ∧
      Balanced setup.args.idleconns.toNat setup.args.maxconns.toNat start g.drop m := by
  obtain ⟨ha, hc⟩ := run_balanced h
  have hbalanced := balanced ha hc
  refine ⟨hbalanced, fun told effect g' m' hstep => noWrap hbalanced hstep, ?_⟩
  intro told hleaves
  have hstep : Step setup told g m .silent g.drop m := leaves_step hleaves
  obtain ⟨hadrop, hcdrop⟩ := run_balanced (h.step told hstep)
  exact ⟨hstep, rfl, balanced hadrop hcdrop⟩

def sampleSetup : Setup where
  cbor := MessagingCbor.serdeCbor
  debug := ⟨fun _ => "error", fun _ => "127.0.0.1:80"⟩
  args := ⟨.Tls, 1, 2, "test.mywebsite.com", 80, none⟩
  addrs := [⟨.V4 0x7f000001, 80⟩]

/-- A connection is given up, and the loop is stopped while it holds both permits for the next one. -/
theorem permits_and_counters_balance_sample :
    ∃ g m, Run sampleSetup (.new none) g m ∧ g.tasks.length = 1 ∧ g.loop = .createArgs ∧ g.idlesem = 0 ∧
      g.maxsem = 1 ∧ Step sampleSetup true g m .silent g.drop m ∧ g.drop.idlesem = 1 ∧ g.drop.maxsem = 2 := by
  have r := (Run.called : Run sampleSetup (.new none) _ _)
  have r := r.step false (.acquireMax rfl (by decide))
  have r := r.step false (.acquireIdle rfl (by decide))
  have r := r.step false (.spawn ⟨some "key"⟩ [] rfl)
  have r := r.step false (.connection (rfl : _ = [] ++ _ :: []) (.begin rfl))
  have r := r.step false (.connection (rfl : _ = [] ++ _ :: []) (.elapsed rfl nofun))
  have r := r.step false (.connection (rfl : _ = [] ++ _ :: []) (.timedOut rfl))
  have r := r.step false (.connection (rfl : _ = [] ++ _ :: []) (.returnIdle rfl rfl))
  have r := r.step false (.ended (rfl : _ = [] ++ _ :: []) rfl rfl)
  have r := r.step false (.acquireMax rfl (by decide))
  have r := r.step false (.acquireIdle rfl (by decide))
  obtain ⟨hstep, hloop, hbalanced⟩ := (permits_and_counters_balance _ _ _ _ r).2.2 true (.inr rfl)
  obtain ⟨hidle, hmax⟩ := hbalanced.freed hloop (List.forall_mem_singleton.mpr rfl)
  exact ⟨_, _, r, rfl, rfl, rfl, rfl, hstep, hidle, hmax⟩

end Ebbflow.PermitBalance
