import Ebbflow.EndpointRun
import Ebbflow.MessagingCbor
import Mathlib.Logic.Relation

namespace Ebbflow.Lifecycle

open Config Health Daemon RunConnection InnerRun EndpointRun

variable {setup : Setup} {s s' : EndpointTask} {hm hm' : HealthMaster} {ready : EndpointTask → Prop}

def signals (s : EndpointTask) : List Signal := s.periods.map (·.signal)

def NoneLive (l : List Signal) : Prop := ∀ x ∈ l, x.live = false

def Healthy (healthy : Bool) (healthdata : Option HealthMaster) : Prop :=
  ∀ hm, healthdata = some hm → hm.data.1 = healthy

def InvAt (told : Bool) (healthdata : Option HealthMaster) (l : List Signal) : Phase → Prop
  | .awaitHealthy _ => NoneLive l ∧ Healthy false healthdata
  | .startingUp => NoneLive l ∧ Healthy true healthdata
  | .awaitUnhealthy _ => NoneLive l.tail ∧ Healthy true healthdata
  | .shuttingDown => NoneLive l.tail ∧ Healthy false healthdata
  | .disabled => NoneLive l.tail ∧ told = true
  | .left => NoneLive l ∧ told = true

def Inv (s : EndpointTask) : Prop := InvAt s.stopper.told s.endpointMeta.healthdata (signals s) s.phase

theorem status_flag {inner inner' : HealthMasterInner} {cfg : ConcreteHealthCheck} {b : Bool}
    (h : inner.status cfg = some (b, inner')) : inner'.healthy = b := by
  rw [status_eq] at h
  obtain ⟨rfl, rfl⟩ := Prod.mk.inj (Option.some.inj h)
  rfl

theorem report_flag {r b : Bool} {now : Option Nat} (h : hm.reportCheckResult r now = some (b, hm')) :
    hm'.data.1 = b := by
  rw [HealthMaster.reportCheckResult, Option.map_eq_some_iff] at h
  obtain ⟨⟨b', inner'⟩, hinner, he⟩ := h
  obtain ⟨rfl, rfl⟩ := Prod.mk.inj he
  exact status_flag hinner

theorem healthy_report {r b : Bool} {now : Option Nat}
    (h : hm.reportCheckResult r now = some (b, hm')) : Healthy b (some hm') := by
  intro x hx
  obtain rfl := Option.some.inj hx
  exact report_flag h

theorem NoneLive.tail {l : List Signal} (h : NoneLive l) : NoneLive l.tail :=
  fun x hx => h x (List.mem_of_mem_tail hx)

theorem signals_onNewest (f : Signal → Signal) (periods : List Period) :
    (onNewest f periods).map (·.signal) = match periods.map (·.signal) with
      | [] => []
      | x :: older => f x :: older := by
  cases periods <;> rfl

theorem noneLive_onNewest (f : Signal → Signal) (hf : ∀ x, (f x).live = false)
    (h : NoneLive (signals s).tail) : NoneLive ((onNewest f s.periods).map (·.signal)) := by
  rw [signals] at h
  rw [signals_onNewest]
  cases hl : s.periods.map (·.signal) with
  | nil => exact fun x hx => by cases hx
  | cons x older =>
      rw [hl] at h
      intro y hy
      obtain rfl | hy := List.mem_cons.mp hy
      · exact hf x
      · exact h y hy

theorem counted_healthdata (effect : Effect) (m : EndpointMeta) :
    (counted effect m).healthdata = m.healthdata := by
  cases effect <;> rfl

theorem inner_healthdata {told : Bool} {g g' : Generation} {m m' : EndpointMeta} {effect : Effect}
    (h : InnerRun.Step setup told g m effect g' m') : m'.healthdata = m.healthdata := by
  cases h with
  | connection => exact counted_healthdata _ _
  | _ => rfl

theorem Inv.at {phase : Phase} (h : Inv s) (hphase : s.phase = phase) :
    InvAt s.stopper.told s.endpointMeta.healthdata (signals s) phase := hphase ▸ h

theorem inv_spawned (args : EndpointArgs) : Inv (.spawned args) := by
  refine ⟨nofun, ?_⟩
  intro hm hsome
  obtain ⟨hc, -, rfl⟩ := Option.map_eq_some_iff.mp hsome
  rfl

theorem inv_step (h : Inv s) (hstep : Step setup s s') : Inv s' := by
  cases hstep with
  | stop =>
      simp only [Inv] at h ⊢
      cases hphase : s.phase with rw [hphase] at h
      | disabled => exact ⟨h.1, rfl⟩
      | left => exact ⟨h.1, rfl⟩
      | _ => exact h
  | healthyUnchecked hphase hnone =>
      obtain ⟨hl, -⟩ := h.at hphase
      exact ⟨hl, fun hm hsome => nomatch hnone.symm.trans hsome⟩
  | consideredHealthy r now hphase _ hreport | stillUnhealthy r now hphase _ hreport
  | consideredUnhealthy r now hphase _ hreport | stillHealthy r now hphase _ hreport =>
      obtain ⟨hl, -⟩ := h.at hphase
      exact ⟨hl, healthy_report hreport⟩
  | recheckUnhealthy hphase | recheckHealthy hphase => exact (h.at hphase :)
  | disabledUnhealthy hphase _ htold => exact ⟨(h.at hphase).1.tail, htold⟩
  | disabledHealthy hphase htold => exact ⟨(h.at hphase).1, htold⟩
  | startUp hphase => exact (h.at hphase :)
  | shutDown hphase =>
      obtain ⟨hl, hhealth⟩ := h.at hphase
      have hnone := noneLive_onNewest (fun _ => ⟨true, true⟩) (fun _ => rfl) hl
      exact ⟨hnone, hhealth⟩
  | leave hphase =>
      obtain ⟨hl, htold⟩ := h.at hphase
      have hdead : ∀ x : Signal, ({ x with dropped := true } : Signal).live = false := by
        simp [Signal.live, Signal.told]
      have hnone := noneLive_onNewest _ hdead hl
      exact ⟨hnone, htold⟩
  | @generation newer older p _ _ _ hsplit hinner =>
      have hsignals : signals s = newer.map (·.signal) ++ p.signal :: older.map (·.signal) := by
        rw [signals, hsplit, List.map_append, List.map_cons]
      rw [Inv, hsignals] at h
      simp only [Inv, signals, List.map_append, List.map_cons, inner_healthdata hinner]
      exact h

theorem run_inv (h : RunWhen setup ready s) : Inv s := by
  induction h with
  | spawned => exact inv_spawned setup.args
  | step _ hstep _ ih => exact inv_step ih hstep

theorem report_cfg {r b : Bool} {now : Option Nat} (h : hm.reportCheckResult r now = some (b, hm')) :
    hm'.cfg = hm.cfg := by
  rw [HealthMaster.reportCheckResult, Option.map_eq_some_iff] at h
  obtain ⟨⟨b', inner'⟩, -, he⟩ := h
  obtain ⟨-, rfl⟩ := Prod.mk.inj he
  rfl

theorem run_healthdata (h : RunWhen setup ready s) :
    s.endpointMeta.healthdata.map (·.cfg) =
      setup.args.healthcheck.map (ConcreteHealthCheck.new setup.args.port) := by
  induction h with
  | spawned =>
      simp only [EndpointTask.spawned, EndpointMeta.new, healthMaster, Option.map_map]
      rfl
  | step _ hstep _ ih =>
      rw [← ih]
      cases hstep with
      | consideredHealthy _ _ _ hsome hreport | stillUnhealthy _ _ _ hsome hreport
      | consideredUnhealthy _ _ _ hsome hreport | stillHealthy _ _ _ hsome hreport =>
          rw [hsome]
          exact congrArg some (report_cfg hreport)
      | generation _ hinner => rw [inner_healthdata hinner]
      | _ => rfl

theorem noneLive_periods (h : NoneLive (signals s)) : ∀ p ∈ s.periods, p.signal.live = false :=
  fun p hp => h p.signal (List.mem_map_of_mem hp)

theorem countP_live_le {l : List Signal} (h : NoneLive l.tail) : l.countP Signal.live ≤ 1 := by
  cases l with
  | nil => exact Nat.zero_le 1
  | cons x older =>
      have hzero : older.countP Signal.live = 0 := by
        rw [List.countP_eq_zero]
        intro y hy
        simp [h y hy]
      rw [List.countP_cons, hzero]
      split <;> omega

theorem Inv.tail (h : Inv s) : NoneLive (signals s).tail := by
  rw [Inv] at h
  cases hphase : s.phase with rw [hphase] at h
  | awaitHealthy | startingUp | left => exact h.1.tail
  | awaitUnhealthy | shuttingDown | disabled => exact h.1

theorem Inv.healthy (h : Inv s) (hsome : s.endpointMeta.healthdata = some hm)
    (hlive : ∃ p ∈ s.periods, p.signal.live = true) (htold : s.stopper.told = false)
    (hphase : s.phase ≠ .shuttingDown) : hm.data.1 = true := by
  have hnot : ¬ NoneLive (signals s) := by
    intro hnone
    obtain ⟨p, hp, hl⟩ := hlive
    rw [noneLive_periods hnone p hp] at hl
    cases hl
  rw [Inv] at h
  cases hpc : s.phase with rw [hpc] at h
  | awaitHealthy | startingUp | left => exact absurd h.1 hnot
  | awaitUnhealthy => exact h.2 hm hsome
  | shuttingDown => exact absurd hpc hphase
  | disabled =>
      have htrue := h.2
      rw [htold] at htrue
      cases htrue

theorem left_step (h : s.phase = .left) (hstep : Step setup s s') :
    s'.phase = .left ∧ s'.periods.length = s.periods.length := by
  cases hstep with
  | stop => exact ⟨h, rfl⟩
  | generation hsplit => exact ⟨h, by simp [hsplit]⟩
  | healthyUnchecked hphase | consideredHealthy _ _ hphase | stillUnhealthy _ _ hphase
  | recheckUnhealthy hphase | disabledUnhealthy hphase | startUp hphase
  | consideredUnhealthy _ _ hphase | stillHealthy _ _ hphase | recheckHealthy hphase
  | disabledHealthy hphase | shutDown hphase | leave hphase =>
      rw [h] at hphase
      cases hphase

theorem left_steps (hinv : Inv s) (h : s.phase = .left)
    (hsteps : Relation.ReflTransGen (Step setup) s s') :
    s'.phase = .left ∧ s'.periods.length = s.periods.length ∧
      ∀ p ∈ s'.periods, p.signal.live = false := by
  have hall : Inv s' ∧ s'.phase = .left ∧ s'.periods.length = s.periods.length := by
    induction hsteps with
    | refl => exact ⟨hinv, h, rfl⟩
    | tail _ hstep ih =>
        obtain ⟨hi, hphase, hlen⟩ := ih
        obtain ⟨hphase', hlen'⟩ := left_step hphase hstep
        exact ⟨inv_step hi hstep, hphase', hlen'.trans hlen⟩
  obtain ⟨hi, hphase, hlen⟩ := hall
  exact ⟨hphase, hlen, noneLive_periods (hi.at hphase).1⟩

/-- Whatever the checks answer and whenever the stop signal comes, generations
follow one another, each lives in a healthy period, and none outlives the loop. -/
theorem one_generation_live (setup : Setup) (s : EndpointTask) (h : Run setup s) :
    s.periods.countP (·.signal.live) ≤ 1 ∧
    (∀ hc, setup.args.healthcheck = some hc → ∃ hm, s.endpointMeta.healthdata = some hm ∧
      hm.cfg = .new setup.args.port hc ∧
      ((∃ p ∈ s.periods, p.signal.live = true) → s.stopper.told = false →
        s.phase ≠ .shuttingDown → hm.data.1 = true) ∧
      ∀ w, s.phase = .awaitHealthy w →
        hm.data.1 = false ∧ ∀ p ∈ s.periods, p.signal.live = false) ∧
    (s.phase = .left → ∀ s', Relation.ReflTransGen (Step setup) s s' →
      s'.phase = .left ∧ s'.periods.length = s.periods.length ∧
        ∀ p ∈ s'.periods, p.signal.live = false) := by
  have hinv := run_inv h
  refine ⟨?_, ?_, ?_⟩
  · have hle := countP_live_le hinv.tail
    rw [signals, List.countP_map] at hle
    exact hle
  · intro hc hsome
    have hdata := run_healthdata h
    rw [hsome, Option.map_some, Option.map_eq_some_iff] at hdata
    obtain ⟨hm, hhm, hcfg⟩ := hdata
    refine ⟨hm, hhm, hcfg, hinv.healthy hhm, ?_⟩
    intro w hphase
    obtain ⟨hnone, hflag⟩ := hinv.at hphase
    exact ⟨hflag hm hhm, noneLive_periods hnone⟩
  · intro hphase s' hsteps
    exact left_steps hinv hphase hsteps

def checkedArgs : EndpointArgs :=
  ⟨.Tls, 1, 1, "test.mywebsite.com", 80, some ⟨none, some 1, some 1, .TCP, none⟩⟩

def checkedSetup : Setup :=
  setupOf MessagingCbor.serdeCbor ⟨fun _ => "error", fun _ => "127.0.0.1:80"⟩ checkedArgs
    [⟨.V4 0x7f000001, 80⟩]

def checkedCfg : ConcreteHealthCheck := ⟨80, 1, 1, .TCP, 5⟩

theorem checked_report (healthy r : Bool) (recent : List (Bool × Nat)) :
    HealthMaster.reportCheckResult ⟨⟨healthy, recent⟩, checkedCfg⟩ r none =
      some (r, ⟨⟨r, [(r, 0)]⟩, checkedCfg⟩) := by
  cases healthy <;> cases r <;>
    simp [HealthMaster.reportCheckResult, HealthMasterInner.reportCheckResult,
      HealthMasterInner.status, trim_eq_take, checkedCfg, countUntil, UInt16.size]

theorem checked_run : ∃ s, Run checkedSetup s ∧ s.phase = .left ∧ s.periods.length = 2 := by
  have r : Run checkedSetup _ := .spawned
  have r := r.step (.consideredHealthy true none rfl rfl (checked_report _ _ _))
  have r := r.step (.startUp rfl)
  have r := r.step (.consideredUnhealthy false none rfl rfl (checked_report _ _ _))
  have r := r.step (.shutDown rfl)
  have r := r.step (.consideredHealthy true none rfl rfl (checked_report _ _ _))
  have r := r.step (.startUp rfl)
  have r := r.step (.stop _)
  have r := r.step (.disabledHealthy rfl rfl)
  have r := r.step (.leave rfl)
  exact ⟨_, r, rfl, rfl⟩

theorem one_generation_live_checked :
    ∃ s, Run checkedSetup s ∧ s.phase = .left ∧ s.periods.length = 2 ∧
      s.periods.countP (·.signal.live) ≤ 1 ∧
      ∀ s', Relation.ReflTransGen (Step checkedSetup) s s' →
        s'.phase = .left ∧ s'.periods.length = s.periods.length ∧
          ∀ p ∈ s'.periods, p.signal.live = false := by
  obtain ⟨s, r, hphase, hlen⟩ := checked_run
  have hlive := one_generation_live checkedSetup s r
  exact ⟨s, r, hphase, hlen, hlive.1, hlive.2.2 hphase⟩

end Ebbflow.Lifecycle
