import Ebbflow.Lifecycle
import Ebbflow.TimedConnections

namespace Ebbflow.TimedEndpoint

open Lib.Tally Config Health Daemon
open EndpointRun hiding Step Run
open TimedConnections hiding System Step Run
open InnerRun (Setup)

/-- The limit of the `timeout` around a health check, in milliseconds. -/
def healthcheckTimeout : Nat := 1000

/-- A generation in time: when it was started, and since when its receivers are
told to stop. -/
structure TimedPeriod where
  signal : Signal
  started : Nat
  toldAt : Option Nat
  conns : TimedConnections.System

namespace TimedPeriod

def period (p : TimedPeriod) : Period := ⟨p.signal, p.conns.generation⟩

def start (args : EndpointArgs) (now : Nat) : TimedPeriod := ⟨.new, now, none, .called args now⟩

def after (p : TimedPeriod) (later : Nat) : TimedPeriod := { p with conns := { p.conns with now := later } }

def tell (p : TimedPeriod) (f : Signal → Signal) (now : Nat) : TimedPeriod :=
  { p with signal := f p.signal, toldAt := some (p.toldAt.getD now) }

end TimedPeriod

/-- The task that `spawn_endpoint` spawns, in time. The check or the delay that
it waits for is over at `due`. -/
structure System where
  phase : Phase
  due : Nat
  stopper : Signal
  healthdata : Option HealthMaster
  periods : List TimedPeriod
  now : Nat

def frequency (healthdata : Option HealthMaster) : Nat :=
  match healthdata with
  | none => 0
  | some hm => hm.cfg.frequencySecs.toNat * 1000

/-- How long a wait lasts: a check at most, a delay exactly. -/
def lasting (healthdata : Option HealthMaster) : Phase → Nat
  | .awaitHealthy .checking | .awaitUnhealthy .checking => healthcheckTimeout
  | .awaitHealthy .delaying | .awaitUnhealthy .delaying => frequency healthdata
  | .startingUp | .shuttingDown | .disabled | .left => 0

namespace System

def spawned (args : EndpointArgs) (now : Nat) : System where
  phase := .awaitHealthy .checking
  due := now + healthcheckTimeout
  stopper := .new
  healthdata := healthMaster args
  periods := []
  now := now

def after (s : System) (later : Nat) : System :=
  { s with now := later, periods := s.periods.map (·.after later) }

def enter (s : System) (phase : Phase) : System :=
  { s with phase := phase, due := s.now + lasting s.healthdata phase }

def withHealth (s : System) (hm : HealthMaster) : System := { s with healthdata := some hm }

end System

def tellNewest (f : Signal → Signal) (now : Nat) : List TimedPeriod → List TimedPeriod
  | [] => []
  | p :: older => p.tell f now :: older

/-- A check that ends at a time may only answer what `checks` says. -/
inductive Step (setup : Setup) (checks : Nat → Bool → Prop) (allows : System → Nat → Prop) :
    System → System → Prop
  | pass {s : System} (later : Nat) : s.now ≤ later → allows s later → Step setup checks allows s (s.after later)
  | stop (s : System) : Step setup checks allows s { s with stopper := { s.stopper with sent := true } }
  | healthyUnchecked {s : System} : s.phase = .awaitHealthy .checking → s.healthdata = none →
      Step setup checks allows s (s.enter .startingUp)
  | idleReport {s : System} {hm hm' : HealthMaster} {answer : Bool} (r : Bool) (stamp : Option Nat) :
      s.phase = .awaitHealthy .checking → s.healthdata = some hm → checks s.now r →
      hm.reportCheckResult r stamp = some (answer, hm') →
      Step setup checks allows s
        ((s.withHealth hm').enter (if answer then .startingUp else .awaitHealthy .delaying))
  | recheckUnhealthy {s : System} : s.phase = .awaitHealthy .delaying → s.due ≤ s.now →
      Step setup checks allows s (s.enter (.awaitHealthy .checking))
  | disabledUnhealthy {s : System} {w : Wait} {hm : HealthMaster} : s.phase = .awaitHealthy w →
      s.healthdata = some hm → s.stopper.told = true → Step setup checks allows s (s.enter .disabled)
  | startUp {s : System} : s.phase = .startingUp →
      Step setup checks allows s
        ({ s with periods := .start setup.args s.now :: s.periods }.enter (.awaitUnhealthy .checking))
  | liveReport {s : System} {hm hm' : HealthMaster} {answer : Bool} (r : Bool) (stamp : Option Nat) :
      s.phase = .awaitUnhealthy .checking → s.healthdata = some hm → checks s.now r →
      hm.reportCheckResult r stamp = some (answer, hm') →
      Step setup checks allows s
        ((s.withHealth hm').enter (if answer then .awaitUnhealthy .delaying else .shuttingDown))
  | recheckHealthy {s : System} : s.phase = .awaitUnhealthy .delaying → s.due ≤ s.now →
      Step setup checks allows s (s.enter (.awaitUnhealthy .checking))
  | disabledHealthy {s : System} {w : Wait} : s.phase = .awaitUnhealthy w → s.stopper.told = true →
      Step setup checks allows s (s.enter .disabled)
  | shutDown {s : System} : s.phase = .shuttingDown →
      Step setup checks allows s
        ({ s with periods := tellNewest (fun _ => ⟨true, true⟩) s.now s.periods }.enter (.awaitHealthy .checking))
  | leave {s : System} : s.phase = .disabled →
      Step setup checks allows s
        ({ s with periods := tellNewest (fun signal => { signal with dropped := true }) s.now s.periods }.enter
          .left)
  | generation {s : System} {newer older : List TimedPeriod} {p : TimedPeriod} {c : TimedConnections.System} :
      s.periods = newer ++ p :: older → Move setup p.signal.told p.conns c →
      Step setup checks allows s { s with periods := newer ++ { p with conns := c } :: older }

inductive Run (setup : Setup) (checks : Nat → Bool → Prop) (allows : System → Nat → Prop) (start : Nat) :
    System → Prop
  | spawned : Run setup checks allows start (.spawned setup.args start)
  | step {s s' : System} : Run setup checks allows start s → Step setup checks allows s s' →
      Run setup checks allows start s'

variable {setup : Setup} {checks : Nat → Bool → Prop} {allows : System → Nat → Prop} {s s' : System} {start : Nat}
  {t : EndpointTask} {p : TimedPeriod} {l : List TimedPeriod}

structure Matches (s : System) (t : EndpointTask) : Prop where
  phase : t.phase = s.phase
  stopper : t.stopper = s.stopper
  healthdata : t.endpointMeta.healthdata = s.healthdata
  periods : t.periods = s.periods.map (·.period)

theorem tellNewest_periods (f : Signal → Signal) (now : Nat) :
    (tellNewest f now l).map (·.period) = onNewest f (l.map (·.period)) := by
  cases l <;> rfl

theorem after_periods (later : Nat) : (s.after later).periods.map (·.period) = s.periods.map (·.period) := by
  rw [System.after, List.map_map]
  rfl

theorem step_sound (h : Step setup checks allows s s') (hm : Matches s t) :
    Matches s' t ∨ ∃ t', EndpointRun.Step setup t t' ∧ Matches s' t' := by
  cases h with
  | pass later => exact .inl ⟨hm.phase, hm.stopper, hm.healthdata, hm.periods.trans (after_periods later).symm⟩
  | stop =>
      refine .inr ⟨_, .stop t, hm.phase, ?_, hm.healthdata, hm.periods⟩
      rw [← hm.stopper]
  | healthyUnchecked hphase hnone =>
      exact .inr ⟨_, .healthyUnchecked (hm.phase.trans hphase) (hm.healthdata.trans hnone), rfl, hm.stopper,
        hm.healthdata, hm.periods⟩
  | @idleReport _ _ answer r stamp hphase hsome _ hreport =>
      cases answer with
      | false =>
          exact .inr ⟨_, .stillUnhealthy r stamp (hm.phase.trans hphase) (hm.healthdata.trans hsome) hreport, rfl,
            hm.stopper, rfl, hm.periods⟩
      | true =>
          exact .inr ⟨_, .consideredHealthy r stamp (hm.phase.trans hphase) (hm.healthdata.trans hsome) hreport,
            rfl, hm.stopper, rfl, hm.periods⟩
  | recheckUnhealthy hphase =>
      exact .inr ⟨_, .recheckUnhealthy (hm.phase.trans hphase), rfl, hm.stopper, hm.healthdata, hm.periods⟩
  | disabledUnhealthy hphase hsome htold =>
      exact .inr ⟨_, .disabledUnhealthy (hm.phase.trans hphase) (hm.healthdata.trans hsome)
        (hm.stopper ▸ htold), rfl, hm.stopper, hm.healthdata, hm.periods⟩
  | startUp hphase =>
      refine .inr ⟨_, .startUp (hm.phase.trans hphase), rfl, hm.stopper, hm.healthdata, ?_⟩
      exact congrArg (List.cons _) hm.periods
  | @liveReport _ _ answer r stamp hphase hsome _ hreport =>
      cases answer with
      | false =>
          exact .inr ⟨_, .consideredUnhealthy r stamp (hm.phase.trans hphase) (hm.healthdata.trans hsome) hreport,
            rfl, hm.stopper, rfl, hm.periods⟩
      | true =>
          exact .inr ⟨_, .stillHealthy r stamp (hm.phase.trans hphase) (hm.healthdata.trans hsome) hreport, rfl,
            hm.stopper, rfl, hm.periods⟩
  | recheckHealthy hphase =>
      exact .inr ⟨_, .recheckHealthy (hm.phase.trans hphase), rfl, hm.stopper, hm.healthdata, hm.periods⟩
  | disabledHealthy hphase htold =>
      exact .inr ⟨_, .disabledHealthy (hm.phase.trans hphase) (hm.stopper ▸ htold), rfl, hm.stopper,
        hm.healthdata, hm.periods⟩
  | shutDown hphase =>
      refine .inr ⟨_, .shutDown (hm.phase.trans hphase), rfl, hm.stopper, hm.healthdata, ?_⟩
      exact (congrArg (onNewest fun _ => ⟨true, true⟩) hm.periods).trans (tellNewest_periods _ _).symm
  | leave hphase =>
      refine .inr ⟨_, .leave (hm.phase.trans hphase), rfl, hm.stopper, hm.healthdata, ?_⟩
      exact (congrArg (onNewest fun signal => { signal with dropped := true }) hm.periods).trans
        (tellNewest_periods _ _).symm
  | @generation newer older p c hsplit hmove =>
      obtain ⟨effect, hstep⟩ := untimed hmove t.endpointMeta
      have hperiods : t.periods = newer.map (·.period) ++ p.period :: older.map (·.period) := by
        rw [hm.periods, hsplit, List.map_append, List.map_cons]
      refine .inr ⟨_, .generation hperiods hstep, hm.phase, hm.stopper, ?_, ?_⟩
      · exact (Lifecycle.counted_healthdata effect _).trans hm.healthdata
      · simp only [List.map_append, List.map_cons]
        rfl

/-- Without its clocks a timed run is one of the endpoint task. -/
theorem run_sound (h : Run setup checks allows start s) : ∃ t, EndpointRun.Run setup t ∧ Matches s t := by
  induction h with
  | spawned => exact ⟨_, .spawned, rfl, rfl, rfl, rfl⟩
  | step _ hs ih =>
      obtain ⟨t, hrun, hm⟩ := ih
      rcases step_sound hs hm with hm' | ⟨t', hstep, hm'⟩
      · exact ⟨t, hrun, hm'⟩
      · exact ⟨t', hrun.step hstep, hm'⟩

theorem forall_tellNewest {P : TimedPeriod → Prop} {f : Signal → Signal} {now : Nat} (h : ∀ p ∈ l, P p)
    (htell : ∀ p ∈ l, P (p.tell f now)) : ∀ p ∈ tellNewest f now l, P p := by
  cases l with
  | nil => exact h
  | cons p older =>
      rw [List.forall_mem_cons] at h htell
      exact List.forall_mem_cons.mpr ⟨htell.1, h.2⟩

theorem forall_step {P : Nat → TimedPeriod → Prop} (hs : Step setup checks allows s s')
    (h : ∀ p ∈ s.periods, P s.now p)
    (hpass : ∀ later, s.now ≤ later → allows s later → ∀ p ∈ s.periods, P later (p.after later))
    (hstart : s.phase = .startingUp → P s.now (.start setup.args s.now))
    (htell : ∀ p ∈ s.periods, ∀ f, (f p.signal).told = true → P s.now (p.tell f s.now))
    (hmove : ∀ p ∈ s.periods, ∀ c, Move setup p.signal.told p.conns c → P s.now { p with conns := c }) :
    ∀ p ∈ s'.periods, P s'.now p := by
  cases hs with
  | pass later hle hallows => exact List.forall_mem_map.mpr (hpass later hle hallows)
  | startUp hphase => exact List.forall_mem_cons.mpr ⟨hstart hphase, h⟩
  | shutDown => exact forall_tellNewest h fun p hp => htell p hp _ rfl
  | leave => exact forall_tellNewest h fun p hp => htell p hp _ (Bool.or_true _)
  | generation hsplit hmoved => exact forall_mem_replace hsplit h (hmove _ (mem_of_split hsplit) _ hmoved)
  | stop | healthyUnchecked | idleReport | recheckUnhealthy | disabledUnhealthy | liveReport | recheckHealthy
  | disabledHealthy => exact h

structure Stamped (setup : Setup) (now : Nat) (p : TimedPeriod) : Prop where
  told : p.signal.told = p.toldAt.isSome
  past : ∀ t ∈ p.toldAt, t ≤ now
  begun : p.started ≤ now
  clock : p.conns.now = now
  accounted : Accounting.Accounted setup.args.idleconns.toNat setup.args.maxconns.toNat p.conns.generation

theorem toldAt_tell (h : Stamped setup s.now p) (f : Signal → Signal) :
    ∀ t ∈ (p.tell f s.now).toldAt, t ≤ s.now := by
  rintro t ⟨⟩
  cases htold : p.toldAt with
  | none => exact Nat.le_refl _
  | some t => exact h.past t htold

theorem stamped_step (h : ∀ p ∈ s.periods, Stamped setup s.now p) (hs : Step setup checks allows s s') :
    ∀ p ∈ s'.periods, Stamped setup s'.now p := by
  apply forall_step hs h
  · intro later hle _ p hp
    have hstamped := h p hp
    exact ⟨hstamped.told, fun t ht => (hstamped.past t ht).trans hle, hstamped.begun.trans hle, rfl,
      hstamped.accounted⟩
  · exact fun _ => ⟨rfl, nofun, Nat.le_refl _, rfl, Accounting.accounted_start setup.args⟩
  · intro p hp f htold
    have hstamped := h p hp
    exact ⟨htold, toldAt_tell hstamped f, hstamped.begun, hstamped.clock, hstamped.accounted⟩
  · intro p hp c hmove
    have hstamped := h p hp
    exact ⟨hstamped.told, hstamped.past, hstamped.begun, (move_now hmove).trans hstamped.clock,
      accounted_move hstamped.accounted hmove⟩

theorem Run.mono {fewer : System → Nat → Prop} (h : Run setup checks fewer start s)
    (hallows : ∀ s later, fewer s later → allows s later) : Run setup checks allows start s := by
  induction h with
  | spawned => exact .spawned
  | step _ hs ih =>
      apply ih.step
      cases hs with
      | pass later hle hfewer => exact .pass later hle (hallows _ later hfewer)
      | stop => exact .stop _
      | healthyUnchecked hphase hnone => exact .healthyUnchecked hphase hnone
      | idleReport r stamp hphase hsome hcheck hreport => exact .idleReport r stamp hphase hsome hcheck hreport
      | recheckUnhealthy hphase hdue => exact .recheckUnhealthy hphase hdue
      | disabledUnhealthy hphase hsome htold => exact .disabledUnhealthy hphase hsome htold
      | startUp hphase => exact .startUp hphase
      | liveReport r stamp hphase hsome hcheck hreport => exact .liveReport r stamp hphase hsome hcheck hreport
      | recheckHealthy hphase hdue => exact .recheckHealthy hphase hdue
      | disabledHealthy hphase htold => exact .disabledHealthy hphase htold
      | shutDown hphase => exact .shutDown hphase
      | leave hphase => exact .leave hphase
      | generation hsplit hmove => exact .generation hsplit hmove

theorem run_stamped (h : Run setup checks allows start s) : ∀ p ∈ s.periods, Stamped setup s.now p := by
  induction h with
  | spawned =>
      intro p hp
      cases hp
  | step _ hs ih => exact stamped_step ih hs

end Ebbflow.TimedEndpoint
