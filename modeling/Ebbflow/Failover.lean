import Ebbflow.DrainLimit
import Ebbflow.HealthClock

namespace Ebbflow.Failover

open Config Health HealthClock
open EndpointRun (Signal)
open TimedEndpoint
open InnerRun (Setup)

variable {setup : Setup} {checks : Nat → Bool → Prop} {s s' : System} {start a : Nat}

theorem resting_told {allows : System → Nat → Prop} (h : Run setup checks allows start s)
    (hphase : (∃ w, s.phase = .awaitHealthy w) ∨ s.phase = .left) : ∀ p ∈ s.periods, p.signal.told = true := by
  obtain ⟨t, hrun, hm⟩ := run_sound h
  have hinv := Lifecycle.run_inv hrun
  have hnone : Lifecycle.NoneLive (Lifecycle.signals t) := by
    rcases hphase with ⟨w, hphase⟩ | hphase
    · exact (hinv.at (hm.phase.trans hphase)).1
    · exact (hinv.at (hm.phase.trans hphase)).1
  intro p hp
  have hmem : p.signal ∈ Lifecycle.signals t := by
    rw [Lifecycle.signals, hm.periods, List.map_map]
    exact List.mem_map_of_mem hp
  have hlive := hnone p.signal hmem
  rw [Signal.live, Bool.not_eq_false'] at hlive
  exact hlive

theorem told_step {limit : Nat} (hrun : Run setup checks waits start s)
    (hwaiting : ∀ w, s.phase = .awaitUnhealthy w → s.healthdata.isSome = true ∧ s.due ≤ limit)
    (hstarting : s.phase = .startingUp → s.now ≤ limit)
    (h : ∀ p ∈ s.periods, limit < s.now → ∃ t ∈ p.toldAt, t ≤ limit) (hs : Step setup checks waits s s') :
    ∀ p ∈ s'.periods, limit < s'.now → ∃ t ∈ p.toldAt, t ≤ limit := by
  apply @forall_step _ _ _ _ _ (fun now p => limit < now → ∃ t ∈ p.toldAt, t ≤ limit) hs h
  · intro later _ hwaits p hp hlate
    by_cases hnow : limit < s.now
    · exact h p hp hnow
    · have hresting : (∃ w, s.phase = .awaitHealthy w) ∨ s.phase = .left := by
        rw [waits] at hwaits
        cases hphase : s.phase with rw [hphase] at hwaits
        | awaitHealthy w => exact .inl ⟨w, rfl⟩
        | awaitUnhealthy w =>
            obtain ⟨hsome, hdue⟩ := hwaiting w hphase
            have hlater := hwaits.2 hsome
            omega
        | startingUp | shuttingDown | disabled => exact hwaits.elim
        | left => exact .inr rfl
      have htold := resting_told hrun hresting p hp
      have hstamped := run_stamped hrun p hp
      rw [hstamped.told] at htold
      obtain ⟨t, ht⟩ := Option.isSome_iff_exists.mp htold
      exact ⟨t, ht, (hstamped.past t ht).trans (Nat.le_of_not_lt hnow)⟩
  · intro hphase hlate
    have hnow := hstarting hphase
    omega
  · intro p hp f _ hlate
    obtain ⟨t, ht, hle⟩ := h p hp hlate
    rw [Option.mem_def] at ht
    refine ⟨t, ?_, hle⟩
    rw [TimedPeriod.tell, ht]
    rfl
  · exact fun p hp _ _ hlate => h p hp hlate

theorem told_in_time {hc : HealthCheck} (h : Run setup checks waits start s)
    (hsome : setup.args.healthcheck = some hc)
    (hh : 1 ≤ (ConcreteHealthCheck.new setup.args.port hc).considerHealthyThreshold)
    (hu : 1 ≤ (ConcreteHealthCheck.new setup.args.port hc).considerUnhealthyThreshold) (hle : start ≤ a)
    (hfail : ∀ t r, a ≤ t → checks t r → r = false) :
    ∀ p ∈ s.periods, a + (limits (.new setup.args.port hc)).down * interval (.new setup.args.port hc) < s.now →
      ∃ t ∈ p.toldAt, t ≤ a + (limits (.new setup.args.port hc)).down * interval (.new setup.args.port hc) := by
  induction h with
  | spawned =>
      intro p hp
      cases hp
  | step hrun hs ih =>
      obtain ⟨g, hg⟩ := @run_clocked _ _ _ _ _ true _ hrun hsome hh hu hle hfail
      apply told_step hrun _ _ ih hs
      · intro w hphase
        obtain ⟨hm, _, hdata, _⟩ := hg.health
        exact ⟨by rw [hdata]; rfl, (clocked_due hg hphase).2⟩
      · intro hphase
        have hnow := @clocked_turned _ _ _ _ _ hg true hphase
        exact hnow

def punctual (s : System) (later : Nat) : Prop := waits s later ∧ Draining.heeding s later

/-- An endpoint whose checks fail from `a` on, on time: every generation is told
to stop within as many intervals as it takes failures, and its connections are
closed within the kill delay from then on. -/
theorem failing_endpoint_drains {hc : HealthCheck} (h : Run setup checks punctual start s)
    (hsome : setup.args.healthcheck = some hc)
    (hh : 1 ≤ (ConcreteHealthCheck.new setup.args.port hc).considerHealthyThreshold)
    (hu : 1 ≤ (ConcreteHealthCheck.new setup.args.port hc).considerUnhealthyThreshold) (hle : start ≤ a)
    (hfail : ∀ t r, a ≤ t → checks t r → r = false) {limit : Nat}
    (hlimit : limit = a + (limits (.new setup.args.port hc)).down * interval (.new setup.args.port hc))
    (hlate : limit < s.now) :
    ∀ p ∈ s.periods, (∃ t ∈ p.toldAt, t ≤ limit) ∧
      ∀ x ∈ p.conns.tasks, DrainLimit.carriesTraffic x.task.conn →
        ∃ b ∈ x.active, b ≤ s.now ∧ s.now < max limit b + DrainLimit.killLimit := by
  have htimely := told_in_time (h.mono fun _ _ => And.left) hsome hh hu hle hfail
  rw [← hlimit] at htimely
  intro p hp
  obtain ⟨t, ht, htold⟩ := htimely p hp hlate
  refine ⟨⟨t, ht, htold⟩, fun x hx hcarries => ?_⟩
  have hdrain := DrainLimit.told_connections_drain (h.mono fun _ _ => And.right) p hp t ht x hx hcarries
  obtain ⟨b, hb, hbegun, hlt⟩ := hdrain
  have hmax : max t b ≤ max limit b := max_le_max htold le_rfl
  exact ⟨b, hb, hbegun, hlt.trans_le (Nat.add_le_add_right hmax DrainLimit.killLimit)⟩

def Attended (s : System) : Prop :=
  match s.phase with
  | .awaitUnhealthy _ | .shuttingDown => ∃ p older, s.periods = p :: older ∧ p.signal.live = true
  | _ => True

theorem attended_step {allows : System → Nat → Prop} (h : Attended s) (hs : Step setup checks allows s s') :
    Attended s' := by
  rw [Attended] at h
  cases hs with
  | pass later =>
      rw [Attended]
      cases hphase : s.phase with rw [hphase] at h
      | awaitUnhealthy | shuttingDown =>
          obtain ⟨p, older, hperiods, hlive⟩ := h
          simp only [System.after, hphase, hperiods]
          exact ⟨p.after later, older.map (·.after later), rfl, hlive⟩
      | _ => simp only [System.after, hphase]
  | stop => exact h
  | startUp => exact ⟨_, _, rfl, rfl⟩
  | @idleReport _ _ answer => cases answer <;> trivial
  | @liveReport _ _ answer _ _ hphase =>
      rw [hphase] at h
      cases answer <;> exact h
  | recheckHealthy hphase =>
      rw [hphase] at h
      exact h
  | healthyUnchecked | recheckUnhealthy | disabledUnhealthy | disabledHealthy | shutDown | leave => trivial
  | @generation newer older p c hsplit =>
      rw [Attended]
      cases hphase : s.phase with rw [hphase] at h
      | awaitUnhealthy | shuttingDown =>
          obtain ⟨q, rest, hperiods, hlive⟩ := h
          rw [hperiods] at hsplit
          cases newer with
          | nil =>
              obtain ⟨rfl, rfl⟩ := List.cons.inj hsplit
              exact ⟨{ q with conns := c }, rest, rfl, hlive⟩
          | cons q' newer =>
              obtain ⟨rfl, rfl⟩ := List.cons.inj hsplit
              exact ⟨q, newer ++ { p with conns := c } :: older, rfl, hlive⟩
      | _ => trivial

theorem run_attended {allows : System → Nat → Prop} (h : Run setup checks allows start s) : Attended s := by
  induction h with
  | spawned => trivial
  | step _ hs ih => exact attended_step ih hs

theorem live_le_one {allows : System → Nat → Prop} (h : Run setup checks allows start s) :
    s.periods.countP (·.signal.live) ≤ 1 := by
  obtain ⟨t, hrun, hm⟩ := run_sound h
  have hle := (Lifecycle.one_generation_live setup t hrun).1
  rw [hm.periods, List.countP_map] at hle
  exact hle

/-- An endpoint whose checks pass from `a` on, on time: unless it is told to
stop, its generation is live within as many intervals as it takes passes. -/
theorem passing_endpoint_serves {hc : HealthCheck} (h : Run setup checks waits start s)
    (hsome : setup.args.healthcheck = some hc)
    (hh : 1 ≤ (ConcreteHealthCheck.new setup.args.port hc).considerHealthyThreshold)
    (hu : 1 ≤ (ConcreteHealthCheck.new setup.args.port hc).considerUnhealthyThreshold) (hle : start ≤ a)
    (hpass : ∀ t r, a ≤ t → checks t r → r = true)
    (hlate : a + (limits (.new setup.args.port hc)).up * interval (.new setup.args.port hc) < s.now)
    (htold : s.stopper.told = false) : s.periods.countP (·.signal.live) = 1 := by
  obtain ⟨g, hg⟩ := @run_clocked _ _ _ _ _ false _ h hsome hh hu hle hpass
  have hattended := run_attended h
  rw [Attended] at hattended
  obtain ⟨t, hrun, hm⟩ := run_sound h
  have hinv := Lifecycle.run_inv hrun
  have hstop : t.stopper.told = false := by rw [hm.stopper, htold]
  cases hphase : s.phase with rw [hphase] at hattended
  | awaitHealthy w =>
      obtain ⟨hnow, hdue⟩ := @clocked_due _ _ false _ _ hg w hphase
      exact absurd (hnow.trans hdue) (Nat.not_le_of_lt hlate)
  | startingUp =>
      have hnow := @clocked_turned _ _ false _ _ hg true hphase
      exact absurd hnow (Nat.not_le_of_lt hlate)
  | awaitUnhealthy =>
      obtain ⟨p, older, hperiods, hlive⟩ := hattended
      have hone := live_le_one h
      have hpos : 0 < s.periods.countP (·.signal.live) :=
        List.countP_pos_iff.mpr ⟨p, by rw [hperiods]; exact List.mem_cons_self, hlive⟩
      omega
  | shuttingDown =>
      have hnow := @clocked_turned _ _ false _ _ hg false hphase
      exact absurd hnow (Nat.not_le_of_lt hlate)
  | disabled =>
      have htrue := (hinv.at (hm.phase.trans hphase)).2
      rw [hstop] at htrue
      cases htrue
  | left =>
      have htrue := (hinv.at (hm.phase.trans hphase)).2
      rw [hstop] at htrue
      cases htrue

theorem run_failing : ∃ s, Run Lifecycle.checkedSetup (fun t r => 10 ≤ t → r = false) punctual 0 s ∧
    s.periods.length = 1 ∧ s.now = 10000 := by
  have r : Run Lifecycle.checkedSetup (fun t r => 10 ≤ t → r = false) punctual 0 _ := .spawned
  have r := r.step (.idleReport true none rfl rfl nofun (Lifecycle.checked_report _ _ _))
  have r := r.step (.startUp rfl)
  have r := r.step (.liveReport true none rfl rfl nofun (Lifecycle.checked_report _ _ _))
  have r := r.step (.pass 5000 (Nat.zero_le _) ⟨⟨rfl, fun _ => Nat.le_refl _⟩,
    List.forall_mem_singleton.mpr (List.forall_mem_nil _)⟩)
  have r := r.step (.recheckHealthy rfl (Nat.le_refl _))
  have r := r.step (.liveReport false none rfl rfl (fun _ => rfl) (Lifecycle.checked_report _ _ _))
  have r := r.step (.shutDown rfl)
  have r := r.step (.idleReport false none rfl rfl (fun _ => rfl) (Lifecycle.checked_report _ _ _))
  have r := r.step (.pass 10000 (by decide) ⟨⟨rfl, rfl, Nat.le_refl _⟩,
    List.forall_mem_singleton.mpr (List.forall_mem_nil _)⟩)
  exact ⟨_, r, rfl, rfl⟩

theorem failing_endpoint_drains_sample : ∃ s : System, s.periods.length = 1 ∧ s.now = 10000 ∧
    ∀ p ∈ s.periods, (∃ t ∈ p.toldAt, t ≤ 6010) ∧
      ∀ x ∈ p.conns.tasks, DrainLimit.carriesTraffic x.task.conn →
        ∃ b ∈ x.active, b ≤ s.now ∧ s.now < max 6010 b + DrainLimit.killLimit := by
  obtain ⟨s, r, hlen, hnow⟩ := run_failing
  have hdrains := failing_endpoint_drains r rfl (by decide) (by decide) (Nat.zero_le 10) (fun _ _ hle h => h hle)
    (rfl : 6010 = _) (by rw [hnow]; decide)
  exact ⟨s, hlen, hnow, hdrains⟩

theorem run_passing : ∃ s, Run Lifecycle.checkedSetup (fun t r => 10 ≤ t → r = true) waits 0 s ∧
    s.now = 10000 ∧ s.stopper.told = false := by
  have r : Run Lifecycle.checkedSetup (fun t r => 10 ≤ t → r = true) waits 0 _ := .spawned
  have r := r.step (.idleReport false none rfl rfl nofun (Lifecycle.checked_report _ _ _))
  have r := r.step (.pass 5000 (Nat.zero_le _) ⟨rfl, rfl, Nat.le_refl _⟩)
  have r := r.step (.recheckUnhealthy rfl (Nat.le_refl _))
  have r := r.step (.idleReport true none rfl rfl (fun _ => rfl) (Lifecycle.checked_report _ _ _))
  have r := r.step (.startUp rfl)
  have r := r.step (.liveReport true none rfl rfl (fun _ => rfl) (Lifecycle.checked_report _ _ _))
  have r := r.step (.pass 10000 (by decide) ⟨rfl, fun _ => Nat.le_refl _⟩)
  exact ⟨_, r, rfl, rfl⟩

theorem passing_endpoint_serves_sample : ∃ s : System, s.now = 10000 ∧ s.periods.countP (·.signal.live) = 1 := by
  obtain ⟨s, r, hnow, htold⟩ := run_passing
  exact ⟨s, hnow, passing_endpoint_serves r rfl (by decide) (by decide) (Nat.zero_le 10)
    (fun _ _ hle h => h hle) (by rw [hnow]; decide) htold⟩

end Ebbflow.Failover
