import Ebbflow.HealthClock
import Ebbflow.HealthDirection
import Ebbflow.Lib.Pacing

namespace Ebbflow.Flapping

open Config Health Daemon HealthClock Lib.Hysteresis Lib.Pacing
open EndpointRun hiding Step Run
open TimedEndpoint
open InnerRun (Setup)

variable {setup : Setup} {checks : Nat → Bool → Prop} {allows : System → Nat → Prop} {s s' : System}
  {start : Nat} {cfg : ConcreteHealthCheck} {g : Gauge} {hm hm' : HealthMaster} {answer r : Bool}
  {stamp : Option Nat}

def starts (s : System) : List Nat := s.periods.map (·.started)

def delay (cfg : ConcreteHealthCheck) : Nat := cfg.frequencySecs.toNat * 1000

/-- The delays of the wait that ends as the health becomes `flag`. -/
def turn (cfg : ConcreteHealthCheck) (flag : Bool) : Nat := ((limits cfg).against (!flag) - 1) * delay cfg

def elapsed (cfg : ConcreteHealthCheck) (flag : Bool) : Nat := if flag then 0 else turn cfg false

/-- The least time between two starts: all delays until unhealthy, then all until healthy. -/
def period (cfg : ConcreteHealthCheck) : Nat := turn cfg false + turn cfg true

def Since (s : System) (passed now : Nat) : Prop := ∀ t ∈ (starts s).head?, t + passed ≤ now

/-- How long ago the latest generation was started at least, by the streak of
answers and the phase of the loop. -/
structure Spaced (cfg : ConcreteHealthCheck) (s : System) (g : Gauge) : Prop where
  health : ∃ hm history, s.healthdata = some hm ∧ hm.cfg = cfg ∧ Refines hm g history
  checking : ∀ f, s.phase = awaiting f .checking → g.flag = f ∧
    Since s (elapsed cfg f + g.streak * delay cfg) s.now
  delaying : ∀ f, s.phase = awaiting f .delaying → g.flag = f ∧
    Since s (elapsed cfg f + g.streak * delay cfg) s.due
  turning : ∀ f, s.phase = turned f → g.flag = f ∧ g.streak = 0 ∧ Since s (elapsed cfg (!f) + turn cfg f) s.now
  apart : (starts s).Pairwise fun newer older => older + period cfg ≤ newer

theorem Since.mono {passed less now later : Nat} (h : Since s passed now) (hless : less ≤ passed)
    (hle : now ≤ later) : Since s less later :=
  fun t ht => (Nat.add_le_add_left hless t).trans ((h t ht).trans hle)

theorem elapsed_turn (cfg : ConcreteHealthCheck) (f : Bool) :
    elapsed cfg (!f) + turn cfg f = if f then period cfg else turn cfg false := by
  cases f with
  | false => exact Nat.zero_add _
  | true => rfl

theorem spaced_report (h : Spaced cfg s g) (hh : 1 ≤ cfg.considerHealthyThreshold)
    (hu : 1 ≤ cfg.considerUnhealthyThreshold) {f : Bool} (hphase : s.phase = awaiting f .checking)
    (hsome : s.healthdata = some hm) (hreport : hm.reportCheckResult r stamp = some (answer, hm')) :
    ∃ g', Spaced cfg ((s.withHealth hm').enter (reported f answer)) g' := by
  obtain ⟨_, history, hsome', rfl, hrefines⟩ := h.health
  obtain rfl := Option.some.inj (hsome.symm.trans hsome')
  obtain ⟨rfl, hsince⟩ := h.checking f hphase
  obtain ⟨_, hreport', hcfg, hrefines'⟩ := hrefines.report hh hu r stamp
  obtain ⟨rfl, rfl⟩ := Prod.mk.inj (Option.some.inj (hreport.symm.trans hreport'))
  refine ⟨_, ⟨_, _, rfl, hcfg, hrefines'⟩, ?_, ?_, ?_, h.apart⟩
  · intro f' hphase'
    cases (reported_awaiting hphase').2.2
  · intro f' hphase'
    obtain ⟨hkept, rfl, -⟩ := reported_awaiting hphase'
    have hlasting := (congrArg (lasting (some hm')) hphase').trans (lasting_delaying hm' g.flag)
    have hdelay : hm'.cfg.frequencySecs.toNat * 1000 = delay hm.cfg := by rw [hcfg, delay]
    have hdue : ((s.withHealth hm').enter (reported g.flag (g.observe (limits hm.cfg) r).flag)).due =
        s.now + delay hm.cfg := congrArg (s.now + ·) (hlasting.trans hdelay)
    refine ⟨hkept, ?_⟩
    rw [hdue]
    intro t ht
    have hpassed := hsince t ht
    rcases observe_kept hkept with ⟨_, hstreak⟩ | ⟨_, hstreak⟩
    · rw [hstreak, Nat.zero_mul]
      omega
    · rw [hstreak, Nat.succ_mul]
      omega
  · intro f' hphase'
    obtain ⟨hflipped, rfl⟩ := reported_turned hphase'
    obtain ⟨_, hzero, hlimit⟩ := observe_flipped hflipped
    have hflip := Bool.eq_not_iff.mpr hflipped
    refine ⟨rfl, hzero, Since.mono hsince ?_ (Nat.le_refl _)⟩
    rw [hflip, Bool.not_not, turn, Bool.not_not]
    have hcount : (limits hm.cfg).against g.flag - 1 ≤ g.streak := by omega
    exact Nat.add_le_add_left (Nat.mul_le_mul_right _ hcount) _

theorem spaced_ended (h : Spaced cfg s g) {phase : Phase} (hphase : phase = .disabled ∨ phase = .left)
    (hstarts : starts s' = starts s) (hdata : s'.healthdata = s.healthdata) (hentered : s'.phase = phase) :
    Spaced cfg s' g := by
  subst hentered
  have hnone {f : Bool} {w : Wait} : s'.phase ≠ awaiting f w ∧ s'.phase ≠ turned f := by
    rcases hphase with hphase | hphase <;> rw [hphase] <;> cases f <;> exact ⟨nofun, nofun⟩
  refine ⟨hdata ▸ h.health, ?_, ?_, ?_, hstarts ▸ h.apart⟩
  · exact fun f hf => absurd hf hnone.1
  · exact fun f hf => absurd hf hnone.1
  · exact fun f hf => absurd hf (@hnone f .checking).2

theorem spaced_enter (h : Spaced cfg s g) {f : Bool} (hflag : g.flag = f) (hdata : s'.healthdata = s.healthdata)
    (hphase : s'.phase = awaiting f .checking) (hsince : Since s' (elapsed cfg f + g.streak * delay cfg) s'.now)
    (hapart : (starts s').Pairwise fun newer older => older + period cfg ≤ newer) : Spaced cfg s' g := by
  refine ⟨hdata ▸ h.health, ?_, ?_, ?_, hapart⟩
  · intro f' hf
    obtain ⟨rfl, _⟩ := awaiting_inj (hphase.symm.trans hf)
    exact ⟨hflag, hsince⟩
  · intro f' hf
    cases (awaiting_inj (hphase.symm.trans hf)).2
  · intro f' hf
    exact absurd (hphase.symm.trans hf) (awaiting_ne_turned _ _ _)

theorem spaced_recheck (h : Spaced cfg s g) {f : Bool} (hphase : s.phase = awaiting f .delaying)
    (hdue : s.due ≤ s.now) : Spaced cfg (s.enter (awaiting f .checking)) g := by
  obtain ⟨hflag, hsince⟩ := h.delaying f hphase
  exact spaced_enter h hflag rfl rfl (hsince.mono (Nat.le_refl _) hdue) h.apart

theorem starts_tellNewest (f : Signal → Signal) (now : Nat) (l : List TimedPeriod) :
    (tellNewest f now l).map (·.started) = l.map (·.started) := by
  cases l <;> rfl

theorem spaced_shutDown (h : Spaced cfg s g) (hphase : s.phase = .shuttingDown) {periods : List TimedPeriod}
    (hstarts : starts { s with periods := periods } = starts s) :
    Spaced cfg ({ s with periods := periods }.enter (.awaitHealthy .checking)) g := by
  obtain ⟨hflag, hzero, hsince⟩ := h.turning false hphase
  rw [elapsed_turn] at hsince
  refine @spaced_enter _ _ _ _ h false hflag ?_ ?_ ?_ ?_
  · rfl
  · rfl
  · intro t ht
    have hhead : t ∈ (starts s).head? := hstarts ▸ ht
    rw [hzero, Nat.zero_mul]
    exact hsince t hhead
  · have hapart := h.apart
    rw [← hstarts] at hapart
    exact hapart

theorem spaced_startUp (h : Spaced cfg s g) (hphase : s.phase = .startingUp) (args : EndpointArgs) :
    Spaced cfg ({ s with periods := .start args s.now :: s.periods }.enter (.awaitUnhealthy .checking)) g := by
  obtain ⟨hflag, hzero, hsince⟩ := h.turning true hphase
  rw [elapsed_turn, if_pos rfl] at hsince
  refine @spaced_enter _ _ _ _ h true hflag ?_ ?_ ?_ ?_
  · rfl
  · rfl
  · rintro t ⟨⟩
    rw [hzero, Nat.zero_mul]
    exact Nat.le_refl _
  · refine List.pairwise_cons.mpr ⟨?_, h.apart⟩
    intro t ht
    have hapart := h.apart
    rw [← starts] at ht
    cases hall : starts s with
    | nil =>
        rw [hall] at ht
        cases ht
    | cons newest older =>
        have hnewest : newest + period cfg ≤ s.now := hsince newest (by rw [hall]; rfl)
        rw [hall] at ht hapart
        rcases List.mem_cons.mp ht with rfl | holder
        · exact hnewest
        · have hgap := (List.pairwise_cons.mp hapart).1 t holder
          exact hgap.trans ((Nat.le_add_right _ _).trans hnewest)

theorem spaced_keep (h : Spaced cfg s g) (hstarts : starts s' = starts s) (hdata : s'.healthdata = s.healthdata)
    (hphase : s'.phase = s.phase) (hdue : s'.due = s.due) (hle : s.now ≤ s'.now) : Spaced cfg s' g := by
  have hsince {passed now now' : Nat} (hnow : now ≤ now') (hs : Since s passed now) : Since s' passed now' := by
    rw [Since, hstarts]
    exact hs.mono (Nat.le_refl _) hnow
  refine ⟨hdata ▸ h.health, ?_, ?_, ?_, ?_⟩
  · intro f hf
    obtain ⟨hflag, hs⟩ := h.checking f (hphase.symm.trans hf)
    exact ⟨hflag, hsince hle hs⟩
  · intro f hf
    obtain ⟨hflag, hs⟩ := h.delaying f (hphase.symm.trans hf)
    exact ⟨hflag, hsince hdue.ge hs⟩
  · intro f hf
    obtain ⟨hflag, hzero, hs⟩ := h.turning f (hphase.symm.trans hf)
    exact ⟨hflag, hzero, hsince hle hs⟩
  · exact hstarts.symm ▸ h.apart

theorem spaced_step (h : Spaced cfg s g) (hh : 1 ≤ cfg.considerHealthyThreshold)
    (hu : 1 ≤ cfg.considerUnhealthyThreshold) (hs : Step setup checks allows s s') : ∃ g', Spaced cfg s' g' := by
  cases hs with
  | pass later hle =>
      have hstarts : starts (s.after later) = starts s := by
        rw [starts, System.after, List.map_map]
        rfl
      exact ⟨g, spaced_keep h hstarts rfl rfl rfl hle⟩
  | stop => exact ⟨g, spaced_keep h rfl rfl rfl rfl (Nat.le_refl _)⟩
  | healthyUnchecked _ hnone =>
      obtain ⟨_, _, hsome, _⟩ := h.health
      rw [hnone] at hsome
      cases hsome
  | @idleReport _ hm' answer r stamp hphase hsome _ hreport =>
      obtain ⟨g', hg⟩ := @spaced_report _ _ _ _ _ _ _ _ h hh hu false hphase hsome hreport
      refine ⟨g', ?_⟩
      cases answer <;> exact hg
  | @liveReport _ hm' answer r stamp hphase hsome _ hreport =>
      obtain ⟨g', hg⟩ := @spaced_report _ _ _ _ _ _ _ _ h hh hu true hphase hsome hreport
      refine ⟨g', ?_⟩
      cases answer <;> exact hg
  | recheckUnhealthy hphase hdue => exact ⟨g, @spaced_recheck _ _ _ h false hphase hdue⟩
  | recheckHealthy hphase hdue => exact ⟨g, @spaced_recheck _ _ _ h true hphase hdue⟩
  | disabledUnhealthy | disabledHealthy => exact ⟨g, spaced_ended h (.inl rfl) rfl rfl rfl⟩
  | startUp hphase => exact ⟨g, spaced_startUp h hphase setup.args⟩
  | shutDown hphase => exact ⟨g, spaced_shutDown h hphase (starts_tellNewest _ _ _)⟩
  | leave => exact ⟨g, spaced_ended h (.inr rfl) (starts_tellNewest _ _ _) rfl rfl⟩
  | @generation newer older p c hsplit =>
      have hstarts : starts { s with periods := newer ++ { p with conns := c } :: older } = starts s := by
        rw [starts, starts, hsplit, List.map_append, List.map_append]
        rfl
      exact ⟨g, spaced_keep h hstarts rfl rfl rfl (Nat.le_refl _)⟩

theorem spaced_spawned {hc : HealthCheck} (hsome : setup.args.healthcheck = some hc)
    (hh : 1 ≤ (ConcreteHealthCheck.new setup.args.port hc).considerHealthyThreshold) :
    Spaced (.new setup.args.port hc) (.spawned setup.args start) .initial := by
  refine ⟨⟨.new (.new setup.args.port hc), [], ?_, rfl, refines_new _ hh⟩, ?_, ?_, ?_, List.Pairwise.nil⟩
  · rw [System.spawned, healthMaster, hsome, Option.map_some]
  · intro f hphase
    obtain ⟨rfl, _⟩ := @awaiting_inj false f .checking .checking hphase
    exact ⟨rfl, fun t ht => by cases ht⟩
  · intro f hphase
    cases (@awaiting_inj false f .checking .delaying hphase).2
  · intro f hphase
    exact absurd hphase (awaiting_ne_turned false f .checking)

theorem run_spaced {hc : HealthCheck} (h : Run setup checks allows start s)
    (hsome : setup.args.healthcheck = some hc)
    (hh : 1 ≤ (ConcreteHealthCheck.new setup.args.port hc).considerHealthyThreshold)
    (hu : 1 ≤ (ConcreteHealthCheck.new setup.args.port hc).considerUnhealthyThreshold) :
    ∃ g, Spaced (.new setup.args.port hc) s g := by
  induction h with
  | spawned => exact ⟨_, spaced_spawned hsome hh⟩
  | step _ hs ih =>
      obtain ⟨g, hg⟩ := ih
      exact spaced_step hg hh hu hs

/-- However the checks answer, in any `k` stretches of the delays that it takes to
be unhealthy and healthy again no more than `k` generations are started. -/
theorem starts_are_rate_limited {hc : HealthCheck} (h : Run setup checks allows start s)
    (hsome : setup.args.healthcheck = some hc)
    (hh : 1 ≤ (ConcreteHealthCheck.new setup.args.port hc).considerHealthyThreshold)
    (hu : 1 ≤ (ConcreteHealthCheck.new setup.args.port hc).considerUnhealthyThreshold) (a k : Nat) :
    (starts s).countP (fun t => within a (k * period (.new setup.args.port hc)) (some t)) ≤ k := by
  obtain ⟨g, hg⟩ := run_spaced h hsome hh hu
  exact windows_apart hg.apart k a

def flappingSetup : Setup :=
  setupOf MessagingCbor.serdeCbor ⟨fun _ => "error", fun _ => "127.0.0.1:80"⟩
    ⟨.Tls, 1, 1, "test.mywebsite.com", 80, some ⟨none, some 2, some 2, .TCP, none⟩⟩ [⟨.V4 0x7f000001, 80⟩]

/-- A service that goes down as soon as it is healthy, and comes up at once. -/
theorem run_flapping : ∃ s, Run flappingSetup (fun _ _ => True) (fun _ _ => True) 0 s ∧
    starts s = [15000, 5000] := by
  have r : Run flappingSetup (fun _ _ => True) (fun _ _ => True) 0 _ := .spawned
  have r := r.step (.idleReport true none rfl rfl trivial (HealthDirection.report_eq _ _ _))
  have r := r.step (.pass 5000 (Nat.zero_le _) trivial)
  have r := r.step (.recheckUnhealthy rfl (Nat.le_refl _))
  have r := r.step (.idleReport true none rfl rfl trivial (HealthDirection.report_eq _ _ _))
  have r := r.step (.startUp rfl)
  have r := r.step (.liveReport false none rfl rfl trivial (HealthDirection.report_eq _ _ _))
  have r := r.step (.pass 10000 (by decide) trivial)
  have r := r.step (.recheckHealthy rfl (Nat.le_refl _))
  have r := r.step (.liveReport false none rfl rfl trivial (HealthDirection.report_eq _ _ _))
  have r := r.step (.shutDown rfl)
  have r := r.step (.idleReport true none rfl rfl trivial (HealthDirection.report_eq _ _ _))
  have r := r.step (.pass 15000 (by decide) trivial)
  have r := r.step (.recheckUnhealthy rfl (Nat.le_refl _))
  have r := r.step (.idleReport true none rfl rfl trivial (HealthDirection.report_eq _ _ _))
  have r := r.step (.startUp rfl)
  exact ⟨_, r, rfl⟩

theorem starts_are_rate_limited_sample : ∃ s, starts s = [15000, 5000] ∧
    (starts s).countP (fun t => within 5000 (1 * 10000) (some t)) ≤ 1 := by
  obtain ⟨s, r, hstarts⟩ := run_flapping
  exact ⟨s, hstarts, starts_are_rate_limited r rfl (by decide) (by decide) 5000 1⟩

end Ebbflow.Flapping
