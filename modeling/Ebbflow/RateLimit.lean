import Ebbflow.TimedConnections
import Ebbflow.PermitBalance

namespace Ebbflow.RateLimit

open Lib.Tally Lib.Pacing Daemon RunConnection Permits Accounting TimedConnections
open InnerRun (Setup ConnectionTask)

variable {now t slept : Nat} {x : Timed} {conn : Conn} {effect : Effect} {told : Bool} {setup : Setup}
  {allows : Timed → Nat → Prop} {s s' : System} {a d : Nat}

/-- Where a connection is about to give back its idle permit without traffic,
the minimum delay is over. -/
def Settled (now : Nat) (x : Timed) : Prop :=
  match x.task.conn.pc with
  | .started => x.stint.begun = none
  | .idleRemoved .elapsed => ∀ b ∈ x.stint.begun, b + minEbbflowErrorDelay ≤ now
  | .minimumDelay => ∀ b ∈ x.stint.begun, b + minEbbflowErrorDelay ≤ x.wake
  | .returning => x.holds = true → ∀ b ∈ x.stint.begun, b + minEbbflowErrorDelay ≤ now
  | _ => True

structure Paced (now : Nat) (x : Timed) : Prop where
  lasts : Lasts minEbbflowErrorDelay now x.holds x.stint
  fresh : x.holds = true → x.stint.early = none
  settled : Settled now x

theorem Settled.later (h : Settled now x) (hle : now ≤ t) : Settled t x := by
  rw [Settled] at h ⊢
  split at h
  · exact h
  · exact fun b hb => (h b hb).trans hle
  · exact h
  · exact fun hheld b hb => (h hheld b hb).trans hle
  · trivial

theorem Paced.later (h : Paced now x) (hle : now ≤ t) : Paced t x :=
  ⟨h.lasts.later hle, h.fresh, h.settled.later hle⟩

theorem moved_quiet (hon : effect ≠ .addIdle) (hoff : effect ≠ .releaseIdle) :
    (x.moved now slept effect conn).stint = x.stint := by
  simp [Timed.moved, hon, hoff]

theorem paced_quiet (h : Paced now x) (hon : effect ≠ .addIdle) (hoff : effect ≠ .releaseIdle)
    (hpermit : conn.idlePermit = x.task.conn.idlePermit) (hsettled : Settled now (x.moved now slept effect conn)) :
    Paced now (x.moved now slept effect conn) := by
  have hholds : (x.moved now slept effect conn).holds = x.holds := hpermit
  have hstint : (x.moved now slept effect conn).stint = x.stint := moved_quiet hon hoff
  refine ⟨?_, ?_, hsettled⟩
  · rw [hholds, hstint]
    exact h.lasts
  · rw [hholds, hstint]
    exact h.fresh

theorem wake_due (h : Paced now x) (hnap : napOf conn.pc = .minimum) (hother : napOf x.task.conn.pc ≠ .minimum)
    (hready : x.Ready now slept conn) (hon : effect ≠ .addIdle) (hoff : effect ≠ .releaseIdle) :
    ∀ b ∈ (x.moved now slept effect conn).stint.begun,
      b + minEbbflowErrorDelay ≤ (x.moved now slept effect conn).wake := by
  have hne : napOf conn.pc ≠ napOf x.task.conn.pc := fun he => hother (he.symm.trans hnap)
  have htakes := (hready.slept hne).2
  rw [hnap] at htakes
  have hwake : (x.moved now slept effect conn).wake = now + slept := if_neg hne
  rw [moved_quiet hon hoff, hwake]
  intro b hb
  exact Nat.add_le_add (h.lasts.begun_le b hb) htakes.1

theorem settled_same (h : Settled now x) (hpc : conn.pc = x.task.conn.pc)
    (hpermit : conn.idlePermit = x.task.conn.idlePermit) (hon : effect ≠ .addIdle) (hoff : effect ≠ .releaseIdle) :
    Settled now (x.moved now slept effect conn) := by
  have hholds : (x.moved now slept effect conn).holds = x.holds := hpermit
  have hwake : (x.moved now slept effect conn).wake = x.wake := if_pos (congrArg napOf hpc)
  have hpc' : (x.moved now slept effect conn).task.conn.pc = x.task.conn.pc := hpc
  rw [Settled, hpc', moved_quiet hon hoff, hholds, hwake]
  exact h

theorem settled_minimum (hpc : conn.pc = .minimumDelay)
    (hdue : ∀ b ∈ (x.moved now slept effect conn).stint.begun,
      b + minEbbflowErrorDelay ≤ (x.moved now slept effect conn).wake) :
    Settled now (x.moved now slept effect conn) := by
  have hpc' : (x.moved now slept effect conn).task.conn.pc = .minimumDelay := hpc
  rw [Settled, hpc']
  exact hdue

theorem paced_begin (h : Paced now x) (hp : Permitted x.task.conn) (hpc : x.task.conn.pc = .started)
    (hpermit : conn.idlePermit = x.task.conn.idlePermit) (hsettled : Settled now (x.moved now slept .addIdle conn)) :
    Paced now (x.moved now slept .addIdle conn) := by
  have hheld : x.holds = true := by
    rw [Permitted, hpc] at hp
    exact hp
  have hholds : (x.moved now slept .addIdle conn).holds = true := hpermit.trans hheld
  have hbegun : (x.moved now slept .addIdle conn).stint.begun = some now := rfl
  refine ⟨⟨?_, ?_⟩, fun _ => h.fresh hheld, hsettled⟩
  · rw [hbegun]
    rintro b ⟨⟩
    exact Nat.le_refl now
  · intro b _ hnot
    rw [hholds] at hnot
    cases hnot

theorem paced_released (h : Paced now x) (hpermit : conn.idlePermit = false)
    (hdue : ∀ b ∈ x.stint.begun, trafficStarted x.task.conn.pc = true ∨ b + minEbbflowErrorDelay ≤ now)
    (hsettled : Settled now (x.moved now slept .releaseIdle conn)) :
    Paced now (x.moved now slept .releaseIdle conn) := by
  have hholds : (x.moved now slept .releaseIdle conn).holds = false := hpermit
  refine ⟨⟨h.lasts.begun_le, ?_⟩, ?_, hsettled⟩
  · intro b hb _
    rcases hdue b hb with htraffic | hover
    · have hearly : (x.moved now slept .releaseIdle conn).stint.early = some now := if_pos ⟨rfl, htraffic⟩
      exact .inl ⟨now, hearly, h.lasts.begun_le b hb, Nat.le_refl now⟩
    · exact .inr hover
  · intro hnot
    rw [hholds] at hnot
    cases hnot

theorem paced_moved (h : Paced now x) (hp : Permitted x.task.conn)
    (hstep : RunConnection.Step x.task.env told x.task.conn effect conn) (hready : x.Ready now slept conn) :
    Paced now (x.moved now slept effect conn) := by
  have hsettled := h.settled
  cases hstep with
  | begin hpc => exact paced_begin h hp hpc rfl trivial
  | establish | connectedLocal | proxyEnded | stopped | killed | returnPlain | addActive =>
      exact paced_quiet h (by simp) (by simp) rfl trivial
  | @established r hpc =>
      refine paced_quiet h (by simp) (by simp) rfl ?_
      cases r <;> trivial
  | elapsed hpc =>
      refine paced_quiet h (by simp) (by simp) rfl ?_
      intro b hb
      have hlimit := hready.elapsed rfl b hb
      have hleast : minEbbflowErrorDelay ≤ maxIdleConnectionTime := by decide
      omega
  | timedOut hpc =>
      rw [Settled, hpc] at hsettled
      exact paced_quiet h (by simp) (by simp) rfl fun _ => hsettled
  | @failed e hpc =>
      refine paced_quiet h (by simp) (by simp) rfl ?_
      rcases afterError_cases e with he | he
      · simp only [Settled, Timed.moved, he]
      · have hnap : napOf (afterError e) = .minimum := congrArg napOf he
        exact settled_minimum he (wake_due h hnap (by simp [napOf, hpc]) hready (by simp) (by simp))
  | badErrorDelayed hpc =>
      refine paced_quiet h (by simp) (by simp) rfl ?_
      exact wake_due h rfl (by simp [napOf, hpc]) hready (by simp) (by simp)
  | minimumDelayed hpc =>
      rw [Settled, hpc] at hsettled
      refine paced_quiet h (by simp) (by simp) rfl ?_
      intro _ b hb
      have hwoken := (hready.slept (by simp [napOf, hpc])).1
      exact (hsettled b hb).trans hwoken
  | dropIdle hpc =>
      refine paced_released h rfl ?_ trivial
      intro b _
      rw [hpc]
      exact .inl rfl
  | connectLocal =>
      exact paced_quiet h (noted_ne (by simp) (by simp)) (noted_ne (by simp) (by simp)) rfl trivial
  | unconnected hpc =>
      refine paced_quiet h (by simp) (by simp) rfl ?_
      exact wake_due h rfl (by simp [napOf, hpc]) hready (by simp) (by simp)
  | removeActive hpc =>
      refine paced_quiet h (by simp) (by simp) rfl ?_
      intro hheld
      rw [Permitted, hpc] at hp
      exact absurd hheld (by simp [Timed.holds, Timed.moved, holdsIdle, hp])
  | returnIdle hpc hheld =>
      rw [Settled, hpc] at hsettled
      exact paced_released h rfl (fun b hb => .inr (hsettled hheld b hb)) trivial
  | proxy | detachedEnded | aborted | pushEbb | pushLocal =>
      exact paced_quiet h (by simp) (by simp) rfl (settled_same hsettled rfl rfl (by simp) (by simp))

theorem paced_spawned (info : Daemon.SharedInfo) (sent : Lib.Wire.Bytes) :
    Paced now (.spawned setup info sent) where
  lasts := by constructor <;> intro b hb <;> cases hb
  fresh _ := rfl
  settled := rfl

theorem paced_step (h : ∀ x ∈ s.tasks, Paced s.now x) (hp : ∀ x ∈ s.tasks, Permitted x.task.conn)
    (hs : Step setup allows s s') : ∀ x ∈ s'.tasks, Paced s'.now x := by
  cases hs with
  | pass later hle => exact fun x hx => (h x hx).later hle
  | move told hmove =>
      rw [move_now hmove]
      apply forall_move hmove h paced_spawned
      · intro x hx slept effect conn hconn hready
        exact paced_moved (h x hx) (hp x hx) hconn hready
      · exact fun x hx => ⟨hx.lasts, hx.fresh, hx.settled⟩

theorem run_paced (h : Run setup allows s) : ∀ x ∈ s.tasks, Paced s.now x := by
  induction h with
  | called now =>
      intro x hx
      cases hx
  | step hrun hs ih => exact paced_step ih (permitted (run_accounted hrun)) hs

/-- Attempts begun in the window of length `d` from `a` on. -/
def attempts (a d : Nat) (s : System) : Nat := s.tasks.countP fun x => within a d x.stint.begun

/-- Connections that were given traffic in that window. -/
def trafficked (a d : Nat) (s : System) : Nat := s.tasks.countP fun x => within a d x.stint.early

theorem within_past (h : a + d ≤ now) : within a d (some now) = false := by
  apply Bool.eq_false_iff.mpr
  intro hin
  obtain ⟨b, ⟨⟩, _, hlt⟩ := within_iff.mp hin
  omega

theorem moved_begun (hpast : a + d ≤ now) (h : within a d (x.moved now slept effect conn).stint.begun = true) :
    within a d x.stint.begun = true := by
  by_cases he : effect = .addIdle
  · have hbegun : (x.moved now slept effect conn).stint.begun = some now := if_pos he
    rw [hbegun, within_past hpast] at h
    cases h
  · have hbegun : (x.moved now slept effect conn).stint.begun = x.stint.begun := if_neg he
    rw [hbegun] at h
    exact h

theorem moved_early (h : Paced now x) (hp : Permitted x.task.conn) (hin : within a d x.stint.early = true) :
    within a d (x.moved now slept effect conn).stint.early = true := by
  have hkeep : ¬ (effect = .releaseIdle ∧ trafficStarted x.task.conn.pc = true) := by
    rintro ⟨-, htraffic⟩
    have hheld : x.holds = true := by
      rw [trafficStarted.eq_def] at htraffic
      split at htraffic
      next hpc =>
        rw [Permitted, hpc] at hp
        exact hp
      next => cases htraffic
    rw [h.fresh hheld] at hin
    cases hin
  have hearly : (x.moved now slept effect conn).stint.early = x.stint.early := if_neg hkeep
  rw [hearly]
  exact hin

theorem counts_past (h : ∀ x ∈ s.tasks, Paced s.now x) (hp : ∀ x ∈ s.tasks, Permitted x.task.conn)
    (hs : Step setup allows s s') (hpast : a + d ≤ s'.now) :
    attempts a d s' ≤ attempts a d s ∧ trafficked a d s ≤ trafficked a d s' := by
  cases hs with
  | pass => exact ⟨Nat.le_refl _, Nat.le_refl _⟩
  | move told hmove =>
      cases hmove with
      | loop => exact ⟨Nat.le_refl _, Nat.le_refl _⟩
      | spawn info sent =>
          simp only [attempts, trafficked, List.countP_append]
          exact ⟨Nat.le_refl _, Nat.le_refl _⟩
      | @connection pre post x conn effect slept hsplit hconn hready =>
          have hx := mem_of_split hsplit
          simp only [attempts, trafficked, hsplit]
          exact ⟨countP_replace_le (moved_begun hpast), countP_replace_le (moved_early (h x hx) (hp x hx))⟩
      | @ended pre post x hsplit =>
          simp only [attempts, trafficked, hsplit]
          exact ⟨countP_replace_le id, countP_replace_le id⟩

theorem run_limited (h : Run setup allows s) (a : Nat) :
    attempts a minEbbflowErrorDelay s ≤
      setup.args.idleconns.toNat + trafficked a minEbbflowErrorDelay s := by
  induction h with
  | called now => exact Nat.zero_le _
  | @step s s' hrun hs ih =>
      have hrun' := hrun.step hs
      by_cases hpast : a + minEbbflowErrorDelay ≤ s'.now
      · have haccounted := run_accounted hrun
        obtain ⟨hbegun, hearly⟩ := counts_past (run_paced hrun) (permitted haccounted) hs hpast
        omega
      · have hlasts : ∀ x ∈ s'.tasks, Lasts minEbbflowErrorDelay s'.now x.holds x.stint :=
          fun x hx => (run_paced hrun' x hx).lasts
        have hwindow := begun_le_held hlasts (Nat.lt_of_not_le hpast)
        exact hwindow.trans (Nat.add_le_add_right (holds_le (run_accounted hrun')) _)

/-- However the server, the network and the stop signal behave, in any `k`
stretches of the minimum delay a generation begins no more connections than `k`
times its idle limit, and one more for each that was given traffic. -/
theorem attempts_are_rate_limited (h : Run setup allows s) (a k : Nat) :
    attempts a (k * minEbbflowErrorDelay) s ≤
      k * setup.args.idleconns.toNat + trafficked a (k * minEbbflowErrorDelay) s :=
  windows (fun a => run_limited h a) k a

/-- The only idle permit, used for a second attempt once the first was slept out. -/
theorem run_retried : ∃ s, Run PermitBalance.sampleSetup (fun _ _ => True) s ∧
    attempts 0 minEbbflowErrorDelay s = 1 ∧ attempts 0 (2 * minEbbflowErrorDelay) s = 2 ∧
    trafficked 0 (2 * minEbbflowErrorDelay) s = 0 := by
  have r : Run PermitBalance.sampleSetup (fun _ _ => True) _ := .called 0
  have r := r.step (.move false (.loop (.new none) (.acquireMax rfl (by decide)) rfl))
  have r := r.step (.move false (.loop (.new none) (.acquireIdle rfl (by decide)) rfl))
  have r := r.step (.move false (.spawn ⟨some "key"⟩ [] rfl))
  have r := r.step (.move false <| @Move.connection _ _ _ [] [] _ _ _ 0 rfl (.begin rfl) (ready_awake rfl nofun))
  have r := r.step (.move false <| @Move.connection _ _ _ [] [] _ _ _ 0 rfl
    (.establish rfl (.tcpFailed _ .UnexpectedEof)) (ready_awake rfl nofun))
  have r := r.step (.move false <| @Move.connection _ _ _ [] [] _ _ _ 0 rfl (.established rfl) (ready_awake rfl nofun))
  have r := r.step (.move false <| @Move.connection _ _ _ [] [] _ _ _ 5000 rfl (.failed rfl)
    ⟨fun _ => ⟨Nat.zero_le 0, by decide, by decide⟩, nofun⟩)
  have r := r.step (.pass 5000 (Nat.zero_le _) fun _ _ => trivial)
  have r := r.step (.move false <| @Move.connection _ _ _ [] [] _ _ _ 0 rfl (.minimumDelayed rfl)
    ⟨fun _ => ⟨Nat.le_refl 5000, rfl⟩, nofun⟩)
  have r := r.step (.move false <| @Move.connection _ _ _ [] [] _ _ _ 0 rfl (.returnIdle rfl rfl) (ready_awake rfl nofun))
  have r := r.step (.move false (.loop (.new none) (.acquireMax rfl (by decide)) rfl))
  have r := r.step (.move false (.loop (.new none) (.acquireIdle rfl (by decide)) rfl))
  have r := r.step (.move false (.spawn ⟨some "key"⟩ [] rfl))
  have r := r.step (.move false <| @Move.connection _ _ _ [_] [] _ _ _ 0 rfl (.begin rfl) (ready_awake rfl nofun))
  exact ⟨_, r, rfl, rfl, rfl⟩

theorem attempts_are_rate_limited_sample : ∃ s, Run PermitBalance.sampleSetup (fun _ _ => True) s ∧
    attempts 0 (2 * minEbbflowErrorDelay) s = 2 ∧
    attempts 0 (2 * minEbbflowErrorDelay) s ≤ 2 * 1 + 0 := by
  obtain ⟨s, r, _, htwo, htraffic⟩ := run_retried
  have hlimit := attempts_are_rate_limited r 0 2
  rw [htraffic] at hlimit
  exact ⟨s, r, htwo, hlimit⟩

end Ebbflow.RateLimit
