import Ebbflow.RateLimit

namespace Ebbflow.PermitReturn

open Lib.Tally Lib.Pacing Daemon RunConnection Permits Accounting TimedConnections RateLimit
open InnerRun (Setup)

variable {now slept : Nat} {x : Timed} {conn : Conn} {effect : Effect} {told : Bool} {setup : Setup}
  {s s' : System}

/-- No time passes a connection by that is ready to go on, nor the end of its
sleep, nor the time limit of its handshake. -/
def prompt (x : Timed) (later : Nat) : Prop :=
  match x.task.conn.pc with
  | .establishing _ => ∀ b ∈ x.stint.begun, later ≤ b + maxIdleConnectionTime
  | .badErrorDelay | .minimumDelay | .killDelay => later ≤ x.wake
  | .connectingLocal _ | .proxying | .returned => True
  | .started | .idleRemoved _ | .ready | .proxied | .returning => False

/-- Less than that after it began, a refused connection has slept out the first delay. -/
def afterBadError : Nat := maxIdleConnectionTime + 3 * badErrorDelay / 2

/-- The longest that a connection without traffic keeps its idle permit. -/
def permitLimit : Nat := afterBadError + 3 * minEbbflowErrorDelay / 2

def Timely (now : Nat) (x : Timed) : Prop :=
  match x.task.conn.pc with
  | .started => x.stint.begun = none
  | .establishing _ | .idleRemoved _ => ∀ b ∈ x.stint.begun, now ≤ b + maxIdleConnectionTime
  | .badErrorDelay => now ≤ x.wake ∧ ∀ b ∈ x.stint.begun, x.wake ≤ b + afterBadError
  | .minimumDelay => x.holds = true → now ≤ x.wake ∧ ∀ b ∈ x.stint.begun, x.wake ≤ b + permitLimit
  | .returning => x.holds = true → ∀ b ∈ x.stint.begun, now ≤ b + permitLimit
  | _ => True

theorem timely_pass {later : Nat} (h : Timely now x) (hp : prompt x later) : Timely later x := by
  rw [Timely] at h ⊢
  rw [prompt] at hp
  cases hpc : x.task.conn.pc with rw [hpc] at h hp
  | started | idleRemoved | returning => exact hp.elim
  | establishing => exact hp
  | badErrorDelay => exact ⟨hp, h.2⟩
  | minimumDelay => exact fun hheld => ⟨hp, (h hheld).2⟩
  | _ => trivial

theorem timely_same (h : Timely now x) (hpc : conn.pc = x.task.conn.pc)
    (hpermit : conn.idlePermit = x.task.conn.idlePermit) (hon : effect ≠ .addIdle) (hoff : effect ≠ .releaseIdle) :
    Timely now (x.moved now slept effect conn) := by
  have hholds : (x.moved now slept effect conn).holds = x.holds := hpermit
  have hwake : (x.moved now slept effect conn).wake = x.wake := if_pos (congrArg napOf hpc)
  have hpc' : (x.moved now slept effect conn).task.conn.pc = x.task.conn.pc := hpc
  rw [Timely, hpc', moved_quiet hon hoff, hholds, hwake]
  exact h

theorem wake_eq (hne : napOf conn.pc ≠ napOf x.task.conn.pc) :
    (x.moved now slept effect conn).wake = now + slept := if_neg hne

theorem permitLimit_eq : permitLimit = afterBadError + 3 * minEbbflowErrorDelay / 2 := rfl

theorem afterBadError_eq : afterBadError = maxIdleConnectionTime + 3 * badErrorDelay / 2 := rfl

theorem jittered_le {dur : Nat} (h : Jittered dur slept) : slept ≤ 3 * dur / 2 := by
  have hlt := h.2
  omega

theorem timely_badErrorDelay (hpc : conn.pc = .badErrorDelay)
    (hawake : napOf x.task.conn.pc = .awake) (hon : effect ≠ .addIdle) (hoff : effect ≠ .releaseIdle)
    (hready : x.Ready now slept conn) (h : ∀ b ∈ x.stint.begun, now ≤ b + maxIdleConnectionTime) :
    Timely now (x.moved now slept effect conn) := by
  have hpc' : (x.moved now slept effect conn).task.conn.pc = .badErrorDelay := hpc
  have hne : napOf conn.pc ≠ napOf x.task.conn.pc := by
    rw [hpc, hawake]
    decide
  have htakes := (hready.slept hne).2
  rw [hpc] at htakes
  have hslept := jittered_le htakes
  rw [Timely, hpc', moved_quiet hon hoff, wake_eq hne]
  refine ⟨Nat.le_add_right _ _, fun b hb => ?_⟩
  have hbegun := h b hb
  rw [afterBadError_eq]
  omega

theorem timely_minimumDelay (hpc : conn.pc = .minimumDelay)
    (hother : napOf x.task.conn.pc ≠ .minimum) (hon : effect ≠ .addIdle) (hoff : effect ≠ .releaseIdle)
    (hready : x.Ready now slept conn) (h : ∀ b ∈ x.stint.begun, now ≤ b + afterBadError) :
    Timely now (x.moved now slept effect conn) := by
  have hpc' : (x.moved now slept effect conn).task.conn.pc = .minimumDelay := hpc
  have hnap : napOf conn.pc = .minimum := congrArg napOf hpc
  have hne : napOf conn.pc ≠ napOf x.task.conn.pc := fun he => hother (he.symm.trans hnap)
  have htakes := (hready.slept hne).2
  rw [hpc] at htakes
  have hslept := jittered_le htakes
  rw [Timely, hpc', moved_quiet hon hoff, wake_eq hne]
  refine fun _ => ⟨Nat.le_add_right _ _, fun b hb => ?_⟩
  have hbegun := h b hb
  rw [permitLimit_eq]
  omega

theorem timely_moved (h : Timely now x) (hp : Permitted x.task.conn)
    (hstep : RunConnection.Step x.task.env told x.task.conn effect conn) (hready : x.Ready now slept conn) :
    Timely now (x.moved now slept effect conn) := by
  cases hstep with
  | begin hpc =>
      rintro b ⟨⟩
      exact Nat.le_add_right _ _
  | establish hpc | established hpc | elapsed hpc =>
      rw [Timely, hpc] at h
      exact h
  | timedOut hpc =>
      rw [Timely, hpc] at h
      intro _ b hb
      have hbegun := h b hb
      rw [permitLimit_eq, afterBadError_eq]
      omega
  | connectedLocal | proxyEnded | stopped | killed | returnPlain | addActive | dropIdle | connectLocal
  | returnIdle => trivial
  | @failed e hpc =>
      rw [Timely, hpc] at h
      have hawake : napOf x.task.conn.pc = .awake := by rw [hpc]; rfl
      rcases afterError_cases e with he | he
      · exact timely_badErrorDelay he hawake (by simp) (by simp) hready h
      · apply timely_minimumDelay he (by simp [hawake]) (by simp) (by simp) hready
        intro b hb
        exact (h b hb).trans (Nat.add_le_add_left (Nat.le_add_right _ _) b)
  | badErrorDelayed hpc =>
      rw [Timely, hpc] at h
      refine timely_minimumDelay rfl (by simp [hpc, napOf]) (by simp) (by simp) hready fun b hb => ?_
      exact h.1.trans (h.2 b hb)
  | minimumDelayed hpc =>
      rw [Timely, hpc] at h
      intro hheld b hb
      obtain ⟨hle, hwake⟩ := h hheld
      exact hle.trans (hwake b hb)
  | unconnected hpc =>
      rw [Permitted, hpc] at hp
      intro hheld
      exact absurd hheld (by simp [Timed.holds, Timed.moved, holdsIdle, hp])
  | removeActive hpc =>
      rw [Permitted, hpc] at hp
      intro hheld
      exact absurd hheld (by simp [Timed.holds, Timed.moved, holdsIdle, hp])
  | proxy | detachedEnded | aborted | pushEbb | pushLocal =>
      exact timely_same h rfl rfl (by simp) (by simp)

theorem timely_step (h : ∀ x ∈ s.tasks, Timely s.now x) (hp : ∀ x ∈ s.tasks, Permitted x.task.conn)
    (hs : Step setup prompt s s') : ∀ x ∈ s'.tasks, Timely s'.now x := by
  cases hs with
  | pass later _ hprompt => exact fun x hx => timely_pass (h x hx) (hprompt x hx)
  | move told hmove =>
      rw [move_now hmove]
      apply forall_move hmove h (fun _ _ => rfl)
      · intro x hx slept effect conn hconn hready
        exact timely_moved (h x hx) (hp x hx) hconn hready
      · exact fun x hx => hx

theorem run_timely (h : Run setup prompt s) : ∀ x ∈ s.tasks, Timely s.now x := by
  induction h with
  | called now =>
      intro x hx
      cases hx
  | step hrun hs ih => exact timely_step ih (permitted (run_accounted hrun)) hs

theorem Timely.le (h : Timely now x) (hp : Permitted x.task.conn) (hheld : x.holds = true) :
    ∀ b ∈ x.stint.begun, now ≤ b + permitLimit := by
  intro b hb
  have hheld' : x.task.conn.idlePermit = true := hheld
  have hle : maxIdleConnectionTime ≤ permitLimit := by decide
  rw [Timely] at h
  rw [Permitted] at hp
  cases hpc : x.task.conn.pc with rw [hpc] at h hp
  | started =>
      rw [h] at hb
      cases hb
  | establishing | idleRemoved => exact (h b hb).trans (Nat.add_le_add_left hle b)
  | badErrorDelay => exact (h.1.trans (h.2 b hb)).trans (Nat.add_le_add_left (Nat.le_add_right _ _) b)
  | minimumDelay => exact (h hheld).1.trans ((h hheld).2 b hb)
  | returning => exact h hheld b hb
  | connectingLocal | ready | proxying | killDelay | proxied | returned =>
      rw [hp] at hheld'
      cases hheld'

/-- Where nothing that could go on is kept waiting, whatever the server does, a
connection gives its idle permit back within `permitLimit` of its beginning. -/
theorem idle_permits_come_back (h : Run setup prompt s) :
    ∀ x ∈ s.tasks, x.holds = true → ∀ b ∈ x.stint.begun, s.now ≤ b + permitLimit :=
  fun x hx hheld => (run_timely h x hx).le (permitted (run_accounted h) x hx) hheld

theorem run_patient : ∃ s x, Run PermitBalance.sampleSetup prompt s ∧ x ∈ s.tasks ∧ x.holds = true ∧
    0 ∈ x.stint.begun ∧ s.now = maxIdleConnectionTime + 7499 := by
  have r : Run PermitBalance.sampleSetup prompt _ := .called 0
  have r := r.step (.move false (.loop (.new none) (.acquireMax rfl (by decide)) rfl))
  have r := r.step (.move false (.loop (.new none) (.acquireIdle rfl (by decide)) rfl))
  have r := r.step (.move false (.spawn ⟨some "key"⟩ [] rfl))
  have r := r.step (.move false <| @Move.connection _ _ _ [] [] _ _ _ 0 rfl (.begin rfl) (ready_awake rfl nofun))
  have r := r.step (.pass maxIdleConnectionTime (Nat.zero_le _) (List.forall_mem_singleton.mpr (by
    rintro b ⟨⟩
    exact Nat.le_add_left _ _)))
  have r := r.step (.move false <| @Move.connection _ _ _ [] [] _ _ _ 0 rfl
    (.establish rfl (.tcpFailed _ .UnexpectedEof)) (ready_awake rfl nofun))
  have r := r.step (.move false <| @Move.connection _ _ _ [] [] _ _ _ 0 rfl (.established rfl) (ready_awake rfl nofun))
  have r := r.step (.move false <| @Move.connection _ _ _ [] [] _ _ _ 7499 rfl (.failed rfl)
    ⟨fun _ => ⟨Nat.zero_le _, by decide, by decide⟩, nofun⟩)
  have r := r.step (.pass (maxIdleConnectionTime + 7499) (Nat.le_add_right _ _)
    (List.forall_mem_singleton.mpr (Nat.le_refl _)))
  exact ⟨_, _, r, List.mem_singleton_self _, rfl, rfl, rfl⟩

theorem idle_permits_come_back_sample : ∃ s x, Run PermitBalance.sampleSetup prompt s ∧ x ∈ s.tasks ∧
    x.holds = true ∧ s.now = maxIdleConnectionTime + 7499 ∧ s.now ≤ 0 + permitLimit := by
  obtain ⟨s, x, r, hx, hheld, hbegun, hnow⟩ := run_patient
  exact ⟨s, x, r, hx, hheld, hnow, idle_permits_come_back r x hx hheld 0 hbegun⟩

end Ebbflow.PermitReturn
