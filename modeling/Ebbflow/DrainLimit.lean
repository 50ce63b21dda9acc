import Ebbflow.Draining

namespace Ebbflow.DrainLimit

open Lib.Tally Permits PermitReturn Draining
open RunConnection hiding Step Run
open TimedConnections hiding System Step Run
open TimedEndpoint
open InnerRun (Setup)

variable {setup : Setup} {checks : Nat → Bool → Prop} {s s' : System} {start now slept : Nat} {toldAt : Option Nat}
  {x : Timed} {conn : Conn} {effect : Effect} {told : Bool}

/-- Less than that after it noticed, an active connection is killed. -/
def killLimit : Nat := 3 * killActiveDelay / 2

def Hurried (now : Nat) (toldAt : Option Nat) (x : Timed) : Prop :=
  match x.task.conn.pc with
  | .proxying => ∀ n ∈ noticed toldAt x.active, now ≤ n
  | .killDelay => now ≤ x.wake ∧ ∀ n ∈ noticed toldAt x.active, x.wake < n + killLimit
  | .proxied => ∀ n ∈ noticed toldAt x.active, now < n + killLimit
  | _ => True

theorem killLimit_pos : 0 < killLimit := by decide

theorem slept_lt (h : Jittered killActiveDelay slept) : slept < killLimit := by
  have hlt := h.2
  have heven : 2 * killLimit = 3 * killActiveDelay := by decide
  omega

theorem Hurried.later {later : Nat} (h : Hurried now toldAt x) (htold : told = toldAt.isSome)
    (hp : attentive told x later) : Hurried later toldAt x := by
  obtain ⟨hprompt, hheeds, _⟩ := hp
  rw [Hurried] at h ⊢
  rw [prompt] at hprompt
  cases hpc : x.task.conn.pc with rw [hpc] at h hprompt
  | proxying =>
      intro n hn
      obtain ⟨t, ht, -⟩ := noticed_iff.mp hn
      rw [ht] at htold
      exact absurd hpc (hheeds htold)
  | killDelay => exact ⟨hprompt, h.2⟩
  | proxied => exact hprompt.elim
  | _ => trivial

theorem noticed_told {active : Option Nat} {n : Nat} (h : n ∈ noticed (some (toldAt.getD now)) active) :
    n ∈ noticed toldAt active ∨ toldAt = none ∧ now ≤ n := by
  cases toldAt with
  | none =>
      obtain ⟨t, ⟨⟩, a, ha, rfl⟩ := noticed_iff.mp h
      exact .inr ⟨rfl, Nat.le_max_left _ _⟩
  | some t => exact .inl h

theorem Hurried.tell (h : Hurried now toldAt x) (hspared : Spared now toldAt x) :
    Hurried now (some (toldAt.getD now)) x := by
  rw [Hurried] at h ⊢
  cases hpc : x.task.conn.pc with rw [hpc] at h
  | proxying =>
      intro n hn
      rcases noticed_told hn with hn | ⟨-, hle⟩
      · exact h n hn
      · exact hle
  | killDelay =>
      refine ⟨h.1, fun n hn => ?_⟩
      rcases noticed_told hn with hn | ⟨hnone, -⟩
      · exact h.2 n hn
      · obtain ⟨m, hm, -⟩ := hspared.asleep hpc
        rw [hnone] at hm
        cases hm
  | proxied =>
      intro n hn
      rcases noticed_told hn with hn | ⟨-, hle⟩
      · exact h n hn
      · exact hle.trans_lt (Nat.lt_add_of_pos_right killLimit_pos)
  | _ => trivial

theorem hurried_same (h : Hurried now toldAt x) (hon : effect ≠ .addActive) (hpc : conn.pc = x.task.conn.pc) :
    Hurried now toldAt (x.moved now slept effect conn) := by
  have hwake : (x.moved now slept effect conn).wake = x.wake := if_pos (congrArg napOf hpc)
  have hpc' : (x.moved now slept effect conn).task.conn.pc = x.task.conn.pc := hpc
  rw [Hurried, hpc', moved_active hon, hwake]
  exact h

theorem hurried_moved (h : Hurried now toldAt x)
    (hstep : RunConnection.Step x.task.env told x.task.conn effect conn) (hready : x.Ready now slept conn) :
    Hurried now toldAt (x.moved now slept effect conn) := by
  rw [Hurried] at h
  cases hstep with
  | begin | establish | established | elapsed | timedOut | badErrorDelayed | minimumDelayed | dropIdle
  | connectLocal | connectedLocal | unconnected | removeActive | returnIdle | returnPlain => trivial
  | @failed e hpc =>
      rw [Hurried]
      rcases afterError_cases e with he | he <;> simp only [Timed.moved, he]
  | addActive hpc =>
      intro n hn
      obtain ⟨t, -, a, ⟨⟩, rfl⟩ := noticed_iff.mp hn
      exact Nat.le_max_right _ _
  | proxyEnded hpc =>
      rw [hpc] at h
      intro n hn
      exact (h n hn).trans_lt (Nat.lt_add_of_pos_right killLimit_pos)
  | stopped hpc =>
      rw [hpc] at h
      have hne : napOf .killDelay ≠ napOf x.task.conn.pc := by simp [napOf, hpc]
      have hwake : (x.moved now slept .silent { x.task.conn with pc := .killDelay }).wake = now + slept :=
        wake_eq hne
      have hslept := slept_lt (hready.slept hne).2
      rw [Hurried]
      refine ⟨hwake ▸ Nat.le_add_right _ _, fun n hn => ?_⟩
      have hle := h n hn
      rw [hwake]
      exact Nat.add_lt_add_of_le_of_lt hle hslept
  | killed hpc =>
      rw [hpc] at h
      intro n hn
      exact h.1.trans_lt (h.2 n hn)
  | proxy | detachedEnded | aborted | pushEbb | pushLocal => exact hurried_same h (by simp) rfl

theorem hurried_step (hrun : Run setup checks heeding start s)
    (h : ∀ p ∈ s.periods, ∀ x ∈ p.conns.tasks, Hurried s.now p.toldAt x) (hs : Step setup checks heeding s s') :
    ∀ p ∈ s'.periods, ∀ x ∈ p.conns.tasks, Hurried s'.now p.toldAt x := by
  have hstamped := run_stamped hrun
  have hspared := run_spared hrun
  apply @forall_step _ _ _ _ _ (fun now p => ∀ x ∈ p.conns.tasks, Hurried now p.toldAt x) hs h
  · exact fun later _ hheeds p hp x hx => (h p hp x hx).later (hstamped p hp).told (hheeds p hp x hx)
  · exact fun _ x hx => nomatch hx
  · exact fun p hp f _ x hx => (h p hp x hx).tell (hspared p hp x hx)
  · intro p hp c hmove
    have hp' := hstamped p hp
    apply forall_move hmove (h p hp) (fun _ _ => trivial)
    · intro x hx slept effect conn hconn hready
      rw [hp'.clock] at hready ⊢
      exact hurried_moved (h p hp x hx) hconn hready
    · exact fun x hx => hx

theorem run_hurried (h : Run setup checks heeding start s) :
    ∀ p ∈ s.periods, ∀ x ∈ p.conns.tasks, Hurried s.now p.toldAt x := by
  induction h with
  | spawned =>
      intro p hp
      cases hp
  | step hrun hs ih => exact hurried_step hrun ih hs

theorem Hurried.lt (h : Hurried now toldAt x) (hcounted : activeCounted x.task.conn = true) :
    ∀ n ∈ noticed toldAt x.active, now < n + killLimit := by
  intro n hn
  rw [Hurried] at h
  rw [activeCounted.eq_def] at hcounted
  split at hcounted
  next hpc =>
    rw [hpc] at h
    exact (h n hn).trans_lt (Nat.lt_add_of_pos_right killLimit_pos)
  next hpc =>
    rw [hpc] at h
    exact h.1.trans_lt (h.2 n hn)
  next hpc =>
    rw [hpc] at h
    exact h n hn
  next => cases hcounted

/-- A proxy that nobody waits for any more has just been aborted. -/
def Ended (now : Nat) (toldAt : Option Nat) (x : Timed) : Prop :=
  x.task.conn.proxy ≠ none → x.task.conn.pc = .proxying ∨ x.task.conn.pc = .killDelay ∨
    x.task.conn.abort = true ∧ ∀ n ∈ noticed toldAt x.active, now < n + killLimit

theorem Ended.later {later : Nat} (h : Ended now toldAt x) (hp : attentive told x later) : Ended later toldAt x := by
  intro hproxy
  rcases h hproxy with hpc | hpc | ⟨habort, _⟩
  · exact .inl hpc
  · exact .inr (.inl hpc)
  · exact absurd (hp.2.2 habort) hproxy

theorem Ended.tell (h : Ended now toldAt x) (hspared : Spared now toldAt x) :
    Ended now (some (toldAt.getD now)) x := by
  intro hproxy
  rcases h hproxy with hpc | hpc | ⟨habort, hdue⟩
  · exact .inl hpc
  · exact .inr (.inl hpc)
  · refine .inr (.inr ⟨habort, fun n hn => ?_⟩)
    rcases noticed_told hn with hn | ⟨hnone, _⟩
    · exact hdue n hn
    · obtain ⟨m, hm, _⟩ := hspared.aborted habort
      rw [hnone] at hm
      cases hm

theorem ended_same (h : Ended now toldAt x) (hon : effect ≠ .addActive) (hpc : conn.pc = x.task.conn.pc)
    (hproxy : x.task.conn.proxy = none → conn.proxy = none) (habort : conn.abort = x.task.conn.abort) :
    Ended now toldAt (x.moved now slept effect conn) := by
  have hactive : (x.moved now slept effect conn).active = x.active := moved_active hon
  rw [Ended, hactive]
  intro hsome
  have hbefore := h fun hnone => hsome (hproxy hnone)
  rw [← hpc, ← habort] at hbefore
  exact hbefore

theorem ended_left (h : Ended now toldAt x) (hon : effect ≠ .addActive) (hpc : x.task.conn.pc ≠ .proxying)
    (hkill : x.task.conn.pc ≠ .killDelay) (hproxy : conn.proxy = x.task.conn.proxy)
    (habort : conn.abort = x.task.conn.abort) : Ended now toldAt (x.moved now slept effect conn) := by
  have hactive : (x.moved now slept effect conn).active = x.active := moved_active hon
  rw [Ended, hactive]
  intro hsome
  rcases h (hproxy ▸ hsome) with hat | hat | ⟨hbefore, hdue⟩
  · exact absurd hat hpc
  · exact absurd hat hkill
  · exact .inr (.inr ⟨habort.trans hbefore, hdue⟩)

theorem ended_moved (h : Ended now toldAt x) (hhurried : Hurried now toldAt x)
    (hstep : RunConnection.Step x.task.env told x.task.conn effect conn) :
    Ended now toldAt (x.moved now slept effect conn) := by
  cases hstep with
  | begin hpc | establish hpc | established hpc | elapsed hpc | timedOut hpc | failed hpc | badErrorDelayed hpc
  | minimumDelayed hpc | dropIdle hpc | connectedLocal hpc | unconnected hpc | removeActive hpc | returnIdle hpc
  | returnPlain hpc =>
      exact ended_left h (by simp) (by simp [hpc]) (by simp [hpc]) rfl rfl
  | @connectLocal _ _ m _ hpc =>
      have hnoted : noted m ≠ .addActive := by cases m <;> simp [noted]
      exact ended_left h hnoted (by simp [hpc]) (by simp [hpc]) rfl rfl
  | addActive => exact fun _ => .inl rfl
  | stopped => exact fun _ => .inr (.inl rfl)
  | killed hpc =>
      rw [Hurried, hpc] at hhurried
      exact fun _ => .inr (.inr ⟨rfl, fun n hn => hhurried.1.trans_lt (hhurried.2 n hn)⟩)
  | proxyEnded | detachedEnded | aborted => exact fun hsome => absurd rfl hsome
  | proxy hp => exact ended_same h (by simp) rfl (fun hnone => absurd (hp.symm.trans hnone) nofun) rfl
  | pushEbb | pushLocal => exact ended_same h (by simp) rfl id rfl

theorem ended_step (hrun : Run setup checks heeding start s)
    (h : ∀ p ∈ s.periods, ∀ x ∈ p.conns.tasks, Ended s.now p.toldAt x) (hs : Step setup checks heeding s s') :
    ∀ p ∈ s'.periods, ∀ x ∈ p.conns.tasks, Ended s'.now p.toldAt x := by
  have hstamped := run_stamped hrun
  have hspared := run_spared hrun
  have hhurried := run_hurried hrun
  apply @forall_step _ _ _ _ _ (fun now p => ∀ x ∈ p.conns.tasks, Ended now p.toldAt x) hs h
  · exact fun later _ hheeds p hp x hx => (h p hp x hx).later (hheeds p hp x hx)
  · exact fun _ x hx => nomatch hx
  · exact fun p hp f _ x hx => (h p hp x hx).tell (hspared p hp x hx)
  · intro p hp c hmove
    have hclock := (hstamped p hp).clock
    apply forall_move hmove (h p hp) (fun _ _ hsome => absurd rfl hsome)
    · intro x hx slept effect conn hconn _
      rw [hclock]
      exact ended_moved (h p hp x hx) (hhurried p hp x hx) hconn
    · exact fun x hx => hx

theorem run_ended (h : Run setup checks heeding start s) :
    ∀ p ∈ s.periods, ∀ x ∈ p.conns.tasks, Ended s.now p.toldAt x := by
  induction h with
  | spawned =>
      intro p hp
      cases hp
  | step hrun hs ih => exact ended_step hrun ih hs

/-- The connection is counted as active, or its proxy may still copy. -/
def carriesTraffic (c : RunConnection.Conn) : Prop := activeCounted c = true ∨ c.proxy ≠ none

theorem carrying {p : TimedPeriod} (h : Run setup checks heeding start s) (hp : p ∈ s.periods)
    (hx : x ∈ p.conns.tasks) (hcarries : carriesTraffic x.task.conn) :
    (∃ a ∈ x.active, a ≤ s.now) ∧ ∀ n ∈ noticed p.toldAt x.active, s.now < n + killLimit := by
  have hspared := run_spared h p hp x hx
  have hhurried := run_hurried h p hp x hx
  have hcounted : activeCounted x.task.conn = true →
      (∃ a ∈ x.active, a ≤ s.now) ∧ ∀ n ∈ noticed p.toldAt x.active, s.now < n + killLimit :=
    fun hc => ⟨hspared.active hc, hhurried.lt hc⟩
  rcases hcarries with hc | hproxy
  · exact hcounted hc
  · rcases run_ended h p hp x hx hproxy with hpc | hpc | ⟨habort, hdue⟩
    · exact hcounted (by rw [activeCounted, hpc])
    · exact hcounted (by rw [activeCounted, hpc])
    · obtain ⟨n, hn, hle⟩ := hspared.aborted habort
      obtain ⟨t, _, a, ha, rfl⟩ := noticed_iff.mp hn
      exact ⟨⟨a, ha, (le_max_right t a).trans ((Nat.le_add_right _ _).trans hle)⟩, hdue⟩

/-- Where nothing that could go on is kept waiting, a connection of a generation
that was told to stop carries traffic for less than `killLimit`. -/
theorem told_connections_drain (h : Run setup checks heeding start s) :
    ∀ p ∈ s.periods, ∀ t ∈ p.toldAt, ∀ x ∈ p.conns.tasks, carriesTraffic x.task.conn →
      ∃ a ∈ x.active, a ≤ s.now ∧ s.now < max t a + killLimit := by
  intro p hp t ht x hx hcarries
  obtain ⟨⟨a, ha, hle⟩, hdue⟩ := carrying h hp hx hcarries
  exact ⟨a, ha, hle, hdue _ (noticed_iff.mpr ⟨t, ht, a, ha, rfl⟩)⟩

theorem told_connections_drain_sample : ∃ s, ∃ x : Timed,
    Run PermitBalance.sampleSetup (fun _ _ => True) heeding 0 s ∧
    x.active = some 0 ∧ x.task.conn.proxy ≠ none ∧ s.now = 90004 ∧
    ∃ a ∈ x.active, a ≤ s.now ∧ s.now < max 5 a + killLimit := by
  obtain ⟨stint, r⟩ := run_told
  exact ⟨_, _, r, rfl, Option.some_ne_none _, rfl, told_connections_drain r _ (List.mem_singleton_self _) 5 rfl _
    (List.mem_singleton_self _) (.inl rfl)⟩

end Ebbflow.DrainLimit
