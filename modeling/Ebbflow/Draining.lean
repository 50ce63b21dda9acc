import Ebbflow.PermitReturn
import Ebbflow.TimedEndpoint
import Ebbflow.Tunnel

namespace Ebbflow.Draining

open Lib.Tally Daemon Permits PermitReturn Tunnel ConnectionRun
open RunConnection hiding Step Run
open TimedConnections hiding System Step Run
open TimedEndpoint
open InnerRun (Setup)
open EndpointRun (Signal Phase)

variable {setup : Setup} {checks : Nat → Bool → Prop} {allows : System → Nat → Prop} {s s' : System}
  {start now slept : Nat} {toldAt : Option Nat} {x : Timed} {conn : Conn} {effect : Effect} {told : Bool}

/-- When an active connection gets to know the signal: as it is told, or as it
becomes active. -/
def noticed (toldAt active : Option Nat) : Option Nat := toldAt.bind fun t => active.map (max t)

theorem noticed_iff {active : Option Nat} {n : Nat} :
    n ∈ noticed toldAt active ↔ ∃ t ∈ toldAt, ∃ a ∈ active, max t a = n := by
  cases toldAt <;> cases active <;> simp [noticed]

theorem noticed_le {active : Option Nat} (hpast : ∀ t ∈ toldAt, t ≤ now) (hactive : ∃ a ∈ active, a ≤ now)
    (htold : toldAt.isSome = true) : ∃ n ∈ noticed toldAt active, n ≤ now := by
  obtain ⟨t, ht⟩ := Option.isSome_iff_exists.mp htold
  obtain ⟨a, ha, hle⟩ := hactive
  exact ⟨max t a, noticed_iff.mpr ⟨t, ht, a, ha, rfl⟩, max_le (hpast t ht) hle⟩

def afterProxy : Pc → Bool
  | .proxied | .returning | .returned => true
  | _ => false

/-- An active connection is killed no sooner than the delay after it noticed. -/
structure Spared (now : Nat) (toldAt : Option Nat) (x : Timed) : Prop where
  active : activeCounted x.task.conn = true → ∃ a ∈ x.active, a ≤ now
  asleep : x.task.conn.pc = .killDelay → ∃ n ∈ noticed toldAt x.active, n + killActiveDelay ≤ x.wake
  aborted : x.task.conn.abort = true → ∃ n ∈ noticed toldAt x.active, n + killActiveDelay ≤ now
  final : x.task.conn.abort = true → afterProxy x.task.conn.pc = true

theorem Spared.later {later : Nat} (h : Spared now toldAt x) (hle : now ≤ later) : Spared later toldAt x where
  active hcounted := by
    obtain ⟨a, ha, hact⟩ := h.active hcounted
    exact ⟨a, ha, hact.trans hle⟩
  asleep := h.asleep
  aborted habort := by
    obtain ⟨n, hn, hdue⟩ := h.aborted habort
    exact ⟨n, hn, hdue.trans hle⟩
  final := h.final

theorem noticed_tell {active : Option Nat} {n : Nat} (h : n ∈ noticed toldAt active) (now : Nat) :
    n ∈ noticed (some (toldAt.getD now)) active := by
  obtain ⟨t, ht, a, ha, hmax⟩ := noticed_iff.mp h
  rw [Option.mem_def] at ht
  subst ht
  exact noticed_iff.mpr ⟨t, rfl, a, ha, hmax⟩

theorem Spared.tell (h : Spared now toldAt x) : Spared now (some (toldAt.getD now)) x where
  active := h.active
  asleep hpc := by
    obtain ⟨n, hn, hdue⟩ := h.asleep hpc
    exact ⟨n, noticed_tell hn now, hdue⟩
  aborted habort := by
    obtain ⟨n, hn, hdue⟩ := h.aborted habort
    exact ⟨n, noticed_tell hn now, hdue⟩
  final := h.final

theorem moved_active (hon : effect ≠ .addActive) : (x.moved now slept effect conn).active = x.active :=
  if_neg hon

theorem spared_before (h : Spared now toldAt x) (hpc : afterProxy x.task.conn.pc = false)
    (habort : conn.abort = x.task.conn.abort) (hcounted : activeCounted conn = false) :
    Spared now toldAt (x.moved now slept effect conn) := by
  have hnot : ∀ {P : Prop}, conn.abort = true → P := by
    intro P ha
    have hfinal := h.final (habort.symm.trans ha)
    rw [hpc] at hfinal
    cases hfinal
  refine ⟨?_, ?_, hnot, hnot⟩
  · intro hc
    exact absurd hc (by simp [Timed.moved, hcounted])
  · intro hk
    have hkill : conn.pc = .killDelay := hk
    rw [activeCounted, hkill] at hcounted
    cases hcounted

theorem spared_after (h : Spared now toldAt x) (hon : effect ≠ .addActive) (hpc : afterProxy conn.pc = true)
    (habort : conn.abort = x.task.conn.abort)
    (hcounted : activeCounted conn = true → activeCounted x.task.conn = true) :
    Spared now toldAt (x.moved now slept effect conn) := by
  have hactive : (x.moved now slept effect conn).active = x.active := moved_active hon
  refine ⟨?_, ?_, ?_, fun _ => hpc⟩
  · rw [hactive]
    exact fun hc => h.active (hcounted hc)
  · intro hk
    have hkill : conn.pc = .killDelay := hk
    rw [hkill] at hpc
    cases hpc
  · rw [hactive]
    exact fun ha => h.aborted (habort.symm.trans ha)

theorem spared_same (h : Spared now toldAt x) (hon : effect ≠ .addActive) (hpc : conn.pc = x.task.conn.pc)
    (habort : conn.abort = x.task.conn.abort) : Spared now toldAt (x.moved now slept effect conn) := by
  have hactive : (x.moved now slept effect conn).active = x.active := moved_active hon
  have hwake : (x.moved now slept effect conn).wake = x.wake := if_pos (congrArg napOf hpc)
  have hcounted : activeCounted conn = activeCounted x.task.conn := by rw [activeCounted, hpc, activeCounted]
  refine ⟨?_, ?_, ?_, ?_⟩
  · rw [hactive]
    exact fun hc => h.active (hcounted.symm.trans hc)
  · rw [hactive, hwake]
    exact fun hk => h.asleep (hpc.symm.trans hk)
  · rw [hactive]
    exact fun ha => h.aborted (habort.symm.trans ha)
  · intro ha
    have hfinal := h.final (habort.symm.trans ha)
    rw [← hpc] at hfinal
    exact hfinal

theorem spared_moved (h : Spared now toldAt x) (hpast : ∀ t ∈ toldAt, t ≤ now) (htold : told = toldAt.isSome)
    (hstep : RunConnection.Step x.task.env told x.task.conn effect conn) (hready : x.Ready now slept conn) :
    Spared now toldAt (x.moved now slept effect conn) := by
  cases hstep with
  | begin hpc | establish hpc | established hpc | elapsed hpc | timedOut hpc | badErrorDelayed hpc
  | minimumDelayed hpc | dropIdle hpc | connectLocal hpc | connectedLocal hpc | unconnected hpc =>
      exact spared_before h (by rw [hpc]; rfl) rfl rfl
  | @failed e hpc =>
      refine spared_before h (by rw [hpc]; rfl) rfl ?_
      rcases afterError_cases e with he | he <;> simp only [activeCounted, he]
  | addActive hpc =>
      have hnot : ∀ {P : Prop}, x.task.conn.abort = true → P := by
        intro P ha
        have hfinal := h.final ha
        rw [hpc] at hfinal
        cases hfinal
      refine ⟨fun _ => ⟨now, rfl, Nat.le_refl now⟩, ?_, hnot, hnot⟩
      intro hk
      cases hk
  | proxyEnded hpc =>
      exact spared_after h (by simp) rfl rfl fun _ => by rw [activeCounted, hpc]
  | removeActive | returnIdle | returnPlain =>
      exact spared_after h (by simp) rfl rfl fun hc => by cases hc
  | stopped hpc hnow =>
      have hactive := h.active (by rw [activeCounted, hpc])
      have hwake : (x.moved now slept .silent { x.task.conn with pc := .killDelay }).wake = now + slept :=
        wake_eq (by simp [napOf, hpc])
      refine ⟨fun _ => hactive, ?_, h.aborted, ?_⟩
      · intro _
        obtain ⟨n, hn, hle⟩ := noticed_le hpast hactive (htold.symm.trans hnow)
        have htakes := (hready.slept (by simp [napOf, hpc])).2
        rw [hwake]
        exact ⟨n, hn, Nat.add_le_add hle htakes.1⟩
      · intro ha
        have hfinal := h.final ha
        rw [hpc] at hfinal
        cases hfinal
  | killed hpc =>
      have hactive := h.active (by rw [activeCounted, hpc])
      have hwoken := (hready.slept (by simp [napOf, hpc])).1
      obtain ⟨n, hn, hdue⟩ := h.asleep hpc
      refine ⟨fun _ => hactive, ?_, fun _ => ⟨n, hn, hdue.trans hwoken⟩, fun _ => rfl⟩
      intro hk
      cases hk
  | proxy | detachedEnded | aborted | pushEbb | pushLocal => exact spared_same h (by simp) rfl rfl

theorem spared_spawned (info : SharedInfo) (sent : Lib.Wire.Bytes) :
    Spared now toldAt (.spawned setup info sent) := ⟨nofun, nofun, nofun, nofun⟩

theorem spared_step (hrun : Run setup checks allows start s)
    (h : ∀ p ∈ s.periods, ∀ x ∈ p.conns.tasks, Spared s.now p.toldAt x) (hs : Step setup checks allows s s') :
    ∀ p ∈ s'.periods, ∀ x ∈ p.conns.tasks, Spared s'.now p.toldAt x := by
  have hstamped := run_stamped hrun
  apply @forall_step _ _ _ _ _ (fun now p => ∀ x ∈ p.conns.tasks, Spared now p.toldAt x) hs h
  · exact fun later hle _ p hp x hx => (h p hp x hx).later hle
  · exact fun _ x hx => nomatch hx
  · exact fun p hp f _ x hx => (h p hp x hx).tell
  · intro p hp c hmove
    have hp' := hstamped p hp
    apply forall_move hmove (h p hp)
    · exact spared_spawned
    · intro x hx slept effect conn hconn hready
      rw [hp'.clock] at hready ⊢
      exact spared_moved (h p hp x hx) hp'.past hp'.told hconn hready
    · exact fun x hx => ⟨hx.active, hx.asleep, hx.aborted, hx.final⟩

theorem run_spared (h : Run setup checks allows start s) :
    ∀ p ∈ s.periods, ∀ x ∈ p.conns.tasks, Spared s.now p.toldAt x := by
  induction h with
  | spawned =>
      intro p hp
      cases hp
  | step hrun hs ih => exact spared_step hrun ih hs

/-- Whatever happens, the program cuts a connection that carries traffic only
where it was told to stop, and no sooner than the kill delay after both. -/
theorem traffic_is_spared (h : Run setup checks allows start s) :
    ∀ p ∈ s.periods, ∀ x ∈ p.conns.tasks, x.task.conn.abort = true →
      ∃ t ∈ p.toldAt, ∃ a ∈ x.active, max t a + killActiveDelay ≤ s.now := by
  intro p hp x hx habort
  obtain ⟨n, hn, hdue⟩ := (run_spared h p hp x hx).aborted habort
  obtain ⟨t, ht, a, ha, rfl⟩ := noticed_iff.mp hn
  exact ⟨t, ht, a, ha, hdue⟩

/-- No time passes a connection by that is to notice the signal, nor a proxy that
is to notice that it was aborted. -/
def attentive (told : Bool) (x : Timed) (later : Nat) : Prop :=
  prompt x later ∧ (told = true → x.task.conn.pc ≠ .proxying) ∧
    (x.task.conn.abort = true → x.task.conn.proxy = none)

def heeding (s : System) (later : Nat) : Prop :=
  ∀ p ∈ s.periods, ∀ x ∈ p.conns.tasks, attentive p.signal.told x later

def alone (phase : Phase) (due : Nat) (stopper signal : Signal) (toldAt : Option Nat) (idlesem now : Nat)
    (x : Timed) : System :=
  ⟨phase, due, stopper, none, [⟨signal, 0, toldAt, ⟨.acquireMax, idlesem, 1, [x], now⟩⟩], now⟩

theorem alone_moved {phase : Phase} {due : Nat} {stopper signal : Signal} {idlesem : Nat}
    (r : Run setup checks allows start (alone phase due stopper signal toldAt idlesem now x)) (slept : Nat)
    (hconn : RunConnection.Step x.task.env signal.told x.task.conn effect conn) (hready : x.Ready now slept conn) :
    Run setup checks allows start (alone phase due stopper signal toldAt
      (idlesem + InnerRun.released effect) now (x.moved now slept effect conn)) :=
  r.step (@TimedEndpoint.Step.generation _ _ _ (alone phase due stopper signal toldAt idlesem now x) [] []
    ⟨signal, 0, toldAt, ⟨.acquireMax, idlesem, 1, [x], now⟩⟩ _ rfl
    (@Move.connection _ _ ⟨.acquireMax, idlesem, 1, [x], now⟩ [] [] x conn effect slept rfl hconn hready))

theorem alone_awake {phase : Phase} {due : Nat} {stopper signal : Signal} {idlesem : Nat}
    (r : Run setup checks allows start (alone phase due stopper signal toldAt idlesem now x))
    (hconn : RunConnection.Step x.task.env signal.told x.task.conn effect conn)
    (hnap : napOf conn.pc = napOf x.task.conn.pc) (hpc : conn.pc ≠ .idleRemoved .elapsed) :
    Run setup checks allows start (alone phase due stopper signal toldAt
      (idlesem + InnerRun.released effect) now (x.moved now 0 effect conn)) :=
  alone_moved r 0 hconn (ready_awake hnap hpc)

set_option maxRecDepth 4000 in
theorem run_open : ∃ stint, Run PermitBalance.sampleSetup (fun _ _ => True) heeding 0
    (alone (.awaitUnhealthy .checking) 1000 .new .new none 1 0
      ⟨⟨sampleEnv, openTunnel [], true⟩, stint, some 0, 0⟩) := by
  have r : Run PermitBalance.sampleSetup (fun _ _ => True) heeding 0 _ := .spawned
  have r := r.step (.healthyUnchecked rfl rfl)
  have r := r.step (.startUp rfl)
  have r := r.step (.generation (rfl : _ = [] ++ _ :: []) (.loop (.new none) (.acquireMax rfl (by decide)) rfl))
  have r := r.step (.generation (rfl : _ = [] ++ _ :: []) (.loop (.new none) (.acquireIdle rfl (by decide)) rfl))
  have r := r.step (.generation (rfl : _ = [] ++ _ :: []) (.spawn ⟨some "key"⟩ sampleSent rfl))
  have r : Run PermitBalance.sampleSetup (fun _ _ => True) heeding 0
    (alone (.awaitUnhealthy .checking) 1000 .new .new none 0 0 ⟨⟨sampleEnv, .spawned sampleSent, true⟩,
      ⟨none, none⟩, none, 0⟩) := r
  have r := alone_awake r (.begin rfl) rfl nofun
  have r := alone_awake r (.establish rfl (.tcpConnected _)) rfl nofun
  have r := alone_awake r (.establish rfl (.tlsConnected _)) rfl nofun
  have r := alone_awake r (.establish rfl (.wroteAll _)) rfl nofun
  have r := alone_awake r (.pushEbb _ 1000) rfl nofun
  have r := alone_awake r (.establish rfl (.flushed _ rfl)) rfl nofun
  have r := alone_awake r (.establish rfl (.readHelloResponse _ _ [0, 0, 0, 12] (by decide))) rfl nofun
  have r := alone_awake r (.establish rfl
    (.readHelloResponse _ _ [0, 0, 0, 6, 161, 101, 105, 115, 115, 117, 101, 246] (by decide))) rfl nofun
  have r := alone_awake r (.establish rfl (.readTrafficStart _ _ [0, 0, 0, 4] (by decide))) rfl nofun
  have r := alone_awake r (.establish rfl (.readTrafficStart _ _ [0, 0, 0, 7] (by decide))) rfl nofun
  have r := alone_awake r (.established rfl) rfl nofun
  have r := alone_awake r (.dropIdle rfl) rfl nofun
  have r := alone_awake r (.connectLocal rfl (.dial _ _ _ _)) rfl nofun
  have r := alone_awake r (.connectLocal rfl (.connected _ _ _ _ [])) rfl nofun
  have r := alone_awake r (.connectLocal rfl (.wroteAll _ _ _)) rfl nofun
  have r := alone_awake r (.connectedLocal rfl) rfl nofun
  have r := alone_awake r (.addActive rfl) rfl nofun
  exact ⟨_, r⟩

/-- The endpoint is disabled five milliseconds later, and the kill draws almost
the longest delay. -/
theorem run_told : ∃ stint, Run PermitBalance.sampleSetup (fun _ _ => True) heeding 0
    (alone .left 5 ⟨true, false⟩ ⟨false, true⟩ (some 5) 1 90004
      ⟨⟨sampleEnv, { openTunnel [] with pc := .killDelay }, true⟩, stint, some 0, 90004⟩) := by
  obtain ⟨stint, r⟩ := run_open
  have hopen : attentive false ⟨⟨sampleEnv, openTunnel [], true⟩, stint, some 0, 0⟩ 5 := ⟨trivial, nofun, nofun⟩
  have r := r.step (.pass 5 (Nat.zero_le 5) (List.forall_mem_singleton.mpr (List.forall_mem_singleton.mpr hopen)))
  have r := r.step (.stop _)
  have r := r.step (.disabledHealthy rfl rfl)
  have r := r.step (.leave rfl)
  have r : Run PermitBalance.sampleSetup (fun _ _ => True) heeding 0
    (alone .left 5 ⟨true, false⟩ ⟨false, true⟩ (some 5) 1 5
      ⟨⟨sampleEnv, openTunnel [], true⟩, stint, some 0, 0⟩) := r
  have r := alone_moved r 89999 (.stopped rfl rfl) ⟨fun _ => ⟨Nat.zero_le 5, by decide, by decide⟩, nofun⟩
  have hkill : attentive true
      ⟨⟨sampleEnv, { openTunnel [] with pc := .killDelay }, true⟩, stint, some 0, 90004⟩ 90004 :=
    ⟨Nat.le_refl _, nofun, nofun⟩
  have r := r.step (.pass 90004 (Nat.le_add_left 5 89999)
    (List.forall_mem_singleton.mpr (List.forall_mem_singleton.mpr hkill)))
  exact ⟨stint, r⟩

theorem traffic_is_spared_sample : ∃ s, ∃ x : Timed, Run PermitBalance.sampleSetup (fun _ _ => True) heeding 0 s ∧
    x.active = some 0 ∧ x.task.conn.abort = true ∧
    ∃ t ∈ some 5, ∃ a ∈ x.active, max t a + killActiveDelay ≤ s.now := by
  obtain ⟨stint, r⟩ := run_told
  have r := alone_moved r 0 (.killed rfl) ⟨fun _ => ⟨Nat.le_refl _, rfl⟩, nofun⟩
  exact ⟨_, _, r, rfl, rfl, traffic_is_spared r _ (List.mem_singleton_self _) _ (List.mem_singleton_self _) rfl⟩

end Ebbflow.Draining
