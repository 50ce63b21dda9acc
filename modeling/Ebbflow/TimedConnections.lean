import Ebbflow.Accounting
import Ebbflow.Lib.Pacing

namespace Ebbflow.TimedConnections

open Lib.Wire Lib.Tally Lib.Pacing Daemon RunConnection InnerRun Permits Accounting

/-- In milliseconds, as every time. -/
def killActiveDelay : Nat := 60 * 1000

def badErrorDelay : Nat := 55 * 1000

def minEbbflowErrorDelay : Nat := 5 * 1000

def maxIdleConnectionTime : Nat := 60 * 62 * 1000

/-- What `jittersleep1p5` may draw. -/
def Jittered (dur slept : Nat) : Prop := dur ≤ slept ∧ 2 * slept < 3 * dur

inductive Nap
  | awake
  | badError
  | minimum
  | kill
  deriving DecidableEq, Repr

def napOf : Pc → Nap
  | .badErrorDelay => .badError
  | .minimumDelay => .minimum
  | .killDelay => .kill
  | _ => .awake

def Nap.Takes (slept : Nat) : Nap → Prop
  | awake => slept = 0
  | badError => Jittered badErrorDelay slept
  | minimum => Jittered minEbbflowErrorDelay slept
  | kill => Jittered killActiveDelay slept

def trafficStarted : Pc → Bool
  | .idleRemoved .stream => true
  | _ => false

/-- A connection with its use of an idle permit, which traffic cuts short, the
time since when it is active, and the time its last sleep is over. -/
structure Timed where
  task : ConnectionTask
  stint : Stint
  active : Option Nat
  wake : Nat

namespace Timed

def holds (x : Timed) : Bool := holdsIdle x.task

def spawned (setup : Setup) (info : SharedInfo) (sent : Bytes) : Timed :=
  ⟨.spawned setup info sent, ⟨none, none⟩, none, 0⟩

def moved (x : Timed) (now slept : Nat) (effect : Effect) (conn : Conn) : Timed where
  task := { x.task with conn := conn }
  stint :=
    { begun := if effect = .addIdle then some now else x.stint.begun
      early := if effect = .releaseIdle ∧ trafficStarted x.task.conn.pc = true then some now
        else x.stint.early }
  active := if effect = .addActive then some now else x.active
  wake := if napOf conn.pc = napOf x.task.conn.pc then x.wake else now + slept

/-- A sleep is slept out, and the time limit of the handshake does not fire early. -/
structure Ready (x : Timed) (now slept : Nat) (conn : Conn) : Prop where
  slept : napOf conn.pc ≠ napOf x.task.conn.pc → x.wake ≤ now ∧ (napOf conn.pc).Takes slept
  elapsed : conn.pc = .idleRemoved .elapsed → ∀ b ∈ x.stint.begun, b + maxIdleConnectionTime ≤ now

end Timed

theorem ready_awake {x : Timed} {now slept : Nat} {conn : Conn} (hnap : napOf conn.pc = napOf x.task.conn.pc)
    (hpc : conn.pc ≠ .idleRemoved .elapsed) : x.Ready now slept conn :=
  ⟨fun hne => absurd hnap hne, fun he => absurd he hpc⟩

structure System where
  loop : LoopPc
  idlesem : Nat
  maxsem : Nat
  tasks : List Timed
  now : Nat

namespace System

def generation (s : System) : Generation := ⟨s.loop, s.idlesem, s.maxsem, s.tasks.map (·.task)⟩

def called (args : EndpointArgs) (now : Nat) : System :=
  ⟨.acquireMax, args.idleconns.toNat, args.maxconns.toNat, [], now⟩

end System

/-- What a generation does at one moment, with its signal as it stands. -/
inductive Move (setup : Setup) (told : Bool) : System → System → Prop
  | loop {s : System} {effect : Effect} {g : Generation} {m' : EndpointMeta} (m : EndpointMeta) :
      InnerRun.Step setup told s.generation m effect g m' → g.tasks = s.generation.tasks →
      Move setup told s { s with loop := g.loop, idlesem := g.idlesem, maxsem := g.maxsem }
  | spawn {s : System} (info : SharedInfo) (sent : Bytes) : s.loop = .createArgs →
      Move setup told s { s with loop := .acquireMax, tasks := s.tasks ++ [.spawned setup info sent] }
  | connection {s : System} {pre post : List Timed} {x : Timed} {conn : Conn} {effect : Effect}
      (slept : Nat) : s.tasks = pre ++ x :: post →
      RunConnection.Step x.task.env told x.task.conn effect conn → x.Ready s.now slept conn →
      Move setup told s
        { s with
          idlesem := s.idlesem + released effect
          tasks := pre ++ x.moved s.now slept effect conn :: post }
  | ended {s : System} {pre post : List Timed} {x : Timed} : s.tasks = pre ++ x :: post →
      x.task.conn.pc = .returned → x.task.maxPermit = true →
      Move setup told s
        { s with
          maxsem := s.maxsem + 1
          tasks := pre ++ { x with task := { x.task with maxPermit := false } } :: post }

/-- Time passes as far as the connections allow it. The signal stands as it likes. -/
inductive Step (setup : Setup) (allows : Timed → Nat → Prop) : System → System → Prop
  | pass {s : System} (later : Nat) : s.now ≤ later → (∀ x ∈ s.tasks, allows x later) →
      Step setup allows s { s with now := later }
  | move {s s' : System} (told : Bool) : Move setup told s s' → Step setup allows s s'

inductive Run (setup : Setup) (allows : Timed → Nat → Prop) : System → Prop
  | called (now : Nat) : Run setup allows (.called setup.args now)
  | step {s s' : System} : Run setup allows s → Step setup allows s s' → Run setup allows s'

variable {setup : Setup} {allows : Timed → Nat → Prop} {s s' : System}

theorem generation_tasks {pre post : List Timed} {x : Timed} (h : s.tasks = pre ++ x :: post) :
    s.generation.tasks = pre.map (·.task) ++ x.task :: post.map (·.task) := by
  rw [System.generation, h, List.map_append, List.map_cons]

theorem step_counted {told : Bool} {g g' : Generation} {m m' : EndpointMeta} {effect : Effect}
    (h : InnerRun.Step setup told g m effect g' m') (n : EndpointMeta) :
    InnerRun.Step setup told g n effect g' (counted effect n) := by
  cases h with
  | acquireMax hloop hfree => exact .acquireMax hloop hfree
  | acquireIdle hloop hfree => exact .acquireIdle hloop hfree
  | spawn info sent hloop => exact .spawn info sent hloop
  | panicked hloop => exact .panicked hloop
  | stopped htold hloop => exact .stopped htold hloop
  | connection hsplit hconn => exact .connection hsplit hconn
  | ended hsplit hpc hmax => exact .ended hsplit hpc hmax

/-- With its clocks left out a move is a step of the generation. -/
theorem untimed {told : Bool} (h : Move setup told s s') (n : EndpointMeta) :
    ∃ effect, InnerRun.Step setup told s.generation n effect s'.generation (counted effect n) := by
  cases h with
  | @loop effect g m' m hstep htasks =>
      refine ⟨effect, ?_⟩
      have hg : g = ⟨g.loop, g.idlesem, g.maxsem, s.generation.tasks⟩ := by rw [← htasks]
      rw [hg] at hstep
      exact step_counted hstep n
  | spawn info sent hloop =>
      refine ⟨.silent, ?_⟩
      simp only [System.generation, List.map_append]
      exact .spawn info sent hloop
  | @connection pre post x conn effect slept hsplit hconn =>
      refine ⟨effect, ?_⟩
      simp only [System.generation, List.map_append, List.map_cons]
      exact .connection (generation_tasks hsplit) hconn
  | @ended pre post x hsplit hpc hmax =>
      refine ⟨.silent, ?_⟩
      simp only [System.generation, List.map_append, List.map_cons]
      exact .ended (generation_tasks hsplit) hpc hmax

theorem accounted_move {told : Bool} {idleconns maxconns : Nat} (h : Accounted idleconns maxconns s.generation)
    (hs : Move setup told s s') : Accounted idleconns maxconns s'.generation := by
  obtain ⟨effect, hstep⟩ := untimed hs (.new none)
  exact accounted_step h hstep

theorem move_now {told : Bool} (h : Move setup told s s') : s'.now = s.now := by
  cases h <;> rfl

theorem forall_move {told : Bool} {P : Timed → Prop} (hs : Move setup told s s') (h : ∀ x ∈ s.tasks, P x)
    (hspawned : ∀ info sent, P (.spawned setup info sent))
    (hmoved : ∀ x ∈ s.tasks, ∀ slept effect conn, RunConnection.Step x.task.env told x.task.conn effect conn →
      x.Ready s.now slept conn → P (x.moved s.now slept effect conn))
    (hended : ∀ x, P x → P { x with task := { x.task with maxPermit := false } }) : ∀ x ∈ s'.tasks, P x := by
  cases hs with
  | loop => exact h
  | spawn info sent =>
      exact List.forall_mem_append.mpr ⟨h, List.forall_mem_singleton.mpr (hspawned info sent)⟩
  | @connection pre post x conn effect slept hsplit hconn hready =>
      exact forall_mem_replace hsplit h (hmoved x (mem_of_split hsplit) slept effect conn hconn hready)
  | ended hsplit => exact forall_mem_replace hsplit h (hended _ (h _ (mem_of_split hsplit)))

theorem run_accounted (h : Run setup allows s) :
    Accounted setup.args.idleconns.toNat setup.args.maxconns.toNat s.generation := by
  induction h with
  | called now => exact accounted_start setup.args
  | step _ hs ih =>
      cases hs with
      | pass => exact ih
      | move _ hmove => exact accounted_move ih hmove

theorem holds_le (h : Accounted idleconns maxconns s.generation) : s.tasks.countP (·.holds) ≤ idleconns := by
  have hidle := h.idle
  have hcount : s.generation.tasks.countP holdsIdle = s.tasks.countP (·.holds) := List.countP_map
  omega

theorem permitted (h : Accounted idleconns maxconns s.generation) : ∀ x ∈ s.tasks, Permitted x.task.conn :=
  fun x hx => (h.sound x.task (List.mem_map_of_mem hx)).permitted

end Ebbflow.TimedConnections
