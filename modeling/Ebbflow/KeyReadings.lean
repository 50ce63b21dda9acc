import Ebbflow.CreateArgs
import Ebbflow.HandshakeSafety
import Ebbflow.Lib.Tally

namespace Ebbflow.KeyReadings

open Lib.Tally Daemon EstablishConnection RunConnection InnerRun ConnectionRun HandshakeSafety CreateArgs

/-- A generation of connections of a spawned endpoint. A stamp says when its loop
has read the key cell. -/
structure Connections (τ : Type) where
  setup : Setup
  loop : CreateArgs.Loop τ

variable {τ : Type} {P Q : SharedInfo × τ → Prop} {setup : Setup} {t : ConnectionTask} {read : SharedInfo × τ}
  {told : Bool} {info : SharedInfo} {now : τ} {m m' : EndpointMeta} {hardcoded : Option SocketAddr}
  {l : Connections τ} {loops loops' : List (Connections τ)}

/-- One of the loops moves. Signals and counters stand as they like. -/
inductive Move (hardcoded : Option SocketAddr) (info : SharedInfo) (now : τ) :
    List (Connections τ) → List (Connections τ) → Prop
  | loop {loops pre post : List (Connections τ)} {l : Connections τ} {loop : CreateArgs.Loop τ} {told : Bool}
      {m m' : EndpointMeta} : loops = pre ++ l :: post →
      LoopStep l.setup hardcoded told info now l.loop m loop m' →
      Move hardcoded info now loops (pre ++ { l with loop := loop } :: post)

theorem not_move_nil : ¬ Move hardcoded info now [] loops' := by
  rintro ⟨hsplit, _⟩
  cases List.nil_eq_append_iff.mp hsplit |>.2

theorem move_single {loop : CreateArgs.Loop τ} (told : Bool) (m m' : EndpointMeta)
    (hstep : LoopStep l.setup hardcoded told info now l.loop m loop m') :
    Move hardcoded info now [l] [{ l with loop := loop }] :=
  @Move.loop _ _ _ _ _ [] [] l loop told m m' rfl hstep

/-- The connection greets with this key, and says no more than the protocol lets it. -/
structure Greets (key : String) (setup : Setup) (t : ConnectionTask) : Prop where
  env : t.env = ⟨setup.cbor, setup.debug, ⟨setup.args.endpoint, key, setup.addrs, setup.args.ctype⟩⟩
  key : t.env.args.key = key
  spoken : Spoken t.env t.conn.wires.ebb.sent t.conn.wires

structure MadeFrom (setup : Setup) (t : ConnectionTask) (read : SharedInfo × τ) : Prop where
  env : t.env = ⟨setup.cbor, setup.debug, createArgs read.1 setup.args setup.addrs⟩
  ran : Ran t.env t.conn

theorem MadeFrom.greets {key : String} (h : MadeFrom setup t read) (hkey : read.1.key = some key) :
    Greets key setup t := by
  have henv := h.env
  rw [createArgs, hkey, Option.getD_some] at henv
  exact ⟨henv, by rw [henv], ran_spoken h.ran⟩

/-- Every connection was made from a reading, and all readings meet `P`. -/
structure Kept (P : SharedInfo × τ → Prop) (l : Connections τ) : Prop where
  reading : ∀ read, l.loop.reading = some read → P read
  origins : ∀ read ∈ l.loop.origins, P read
  tasks : List.Forall₂ (MadeFrom l.setup) l.loop.generation.tasks l.loop.origins

theorem Kept.imp (h : Kept P l) (himp : ∀ read, P read → Q read) : Kept Q l where
  reading read hread := himp read (h.reading read hread)
  origins read hread := himp read (h.origins read hread)
  tasks := h.tasks

theorem kept_called (P : SharedInfo × τ → Prop) (setup : Setup) (args : EndpointArgs) :
    Kept P ⟨setup, .called args⟩ where
  reading read hread := by cases hread
  origins read hread := by cases hread
  tasks := .nil

theorem madeFrom_step {g g' : Generation} {effect : Effect} {origins : List (SharedInfo × τ)}
    (h : List.Forall₂ (MadeFrom setup) g.tasks origins) (hstep : InnerRun.Step setup told g m effect g' m')
    (hloop : g'.loop = g.loop ∨ (g.loop = .acquireMax ∧ g'.loop = .acquireIdle)) :
    List.Forall₂ (MadeFrom setup) g'.tasks origins := by
  cases hstep with
  | acquireMax | acquireIdle | panicked | stopped => exact h
  | spawn info sent hcreate => simp [hcreate] at hloop
  | connection htasks hconn =>
      rw [htasks] at h
      exact forall₂_replace h fun read hmade => ⟨hmade.env, hmade.ran.step hconn⟩
  | ended htasks _ _ =>
      rw [htasks] at h
      exact forall₂_replace h fun read hmade => ⟨hmade.env, hmade.ran⟩

theorem kept_step {loop : CreateArgs.Loop τ} (h : Kept P l) (hread : P (info, now))
    (hstep : LoopStep l.setup hardcoded told info now l.loop m loop m') : Kept P { l with loop := loop } := by
  cases hstep with
  | enter _ _ =>
      refine ⟨?_, h.origins, h.tasks⟩
      rintro read ⟨rfl⟩
      exact hread
  | resolved _ _ sent _ hreading _ =>
      refine ⟨by simp, ?_, List.rel_append h.tasks (.cons ⟨rfl, ran_spawned⟩ .nil)⟩
      intro read hm
      rcases List.mem_append.mp hm with hm | hm
      · exact h.origins read hm
      · obtain rfl := List.mem_singleton.mp hm
        exact h.reading _ hreading
  | panicked _ _ _ _ => exact ⟨by simp, h.origins, h.tasks⟩
  | stopped _ _ => exact ⟨by simp, h.origins, h.tasks⟩
  | other hinner hloop => exact ⟨h.reading, h.origins, madeFrom_step h.tasks hinner hloop⟩

theorem kept_move (h : ∀ l ∈ loops, Kept P l) (hread : P (info, now))
    (hmove : Move hardcoded info now loops loops') : ∀ l ∈ loops', Kept P l := by
  cases hmove with
  | loop hsplit hstep => exact forall_mem_replace hsplit h (kept_step (h _ (mem_of_split hsplit)) hread hstep)

theorem kept_startUp (h : ∀ l ∈ loops, Kept P l) (setup : Setup) (args : EndpointArgs) :
    ∀ l ∈ loops ++ [⟨setup, .called args⟩], Kept P l :=
  List.forall_mem_append.mpr ⟨h, List.forall_mem_singleton.mpr (kept_called P setup args)⟩

theorem Kept.made (h : Kept P l) :
    List.Forall₂ (fun t read => MadeFrom l.setup t read ∧ P read) l.loop.generation.tasks l.loop.origins :=
  forall₂_right h.tasks h.origins

end Ebbflow.KeyReadings
