import Ebbflow.PermitBalance

namespace Ebbflow.CreateArgs

open Lib.Wire Daemon EstablishConnection RunConnection InnerRun PermitBalance

abbrev Ipv4Addr := BitVec 32

def ipv4 (a b c d : UInt8) : Ipv4Addr := a.toBitVec ++ b.toBitVec ++ c.toBitVec ++ d.toBitVec

def ebbflowPort : UInt16 := 443

/-- What becomes of an `ipv4_lookup` under its timeout. -/
inductive Lookup
  | timedOut
  | failed
  | noRecords
  | found (ips : List Ipv4Addr)
  deriving DecidableEq

def ips : Lookup → Except Unit (List Ipv4Addr)
  | .timedOut => .error ()
  | .failed => .error ()
  | .noRecords => .ok []
  | .found ips => .ok ips

def fallbacks : List Ipv4Addr := [ipv4 75 2 87 195, ipv4 99 83 181 168, ipv4 34 120 207 167]

/-- A draw from a list, as the random generator happens to stand. -/
structure Choose (α : Type) where
  choose : List α → Option α
  mem : ∀ l a, choose l = some a → a ∈ l
  isSome : ∀ l, l ≠ [] → (choose l).isSome

def Choose.first (α : Type) : Choose α where
  choose := List.head?
  mem _ _ := List.mem_of_head?
  isSome l h := by
    cases l with
    | nil => exact absurd rfl h
    | cons a l => rfl

def candidates (lookup : Lookup) : List Ipv4Addr :=
  match ips lookup with
  | .ok ips => ips
  | .error _ => fallbacks

/-- The address to dial; without one the call panics. -/
def ebbflowAddr (hardcoded : Option SocketAddr) (lookup : Lookup) (rng : Choose Ipv4Addr) :
    Option SocketAddr :=
  match hardcoded with
  | some overridden => some overridden
  | none => (rng.choose (candidates lookup)).map fun chosen => ⟨.V4 chosen, ebbflowPort⟩

/-- One call of `inner_run_endpoint` with what its `create_args` calls read and
looked up. A stamp says when a key was read. -/
structure Loop (τ : Type) where
  generation : Generation
  /-- What the `create_args` call under way has read. -/
  reading : Option (SharedInfo × τ)
  /-- The same for each connection spawned, in the order of the tasks. -/
  origins : List (SharedInfo × τ)
  /-- The calls that are over, latest first. -/
  calls : List (Lookup × Option SocketAddr)
  stopped : Bool

variable {τ : Type}

def Loop.called (args : EndpointArgs) : Loop τ := ⟨.start args, none, [], [], false⟩

/-- `create_args` reads the key before it waits for the address. `info` and
`now` are the key cell and the time of the step. -/
inductive LoopStep (setup : Setup) (hardcoded : Option SocketAddr) (told : Bool) (info : SharedInfo)
    (now : τ) : Loop τ → EndpointMeta → Loop τ → EndpointMeta → Prop
  | enter {l : Loop τ} {m : EndpointMeta} : l.generation.loop = .acquireIdle → 0 < l.generation.idlesem →
      LoopStep setup hardcoded told info now l m
        { l with
          generation :=
            { l.generation with loop := .createArgs, idlesem := l.generation.idlesem - 1 }
          reading := some (info, now) } m
  | resolved {l : Loop τ} {m : EndpointMeta} {read : SharedInfo × τ} {addr : SocketAddr} (lookup : Lookup)
      (rng : Choose Ipv4Addr) (sent : Bytes) : l.generation.loop = .createArgs → l.reading = some read →
      ebbflowAddr hardcoded lookup rng = some addr →
      LoopStep setup hardcoded told info now l m
        { l with
          generation :=
            { l.generation with
              loop := .acquireMax, tasks := l.generation.tasks ++ [.spawned setup read.1 sent] }
          reading := none
          origins := l.origins ++ [read]
          calls := (lookup, some addr) :: l.calls } m
  | panicked {l : Loop τ} {m : EndpointMeta} (lookup : Lookup) (rng : Choose Ipv4Addr) :
      l.generation.loop = .createArgs → ebbflowAddr hardcoded lookup rng = none →
      LoopStep setup hardcoded told info now l m
        { l with
          generation := l.generation.drop, reading := none, calls := (lookup, none) :: l.calls } m
  | stopped {l : Loop τ} {m : EndpointMeta} : told = true → l.generation.loop ≠ .dropped →
      LoopStep setup hardcoded told info now l m
        { l with generation := l.generation.drop, reading := none, stopped := true } m
  -- the loop takes a max permit, or a connection moves
  | other {l : Loop τ} {m m' : EndpointMeta} {effect : Effect} {g : Generation} :
      InnerRun.Step setup told l.generation m effect g m' →
      g.loop = l.generation.loop ∨ (l.generation.loop = .acquireMax ∧ g.loop = .acquireIdle) →
      LoopStep setup hardcoded told info now l m { l with generation := g } m'

inductive Run (setup : Setup) (hardcoded : Option SocketAddr) : Loop τ → EndpointMeta → Prop
  | called (m) : Run setup hardcoded (.called setup.args) m
  | step {l l' : Loop τ} {m m' : EndpointMeta} (told : Bool) (info : SharedInfo) (now : τ) :
      Run setup hardcoded l m → LoopStep setup hardcoded told info now l m l' m' →
      Run setup hardcoded l' m'

variable {setup : Setup} {hardcoded : Option SocketAddr} {told : Bool} {info : SharedInfo} {now : τ}
  {l l' : Loop τ} {m m' : EndpointMeta}

theorem step_generation (h : LoopStep setup hardcoded told info now l m l' m') :
    ∃ effect, InnerRun.Step setup told l.generation m effect l'.generation m' := by
  cases h with
  | enter hloop hsem => exact ⟨_, .acquireIdle hloop hsem⟩
  | resolved _ _ sent hloop _ _ => exact ⟨_, .spawn _ sent hloop⟩
  | panicked _ _ hloop _ => exact ⟨_, .panicked hloop⟩
  | stopped htold hloop => exact ⟨_, .stopped htold hloop⟩
  | other hstep _ => exact ⟨_, hstep⟩

def Empty (lookup : Lookup) : Prop := lookup = .noRecords ∨ lookup = .found []

instance (lookup : Lookup) : Decidable (Empty lookup) := inferInstanceAs (Decidable (_ ∨ _))

def resolved : Lookup → List Ipv4Addr
  | .found ips => ips
  | .timedOut | .failed | .noRecords => []

structure ValidAddr (lookup : Lookup) (addr : SocketAddr) : Prop where
  port : addr.port = ebbflowPort
  ip : ∃ ip, addr.ip = .V4 ip ∧ (ip ∈ resolved lookup ∨ (resolved lookup = [] ∧ ip ∈ fallbacks))

/-- Every call so far gave an address, and only the signal ended the loop. -/
structure Survives (l : Loop τ) : Prop where
  calls : ∀ call ∈ l.calls, ∃ addr, call.2 = some addr ∧ ValidAddr call.1 addr
  ended : l.generation.loop = .dropped → l.stopped = true

theorem candidates_eq_nil {lookup : Lookup} : candidates lookup = [] ↔ Empty lookup := by
  cases lookup with
  | timedOut => simp [candidates, ips, fallbacks, Empty]
  | failed => simp [candidates, ips, fallbacks, Empty]
  | noRecords => simp [candidates, ips, Empty]
  | found ips => simp [candidates, CreateArgs.ips, Empty]

theorem mem_candidates {lookup : Lookup} {ip : Ipv4Addr} (h : ip ∈ candidates lookup) :
    ip ∈ resolved lookup ∨ (resolved lookup = [] ∧ ip ∈ fallbacks) := by
  cases lookup with
  | timedOut => exact .inr ⟨rfl, h⟩
  | failed => exact .inr ⟨rfl, h⟩
  | noRecords => cases h
  | found ips => exact .inl h

theorem ebbflowAddr_none (lookup : Lookup) (rng : Choose Ipv4Addr) :
    ebbflowAddr none lookup rng = none ↔ Empty lookup := by
  rw [ebbflowAddr, Option.map_eq_none_iff, ← candidates_eq_nil]
  constructor
  · intro h
    by_contra hne
    have hsome := rng.isSome _ hne
    rw [h] at hsome
    cases hsome
  · intro h
    cases hc : rng.choose (candidates lookup) with
    | none => rfl
    | some ip =>
        have hm := rng.mem _ _ hc
        rw [h] at hm
        cases hm

theorem ebbflowAddr_valid {lookup : Lookup} {rng : Choose Ipv4Addr} {addr : SocketAddr}
    (h : ebbflowAddr none lookup rng = some addr) : ValidAddr lookup addr := by
  obtain ⟨ip, hip, rfl⟩ := Option.map_eq_some_iff.mp h
  exact ⟨rfl, ip, rfl, mem_candidates (rng.mem _ _ hip)⟩

structure Accounted (l : Loop τ) : Prop where
  calls : ∀ call ∈ l.calls, ∃ rng, call.2 = ebbflowAddr none call.1 rng
  ended : l.generation.loop = .dropped → l.stopped = true ∨ ∃ call ∈ l.calls, call.2 = none

theorem accounted_cons {calls : List (Lookup × Option SocketAddr)} {lookup : Lookup}
    {addr : Option SocketAddr} (h : ∀ call ∈ calls, ∃ rng, call.2 = ebbflowAddr none call.1 rng)
    (rng : Choose Ipv4Addr) (ha : ebbflowAddr none lookup rng = addr) :
    ∀ call ∈ (lookup, addr) :: calls, ∃ rng, call.2 = ebbflowAddr none call.1 rng := by
  intro call hm
  rcases List.mem_cons.mp hm with rfl | hm
  · exact ⟨rng, ha.symm⟩
  · exact h call hm

theorem accounted_step (h : Accounted l) (hs : LoopStep setup none told info now l m l' m') :
    Accounted l' := by
  cases hs with
  | enter _ _ => exact ⟨h.calls, by simp⟩
  | resolved lookup rng _ _ _ ha => exact ⟨accounted_cons h.calls rng ha, by simp⟩
  | panicked lookup rng _ ha =>
      exact ⟨accounted_cons h.calls rng ha, fun _ => .inr ⟨_, List.mem_cons_self, rfl⟩⟩
  | stopped _ _ => exact ⟨h.calls, fun _ => .inl rfl⟩
  | other _ hloop =>
      refine ⟨h.calls, fun hd => ?_⟩
      rcases hloop with hsame | ⟨_, hidle⟩
      · exact h.ended (hsame.symm.trans hd)
      · simp [hidle] at hd

theorem run_accounted (h : Run setup none l m) : Accounted l := by
  induction h with
  | called m => exact ⟨by simp [Loop.called], by simp [Loop.called, Generation.start]⟩
  | step _ _ _ _ hs ih => exact accounted_step ih hs

/-- Without a hardcoded address the loop survives exactly the lookups that fail
or find something; an answer without addresses makes it panic. -/
theorem survives_iff (h : Run setup none l m) :
    Survives l ↔ ∀ call ∈ l.calls, call.1 ≠ .noRecords ∧ call.1 ≠ .found [] := by
  have ha := run_accounted h
  have hnone : ∀ call ∈ l.calls, call.2 = none ↔ Empty call.1 := by
    intro call hm
    obtain ⟨rng, hc⟩ := ha.calls call hm
    rw [hc, ebbflowAddr_none]
  constructor
  · intro hs call hm
    rw [← not_or]
    intro hempty
    obtain ⟨addr, hsome, _⟩ := hs.calls call hm
    rw [(hnone call hm).mpr hempty] at hsome
    cases hsome
  · intro hall
    refine ⟨?_, ?_⟩
    · intro call hm
      obtain ⟨rng, hc⟩ := ha.calls call hm
      cases hr : call.2 with
      | none => exact absurd ((hnone call hm).mp hr) (not_or.mpr (hall call hm))
      | some addr => exact ⟨addr, rfl, ebbflowAddr_valid (hc.symm.trans hr)⟩
    · intro hd
      rcases ha.ended hd with hstopped | ⟨call, hm, hr⟩
      · exact hstopped
      · exact absurd ((hnone call hm).mp hr) (not_or.mpr (hall call hm))

theorem run_looking : ∃ l m, Run (τ := Unit) sampleSetup none l m ∧
    l.generation.loop = .createArgs ∧ l.reading = some (⟨some "key"⟩, ()) ∧ l.calls = [] ∧
    l.stopped = false := by
  have r : Run (τ := Unit) sampleSetup none _ _ := .called (.new none)
  have r := r.step false ⟨some "key"⟩ () (.other (.acquireMax rfl (by decide)) (.inr ⟨rfl, rfl⟩))
  have r := r.step false ⟨some "key"⟩ () (.enter rfl (by decide))
  exact ⟨_, _, r, rfl, rfl, rfl, rfl⟩

theorem survives_iff_sample :
    ∃ l m, Run (τ := Unit) sampleSetup none l m ∧ l.calls.length = 1 ∧ Survives l := by
  obtain ⟨l, m, r, hloop, hread, hcalls, _⟩ := run_looking
  have r := r.step false ⟨some "key"⟩ ()
    (.resolved (.found [ipv4 192 0 2 1]) (.first _) [] hloop hread rfl)
  refine ⟨_, _, r, by simp [hcalls], (survives_iff r).mpr ?_⟩
  simp [hcalls]

/-- A name without records ends the loop for good. -/
theorem no_records_panics :
    ¬ ∀ setup (l : Loop Unit) m, Run setup none l m → Survives l := by
  intro h
  obtain ⟨l, m, r, hloop, _, _, hstopped⟩ := run_looking
  have r := r.step false ⟨some "key"⟩ () (.panicked .noRecords (.first _) hloop rfl)
  have hended := (h _ _ _ r).ended rfl
  rw [hstopped] at hended
  cases hended

end Ebbflow.CreateArgs
