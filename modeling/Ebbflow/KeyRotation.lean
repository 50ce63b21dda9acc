import Ebbflow.KeyGating
import Ebbflow.Settling

namespace Ebbflow.KeyRotation

open Daemon EstablishConnection InnerRun CreateArgs KeyReadings
open ConfigFile ConfigRefinement Runner Convergence
open Lib.Descent (Stuck)
open RunDaemon hiding Loop
open Relation
open Console (Event Restored restored_of_roundTrip wanted)
open ConfigWatch (Reads reads_key)
open RunnerSystem (Machine)
open Settling (Own Settled Bound Due pending own_pending bound_own bound_serves stuck_settled)
open TornWrites (keyOf applyReloaded_key)

/-- The commands, the files and the daemon, among the connections that the
endpoints of the daemon make. A reading of the key cell is stamped with the
number of steps before it. -/
structure System where
  host : Convergence.System
  loops : List (Connections Nat)
  now : Nat

/-- `among` are the steps that the host may take. -/
inductive Step (among : Convergence.System → Convergence.System → Prop) (machine : Machine) :
    System → System → Prop
  | host {s : System} {host : Convergence.System} : among s.host host →
      Step among machine s ⟨host, s.loops, s.now + 1⟩
  | startUp {s : System} {task : TaskId} {args : EndpointArgs} (addrs : List SocketAddr) :
      .spawned task args ∈ s.host.loop.runner.rt.log.events →
      Step among machine s
        ⟨s.host, s.loops ++ [⟨⟨machine.cbor, machine.debug, args, addrs⟩, .called args⟩], s.now + 1⟩
  | loop {s : System} {loops : List (Connections Nat)} :
      Move machine.hardcoded s.host.loop.runner.rt.info s.now s.loops loops →
      Step among machine s ⟨s.host, loops, s.now + 1⟩

inductive Reached (y : SerdeYaml) (machine : Machine) : System → Prop
  | new {config key : File} (clock : String) : Console.Blank config → Console.Blank key →
      Reached y machine ⟨.new config key clock, [], 0⟩
  | step {s s' : System} : Reached y machine s → Step (Convergence.Step y machine.osHostname) machine s s' →
      Reached y machine s'

def Quiet (y : SerdeYaml) (osHostname : String) (s t : Convergence.System) : Prop :=
  Convergence.Step y osHostname s t ∧ t.session = s.session

abbrev Steps (among : Convergence.System → Convergence.System → Prop) (machine : Machine) :
    System → System → Prop :=
  ReflTransGen (Step among machine)

def Asked (history : List Event) (k : String) : Prop := ∃ p, p <+: history ∧ (wanted p).key = some k

section Runs

variable {y : SerdeYaml} {machine : Machine} {s t u : System}
  {among : Convergence.System → Convergence.System → Prop}
  {host host' : Convergence.System} {runner : InnerDaemonRunner} {calls : List Call} {m : ConfigMap} {k : String}

structure ReadFrom (history : List Event) (now : Nat) (read : SharedInfo × Nat) : Prop where
  asked : ∃ k, read.1.key = some k ∧ Asked history k
  before : read.2 < now

structure Inv (s : System) : Prop where
  loops : ∀ l ∈ s.loops, Kept (ReadFrom s.host.session.history s.now) l
  keyed : s.loops ≠ [] → s.host.loop.runner.rt.info.key.isSome

theorem run_unkeyed (h : Runner.Run machine.osHostname calls runner) (hkey : runner.rt.info.key = none) :
    runner.rt.log.events = [] := by
  induction h with
  | new info clock => rfl
  | @call calls s c _ ih =>
      rw [RunnerKey.updateConfig_key, Option.or_eq_none_iff] at hkey
      rcases updateConfig_cases machine.osHostname s c.config c.key with ⟨_, _, _, hlog⟩ | ⟨_, _, hset, _⟩
      · rw [hlog]
        exact ih hkey.2
      · simp [hkey] at hset
  | background _ hb ih =>
      rw [hb.info] at hkey
      rw [hb.log]
      exact ih hkey

theorem host_key (h : Convergence.Step y machine.osHostname host host')
    (hset : host.loop.runner.rt.info.key.isSome) : host'.loop.runner.rt.info.key.isSome := by
  cases h with
  | session | deliver | spurious => exact hset
  | background hb =>
      rw [hb.info]
      exact hset
  | loop _ _ hnext =>
      cases RunDaemon.Loop.next_step hnext with
      | apply => rw [applyReloaded_key, Option.isSome_or, hset, Bool.or_true]
      | readConfig | failConfig | readKey | failKey | consume | park | resume => exact hset

theorem ReadFrom.mono {history history' : List Event} {now now' : Nat} {read : SharedInfo × Nat}
    (h : ReadFrom history now read) (hle : history <+: history') (hnow : now ≤ now') :
    ReadFrom history' now' read where
  asked := by
    obtain ⟨k, hk, p, hp, hwanted⟩ := h.asked
    exact ⟨k, hk, p, hp.trans hle, hwanted⟩
  before := Nat.lt_of_lt_of_le h.before hnow

theorem reached_host (h : Reached y machine s) : Convergence.Reached y machine.osHostname s.host := by
  induction h with
  | new clock hconfig hkey => exact .new clock hconfig hkey
  | step _ hs ih =>
      cases hs with
      | host hhost => exact ih.step hhost
      | startUp | loop => exact ih

theorem inv_step (h : Inv s) (htraced : Traced y machine.osHostname s.host)
    (hrun : Runner.Run machine.osHostname calls s.host.loop.runner)
    (hs : Step (Convergence.Step y machine.osHostname) machine s t) : Inv t := by
  have hlater : ∀ l ∈ s.loops, Kept (ReadFrom s.host.session.history (s.now + 1)) l :=
    fun l hl => (h.loops l hl).imp fun _ hread => hread.mono List.prefix_rfl (Nat.le_succ _)
  cases hs with
  | host hhost =>
      refine ⟨?_, fun hne => host_key hhost (h.keyed hne)⟩
      intro l hl
      exact (hlater l hl).imp fun _ hread => hread.mono (session_history hhost) le_rfl
  | @startUp task args addrs hspawned =>
      refine ⟨kept_startUp hlater _ args, fun _ => ?_⟩
      rw [← Option.ne_none_iff_isSome]
      intro hnone
      rw [run_unkeyed hrun hnone] at hspawned
      cases hspawned
  | loop hmove =>
      have hset := h.keyed fun hnil => not_move_nil (hnil ▸ hmove)
      obtain ⟨k, hk⟩ := Option.isSome_iff_exists.mp hset
      exact ⟨kept_move hlater ⟨⟨k, hk, htraced.key k hk⟩, Nat.lt_succ_self _⟩ hmove, fun _ => hset⟩

theorem step_history (hs : Step (Convergence.Step y machine.osHostname) machine s t) :
    s.host.session.history <+: t.host.session.history := by
  cases hs with
  | host hhost => exact session_history hhost
  | startUp | loop => exact List.prefix_rfl

theorem reached_inv (hempty : y.EmptyDocument) (h : Reached y machine s) (hy : Restored y s.host.session.history) :
    Inv s := by
  induction h with
  | new => exact ⟨fun l hl => (by cases hl), fun hne => absurd rfl hne⟩
  | step hbefore hs ih =>
      have hhost := reached_host hbefore
      obtain ⟨_, hrun⟩ := reached_run hhost
      have hrestored := hy.before (step_history hs)
      exact inv_step (ih hrestored) (reached_traced hempty hhost hrestored) hrun hs

/-- The key that was asked for last is in the cell, and no other is on its way. -/
structure Rested (y : SerdeYaml) (m : ConfigMap) (k : String) (host : Convergence.System) : Prop where
  sound : Console.Sound y host.session
  idle : host.session.todo = []
  wanted : wanted host.session.history = ⟨some m, some k⟩
  cell : host.loop.runner.rt.info.key = some k
  loaded : ∀ began read result, host.loop.phase = .loaded began read result → ∀ k', keyOf result = some k' → k' = k

theorem notified_phase (l : RunDaemon.Loop Stamp) : l.notified.phase = .woken ∨ l.notified.phase = l.phase := by
  rw [RunDaemon.Loop.notified]
  dsimp only
  split
  · exact .inl rfl
  · exact .inr rfl

theorem Rested.notified (h : Rested y m k host) (n : Nat) :
    Rested y m k { host with undelivered := n, loop := host.loop.notified } where
  sound := h.sound
  idle := h.idle
  wanted := h.wanted
  cell := h.cell
  loaded began read result hphase := by
    rcases notified_phase host.loop with hwoken | hsame
    · cases hwoken.symm.trans hphase
    · exact h.loaded began read result (hsame.symm.trans hphase)

theorem rested_loop (h : Rested y m k host) {config key : File} {l : RunDaemon.Loop Stamp}
    (hkey : Reads host.session.files.key key)
    (hs : RunDaemon.Loop.Step y machine.osHostname host.stamp config key host.loop l) :
    Rested y m k { host with loop := l } := by
  refine ⟨h.sound, h.idle, h.wanted, ?_, ?_⟩
  · cases hs with
    | readConfig | failConfig | readKey | failKey | consume | park | resume => exact h.cell
    | @apply _ _ result hp =>
        rw [applyReloaded_key, h.cell]
        cases hk : keyOf result with
        | none => rfl
        | some k' =>
            rw [h.loaded _ _ _ hp k' hk]
            rfl
  · cases hs with
    | readConfig | consume | park | resume | apply =>
        rintro _ _ _ ⟨⟩
    | failConfig | failKey =>
        rintro _ _ _ ⟨⟩ k' hk
        cases hk
    | readKey _ hr =>
        rintro _ _ _ ⟨⟩ k' rfl
        have hwanted := h.sound.reload_key (reads_key hkey hr)
        rw [h.wanted] at hwanted
        exact (Option.some.inj hwanted).symm

theorem rested_step (h : Rested y m k host) (hs : Quiet y machine.osHostname host host') : Rested y m k host' := by
  obtain ⟨hs, hsession⟩ := hs
  cases hs with
  | @session n session _ =>
      obtain rfl : session = host.session := hsession
      exact ⟨h.sound, h.idle, h.wanted, h.cell, h.loaded⟩
  | deliver | spurious => exact h.notified _
  | loop _ hkey hnext => exact rested_loop h hkey (RunDaemon.Loop.next_step hnext)
  | background hb => exact ⟨h.sound, h.idle, h.wanted, (congrArg _ hb.info).trans h.cell, h.loaded⟩

def Renewed (k : String) (since : Nat) (read : SharedInfo × Nat) : Prop := since ≤ read.2 → read.1.key = some k

theorem renewed_step {since : Nat} (h : Rested y m k s.host) (hl : ∀ l ∈ s.loops, Kept (Renewed k since) l)
    (hs : Step (Quiet y machine.osHostname) machine s t) :
    Rested y m k t.host ∧ ∀ l ∈ t.loops, Kept (Renewed k since) l := by
  cases hs with
  | host hhost => exact ⟨rested_step h hhost, hl⟩
  | @startUp task args addrs _ => exact ⟨h, kept_startUp hl _ args⟩
  | loop hmove => exact ⟨h, kept_move hl (fun _ => h.cell) hmove⟩

theorem renewed_steps {since : Nat} (h : Rested y m k s.host) (hl : ∀ l ∈ s.loops, Kept (Renewed k since) l)
    (hs : Steps (Quiet y machine.osHostname) machine s t) :
    Rested y m k t.host ∧ ∀ l ∈ t.loops, Kept (Renewed k since) l := by
  induction hs with
  | refl => exact ⟨h, hl⟩
  | tail _ hstep ih => exact renewed_step ih.1 ih.2 hstep

theorem Step.mono {among' : Convergence.System → Convergence.System → Prop}
    (hle : ∀ host host', among host host' → among' host host') (hs : Step among machine s t) :
    Step among' machine s t := by
  cases hs with
  | host hhost => exact .host (hle _ _ hhost)
  | startUp addrs hspawned => exact .startUp addrs hspawned
  | loop hmove => exact .loop hmove

theorem bound_steps (hempty : y.EmptyDocument) (h : Reached y machine s)
    (hbound : Bound y machine.osHostname m k s.host) (hs : Steps (Own y machine.osHostname) machine s t) :
    Reached y machine t ∧ Bound y machine.osHostname m k t.host := by
  induction hs with
  | refl => exact ⟨h, hbound⟩
  | tail _ hstep ih =>
      refine ⟨ih.1.step (hstep.mono fun _ _ => Own.step), ?_⟩
      cases hstep with
      | host hhost => exact bound_own hempty ih.2 hhost
      | startUp | loop => exact ih.2

theorem lift_steps (machine : Machine) {n : Nat} (h : Lib.Descent.Steps among s.host n host) :
    ∃ t, Steps among machine s t ∧ t.host = host ∧ t.loops = s.loops := by
  induction h with
  | refl => exact ⟨s, .refl, rfl, rfl⟩
  | tail _ hstep ih =>
      obtain ⟨t, hsteps, rfl, hloops⟩ := ih
      exact ⟨_, hsteps.tail (.host hstep), rfl, hloops⟩

/-- Every connection greets with a key that was asked for. A key that was saved
last is, once the daemon is at rest, the key of every connection that reads the
cell from then on, until a command does something. -/
theorem rotated_keys_reach_the_wire (hempty : y.EmptyDocument) (h : Reached y machine s)
    (hy : Restored y s.host.session.history) :
    (∀ l ∈ s.loops, List.Forall₂ (fun t _ => ∃ k, Asked s.host.session.history k ∧ Greets k l.setup t)
      l.loop.generation.tasks l.loop.origins) ∧
    ∀ m k, s.host.session.todo = [] → wanted s.host.session.history = ⟨some m, some k⟩ → s.host.undelivered ≠ 0 →
      (∃ t, Steps (Own y machine.osHostname) machine s t ∧ Stuck (Own y machine.osHostname) t.host) ∧
      ∀ t, Steps (Own y machine.osHostname) machine s t → Stuck (Own y machine.osHostname) t.host →
        ∀ u, Steps (Quiet y machine.osHostname) machine t u → ∀ l ∈ u.loops,
          List.Forall₂ (fun task read => t.now ≤ read.2 → Greets k l.setup task)
            l.loop.generation.tasks l.loop.origins := by
  refine ⟨?_, ?_⟩
  · intro l hl
    refine ((reached_inv hempty h hy).loops l hl).made.imp ?_
    rintro t read ⟨hmade, hread⟩
    obtain ⟨k, hk, hasked⟩ := hread.asked
    exact ⟨k, hasked, hmade.greets hk⟩
  · intro m k hidle hw hnews
    have hbound : Bound y machine.osHostname m k s.host := ⟨reached_host h, hidle, hw, hy, .inl hnews⟩
    refine ⟨?_, ?_⟩
    · obtain ⟨n, host, hsteps, hstuck⟩ := Lib.Descent.exists_stuck own_pending s.host
      obtain ⟨t, hlifted, rfl, _⟩ := lift_steps machine hsteps
      exact ⟨t, hlifted, hstuck⟩
    · intro t hown hstuck u hquiet l hl
      obtain ⟨hreached, hbound⟩ := bound_steps hempty h hbound hown
      have hrested : Rested y m k t.host := by
        refine ⟨(reached_traced hempty hbound.reached hbound.restored).sound, hbound.idle, hbound.wanted, ?_, ?_⟩
        · exact (bound_serves hempty hbound hstuck).2
        · intro began read result hphase
          cases (stuck_settled hstuck).parked.symm.trans hphase
      have hbefore : ∀ l ∈ t.loops, Kept (Renewed k t.now) l := by
        intro l hl
        refine ((reached_inv hempty hreached hbound.restored).loops l hl).imp fun read hread hsince => ?_
        exact absurd hread.before (Nat.not_lt_of_le hsince)
      refine ((renewed_steps hrested hbefore hquiet).2 l hl).made.imp ?_
      rintro task read ⟨hmade, hread⟩ hsince
      exact hmade.greets (hread hsince)

theorem lift_reached (h : Convergence.Reached y machine.osHostname host) :
    ∃ s, Reached y machine s ∧ s.host = host ∧ s.loops = [] := by
  induction h with
  | new clock hconfig hkey => exact ⟨_, .new clock hconfig hkey, rfl, rfl⟩
  | step _ hs ih =>
      obtain ⟨s, hreached, rfl, hloops⟩ := ih
      exact ⟨_, hreached.step (.host hs), rfl, hloops⟩

end Runs

open KeyGating (sampleMachine)
open ServedMap (servedConfig served_run served_wanted asks_endpoint)
open TornWrites (savedYaml savedYaml_roundTrip)

def servedArgs : EndpointArgs := capIdle (endpointArgs ⟨8080, "a.example", 5000, 40, true, none⟩)

theorem served_asks : AskedTasks.Asks "host" servedConfig.view.endpoints.value servedConfig.view.ssh
    (.endpoint "a.example") servedArgs :=
  (asks_endpoint servedConfig).mpr ⟨⟨8080, "a.example", 5000, 40, true, none⟩, List.mem_singleton.mpr rfl, rfl, rfl,
    EntryTasks.endpointArgs_isTask _⟩

theorem run_connected {s : System} {runner : InnerDaemonRunner} {task : TaskId} {args : EndpointArgs}
    (hrunner : s.host.loop.runner = runner) (hloops : s.loops = [])
    (hspawned : .spawned task args ∈ runner.rt.log.events) (hconns : 0 < args.maxconns) (hidle : 0 < args.idleconns) :
    ∃ u l task, Steps (Quiet savedYaml "host") sampleMachine s u ∧ u.loops = [l] ∧
      l.loop.generation.tasks = [task] ∧ l.loop.origins = [(runner.rt.info, s.now + 2)] := by
  subst hrunner
  have r : Steps (Quiet savedYaml "host") sampleMachine s _ := .single (.startUp [] hspawned)
  rw [hloops] at r
  have r := r.tail (.loop (move_single false (.new none) _ (.other (.acquireMax rfl hconns) (.inr ⟨rfl, rfl⟩))))
  have r := r.tail (.loop (move_single false (.new none) _ (.enter rfl hidle)))
  have r := r.tail (.loop (move_single false (.new none) _
    (.resolved (.found [ipv4 192 0 2 1]) (.first _) [] rfl rfl rfl)))
  exact ⟨_, _, _, r, rfl, rfl, rfl⟩

/-- The daemon has loaded the files before it is told of them, comes to rest,
and makes a connection. -/
theorem rotated_keys_reach_the_wire_sample : ∃ (s : System) (l : Connections Nat) (task : ConnectionTask),
    Reached savedYaml sampleMachine s ∧ s.loops = [l] ∧ l.loop.generation.tasks = [task] ∧
      Greets "key" l.setup task := by
  obtain ⟨host, hhost, hidle, hhistory, hundelivered, _⟩ := served_run
  have hempty : savedYaml.EmptyDocument := tableYaml_emptyDocument (by decide)
  obtain ⟨s, hreached, rfl, hnone⟩ := @lift_reached _ sampleMachine _ hhost
  have hw : wanted s.host.session.history = ⟨some servedConfig.view, some "key"⟩ := hhistory ▸ served_wanted
  have hnews : s.host.undelivered ≠ 0 := by
    rw [hundelivered]
    decide
  have hy : Restored savedYaml s.host.session.history := restored_of_roundTrip savedYaml_roundTrip _
  obtain ⟨n, host, hsteps, hstuck⟩ := Lib.Descent.exists_stuck own_pending s.host
  obtain ⟨t, hown, rfl, hloops⟩ := lift_steps sampleMachine hsteps
  obtain ⟨htreached, hbound⟩ := bound_steps hempty hreached ⟨hhost, hidle, hw, hy, .inl hnews⟩ hown
  obtain ⟨hserves, hkey⟩ := bound_serves hempty hbound hstuck
  obtain ⟨task, hlive, _⟩ := (hserves.running _ _).mpr served_asks
  obtain ⟨u, l, connection, hquiet, hu, htasks, horigins⟩ :=
    run_connected rfl (hloops.trans hnone) hlive.1 (by decide) (by decide)
  have hgreets := ((rotated_keys_reach_the_wire hempty hreached hy).2 _ _ hidle hw hnews).2
    t hown hstuck u hquiet l (by simp [hu])
  rw [htasks, horigins, List.forall₂_cons] at hgreets
  have hlater : Reached savedYaml sampleMachine u := by
    clear hgreets hu
    induction hquiet with
    | refl => exact htreached
    | tail _ hstep ih => exact ih.step (hstep.mono fun _ _ hq => hq.1)
  exact ⟨u, l, connection, hlater, hu, htasks, hgreets.1 (Nat.le_add_right _ _)⟩

end Ebbflow.KeyRotation
