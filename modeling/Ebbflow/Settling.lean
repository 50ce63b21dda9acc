import Ebbflow.Lib.Descent
import Ebbflow.ServedMap

namespace Ebbflow.Settling

open Config ConfigFile ConfigRefinement Convergence Daemon Runner RunDaemon
open Lib.Descent Lib.Text Lib.Wakeup
open ServedMap hiding Steps
open ConfigWatch hiding Step Run
open Console (Restored restored_of_roundTrip wanted)
open TornWrites (configOf keyOf applyReloaded_key savedYaml savedYaml_roundTrip)

variable {y : SerdeYaml} {osHostname : String} {fs fs' : Files} {l l' : Loop (Nat × Nat)} {began : Nat × Nat}
  {result : Reloaded} {m : ConfigMap} {k : String}

def OwnFault (e : ConfigError) : Prop := ∃ debug, e = .ofIoError (.Other debug)

/-- A load that failed met such a read, or files that do not load. -/
def Excused (y : SerdeYaml) (fs : Files) (began : Nat × Nat) (result : Reloaded) : Prop :=
  ∀ e, result = .error e → OwnFault e ∨
    (began = fs.stamp → reloadConfig y fs.config = .error e ∨ reloadKey fs.key = .error e)

def Excuses (y : SerdeYaml) (fs : Files) (l : Loop (Nat × Nat)) : Prop :=
  match l.phase with
  | .readingConfig _ | .readingKey _ _ _ => True
  | .loaded began _ result => Excused y fs began result
  | .notifying | .parked | .woken => ∃ load rest, l.loads = load :: rest ∧ Excused y fs load.began load.result

theorem Excused.later (h : Excused y fs began result) (hl : Later fs fs') (hc : began.1 ≤ fs.configWrites)
    (hk : began.2 ≤ fs.keyWrites) : Excused y fs' began result := by
  intro e he
  rcases h e he with hown | hfiles
  · exact .inl hown
  · right
    rintro rfl
    obtain ⟨hcount, hconfig⟩ := hl.config_read hc rfl
    obtain ⟨hcount', hkey⟩ := hl.key_read hk rfl
    rw [hconfig, hkey]
    exact hfiles (Prod.ext hcount hcount')

theorem Excuses.later (h : Excuses y fs l) (hfresh : Fresh y fs l) (hl : Later fs fs') : Excuses y fs' l := by
  rw [Excuses] at h ⊢
  rw [Fresh] at hfresh
  cases hphase : l.phase with
  | readingConfig | readingKey => trivial
  | loaded began read result =>
      rw [hphase] at h hfresh
      exact h.later hl hfresh.config_le hfresh.key_le
  | notifying | parked | woken =>
      rw [hphase] at h hfresh
      obtain ⟨load, rest, hloads, hexcused⟩ := h
      obtain ⟨load', rest', hloads', hseen⟩ := hfresh
      obtain ⟨rfl, rfl⟩ := List.cons.inj (hloads.symm.trans hloads')
      exact ⟨load, rest, hloads, hexcused.later hl hseen.config_le hseen.key_le⟩

theorem Excuses.notified (h : Excuses y fs l) (hw : l.Waits) : Excuses y fs l.notified := by
  obtain ⟨phase, notify, runner, loads⟩ := l
  cases notify with
  | EMPTY | NOTIFIED => exact h
  | WAITING =>
      cases phase with
      | parked => exact h
      | readingConfig | readingKey | loaded | notifying | woken => exact absurd rfl hw

theorem fault_config {f observed : File} {e : ConfigError} (h : Reads f observed)
    (he : reloadConfig y observed = .error e) : OwnFault e ∨ reloadConfig y f = .error e := by
  rcases h with rfl | ⟨debug, rfl⟩
  · exact .inr he
  · exact .inl ⟨debug, (Except.error.inj he).symm⟩

theorem fault_key {f observed : File} {e : ConfigError} (h : Reads f observed)
    (he : reloadKey observed = .error e) : OwnFault e ∨ reloadKey f = .error e := by
  rcases h with rfl | ⟨debug, rfl⟩
  · exact .inr he
  · exact .inl ⟨debug, (Except.error.inj he).symm⟩

theorem Excuses.step (h : Excuses y fs l) {config key : File} (hconfig : Reads fs.config config)
    (hkey : Reads fs.key key) (hs : Loop.Step y osHostname fs.stamp config key l l') : Excuses y fs l' := by
  cases hs with
  | readConfig | consume | resume => trivial
  | failConfig _ hr =>
      rintro _ ⟨⟩
      exact (fault_config hconfig hr).imp id fun he _ => .inl he
  | readKey => exact fun e he => by cases he
  | failKey _ hr =>
      rintro _ ⟨⟩
      exact (fault_key hkey hr).imp id fun he _ => .inr he
  | apply hp =>
      rw [Excuses, hp] at h
      exact ⟨_, _, rfl, h⟩
  | park hp _ =>
      rw [Excuses, hp] at h
      exact h

theorem excuses_step {w w' : Watched} {new : InnerDaemonRunner} (h : Excuses y w.files w.loop)
    (hinv : ConfigWatch.Inv y osHostname new w) (hs : ConfigWatch.Step y osHostname w w') :
    Excuses y w'.files w'.loop := by
  cases hs with
  | writeConfig content => exact h.later hinv.fresh (later_writeConfig _ _)
  | writeKey content => exact h.later hinv.fresh (later_writeKey _ _)
  | deliver | spurious => exact h.notified hinv.waits
  | loop hc hk hnext => exact h.step hc hk (Loop.next_step hnext)
  | background => exact h

theorem run_excuses {config key : File} {info : SharedInfo} {clock : String} {w : Watched}
    (h : ConfigWatch.Run y osHostname (.new config key info clock) w) : Excuses y w.files w.loop := by
  induction h with
  | new => trivial
  | step hrun hs ih => exact excuses_step ih (run_inv hrun) hs

variable {s t u : System} {n : Nat}

structure Settled (s : System) : Prop where
  parked : s.loop.phase = .parked
  quiet : s.undelivered = 0

theorem reload_of_wanted (h : Console.Sound y s.session) (hy : Restored y s.session.history)
    (hidle : s.session.todo = []) (hw : wanted s.session.history = ⟨some m, some k⟩) :
    (∃ d : DistinctConfig, d.view = m ∧ reloadConfig y s.session.files.config = .ok (some d.config)) ∧
      reloadKey s.session.files.key = .ok (some k) := by
  obtain ⟨hc, hk⟩ := h.idle hidle
  rw [hw] at hc hk
  obtain ⟨d, b, rfl, hb, hf⟩ := hc
  refine ⟨⟨d, rfl, ?_⟩, hk.reload⟩
  simp only [hf, reloadConfig, loadFromFilePath, hy.now (congrArg Console.Wanted.config hw) b hb]

theorem last_serves (htraced : Traced y osHostname s) {calls : List Call}
    (hrun : Runner.Run osHostname calls s.loop.runner) {new : InnerDaemonRunner}
    (hrecorded : Recorded osHostname new (watched s).loop.loads (watched s).loop.runner) {load : Load Stamp}
    {rest : List (Load Stamp)} (hloads : s.loop.loads = load :: rest) {d : DistinctConfig}
    (hr : load.result = .ok (some d.config, some k)) :
    Serves osHostname d.view s.loop.runner ∧ s.loop.runner.rt.info.key = some k := by
  simp only [watched, mapLoop, hloads, List.map_cons] at hrecorded
  obtain ⟨before, _, happly⟩ := hrecorded.last
  have hleft : load.left.rt.info.key = some k := by
    have hkey := applyReloaded_key osHostname before load.result
    rw [hr, keyOf, Option.some_or] at hkey
    exact (congrArg (fun r => r.rt.info.key) (happly.trans (by rw [mapLoad, hr]))).trans hkey
  have hbackground : Background load.left s.loop.runner := hrecorded.leftBy
  refine ⟨?_, (congrArg SharedInfo.key hbackground.info).trans hleft⟩
  have hmem : load ∈ s.loop.loads := by
    rw [hloads]
    exact List.mem_cons_self
  obtain ⟨⟨_, _⟩, rfl, hwanted⟩ := (htraced.loads load hmem).config d.config (by rw [hr]; rfl)
  have hserves := traced_serves htraced hrun
  rw [hloads, shown, if_pos (by simp [tookEffect, hr, configOf, hleft]), Console.Wanted.current, hwanted] at hserves
  exact hserves

/-- A daemon at rest does what the map says, unless its last load could not read a file. -/
theorem settled_serves (hempty : y.EmptyDocument) (h : Reached y osHostname s) (hy : Restored y s.session.history)
    (hsettled : Settled s) (hidle : s.session.todo = [])
    (hw : wanted s.session.history = ⟨some m, some k⟩) :
    (Serves osHostname m s.loop.runner ∧ s.loop.runner.rt.info.key = some k) ∨
      ∃ load rest e, s.loop.loads = load :: rest ∧ load.result = .error e ∧ OwnFault e := by
  have htraced := reached_traced hempty h hy
  obtain ⟨calls, hrun⟩ := reached_run h
  obtain ⟨⟨d, rfl, hreload⟩, hkey⟩ := reload_of_wanted htraced.sound hy hidle hw
  obtain ⟨_, _, _, hwatched⟩ := reached_watched h
  have hinv := run_inv hwatched
  have hparked : (watched s).loop.phase = .parked := by
    rw [watched, mapLoop, hsettled.parked]
    rfl
  obtain ⟨load', rest', hloads', hseen, hbegan⟩ := hinv.parked hparked hsettled.quiet
  have hexcuses := run_excuses hwatched
  rw [Excuses, hparked] at hexcuses
  obtain ⟨_, _, hloads'', hexcused⟩ := hexcuses
  obtain ⟨rfl, rfl⟩ := List.cons.inj (hloads'.symm.trans hloads'')
  obtain ⟨hc, hk⟩ := Prod.ext_iff.mp hbegan
  obtain ⟨load, rest, hloads, rfl, rfl⟩ := List.map_eq_cons_iff.mp hloads'
  cases hr : load.result with
  | error e =>
      refine .inr ⟨load, rest, e, hloads, hr, ?_⟩
      rcases hexcused e hr with hown | hfiles
      · exact hown
      · rcases hfiles hbegan with he | he
        · cases hreload.symm.trans he
        · cases hkey.symm.trans he
  | ok r =>
      left
      have hconfig : r.1 = some d.config := Except.ok.inj ((hseen.config r hr hc).symm.trans hreload)
      have hset : r.2 = some k := Except.ok.inj ((hseen.key r hr hk).symm.trans hkey)
      exact last_serves htraced hrun hinv.recorded hloads (hr.trans (congrArg _ (Prod.ext hconfig hset)))

/-- What the daemon and its watcher do by themselves, with reads that succeed. -/
inductive Own (y : SerdeYaml) (osHostname : String) : System → System → Prop
  | deliver {s : System} {n : Nat} : s.undelivered = n + 1 →
      Own y osHostname s { s with undelivered := n, loop := s.loop.notified }
  | loop {s : System} {l : Loop Stamp} :
      s.loop.next y osHostname s.stamp s.session.files.config s.session.files.key = some l →
      Own y osHostname s { s with loop := l }

theorem Own.step (h : Own y osHostname s t) : Convergence.Step y osHostname s t := by
  cases h with
  | deliver hn => exact .deliver hn
  | loop hnext => exact .loop (.inl rfl) (.inl rfl) hnext

theorem own_session (h : Own y osHostname s t) : t.session = s.session := by
  cases h with
  | deliver | loop => rfl

def phaseRank : Phase Stamp → Nat
  | .parked => 0
  | .notifying => 1
  | .loaded _ _ _ => 2
  | .readingKey _ _ _ => 3
  | .readingConfig _ => 4
  | .woken => 5

def permitRank : Notify → Nat
  | .NOTIFIED => 5
  | .EMPTY | .WAITING => 0

/-- The steps that may be left: a notification costs one pass over the files and its delivery. -/
def pending (s : System) : Nat := 6 * s.undelivered + permitRank s.loop.notify + phaseRank s.loop.phase

theorem own_pending (s t : System) (h : Own y osHostname s t) : pending t < pending s := by
  obtain ⟨session, undelivered, phase, notify, runner, loads⟩ := s
  cases h with
  | deliver hn =>
      obtain rfl : undelivered = _ := hn
      cases notify with
      | EMPTY | NOTIFIED =>
          simp only [pending, Loop.notified, Notify.notify, permitRank, Bool.false_eq_true, if_false]
          omega
      | WAITING =>
          simp only [pending, Loop.notified, Notify.notify, permitRank, if_true, phaseRank]
          omega
  | loop hnext =>
      cases Loop.next_step hnext with
      | readConfig hp _ | failConfig hp _ | readKey hp _ | failKey hp _ | apply hp | resume hp =>
          cases hp
          simp [pending, phaseRank]
      | consume hp hn =>
          cases hp
          cases hn
          simp [pending, phaseRank, permitRank]
      | park hp hn =>
          cases hp
          simp only [pending, phaseRank, permitRank]
          omega

theorem pending_le (s : System) : pending s ≤ 6 * s.undelivered + 10 := by
  have hpermit : permitRank s.loop.notify ≤ 5 := by cases s.loop.notify <;> simp [permitRank]
  have hphase : phaseRank s.loop.phase ≤ 5 := by cases s.loop.phase <;> simp [phaseRank]
  rw [pending]
  omega

theorem next_isSome {l : Loop Stamp} (now : Stamp) (config key : File) (h : l.phase ≠ .parked) :
    (l.next y osHostname now config key).isSome := by
  rw [Loop.next]
  cases hp : l.phase with
  | parked => exact absurd hp h
  | readingConfig | readingKey | loaded | notifying | woken => rfl

theorem stuck_settled (h : Stuck (Own y osHostname) s) : Settled s where
  parked := by
    by_contra hp
    obtain ⟨l, hnext⟩ := Option.isSome_iff_exists.mp (next_isSome s.stamp _ _ hp)
    exact h _ (.loop hnext)
  quiet := by
    cases hn : s.undelivered with
    | zero => rfl
    | succ n => exact absurd (.deliver hn) (h _)

/-- A load of the files as they are is still to come, or was the last one. -/
def Due (s : System) : Prop :=
  s.undelivered ≠ 0 ∨ s.loop.notify = .NOTIFIED ∨
    match s.loop.phase with
    | .readingConfig _ | .readingKey _ _ _ | .woken => True
    | .loaded _ _ result => ∃ r, result = .ok r
    | .notifying | .parked => ∃ load rest r, s.loop.loads = load :: rest ∧ load.result = .ok r

theorem due_notified (h : Due s) (n : Nat) : Due { s with undelivered := n, loop := s.loop.notified } := by
  obtain ⟨session, undelivered, phase, notify, runner, loads⟩ := s
  cases notify with
  | EMPTY | NOTIFIED => exact .inr (.inl rfl)
  | WAITING => exact .inr (.inr trivial)

/-- A state from which the daemon by itself comes to serve the map. -/
structure Bound (y : SerdeYaml) (osHostname : String) (m : ConfigMap) (k : String) (s : System) : Prop where
  reached : Reached y osHostname s
  idle : s.session.todo = []
  wanted : wanted s.session.history = ⟨some m, some k⟩
  restored : Restored y s.session.history
  due : Due s

theorem due_loop {l : Loop Stamp} {config key : File} {cfg : Option EbbflowDaemonConfig} {k : Option String}
    (h : Due s) (hconfig : reloadConfig y config = .ok cfg) (hkey : reloadKey key = .ok k)
    (hs : Loop.Step y osHostname s.stamp config key s.loop l) : Due { s with loop := l } := by
  rcases h with hnews | hnotified | hphase
  · exact .inl hnews
  · cases hs with
    | readConfig | failConfig | readKey | failKey | apply | resume => exact .inr (.inl hnotified)
    | consume => exact .inr (.inr trivial)
    | park _ hn => exact absurd hnotified hn
  · right
    right
    cases hs with
    | readConfig | consume | resume => trivial
    | failConfig _ hr => cases hconfig.symm.trans hr
    | readKey => exact ⟨_, rfl⟩
    | failKey _ hr => cases hkey.symm.trans hr
    | apply hp =>
        rw [hp] at hphase
        obtain ⟨r, rfl⟩ := hphase
        exact ⟨_, _, r, rfl, rfl⟩
    | park hp _ =>
        rw [hp] at hphase
        exact hphase

theorem bound_own (hempty : y.EmptyDocument) (h : Bound y osHostname m k s) (hown : Own y osHostname s t) :
    Bound y osHostname m k t := by
  have hsession := own_session hown
  refine ⟨h.reached.step hown.step, hsession ▸ h.idle, hsession ▸ h.wanted, hsession ▸ h.restored, ?_⟩
  cases hown with
  | deliver _ => exact due_notified h.due _
  | loop hnext =>
      have hsound := (reached_traced hempty h.reached h.restored).sound
      obtain ⟨⟨d, _, hconfig⟩, hkey⟩ := reload_of_wanted hsound h.restored h.idle h.wanted
      exact due_loop h.due hconfig hkey (Loop.next_step hnext)

theorem bound_serves (hempty : y.EmptyDocument) (h : Bound y osHostname m k s) (hstuck : Stuck (Own y osHostname) s) :
    Serves osHostname m s.loop.runner ∧ s.loop.runner.rt.info.key = some k := by
  have hsettled := stuck_settled hstuck
  rcases settled_serves hempty h.reached h.restored hsettled h.idle h.wanted with
    hserves | ⟨load, rest, e, hloads, hr, _⟩
  · exact hserves
  · exfalso
    obtain ⟨_, hinv⟩ := reached_inv h.reached
    have hwaits : s.loop.notify = .WAITING := by
      have hw := hinv.waits
      rw [Loop.Waits, watched, mapLoop, hsettled.parked] at hw
      exact hw
    rcases h.due with hnews | hnotified | hphase
    · exact hnews hsettled.quiet
    · exact Notify.noConfusion (hwaits.symm.trans hnotified)
    · rw [hsettled.parked] at hphase
      obtain ⟨load', rest', r, hloads', hr'⟩ := hphase
      obtain ⟨rfl, rfl⟩ := List.cons.inj (hloads.symm.trans hloads')
      cases hr.symm.trans hr'

theorem bound_run (hempty : y.EmptyDocument) (h : Bound y osHostname m k s) (hsteps : Steps (Own y osHostname) s n t) :
    Bound y osHostname m k t :=
  hsteps.keep (fun _ _ hb => bound_own hempty hb) h

/-- A change that was saved and is announced takes effect: from then on the
daemon comes to rest by itself, within a bounded number of steps, and then does
what the map says, whatever it was about. -/
theorem saved_changes_take_effect (hempty : y.EmptyDocument) (h : Reached y osHostname s)
    (hy : Restored y s.session.history) (hidle : s.session.todo = [])
    (hw : wanted s.session.history = ⟨some m, some k⟩) (hnews : s.undelivered ≠ 0) :
    (∃ n t, Steps (Own y osHostname) s n t ∧ Stuck (Own y osHostname) t) ∧
      ∀ n t, Steps (Own y osHostname) s n t → n ≤ 6 * s.undelivered + 10 ∧
        (Stuck (Own y osHostname) t →
          Serves osHostname m t.loop.runner ∧ t.loop.runner.rt.info.key = some k) := by
  have hbound : Bound y osHostname m k s := ⟨h, hidle, hw, hy, .inl hnews⟩
  refine ⟨exists_stuck own_pending s, ?_⟩
  intro n t hsteps
  have hlen := hsteps.size_le own_pending
  have hle := pending_le s
  refine ⟨by omega, ?_⟩
  exact bound_serves hempty (bound_run hempty hbound hsteps)

theorem saved_changes_take_effect_sample : ∃ s n t, Reached savedYaml "host" s ∧
    Steps (Own savedYaml "host") s n t ∧ n ≤ 34 ∧ Serves "host" servedConfig.view t.loop.runner := by
  obtain ⟨s, hreached, hidle, hhistory, hundelivered, _⟩ := served_run
  have hw : wanted s.session.history = ⟨some servedConfig.view, some "key"⟩ := hhistory ▸ served_wanted
  have hnews : s.undelivered ≠ 0 := by
    rw [hundelivered]
    decide
  obtain ⟨⟨n, t, hsteps, hstuck⟩, hall⟩ := saved_changes_take_effect
    (tableYaml_emptyDocument (by decide)) hreached (restored_of_roundTrip savedYaml_roundTrip _) hidle hw hnews
  obtain ⟨hn, hserves⟩ := hall n t hsteps
  rw [hundelivered] at hn
  exact ⟨s, n, t, hreached, hsteps, hn, (hserves hstuck).1⟩

end Ebbflow.Settling
