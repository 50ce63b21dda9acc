import Ebbflow.RunDaemon

namespace Ebbflow.ConfigWatch

open Config ConfigFile Daemon Runner RunDaemon Lib.Text Lib.Wakeup Lib.Wire

structure Files where
  config : File
  key : File
  configWrites : Nat
  keyWrites : Nat

def Files.writeConfig (fs : Files) (content : Bytes) : Files :=
  { fs with config := .ok content, configWrites := fs.configWrites + 1 }

def Files.writeKey (fs : Files) (content : Bytes) : Files :=
  { fs with key := .ok content, keyWrites := fs.keyWrites + 1 }

def Files.stamp (fs : Files) : Nat × Nat := (fs.configWrites, fs.keyWrites)

/-- The daemon, its files and the watcher of their directory. -/
structure Watched where
  files : Files
  undelivered : Nat
  loop : Loop (Nat × Nat)

def Watched.new (config key : File) (info : SharedInfo) (clock : String) : Watched :=
  ⟨⟨config, key, 0, 0⟩, 0, .new (0, 0) (.new info clock)⟩

/-- A read gives what the file holds or fails for a reason of its own. -/
def Reads (f observed : File) : Prop := observed = f ∨ ∃ debug, observed = .error (.Other debug)

inductive Step (y : SerdeYaml) (osHostname : String) : Watched → Watched → Prop
  | writeConfig (s) (content) : Step y osHostname s
      { s with files := s.files.writeConfig content, undelivered := s.undelivered + 1 }
  | writeKey (s) (content) : Step y osHostname s
      { s with files := s.files.writeKey content, undelivered := s.undelivered + 1 }
  | deliver {s n} : s.undelivered = n + 1 →
      Step y osHostname s { s with undelivered := n, loop := s.loop.notified }
  | spurious (s) : Step y osHostname s { s with loop := s.loop.notified }
  | loop {s config key l} : Reads s.files.config config → Reads s.files.key key →
      s.loop.next y osHostname s.files.stamp config key = some l →
      Step y osHostname s { s with loop := l }
  | background {s runner} : Background s.loop.runner runner →
      Step y osHostname s { s with loop := { s.loop with runner := runner } }

inductive Run (y : SerdeYaml) (osHostname : String) (new : Watched) : Watched → Prop
  | new : Run y osHostname new new
  | step {s s'} : Run y osHostname new s → Step y osHostname s s' → Run y osHostname new s'

def latest (l : Loop (Nat × Nat)) : Nat × Nat :=
  match l.phase with
  | .readingConfig began | .readingKey began _ _ | .loaded began _ _ => began
  | .notifying | .parked | .woken => (l.loads.head?.map Load.began).getD (0, 0)

def isWoken : Phase (Nat × Nat) → Bool
  | .woken => true
  | _ => false

/-- The daemon as a task that passes over its sources and waits. -/
def watch (s : Watched) : Watch where
  writes := s.files.configWrites + s.files.keyWrites
  undelivered := s.undelivered
  notify := s.loop.notify
  began := (latest s.loop).1 + (latest s.loop).2
  woken := isWoken s.loop.phase

variable {y : SerdeYaml} {osHostname : String} {new s s' : Watched}

theorem watch_notified (h : s.loop.Waits) (n : Nat) :
    watch { s with undelivered := n, loop := s.loop.notified } = { watch s with
      undelivered := n
      notify := (watch s).notify.notify.1
      woken := (watch s).woken || (watch s).notify.notify.2 } := by
  obtain ⟨files, u, phase, notify, runner, loads⟩ := s
  cases notify <;> cases phase <;>
    simp_all [Loop.Waits, Loop.notified, watch, latest, isWoken, Notify.notify]

theorem watch_loop {config key : File} {l : Loop (Nat × Nat)} (hw : s.loop.Waits)
    (h : Loop.Step y osHostname s.files.stamp config key s.loop l) :
    watch { s with loop := l } = watch s ∨ Watch.Step (watch s) (watch { s with loop := l }) := by
  obtain ⟨files, u, phase, notify, runner, loads⟩ := s
  cases h with
  | readConfig hp _ | failConfig hp _ | readKey hp _ | failKey hp _ | apply hp =>
      cases hp
      exact .inl rfl
  | consume hp hn =>
      cases hp
      exact .inr (.consume rfl hn)
  | park hp hn =>
      cases hp
      cases notify with
      | EMPTY => exact .inr (.park rfl rfl)
      | WAITING => exact absurd rfl hw
      | NOTIFIED => exact absurd rfl hn
  | resume hp =>
      cases hp
      exact .inr (.resume rfl)

theorem watch_step (hw : s.loop.Waits) (h : Step y osHostname s s') :
    watch s' = watch s ∨ Watch.Step (watch s) (watch s') := by
  cases h with
  | writeConfig content =>
      right
      have hsum : (watch s).writes + 1 = s.files.configWrites + 1 + s.files.keyWrites := Nat.add_right_comm ..
      have hwrite := Watch.Step.write (watch s)
      rw [hsum] at hwrite
      exact hwrite
  | writeKey content => exact .inr (.write (watch s))
  | deliver hn =>
      rw [watch_notified hw]
      exact .inr (.deliver hn)
  | spurious =>
      right
      have hnotified := watch_notified hw s.undelivered
      exact Eq.mp (congrArg _ hnotified.symm) (Watch.Step.spurious (watch s))
  | loop _ _ hl => exact watch_loop hw (Loop.next_step hl)
  | background _ => exact .inl rfl

/-- What a load made of files that were not written since it began. -/
structure Seen (y : SerdeYaml) (fs : Files) (began : Nat × Nat) (result : Reloaded) : Prop where
  config_le : began.1 ≤ fs.configWrites
  key_le : began.2 ≤ fs.keyWrites
  config : ∀ r, result = .ok r → began.1 = fs.configWrites → reloadConfig y fs.config = .ok r.1
  key : ∀ r, result = .ok r → began.2 = fs.keyWrites → reloadKey fs.key = .ok r.2

def Fresh (y : SerdeYaml) (fs : Files) (l : Loop (Nat × Nat)) : Prop :=
  match l.phase with
  | .readingConfig began => began.1 ≤ fs.configWrites ∧ began.2 ≤ fs.keyWrites
  | .readingKey began _ cfg => began.1 ≤ fs.configWrites ∧ began.2 ≤ fs.keyWrites ∧
      (began.1 = fs.configWrites → reloadConfig y fs.config = .ok cfg)
  | .loaded began _ result => Seen y fs began result
  | .notifying | .parked | .woken =>
      ∃ load rest, l.loads = load :: rest ∧ Seen y fs load.began load.result

structure Later (fs fs' : Files) : Prop where
  config : fs'.configWrites = fs.configWrites ∧ fs'.config = fs.config ∨
    fs.configWrites < fs'.configWrites
  key : fs'.keyWrites = fs.keyWrites ∧ fs'.key = fs.key ∨ fs.keyWrites < fs'.keyWrites

variable {fs fs' : Files} {l l' : Loop (Nat × Nat)}

theorem Later.config_le (h : Later fs fs') : fs.configWrites ≤ fs'.configWrites := by
  rcases h.config with h | h
  · exact h.1.ge
  · exact h.le

theorem Later.key_le (h : Later fs fs') : fs.keyWrites ≤ fs'.keyWrites := by
  rcases h.key with h | h
  · exact h.1.ge
  · exact h.le

theorem Later.config_read (h : Later fs fs') {n : Nat} (hle : n ≤ fs.configWrites)
    (hn : n = fs'.configWrites) : n = fs.configWrites ∧ fs'.config = fs.config := by
  rcases h.config with h | h
  · exact ⟨hn.trans h.1, h.2⟩
  · omega

theorem Later.key_read (h : Later fs fs') {n : Nat} (hle : n ≤ fs.keyWrites)
    (hn : n = fs'.keyWrites) : n = fs.keyWrites ∧ fs'.key = fs.key := by
  rcases h.key with h | h
  · exact ⟨hn.trans h.1, h.2⟩
  · omega

theorem later_writeConfig (fs : Files) (content : Bytes) : Later fs (fs.writeConfig content) :=
  ⟨.inr (Nat.lt_succ_self _), .inl ⟨rfl, rfl⟩⟩

theorem later_writeKey (fs : Files) (content : Bytes) : Later fs (fs.writeKey content) :=
  ⟨.inl ⟨rfl, rfl⟩, .inr (Nat.lt_succ_self _)⟩

theorem Seen.later {began : Nat × Nat} {result : Reloaded} (h : Seen y fs began result)
    (hl : Later fs fs') : Seen y fs' began result where
  config_le := h.config_le.trans hl.config_le
  key_le := h.key_le.trans hl.key_le
  config r hr hn := by
    obtain ⟨hn, hf⟩ := hl.config_read h.config_le hn
    rw [hf]
    exact h.config r hr hn
  key r hr hn := by
    obtain ⟨hn, hf⟩ := hl.key_read h.key_le hn
    rw [hf]
    exact h.key r hr hn

theorem Fresh.later (h : Fresh y fs l) (hl : Later fs fs') : Fresh y fs' l := by
  rw [Fresh] at h ⊢
  cases hphase : l.phase with
  | readingConfig began =>
      rw [hphase] at h
      exact ⟨h.1.trans hl.config_le, h.2.trans hl.key_le⟩
  | readingKey began read cfg =>
      rw [hphase] at h
      obtain ⟨hc, hk, hr⟩ := h
      refine ⟨hc.trans hl.config_le, hk.trans hl.key_le, ?_⟩
      intro hn
      obtain ⟨hn, hf⟩ := hl.config_read hc hn
      rw [hf]
      exact hr hn
  | loaded began read result =>
      rw [hphase] at h
      exact h.later hl
  | notifying | parked | woken =>
      rw [hphase] at h
      obtain ⟨load, rest, heq, hseen⟩ := h
      exact ⟨load, rest, heq, hseen.later hl⟩

theorem Fresh.notified (h : Fresh y fs l) (hw : l.Waits) : Fresh y fs l.notified := by
  obtain ⟨phase, notify, runner, loads⟩ := l
  cases notify with
  | EMPTY | NOTIFIED => exact h
  | WAITING =>
      cases phase with
      | parked => exact h
      | readingConfig _ | readingKey _ _ _ | loaded _ _ _ | notifying | woken => exact absurd rfl hw

theorem reads_config {f observed : File} (h : Reads f observed) {cfg : Option EbbflowDaemonConfig}
    (hr : reloadConfig y observed = .ok cfg) : reloadConfig y f = .ok cfg := by
  rcases h with rfl | ⟨debug, rfl⟩
  · exact hr
  · cases hr

theorem reads_key {f observed : File} (h : Reads f observed) {key : Option String}
    (hr : reloadKey observed = .ok key) : reloadKey f = .ok key := by
  rcases h with rfl | ⟨debug, rfl⟩
  · exact hr
  · cases hr

theorem Fresh.step (h : Fresh y fs l) {config key : File} (hconfig : Reads fs.config config)
    (hkey : Reads fs.key key) (hs : Loop.Step y osHostname fs.stamp config key l l') :
    Fresh y fs l' := by
  cases hs with
  | readConfig hp hr =>
      rw [Fresh, hp] at h
      exact ⟨h.1, h.2, fun _ => reads_config hconfig hr⟩
  | failConfig hp _ =>
      rw [Fresh, hp] at h
      exact ⟨h.1, h.2, by simp, by simp⟩
  | readKey hp hr =>
      rw [Fresh, hp] at h
      refine ⟨h.1, h.2.1, ?_, ?_⟩
      · intro r heq hn
        cases heq
        exact h.2.2 hn
      · intro r heq hn
        cases heq
        exact reads_key hkey hr
  | failKey hp _ =>
      rw [Fresh, hp] at h
      exact ⟨h.1, h.2.1, by simp, by simp⟩
  | apply hp =>
      rw [Fresh, hp] at h
      exact ⟨_, _, rfl, h⟩
  | park hp _ =>
      rw [Fresh, hp] at h
      exact h
  | consume _ _ | resume _ => exact ⟨le_rfl, le_rfl⟩

theorem fresh_step (h : Fresh y s.files s.loop) (hw : s.loop.Waits) (hs : Step y osHostname s s') :
    Fresh y s'.files s'.loop := by
  cases hs with
  | writeConfig content => exact h.later (later_writeConfig _ _)
  | writeKey content => exact h.later (later_writeKey _ _)
  | deliver _ | spurious => exact h.notified hw
  | loop hc hk hl => exact h.step hc hk (Loop.next_step hl)
  | background _ => exact h

theorem waits_step (h : s.loop.Waits) (hs : Step y osHostname s s') : s'.loop.Waits := by
  cases hs with
  | deliver _ | spurious => exact h.notified
  | loop _ _ hl => exact h.step (Loop.next_step hl)
  | writeConfig _ | writeKey _ | background _ => exact h

theorem recorded_step {runner : InnerDaemonRunner}
    (h : Recorded osHostname runner s.loop.loads s.loop.runner) (hs : Step y osHostname s s') :
    Recorded osHostname runner s'.loop.loads s'.loop.runner := by
  cases hs with
  | loop _ _ hl => exact h.step (Loop.next_step hl)
  | background hb => exact .background h hb
  | writeConfig _ | writeKey _ | deliver _ | spurious => exact h

structure Inv (y : SerdeYaml) (osHostname : String) (new : InnerDaemonRunner) (s : Watched) : Prop where
  waits : s.loop.Waits
  announced : (watch s).Announced
  fresh : Fresh y s.files s.loop
  recorded : Recorded osHostname new s.loop.loads s.loop.runner

theorem inv_step {new : InnerDaemonRunner} (h : Inv y osHostname new s) (hs : Step y osHostname s s') :
    Inv y osHostname new s' where
  waits := waits_step h.waits hs
  announced := by
    rcases watch_step h.waits hs with hw | hw
    · rw [hw]
      exact h.announced
    · exact h.announced.step hw
  fresh := fresh_step h.fresh h.waits hs
  recorded := recorded_step h.recorded hs

theorem run_inv {config key : File} {info : SharedInfo} {clock : String}
    (h : Run y osHostname (.new config key info clock) s) : Inv y osHostname (.new info clock) s := by
  induction h with
  | new => exact ⟨Notify.noConfusion, ⟨le_rfl, .inl rfl, fun _ => rfl⟩, ⟨le_rfl, le_rfl⟩, .new⟩
  | step _ hs ih => exact inv_step ih hs

theorem Run.next {l : Loop (Nat × Nat)} (h : Run y osHostname new s)
    (hn : s.loop.next y osHostname s.files.stamp s.files.config s.files.key = some l) :
    Run y osHostname new { s with loop := l } := .step h (.loop (.inl rfl) (.inl rfl) hn)

theorem Inv.parked {new : InnerDaemonRunner} (hi : Inv y osHostname new s) (hparked : s.loop.phase = .parked)
    (hquiet : s.undelivered = 0) :
    ∃ load rest, s.loop.loads = load :: rest ∧ Seen y s.files load.began load.result ∧
      load.began = s.files.stamp := by
  have hfresh := hi.fresh
  rw [Fresh, hparked] at hfresh
  obtain ⟨load, rest, hloads, hseen⟩ := hfresh
  have hwaiting : s.loop.notify = .WAITING := by
    have hw := hi.waits
    rw [Loop.Waits, hparked] at hw
    exact hw
  have hlatest : latest s.loop = load.began := by rw [latest, hparked, hloads]; rfl
  have hsum : load.began.1 + load.began.2 = s.files.configWrites + s.files.keyWrites := by
    rw [← hlatest]
    exact hi.announced.latest hwaiting hquiet
  have hc : load.began.1 = s.files.configWrites := by
    have hcle := hseen.config_le
    have hkle := hseen.key_le
    omega
  have hk : load.began.2 = s.files.keyWrites := by omega
  exact ⟨load, rest, hloads, hseen, Prod.ext hc hk⟩

/-- No change of the configuration is lost: when the loop is parked and every
write was announced, the last load began after the last write to either file.
If it succeeded, what it read is what the files hold and was applied; if it
failed, the runner is as the load before left it. -/
theorem no_change_is_lost {config key : File} {info : SharedInfo} {clock : String}
    (h : Run y osHostname (.new config key info clock) s) (hparked : s.loop.phase = .parked)
    (hquiet : s.undelivered = 0) :
    ∃ load rest, s.loop.loads = load :: rest ∧ load.began = s.files.stamp ∧
      (∀ config key, load.result = .ok (config, key) →
        configReload y s.files.config s.files.key = .ok (config, key) ∧
        (calls s.loop.loads).head? = some ⟨config, key⟩ ∧
        ∃ before, Background (leftBy (.new info clock) rest) before ∧
          Background (updateConfig osHostname before config key) s.loop.runner) ∧
      ∀ e, load.result = .error e →
        s.loop.runner.endpoints.entries.Perm (leftBy (.new info clock) rest).endpoints.entries ∧
        s.loop.runner.ssh = (leftBy (.new info clock) rest).ssh ∧
        s.loop.runner.rt.info.key = (leftBy (.new info clock) rest).rt.info.key := by
  have hi := run_inv h
  obtain ⟨load, rest, hloads, hseen, hbegan⟩ := hi.parked hparked hquiet
  obtain ⟨hc, hk⟩ := Prod.ext_iff.mp hbegan
  have hrecorded := hi.recorded
  rw [hloads] at hrecorded
  have hleft : Background load.left s.loop.runner := hrecorded.leftBy
  obtain ⟨before, hbefore, happly⟩ := hrecorded.last
  refine ⟨load, rest, hloads, hbegan, ?_, ?_⟩
  · intro config key hr
    refine ⟨?_, ?_, before, hbefore, ?_⟩
    · exact configReload_ok.mpr ⟨hseen.config _ hr hc, hseen.key _ hr hk⟩
    · simp [calls, hloads, hr]
    · rw [happly, hr] at hleft
      exact hleft
  · intro e hr
    rw [happly, hr] at hleft
    have hkept := background_trans (background_trans hbefore (background_error _ _ e)) hleft
    exact ⟨hkept.endpoints, hkept.ssh, congrArg SharedInfo.key hkept.info⟩

/-- Both files are written while the first load, which found none, is not yet
reported; the two notifications leave one permit. -/
theorem no_change_is_lost_sample :
    ∃ s, Run (tableYaml [(⟨[], none, none⟩, "---\nendpoints: []\nssh: ~\nloglevel: ~")]) "host"
        (.new (.error .NotFound) (.error .NotFound) ⟨none⟩ "") s ∧
      s.files.stamp = (1, 1) ∧ ∃ load rest, s.loop.loads = load :: rest ∧ load.began = (1, 1) := by
  let y := tableYaml [(⟨[], none, none⟩, "---\nendpoints: []\nssh: ~\nloglevel: ~")]
  have hnew : Run y "host" (.new (.error .NotFound) (.error .NotFound) ⟨none⟩ "") _ := .new
  have hfailed := Run.next hnew rfl
  have hconfig := hfailed.step (.writeConfig _ (encode "---\nendpoints: []\nssh: ~\nloglevel: ~"))
  have hkey := hconfig.step (.writeKey _ (setkey "key"))
  have hstored := hkey.step (.deliver rfl)
  have hreported := Run.next hstored rfl
  have hcoalesced := hreported.step (.deliver rfl)
  have hconsumed := Run.next hcoalesced rfl
  have hread := Run.next hconsumed rfl
  have hloaded := Run.next hread rfl
  have happlied := Run.next hloaded rfl
  have hparked := Run.next happlied rfl
  obtain ⟨load, rest, hloads, hbegan, _⟩ := no_change_is_lost hparked rfl rfl
  exact ⟨_, hparked, rfl, load, rest, hloads, hbegan⟩

end Ebbflow.ConfigWatch
