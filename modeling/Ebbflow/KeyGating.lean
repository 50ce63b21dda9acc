import Ebbflow.RunnerKey
import Ebbflow.RunnerSystem
import Ebbflow.RunnerTasks

namespace Ebbflow.KeyGating

open Config Daemon EstablishConnection InnerRun ConnectionRun CreateArgs KeyReadings
open Runner RunnerKey RunnerSystem Lib.HashTable

variable {machine : Machine} {s t : System}

/-- What a reading of the key cell found, with the keys supplied by then. -/
structure ReadFrom (supplied : List String) (read : SharedInfo × List String) : Prop where
  key : read.1.key = read.2.head?
  keyed : read.2 ≠ []
  before : read.2 <:+ supplied

structure Keyless (s : System) : Prop where
  endpoints : s.runner.endpoints = ∅
  ssh : s.runner.ssh = none
  log : s.runner.rt.log.events = []
  loops : s.loops = []
  progress : ∀ es ssh, s.progress ≠ .applying es ssh

structure Gated (s : System) : Prop where
  key : s.runner.rt.info.key = s.supplied.head?
  keyless : s.supplied = [] → Keyless s
  good : s.runner.statusmeta = .Good → s.supplied ≠ []
  settled : (∀ config, s.progress ≠ .keyTaken config) → s.supplied ≠ [] → s.runner.statusmeta = .Good
  loops : ∀ l ∈ s.loops, Kept (ReadFrom s.supplied) l

theorem ReadFrom.mono {supplied supplied' : List String} {read : SharedInfo × List String}
    (h : ReadFrom supplied read) (hle : supplied <:+ supplied') : ReadFrom supplied' read :=
  ⟨h.key, h.keyed, h.before.trans hle⟩

theorem head?_toList_append {α : Type} (a : Option α) (as : List α) :
    (a.toList ++ as).head? = a.or as.head? := by
  cases a <;> rfl

theorem statusmeta_applyEndpoint (r : InnerDaemonRunner) (e : Endpoint) :
    (applyEndpoint r e).statusmeta = r.statusmeta := by
  rcases applyEndpoint_cases r e with ⟨_, _, _, ha⟩ | ⟨_, _, _, ha⟩ | ⟨_, ha⟩ <;> rw [ha] <;> rfl

theorem statusmeta_applySsh (osHostname : String) (r : InnerDaemonRunner) (ssh : Option Ssh) :
    (applySsh osHostname r ssh).statusmeta = r.statusmeta := by
  rcases applySsh_cases osHostname r ssh with
    ⟨_, ha⟩ | ⟨_, _, _, ha⟩ | ⟨_, _, _, _, _, ha⟩ | ⟨_, _, _, ha⟩ <;> rw [ha] <;> rfl

theorem takeKey_statusmeta (r : InnerDaemonRunner) (key : Option String) :
    (takeKey r key).statusmeta = r.statusmeta := by
  cases key <;> rfl

theorem Gated.keyed (h : Gated s) (hkey : s.runner.rt.info.key ≠ none) : s.supplied ≠ [] := by
  intro hempty
  rw [h.key, hempty] at hkey
  exact hkey rfl

theorem gated_call (h : Gated s) (config : Option EbbflowDaemonConfig)
    (key : Option String) : Gated (s.call config key) := by
  obtain ⟨hendpoints, hssh, hlog⟩ := takeKey_frame s.runner key
  refine ⟨?_, ?_, ?_, ?_, ?_⟩
  · rw [System.call, takeKey_key, head?_toList_append, h.key]
  · intro hempty
    have hk := h.keyless (List.append_eq_nil_iff.mp hempty).2
    exact ⟨hendpoints.trans hk.endpoints, hssh.trans hk.ssh, (congrArg _ hlog).trans hk.log, hk.loops,
      by simp [System.call]⟩
  · intro hgood hempty
    exact h.good ((takeKey_statusmeta s.runner key).symm.trans hgood) (List.append_eq_nil_iff.mp hempty).2
  · intro hnot _
    exact absurd rfl (hnot config)
  · intro l hl
    exact (h.loops l hl).imp fun _ hread => hread.mono (List.suffix_append _ _)

theorem gated_accept (h : Gated s) (config : Option EbbflowDaemonConfig) : Gated (s.accept config) := by
  by_cases hk : s.runner.rt.info.key.isNone
  · have hempty : s.supplied = [] := by
      rw [h.key, Option.isNone_iff_eq_none, List.head?_eq_none_iff] at hk
      exact hk
    have hkeyless := h.keyless hempty
    have hrefused : s.accept config = _ := if_pos hk
    rw [hrefused]
    exact ⟨h.key, fun _ => ⟨hkeyless.endpoints, hkeyless.ssh, hkeyless.log, hkeyless.loops, by simp⟩,
      by simp, fun _ hne => absurd hempty hne, h.loops⟩
  · have hne : s.supplied ≠ [] := h.keyed (by simpa using hk)
    have haccepted : s.accept config = _ := if_neg hk
    rw [haccepted]
    cases config with
    | none => exact ⟨h.key, fun hempty => absurd hempty hne, fun _ => hne, fun _ _ => rfl, h.loops⟩
    | some c =>
        refine ⟨?_, fun hempty => absurd hempty hne, fun _ => hne, fun _ _ => rfl, h.loops⟩
        rw [retainConfigured_info]
        exact h.key

theorem gated_step (h : Gated s) (hstep : Step machine s t) : Gated t := by
  cases hstep with
  | call config key _ => exact gated_call h config key
  | accept _ => exact gated_accept h _
  | @endpoint e es ssh hprogress =>
      have hne : s.supplied ≠ [] := fun hempty => (h.keyless hempty).progress _ _ hprogress
      refine ⟨?_, fun hempty => absurd hempty hne, fun _ => hne, fun _ _ => ?_, h.loops⟩
      · rw [applyEndpoint_info]
        exact h.key
      · rw [statusmeta_applyEndpoint]
        exact h.settled (by simp [hprogress]) hne
  | @ssh ssh hprogress =>
      have hne : s.supplied ≠ [] := fun hempty => (h.keyless hempty).progress _ _ hprogress
      refine ⟨?_, fun hempty => absurd hempty hne, fun _ => hne, fun _ _ => ?_, h.loops⟩
      · rw [applySsh_info]
        exact h.key
      · rw [statusmeta_applySsh]
        exact h.settled (by simp [hprogress]) hne
  | @background runner hb =>
      refine ⟨?_, fun hempty => ?_, ?_, ?_, h.loops⟩
      · rw [hb.info]
        exact h.key
      · have hk := h.keyless hempty
        have hentries := hb.endpoints
        rw [hk.endpoints] at hentries
        exact ⟨AList.ext hentries.eq_nil, hb.ssh.trans hk.ssh, (congrArg _ hb.log).trans hk.log, hk.loops,
          hk.progress⟩
      · rw [hb.statusmeta]
        exact h.good
      · rw [hb.statusmeta]
        exact h.settled
  | @startUp task args addrs hspawned =>
      have hne : s.supplied ≠ [] := by
        intro hempty
        rw [(h.keyless hempty).log] at hspawned
        cases hspawned
      exact ⟨h.key, fun hempty => absurd hempty hne, h.good, h.settled, kept_startUp h.loops _ args⟩
  | loop hmove =>
      have hne : s.supplied ≠ [] := by
        intro hempty
        rw [(h.keyless hempty).loops] at hmove
        exact not_move_nil hmove
      exact ⟨h.key, fun hempty => absurd hempty hne, h.good, h.settled,
        kept_move h.loops ⟨h.key, hne, List.suffix_rfl⟩ hmove⟩

theorem gated_new (clock : String) : Gated (.new clock) where
  key := rfl
  keyless _ := ⟨rfl, rfl, rfl, rfl, by simp [System.new]⟩
  good := by simp [System.new, InnerDaemonRunner.new]
  settled _ hne := absurd rfl hne
  loops := by simp [System.new]

theorem steps_gated (h : Gated s) (hsteps : Steps machine s t) : Gated t := by
  induction hsteps with
  | refl => exact h
  | tail _ hstep ih => exact gated_step ih hstep

theorem good_step (h : Gated s) (hgood : s.runner.statusmeta = .Good) (hstep : Step machine s t) :
    t.runner.statusmeta = .Good := by
  cases hstep with
  | call config key _ => exact (takeKey_statusmeta s.runner key).trans hgood
  | @accept config _ =>
      have hk : ¬ s.runner.rt.info.key.isNone := by
        rw [h.key]
        simpa using h.good hgood
      have haccepted : s.accept config = _ := if_neg hk
      rw [haccepted]
      cases config <;> rfl
  | endpoint _ => exact (statusmeta_applyEndpoint _ _).trans hgood
  | ssh _ => exact (statusmeta_applySsh _ _ _).trans hgood
  | background hb => exact hb.statusmeta.trans hgood
  | startUp _ _ => exact hgood
  | loop _ => exact hgood

theorem good_steps (h : Gated s) (hgood : s.runner.statusmeta = .Good) (hsteps : Steps machine s t) :
    t.runner.statusmeta = .Good := by
  induction hsteps with
  | refl => exact hgood
  | tail hbefore hstep ih => exact good_step (steps_gated h hbefore) ih hstep

/-- The connection can send no other hello than the one with the key that was
supplied last when its `create_args` read the cell. -/
def HelloFrom (supplied : List String) (setup : Setup) (t : ConnectionTask)
    (read : SharedInfo × List String) : Prop :=
  ∃ key, read.2.head? = some key ∧ read.2 <:+ supplied ∧ Greets key setup t

theorem helloFrom {supplied : List String} {setup : Setup} {t : ConnectionTask} {read : SharedInfo × List String}
    (hmade : MadeFrom setup t read) (hread : ReadFrom supplied read) : HelloFrom supplied setup t read := by
  obtain ⟨key, older, hstamp⟩ := List.exists_cons_of_ne_nil hread.keyed
  have hhead : read.2.head? = some key := by
    rw [hstamp]
    rfl
  exact ⟨key, hhead, hread.before, hmade.greets (hread.key.trans hhead)⟩

/-- Without a key nothing is configured; the status is good once a key was
supplied and stays so; and every hello has the key of its time. -/
theorem key_gating {clock : String} (h : Steps machine (.new clock) s) :
    (s.supplied = [] → s.runner.endpoints = ∅ ∧ s.runner.ssh = none) ∧
      (s.progress = .idle → (s.runner.statusmeta = .Good ↔ s.supplied ≠ [])) ∧
      (s.runner.statusmeta = .Good → ∀ t, Steps machine s t → t.runner.statusmeta = .Good) ∧
      ∀ l ∈ s.loops,
        (∀ read, l.loop.reading = some read → read.1.key = read.2.head? ∧ read.1.key ≠ none) ∧
        List.Forall₂ (HelloFrom s.supplied l.setup) l.loop.generation.tasks l.loop.origins := by
  have hg := steps_gated (gated_new clock) h
  refine ⟨?_, ?_, ?_, ?_⟩
  · intro hempty
    have hk := hg.keyless hempty
    exact ⟨hk.endpoints, hk.ssh⟩
  · intro hidle
    exact ⟨hg.good, hg.settled (by simp [hidle])⟩
  · intro hgood t hsteps
    exact good_steps hg hgood hsteps
  · intro l hl
    have hkept := hg.loops l hl
    refine ⟨?_, hkept.made.imp fun _ _ hmade => helloFrom hmade.1 hmade.2⟩
    intro read hread
    have hfrom := hkept.reading read hread
    refine ⟨hfrom.key, ?_⟩
    rw [hfrom.key, Ne, List.head?_eq_none_iff]
    exact hfrom.keyed

def sampleMachine : Machine := ⟨"host", sampleEnv.cbor, sampleEnv.debug, none⟩

/-- The key changes between the reading and the connection made from it. -/
theorem run_rekeyed : ∃ s l t, Steps sampleMachine (.new "") s ∧ s.progress = .idle ∧
    s.supplied = ["next", "key"] ∧ s.loops = [l] ∧ l.loop.generation.tasks = [t] ∧
    l.loop.origins = [(⟨some "key"⟩, ["key"])] := by
  have r : Steps sampleMachine (.new "") _ := call_steps rfl (some sampleConfig) (some "key")
  have hspawned : .spawned 1 (capIdle (endpointArgs ⟨8081, "a.example", 200, 2000, true, none⟩)) ∈
      (updateConfig "host" (.new ⟨none⟩ "") (some sampleConfig) (some "key")).rt.log.events := by decide
  have r := r.tail (.startUp [] hspawned)
  have r := r.tail (.loop (move_single false (.new none) _
    (.other (.acquireMax rfl (by decide)) (.inr ⟨rfl, rfl⟩))))
  have r := r.tail (.loop (move_single false (.new none) _ (.enter rfl (by decide))))
  have r := r.trans (call_steps rfl none (some "next"))
  have r := r.tail (.loop (move_single false (.new none) _
    (.resolved (.found [ipv4 192 0 2 1]) (.first _) [] rfl rfl rfl)))
  exact ⟨_, _, _, r, rfl, rfl, rfl, rfl, rfl⟩

theorem key_gating_sample : ∃ s l t, Steps sampleMachine (.new "") s ∧
    s.runner.statusmeta = .Good ∧ s.loops = [l] ∧ l.loop.generation.tasks = [t] ∧
    HelloFrom ["next", "key"] l.setup t (⟨some "key"⟩, ["key"]) := by
  obtain ⟨s, l, t, r, hidle, hsupplied, hloops, htasks, horigins⟩ := run_rekeyed
  obtain ⟨_, hgood, _, hhello⟩ := key_gating r
  have hs := (hhello l (by simp [hloops])).2
  rw [htasks, horigins, hsupplied, List.forall₂_cons] at hs
  exact ⟨s, l, t, r, (hgood hidle).mpr (by simp [hsupplied]), hloops, htasks, hs.1⟩

end Ebbflow.KeyGating
