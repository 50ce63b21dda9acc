import Ebbflow.RunnerKey
import Ebbflow.RunnerReload

namespace Ebbflow.Reapply

open Config Daemon Runner RunnerTasks RunnerConfig RunnerKey RunnerReload Lib.HashTable Lib.Supervisor

/-- Two entries between which a slot changes without a signal or a task. -/
def Alike (a b : Endpoint) : Prop := a = b ∨ (a.enabled = false ∧ b.enabled = false)

instance (a b : Endpoint) : Decidable (Alike a b) := inferInstanceAs (Decidable (_ ∨ _))

def Repeatable (c : EbbflowDaemonConfig) : Prop :=
  ∀ a ∈ c.endpoints, ∀ b ∈ c.endpoints, a.dns = b.dns → Alike a b

instance (c : EbbflowDaemonConfig) : Decidable (Repeatable c) :=
  inferInstanceAs (Decidable (∀ a ∈ c.endpoints, ∀ b ∈ c.endpoints, a.dns = b.dns → Alike a b))

/-- From `s` to `t` no task was stopped or spawned, and every handle is in place. -/
structure NoOp (s t : InnerDaemonRunner) : Prop where
  events : t.rt.log.events = s.rt.log.events
  endpoints : ∀ dns, t.endpoints.lookup dns = s.endpoints.lookup dns
  ssh : t.ssh = s.ssh

theorem Alike.symm {a b : Endpoint} (h : Alike a b) : Alike b a := by
  rcases h with rfl | h
  · exact .inl rfl
  · exact .inr h.symm

theorem Alike.trans {a b c : Endpoint} (hab : Alike a b) (hbc : Alike b c) : Alike a c := by
  rcases hab with rfl | ⟨ha, _⟩
  · exact hbc
  · rcases hbc with rfl | ⟨_, hc⟩
    · exact .inr ⟨ha, ‹_›⟩
    · exact .inr ⟨ha, hc⟩

/-- Each entry of the list finds its slot as it will leave it. -/
def Chain (cfg : String → Option Endpoint) : List Endpoint → Prop
  | [] => True
  | e :: es => (∀ current, cfg e.dns = some current → Alike current e) ∧
      Chain (Function.update cfg e.dns (some e)) es

theorem Chain.alike {cfg : String → Option Endpoint} {es : List Endpoint} (h : Chain cfg es) :
    ∀ e ∈ es, ∀ current, cfg e.dns = some current → Alike current e := by
  induction es generalizing cfg with
  | nil => simp
  | cons e es ih =>
      obtain ⟨hhead, htail⟩ := h
      intro e' he' current hc
      rcases List.mem_cons.mp he' with rfl | hm
      · exact hhead current hc
      · by_cases hd : e'.dns = e.dns
        · have hnext : Alike e e' := ih htail e' hm e (by rw [hd, Function.update_self])
          exact (hhead current (hd ▸ hc)).trans hnext
        · apply ih htail e' hm current
          rw [Function.update_of_ne hd, hc]

theorem chain_of_alike {all es : List Endpoint} {cfg : String → Option Endpoint}
    (halike : ∀ a ∈ all, ∀ b ∈ all, a.dns = b.dns → Alike a b) (hes : es ⊆ all)
    (hcfg : ∀ dns current, cfg dns = some current → current ∈ all ∧ current.dns = dns) :
    Chain cfg es := by
  induction es generalizing cfg with
  | nil => trivial
  | cons e es ih =>
      obtain ⟨he, hes⟩ := List.cons_subset.mp hes
      refine ⟨?_, ih hes ?_⟩
      · intro current hc
        obtain ⟨hm, hd⟩ := hcfg e.dns current hc
        exact halike current hm e he hd
      · intro dns current hc
        by_cases hd : dns = e.dns
        · subst hd
          rw [Function.update_self, Option.some.injEq] at hc
          exact ⟨hc ▸ he, congrArg _ hc.symm⟩
        · rw [Function.update_of_ne hd] at hc
          exact hcfg dns current hc

theorem configOf_step (s : InnerDaemonRunner) (e : Endpoint) :
    configOf (applyEndpoint s e) = Function.update (configOf s) e.dns (some e) := by
  funext dns
  rw [configOf_applyEndpoint, Function.update_apply]
  simp only [eq_comm]

theorem events_of_grows {P : Slot → Prop} {old new : TaskLog EndpointArgs} (h : GrowsOutside P old new) :
    old.events <+: new.events := by
  obtain ⟨es, he, _⟩ := h
  exact ⟨es, he.symm⟩

theorem applyEndpoint_le (s : InnerDaemonRunner) (e : Endpoint) :
    s.rt.log.events <+: (applyEndpoint s e).rt.log.events :=
  events_of_grows (growsOutside_applyEndpoint (P := fun _ => False) s e False.elim)

theorem foldl_le (s : InnerDaemonRunner) (es : List Endpoint) :
    s.rt.log.events <+: (es.foldl applyEndpoint s).rt.log.events := by
  induction es generalizing s with
  | nil => exact List.prefix_rfl
  | cons e es ih => exact (applyEndpoint_le s e).trans (ih _)

theorem putEndpoint_events (s : InnerDaemonRunner) (e : Endpoint) (ed : EnabledDisabled) :
    (putEndpoint s e (ed.stop s.rt).2).rt.log.events = s.rt.log.events ↔
      taskOf ed = none ∧ e.enabled = false := by
  have hput : (putEndpoint s e (ed.stop s.rt).2).rt.log = (startIfEnabled e (ed.stop s.rt).2).2.log := rfl
  rw [hput, startIfEnabled_log]
  cases ed <;> cases e.enabled <;>
    simp [EnabledDisabled.stop, Runtime.stop, taskOf, TaskLog.stop, TaskLog.spawn]

theorem applyEndpoint_quiet {s : InnerDaemonRunner} (h : FlagsMatch s) {e current : Endpoint}
    (hc : configOf s e.dns = some current) :
    (applyEndpoint s e).rt.log.events = s.rt.log.events ↔ Alike current e := by
  obtain ⟨inst, hl, rfl⟩ := Option.map_eq_some_iff.mp hc
  have hflag := h.endpoints e.dns inst hl
  rcases applyEndpoint_cases s e with ⟨current, hl', he, ha⟩ | ⟨current, hl', he, ha⟩ | ⟨hl', _⟩ <;>
    rw [hl] at hl' <;> cases hl'
  · rw [ha]
    exact iff_of_true rfl (.inl he)
  · rw [ha, putEndpoint_events, Alike, or_iff_right he, ← hflag, Option.isSome_eq_false_iff,
      Option.isNone_iff_eq_none]

theorem applyEndpoint_handles {s : InnerDaemonRunner} (h : FlagsMatch s) {e current : Endpoint}
    (hc : configOf s e.dns = some current) (halike : Alike current e) (dns : String) :
    ((applyEndpoint s e).endpoints.lookup dns).map (·.enabledisable) =
      (s.endpoints.lookup dns).map (·.enabledisable) := by
  by_cases hd : dns = e.dns
  · subst hd
    rcases halike with rfl | ⟨hcur, he⟩
    · rw [applyEndpoint_unchanged s current hc]
    · obtain ⟨inst, hl, rfl⟩ := Option.map_eq_some_iff.mp hc
      have hidle : inst.enabledisable = .Disabled := by
        have hflag := h.endpoints e.dns inst hl
        rw [hcur] at hflag
        cases hed : inst.enabledisable with
        | Disabled => rfl
        | Enabled task => simp [hed, taskOf] at hflag
      rcases applyEndpoint_cases s e with ⟨_, _, _, ha⟩ | ⟨_, _, _, ha⟩ | ⟨hl', _⟩
      · rw [ha]
      · rw [ha, putEndpoint, AList.lookup_insert, hl]
        simp [startIfEnabled, he, hidle]
      · rw [hl] at hl'
        cases hl'
  · rw [applyEndpoint_other s e hd]

theorem named_applyEndpoint {s : InnerDaemonRunner} (e : Endpoint) {es : List Endpoint}
    (h : ∀ e' ∈ es, (configOf s e'.dns).isSome) :
    ∀ e' ∈ es, (configOf (applyEndpoint s e) e'.dns).isSome := by
  intro e' he'
  rw [configOf_applyEndpoint]
  split
  · rfl
  · exact h e' he'

theorem foldl_quiet {s : InnerDaemonRunner} (h : FlagsMatch s) (es : List Endpoint)
    (hes : ∀ e ∈ es, (configOf s e.dns).isSome) :
    (es.foldl applyEndpoint s).rt.log.events = s.rt.log.events ↔ Chain (configOf s) es := by
  induction es generalizing s with
  | nil => exact iff_of_true rfl trivial
  | cons e es ih =>
      obtain ⟨current, hc⟩ := Option.isSome_iff_exists.mp (hes e (by simp))
      have hes' := named_applyEndpoint e fun e' he' => hes e' (List.mem_cons_of_mem _ he')
      have hrest := ih (flagsMatch_applyEndpoint h e) hes'
      have hhead := applyEndpoint_quiet h hc
      rw [configOf_step] at hrest
      constructor
      · intro hquiet
        have hstep : (applyEndpoint s e).rt.log.events = s.rt.log.events := by
          have hle : (applyEndpoint s e).rt.log.events <+: s.rt.log.events := by
            rw [← hquiet]
            exact foldl_le _ es
          exact hle.eq_of_length_le (applyEndpoint_le s e).length_le
        refine ⟨?_, hrest.mp (hquiet.trans hstep.symm)⟩
        intro other ho
        rw [hc, Option.some.injEq] at ho
        exact ho ▸ hhead.mp hstep
      · rintro ⟨halike, hchain⟩
        exact (hrest.mpr hchain).trans (hhead.mpr (halike current hc))

theorem foldl_handles {s : InnerDaemonRunner} (h : FlagsMatch s) (es : List Endpoint)
    (hes : ∀ e ∈ es, (configOf s e.dns).isSome) (hchain : Chain (configOf s) es) (dns : String) :
    ((es.foldl applyEndpoint s).endpoints.lookup dns).map (·.enabledisable) =
      (s.endpoints.lookup dns).map (·.enabledisable) := by
  induction es generalizing s with
  | nil => rfl
  | cons e es ih =>
      obtain ⟨current, hc⟩ := Option.isSome_iff_exists.mp (hes e (by simp))
      obtain ⟨hhead, htail⟩ := hchain
      have hes' := named_applyEndpoint e fun e' he' => hes e' (List.mem_cons_of_mem _ he')
      rw [← configOf_step] at htail
      rw [List.foldl_cons, ih (flagsMatch_applyEndpoint h e) hes' htail]
      exact applyEndpoint_handles h hc (hhead current hc) dns

theorem retainConfigured_all (s : InnerDaemonRunner) {set : List String}
    (h : ∀ dns, (s.endpoints.lookup dns).isSome → dns ∈ set) :
    (retainConfigured s set).rt = s.rt ∧
      ∀ dns, (retainConfigured s set).endpoints.lookup dns = s.endpoints.lookup dns := by
  constructor
  · refine (retain_induction s.endpoints (keepConfigured set) s.rt
      (fun lookup rt => (∀ dns, (lookup dns).isSome → dns ∈ set) ∧ rt = s.rt) ?_ ⟨h, rfl⟩).2
    rintro lookup dns inst rt hl ⟨hset, hrt⟩
    have hdns : dns ∈ set := hset dns (by rw [hl]; rfl)
    rw [keepConfigured, if_pos hdns, if_pos rfl, ← hl, Function.update_eq_self]
    exact ⟨hset, hrt⟩
  · intro dns
    rw [lookup_retainConfigured]
    split
    · rfl
    · next hout =>
        rw [eq_comm, ← Option.not_isSome_iff_eq_none]
        exact fun hs => hout (h dns hs)

theorem instance_ext {a b : Option EndpointInstance}
    (he : a.map (·.enabledisable) = b.map (·.enabledisable))
    (hc : a.map (·.existingConfig) = b.map (·.existingConfig)) : a = b := by
  cases a with
  | none => cases b with
    | none => rfl
    | some y => cases he
  | some x => cases b with
    | none => cases he
    | some y =>
        obtain ⟨_, _⟩ := x
        obtain ⟨_, _⟩ := y
        cases he
        cases hc
        rfl

theorem chain_iff_repeatable {c : EbbflowDaemonConfig} {cfg : String → Option Endpoint}
    (hcfg : ∀ dns, cfg dns = lastNamed c.endpoints dns) : Chain cfg c.endpoints ↔ Repeatable c := by
  constructor
  · intro h a ha b hb hd
    have hsome : (lastNamed c.endpoints a.dns).isSome :=
      (lastNamed_isSome c.endpoints a.dns).mpr (List.mem_map_of_mem ha)
    obtain ⟨current, hc⟩ := Option.isSome_iff_exists.mp hsome
    rw [← hcfg] at hc
    exact (h.alike a ha current hc).symm.trans (h.alike b hb current (hd ▸ hc))
  · intro h
    apply chain_of_alike h (List.Subset.refl _)
    intro dns current hc
    rw [hcfg] at hc
    exact lastNamed_mem hc

theorem applyConfig_again {osHostname : String} {c : EbbflowDaemonConfig} {t : InnerDaemonRunner}
    (hf : FlagsMatch t) (hcfg : ∀ dns, configOf t dns = lastNamed c.endpoints dns)
    (hssh : t.ssh.map (·.existingConfig) = c.ssh.map (sshConfiguration osHostname)) :
    ((applyConfig osHostname t c).rt.log.events = t.rt.log.events ↔ Repeatable c) ∧
      (Repeatable c → NoOp t (applyConfig osHostname t c)) := by
  have hset : ∀ dns, (t.endpoints.lookup dns).isSome → dns ∈ c.endpoints.map (·.dns) := by
    intro dns hs
    rw [← lastNamed_isSome, ← hcfg, configOf, Option.isSome_map]
    exact hs
  obtain ⟨hrt, hlookup⟩ := retainConfigured_all t hset
  let kept := retainConfigured t (c.endpoints.map (·.dns))
  have hkept : ∀ dns, configOf kept dns = lastNamed c.endpoints dns := by
    intro dns
    rw [← hcfg, configOf, hlookup]
    rfl
  have hfkept : FlagsMatch kept := flagsMatch_retain hf _
  have hnamed : ∀ e ∈ c.endpoints, (configOf kept e.dns).isSome := by
    intro e he
    rw [hkept, lastNamed_isSome]
    exact List.mem_map_of_mem he
  have hsame : applyConfig osHostname t c = c.endpoints.foldl applyEndpoint kept := by
    apply applySsh_same
    rw [foldl_ssh]
    exact hssh
  have hchain : Chain (configOf kept) c.endpoints ↔ Repeatable c := chain_iff_repeatable hkept
  have hquiet : (applyConfig osHostname t c).rt.log.events = t.rt.log.events ↔ Repeatable c := by
    rw [hsame, ← hchain, ← foldl_quiet hfkept c.endpoints hnamed]
    exact Eq.congr_right (congrArg (fun rt : Runtime => rt.log.events) hrt.symm)
  refine ⟨hquiet, fun hr => ⟨hquiet.mpr hr, ?_, ?_⟩⟩
  · intro dns
    apply instance_ext
    · rw [hsame, foldl_handles hfkept c.endpoints hnamed (hchain.mpr hr), hlookup]
    · exact (configOf_applyConfig osHostname t c dns).trans (hcfg dns).symm
  · rw [hsame, foldl_ssh]
    rfl

/-- Applying a configuration a second time does nothing exactly when entries of
one name are the same or all disabled. -/
theorem reapply_noop_iff {osHostname : String} {calls : List Call} {s t : InnerDaemonRunner}
    (h : Run osHostname calls s) (c : EbbflowDaemonConfig) (k : Option String)
    (hkey : s.rt.info.key.isSome ∨ k.isSome)
    (hb : Background (updateConfig osHostname s (some c) k) t) :
    NoOp t (updateConfig osHostname t (some c) k) ↔ Repeatable c := by
  have ht : Run osHostname (⟨some c, k⟩ :: calls) t := .background (.call ⟨some c, k⟩ h) hb
  have hkeyt : t.rt.info.key.isSome ∨ k.isSome := by
    rw [hb.info, updateConfig_key, Option.isSome_or]
    cases k <;> simp_all
  have hfirst := updateConfig_some osHostname s c k hkey
  rw [updateConfig_some osHostname t c k hkeyt]
  let t₀ : InnerDaemonRunner := { takeKey t k with statusmeta := .Good }
  have hsame : t₀.endpoints = t.endpoints ∧ t₀.ssh = t.ssh ∧ t₀.rt.log = t.rt.log := takeKey_frame t k
  have hf : FlagsMatch t₀ := flagsMatch_congr (run_flagsMatch ht) (.of_eq (congrArg _ hsame.1)) hsame.2.1
  have hcfg : ∀ dns, configOf t₀ dns = lastNamed c.endpoints dns := by
    intro dns
    rw [configOf, hsame.1, AList.perm_lookup hb.endpoints, hfirst]
    exact configOf_applyConfig _ _ _ _
  have hssh : t₀.ssh.map (·.existingConfig) = c.ssh.map (sshConfiguration osHostname) := by
    rw [hsame.2.1, hb.ssh, hfirst]
    exact sshConfig_applySsh _ _ _
  obtain ⟨hquiet, hnoop⟩ := applyConfig_again hf hcfg hssh
  constructor
  · intro hn
    apply hquiet.mp
    rw [hsame.2.2]
    exact hn.events
  · intro hr
    obtain ⟨he, hl, hs⟩ := hnoop hr
    refine ⟨?_, ?_, hs.trans hsame.2.1⟩
    · rw [he, hsame.2.2]
    · intro dns
      rw [hl, hsame.1]

theorem reapply_noop_iff_sample :
    NoOp (updateConfig "host" (.new ⟨none⟩ "") (some sampleEdit) (some "key"))
      (updateConfig "host" (updateConfig "host" (.new ⟨none⟩ "") (some sampleEdit) (some "key"))
        (some sampleEdit) (some "key")) :=
  (reapply_noop_iff (.new ⟨none⟩ "") sampleEdit (some "key") (.inr rfl)
    ⟨.refl _, rfl, rfl, rfl, rfl⟩).mpr (by decide)

/-- A file that names one endpoint twice restarts it at every event. -/
theorem reapply_restarts :
    ¬ ∀ osHostname calls s, Run osHostname calls s → s.rt.info.key.isSome → ∀ c k,
      NoOp (updateConfig osHostname s (some c) k)
        (updateConfig osHostname (updateConfig osHostname s (some c) k) (some c) k) := by
  intro h
  have hrun : Run "host" _ _ := .call ⟨none, some "key"⟩ (.new ⟨none⟩ "")
  have hnoop := h "host" _ _ hrun rfl sampleConfig none
  exact absurd hnoop.events (by decide)

end Ebbflow.Reapply
