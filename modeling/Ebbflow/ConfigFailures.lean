import Ebbflow.ConfigRefinement
import Ebbflow.RunnerConfig

namespace Ebbflow.ConfigFailures

open Config ConfigFile ConfigCommands ConfigRefinement RunnerConfig Lib.Text

def Refused : ConfigSubCommand → EbbflowDaemonConfig → Prop
  | .AddEndpoint args, c => ∃ e ∈ c.endpoints, e.dns = args.dns
  | .RemoveEndpoint args, c => args.idempotent = false ∧ ∀ e ∈ c.endpoints, e.dns ≠ args.dns
  | .SetupSsh _, c => c.ssh.isSome
  | .Enable _, _ | .Disable _, _ | .RemoveSshConfiguration, _ | .LogLevel _, _ => False

/-- Of the entries of one name the last has the flag already, and another has not. -/
def LastAgrees (enabled : Bool) (dns : String) (es : List Endpoint) : Prop :=
  (lastNamed es dns).map (·.enabled) = some enabled ∧ ∃ e ∈ es, e.dns = dns ∧ e.enabled ≠ enabled

def HidesChange (enable : Bool) (args : EnableDisableArgs) (c : EbbflowDaemonConfig) : Prop :=
  args.idempotent = false ∧ ∃ dns, args.target = .Endpoint dns ∧ LastAgrees enable dns c.endpoints

/-- The command saves a change and reports that there was none to make. -/
def Misreports : ConfigSubCommand → EbbflowDaemonConfig → Prop
  | .Enable args, c => HidesChange true args c
  | .Disable args, c => HidesChange false args c
  | _, _ => False

/-- A file that is written to in vain still loads as before, or the command does
not write, or it does not misreport what it wrote. -/
def Harmless (y : SerdeYaml) (cmd : ConfigSubCommand) (c : EbbflowDaemonConfig) : Disk → Prop
  | .wrote => ¬ Misreports cmd c
  | .failed _ left => Refused cmd c ∨ loadFromFileOrNew y left = .ok c

variable {y : SerdeYaml} {cmd : ConfigSubCommand} {existing config : EbbflowDaemonConfig} {answer : Answer}

theorem enableLoop_last (enabled : Bool) (dns : String) (es : List Endpoint) (flags : Bool × Bool) :
    (enableLoop enabled (some dns) es flags).2 =
      ((lastNamed es dns).map fun e => (true, decide (e.enabled ≠ enabled))).getD flags := by
  induction es generalizing flags with
  | nil => rfl
  | cons e es ih =>
      rw [lastNamed_cons, enableLoop, ih]
      cases hlast : lastNamed es dns with
      | some later => rfl
      | none =>
          by_cases hd : dns = e.dns
          · by_cases he : e.enabled = enabled
            · simp [hd, he]
            · simp [hd, he]
          · simp [hd, Ne.symm hd]

theorem enable_unchanged_iff (enabled : Bool) (dns : String) (es : List Endpoint) :
    (es.map fun e => if e.dns = dns then ConfigMap.enableEndpoint enabled e else e) = es ↔
      ∀ e ∈ es, e.dns = dns → e.enabled = enabled := by
  conv_lhs => rw [← List.map_id es]
  rw [List.map_map, List.map_inj_left]
  apply forall₂_congr
  intro e _
  by_cases hd : e.dns = dns
  · subst hd
    obtain ⟨port, name, maxconns, maxidle, flag, healthcheck⟩ := e
    simp [ConfigMap.enableEndpoint, eq_comm]
  · simp [hd]

theorem enable_changes_iff (enabled : Bool) (dns : String) (c : EbbflowDaemonConfig) :
    { c with endpoints := (enableLoop enabled (some dns) c.endpoints (false, false)).1 } ≠ c ↔
      ∃ e ∈ c.endpoints, e.dns = dns ∧ e.enabled ≠ enabled := by
  have hsame := enable_unchanged_iff enabled dns c.endpoints
  obtain ⟨endpoints, ssh, loglevel⟩ := c
  rw [enableLoop_endpoints, Ne, EbbflowDaemonConfig.mk.injEq, and_iff_left ⟨rfl, rfl⟩, hsame]
  simp only [not_forall, exists_prop]

theorem found_error_iff (enable : Bool) (args : EnableDisableArgs) (mutated : Bool) :
    (∃ message, handleEnableDisableRet enable args (true, mutated) = .error message) ↔
      args.idempotent = false ∧ mutated = false := by
  cases mutated <;> cases hi : args.idempotent <;> simp [handleEnableDisableRet, hi]

theorem one_misreports_iff {enable : Bool} {args : EnableDisableArgs} {dns : String}
    (htarget : args.target = .Endpoint dns) {ret : Bool × Bool}
    (h : enabledisable enable args.target existing = .ok (config, ret)) :
    ((∃ message, handleEnableDisableRet enable args ret = .error message) ∧ config ≠ existing) ↔
      HidesChange enable args existing := by
  rw [htarget, enabledisable, setEndpointEnabled, Except.ok.injEq, Prod.mk.injEq] at h
  obtain ⟨rfl, rfl⟩ := h
  rw [enable_changes_iff, enableLoop_last, HidesChange, htarget]
  simp only [EnableDisableTarget.Endpoint.injEq, exists_eq_left', LastAgrees]
  cases hlast : lastNamed existing.endpoints dns with
  | none =>
      have hnone : ¬ ∃ e ∈ existing.endpoints, e.dns = dns ∧ e.enabled ≠ enable := by
        rintro ⟨e, he, hd, _⟩
        have hsome := (lastNamed_isSome existing.endpoints dns).mpr (List.mem_map.mpr ⟨e, he, hd⟩)
        rw [hlast] at hsome
        cases hsome
      simp [hnone]
  | some e =>
      simp only [Option.map_some, Option.getD_some, found_error_iff, Option.some.injEq,
        decide_eq_false_iff_not, not_not, and_assoc]

theorem all_unchanged {enable : Bool} {ret : Bool × Bool}
    (h : setEndpointEnabled enable none existing = .ok (config, ret)) :
    ret = (true, true) ∨ config = existing := by
  rw [setEndpointEnabled, enableLoop_all, Except.ok.injEq, Prod.mk.injEq] at h
  obtain ⟨rfl, rfl⟩ := h
  by_cases hnil : existing.endpoints = []
  · right
    obtain ⟨endpoints, ssh, loglevel⟩ := existing
    obtain rfl : endpoints = [] := hnil
    rfl
  · exact .inl (if_neg hnil)

theorem ssh_unchanged {enable : Bool} {ret : Bool × Bool}
    (h : setSshEnabled enable existing = .ok (config, ret)) : ret = (true, true) ∨ config = existing := by
  rw [setSshEnabled] at h
  split at h
  · split at h
    · obtain ⟨rfl, rfl⟩ := Prod.mk.inj (Except.ok.inj h)
      exact .inr rfl
    · obtain ⟨rfl, rfl⟩ := Prod.mk.inj (Except.ok.inj h)
      exact .inl rfl
  · obtain ⟨rfl, rfl⟩ := Prod.mk.inj (Except.ok.inj h)
    exact .inr rfl

theorem enable_misreports_iff {enable : Bool} {args : EnableDisableArgs} {ret : Bool × Bool}
    (h : enabledisable enable args.target existing = .ok (config, ret)) :
    ((∃ message, handleEnableDisableRet enable args ret = .error message) ∧ config ≠ existing) ↔
      HidesChange enable args existing := by
  have hsound (hret : ret = (true, true) ∨ config = existing) :
      ¬ ((∃ message, handleEnableDisableRet enable args ret = .error message) ∧ config ≠ existing) := by
    rintro ⟨⟨message, herror⟩, hchanged⟩
    rcases hret with rfl | hsame
    · cases herror
    · exact hchanged hsame
  cases htarget : args.target with
  | Endpoint dns => exact one_misreports_iff htarget h
  | AllEndpoints =>
      rw [htarget] at h
      exact iff_of_false (hsound (all_unchanged h)) (by simp [HidesChange, htarget])
  | Ssh =>
      rw [htarget] at h
      exact iff_of_false (hsound (ssh_unchanged h)) (by simp [HidesChange, htarget])

theorem enabledisable_ok (enable : Bool) (target : EnableDisableTarget) (c : EbbflowDaemonConfig) :
    ∃ r, enabledisable enable target c = .ok r := by
  cases target with
  | Endpoint | AllEndpoints => exact ⟨_, rfl⟩
  | Ssh =>
      rw [enabledisable, setSshEnabled]
      split
      · split <;> exact ⟨_, rfl⟩
      · exact ⟨_, rfl⟩

theorem map_error_iff {α β : Type} (r : Edited α)
    (f : EbbflowDaemonConfig × α → EbbflowDaemonConfig × β) :
    (∃ message, r.map f = .error message) ↔ ∃ message, r = .error message := by
  cases r <;> simp [Except.map]

theorem enabledisable_accepted (enable : Bool) (target : EnableDisableTarget) (c : EbbflowDaemonConfig) :
    ¬ ∃ message, enabledisable enable target c = .error message := by
  rintro ⟨message, herror⟩
  obtain ⟨r, hr⟩ := enabledisable_ok enable target c
  rw [hr] at herror
  cases herror

theorem addEndpoint_refused_iff (args : AddEndpointArgs) (c : EbbflowDaemonConfig) :
    (∃ message, addEndpoint args c = .error message) ↔ ∃ e ∈ c.endpoints, e.dns = args.dns := by
  rw [addEndpoint]
  cases hfind : c.endpoints.find? (·.dns = (newendpoint args).dns) with
  | none =>
      rw [List.find?_eq_none] at hfind
      refine iff_of_false (by simp) ?_
      rintro ⟨e, he, hd⟩
      exact hfind e he (decide_eq_true hd)
  | some e =>
      have he : e.dns = (newendpoint args).dns := by simpa using List.find?_some hfind
      exact iff_of_true ⟨_, rfl⟩ ⟨e, List.mem_of_find?_eq_some hfind, he⟩

theorem removeEndpoint_refused_iff (args : RemoveEndpointArgs) (c : EbbflowDaemonConfig) :
    (∃ message, removeEndpoint args c = .error message) ↔
      args.idempotent = false ∧ ∀ e ∈ c.endpoints, e.dns ≠ args.dns := by
  rw [removeEndpoint]
  by_cases h : (c.endpoints.any (·.dns = args.dns) || args.idempotent) = true
  · rw [if_pos h]
    refine iff_of_false (by simp) ?_
    rintro ⟨hi, hnone⟩
    rw [hi, Bool.or_false, List.any_eq_true] at h
    obtain ⟨e, he, hd⟩ := h
    exact hnone e he (of_decide_eq_true hd)
  · rw [if_neg h]
    rw [Bool.or_eq_true, not_or, List.any_eq_true] at h
    refine iff_of_true ⟨_, rfl⟩ ⟨by simpa using h.2, ?_⟩
    intro e he hd
    exact h.1 ⟨e, he, decide_eq_true hd⟩

theorem edit_refused_iff (cmd : ConfigSubCommand) (c : EbbflowDaemonConfig) :
    (∃ message, cmd.edit c = .error message) ↔ Refused cmd c := by
  cases cmd with
  | Enable args => exact (map_error_iff _ _).trans (iff_of_false (enabledisable_accepted _ _ _) id)
  | Disable args => exact (map_error_iff _ _).trans (iff_of_false (enabledisable_accepted _ _ _) id)
  | AddEndpoint args => exact (map_error_iff _ _).trans (addEndpoint_refused_iff args c)
  | RemoveEndpoint args => exact (map_error_iff _ _).trans (removeEndpoint_refused_iff args c)
  | SetupSsh args =>
      refine (map_error_iff _ _).trans ?_
      rw [setupSsh, Refused]
      cases c.ssh <;> simp
  | RemoveSshConfiguration | LogLevel =>
      refine iff_of_false ?_ id
      rintro ⟨message, herror⟩
      cases herror

theorem silent_answer {r : Edited Unit} (h : (r.map fun p => (p.1, none)) = .ok (config, answer)) :
    answer = none := by
  cases r with
  | error message => cases h
  | ok p => exact ((Prod.mk.inj (Except.ok.inj h)).2).symm

theorem paired_answer {r : Edited (Bool × Bool)} (h : (r.map fun p => (p.1, some p.2)) = .ok (config, answer)) :
    ∃ ret, answer = some ret ∧ r = .ok (config, ret) := by
  cases r with
  | error message => cases h
  | ok p =>
      obtain ⟨rfl, rfl⟩ := Prod.mk.inj (Except.ok.inj h)
      exact ⟨p.2, rfl, rfl⟩

theorem saved_misreports_iff (h : cmd.edit existing = .ok (config, answer)) :
    ((∃ message, cmd.report (.saved answer) = .error message) ∧ config ≠ existing) ↔
      Misreports cmd existing := by
  cases cmd with
  | Enable args =>
      obtain ⟨ret, rfl, hret⟩ := paired_answer h
      exact enable_misreports_iff hret
  | Disable args =>
      obtain ⟨ret, rfl, hret⟩ := paired_answer h
      exact enable_misreports_iff hret
  | AddEndpoint | RemoveEndpoint | SetupSsh =>
      obtain rfl := silent_answer h
      exact iff_of_false (by simp [ConfigSubCommand.report]) id
  | RemoveSshConfiguration | LogLevel =>
      obtain ⟨_, rfl⟩ := Prod.mk.inj (Except.ok.inj h)
      exact iff_of_false (by simp [ConfigSubCommand.report]) id

theorem not_misreports_of_refused (h : Refused cmd existing) : ¬ Misreports cmd existing := by
  cases cmd with
  | AddEndpoint | RemoveEndpoint | SetupSsh => exact id
  | Enable | Disable | RemoveSshConfiguration | LogLevel => cases h

/-- A command that reports an error leaves the configuration as it was, exactly
if it is harmless. -/
theorem failure_changes_nothing_iff {f : File} (hload : loadFromFileOrNew y f = .ok existing)
    (hwrites : ∀ config answer, cmd.edit existing = .ok (config, answer) →
      (y.toString config).isSome ∧ y.Restores config) (disk : Disk) :
    (∀ message, cmd.report (cmd.run y disk f).2 = .error message →
      loadFromFileOrNew y (cmd.run y disk f).1 = .ok existing) ↔ Harmless y cmd existing disk := by
  cases hedit : cmd.edit existing with
  | error message =>
      have hrefused : Refused cmd existing := (edit_refused_iff cmd existing).mp ⟨message, hedit⟩
      have hrun : cmd.run y disk f = (f, .exited message) := by simp [ConfigSubCommand.run, hload, hedit]
      rw [hrun]
      refine iff_of_true (fun _ _ => hload) ?_
      cases disk with
      | wrote => exact not_misreports_of_refused hrefused
      | failed e left => exact .inl hrefused
  | ok r =>
      obtain ⟨config, answer⟩ := r
      have hnot : ¬ Refused cmd existing := by
        rw [← edit_refused_iff, hedit]
        simp
      obtain ⟨hsome, hrestores⟩ := hwrites config answer hedit
      obtain ⟨text, htext⟩ := Option.isSome_iff_exists.mp hsome
      cases disk with
      | wrote =>
          rw [ConfigSubCommand.run_saved hload hedit htext, loadFromFileOrNew_text hrestores htext, Harmless,
            ← saved_misreports_iff hedit, not_and, not_not, forall_exists_index, Except.ok.injEq]
      | failed e left =>
          have hrun : cmd.run y (.failed e left) f = (left, .failed (.ofIoError e)) := by
            simp [ConfigSubCommand.run, hload, hedit, saveToFile, htext]
          rw [hrun, Harmless, or_iff_right hnot]
          exact ⟨fun h => h _ rfl, fun h _ _ => h⟩

def namedTwice (enabled : Bool) : EbbflowDaemonConfig :=
  ⟨[⟨8080, "a.example", 5000, 40, enabled, none⟩, ⟨8081, "a.example", 5000, 40, true, none⟩],
    none, none⟩

def namedTwiceText (enabled : String) : String :=
  "---\nendpoints:\n  - port: 8080\n    dns: a.example\n    maxconns: 5000\n    maxidle: 40\n" ++
    "    enabled: " ++ enabled ++ "\n    healthcheck: ~\n  - port: 8081\n    dns: a.example\n" ++
    "    maxconns: 5000\n    maxidle: 40\n    enabled: true\n    healthcheck: ~\nssh: ~\nloglevel: ~"

def twiceYaml : SerdeYaml :=
  tableYaml [(namedTwice false, namedTwiceText "false"), (namedTwice true, namedTwiceText "true")]

theorem twiceYaml_roundTrip : twiceYaml.RoundTrip :=
  tableYaml_roundTrip (by decide +kernel)

def enableTwice : ConfigSubCommand := .Enable ⟨.Endpoint "a.example", false⟩

def wasNotEnabled : String := "The specified target was not enabled: a.example"

theorem enableTwice_run {f : File} {enabled : Bool}
    (hload : loadFromFileOrNew twiceYaml f = .ok (namedTwice enabled)) :
    enableTwice.report (enableTwice.run twiceYaml .wrote f).2 = .error wasNotEnabled ∧
      loadFromFileOrNew twiceYaml (enableTwice.run twiceYaml .wrote f).1 = .ok (namedTwice true) := by
  have hedit : enableTwice.edit (namedTwice enabled) = .ok (namedTwice true, some (true, false)) := by
    cases enabled <;> rfl
  have htext : twiceYaml.toString (namedTwice true) = some (namedTwiceText "true") := rfl
  rw [ConfigSubCommand.run_saved hload hedit htext]
  exact ⟨rfl, loadFromFileOrNew_text (twiceYaml_roundTrip _) htext⟩

theorem failure_changes_nothing_iff_sample :
    enableTwice.report (enableTwice.run twiceYaml .wrote (.ok (encode (namedTwiceText "true")))).2 =
        .error wasNotEnabled ∧
      loadFromFileOrNew twiceYaml (enableTwice.run twiceYaml .wrote (.ok (encode (namedTwiceText "true")))).1 =
        .ok (namedTwice true) := by
  have hload : loadFromFileOrNew twiceYaml (.ok (encode (namedTwiceText "true"))) = .ok (namedTwice true) :=
    loadFromFileOrNew_text (twiceYaml_roundTrip _) rfl
  have herror := (enableTwice_run hload).1
  have hwrites : ∀ config answer, enableTwice.edit (namedTwice true) = .ok (config, answer) →
      (twiceYaml.toString config).isSome ∧ twiceYaml.Restores config := by
    intro config answer h
    obtain ⟨rfl, _⟩ := Prod.mk.inj (Except.ok.inj h)
    exact ⟨rfl, twiceYaml_roundTrip _⟩
  have hagree : Harmless twiceYaml enableTwice (namedTwice true) .wrote := by
    rintro ⟨_, dns, _, _, e, he, _, hne⟩
    simp only [namedTwice, List.mem_cons, List.not_mem_nil, or_false] at he
    rcases he with rfl | rfl <;> exact hne rfl
  exact ⟨herror, (failure_changes_nothing_iff hload hwrites .wrote).mpr hagree _ herror⟩

/-- The first of two entries was enabled, and the command says that it was not. -/
theorem enable_hides_change :
    loadFromFileOrNew twiceYaml (.ok (encode (namedTwiceText "false"))) = .ok (namedTwice false) ∧
      enableTwice.report (enableTwice.run twiceYaml .wrote (.ok (encode (namedTwiceText "false")))).2 =
        .error wasNotEnabled ∧
      loadFromFileOrNew twiceYaml
          (enableTwice.run twiceYaml .wrote (.ok (encode (namedTwiceText "false")))).1 ≠
        .ok (namedTwice false) := by
  have hload : loadFromFileOrNew twiceYaml (.ok (encode (namedTwiceText "false"))) = .ok (namedTwice false) :=
    loadFromFileOrNew_text (twiceYaml_roundTrip _) rfl
  obtain ⟨herror, hafter⟩ := enableTwice_run hload
  refine ⟨hload, herror, ?_⟩
  rw [hafter]
  decide

end Ebbflow.ConfigFailures
