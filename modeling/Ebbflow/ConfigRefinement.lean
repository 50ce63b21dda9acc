import Ebbflow.ConfigCommands
import Ebbflow.Lib.KeyedList

namespace Ebbflow.ConfigRefinement

open Config ConfigFile ConfigCommands Lib.KeyedList

/-- What the configuration is for the user of the commands: the endpoints by
their names, and two settings of their own. -/
structure ConfigMap where
  endpoints : OrderedMap String Endpoint
  ssh : Option Ssh
  loglevel : Option String

namespace ConfigMap

def enableEndpoint (enabled : Bool) (e : Endpoint) : Endpoint := { e with enabled := enabled }

def enableSsh (enabled : Bool) (ssh : Ssh) : Ssh := { ssh with enabled := enabled }

/-- The pair says whether the target exists and whether its flag differed. -/
def setEnabled (m : ConfigMap) (enabled : Bool) : EnableDisableTarget → ConfigMap × Bool × Bool
  | .Ssh => ({ m with ssh := m.ssh.map (enableSsh enabled) },
      m.ssh.isSome, decide (m.ssh.map (·.enabled) = some (!enabled)))
  | .AllEndpoints => ({ m with endpoints := m.endpoints.mapValues (enableEndpoint enabled) },
      decide (m.endpoints.keys ≠ []), decide (m.endpoints.keys ≠ []))
  | .Endpoint dns => ({ m with endpoints := m.endpoints.modify dns (enableEndpoint enabled) },
      decide (dns ∈ m.endpoints.keys),
      decide ((m.endpoints.value dns).map (·.enabled) = some (!enabled)))

def edit (m : ConfigMap) : ConfigSubCommand → Except String (ConfigMap × Answer)
  | .Enable args => .ok ((m.setEnabled true args.target).1, some (m.setEnabled true args.target).2)
  | .Disable args => .ok ((m.setEnabled false args.target).1, some (m.setEnabled false args.target).2)
  | .AddEndpoint args =>
      if args.dns ∈ m.endpoints.keys then .error (alreadyExists args.dns)
      else .ok ({ m with endpoints := m.endpoints.push args.dns (newendpoint args) }, none)
  | .RemoveEndpoint args =>
      if args.dns ∈ m.endpoints.keys ∨ args.idempotent then
        .ok ({ m with endpoints := m.endpoints.erase args.dns }, none)
      else .error (doesNotExist args.dns)
  | .SetupSsh args =>
      if m.ssh.isSome then .error sshExists else .ok ({ m with ssh := some (newssh args) }, none)
  | .RemoveSshConfiguration => .ok ({ m with ssh := none }, none)
  | .LogLevel .Reset => .ok ({ m with loglevel := none }, none)
  | .LogLevel (.Set level) => .ok ({ m with loglevel := some level.toString }, none)

def editAll : ConfigMap → List ConfigSubCommand → ConfigMap × List Outcome
  | m, [] => (m, [])
  | m, cmd :: cmds =>
      match m.edit cmd with
      | .error message => ((m.editAll cmds).1, .exited message :: (m.editAll cmds).2)
      | .ok (m', answer) => ((m'.editAll cmds).1, .saved answer :: (m'.editAll cmds).2)

def config (m : ConfigMap) : EbbflowDaemonConfig := ⟨m.endpoints.toList, m.ssh, m.loglevel⟩

end ConfigMap

/-- A configuration whose endpoints have pairwise distinct names. -/
structure DistinctConfig where
  config : EbbflowDaemonConfig
  distinct : (config.endpoints.map (·.dns)).Nodup

def DistinctConfig.view (c : DistinctConfig) : ConfigMap :=
  ⟨.ofList (·.dns) c.config.endpoints c.distinct, c.config.ssh, c.config.loglevel⟩

@[simp] theorem config_view (c : DistinctConfig) : c.view.config = c.config := by
  simp [ConfigMap.config, DistinctConfig.view, OrderedMap.toList_ofList]

theorem enableLoop_all (enabled : Bool) (es : List Endpoint) (flags : Bool × Bool) :
    enableLoop enabled none es flags =
      (es.map (ConfigMap.enableEndpoint enabled),
        if es = [] then flags else (true, true)) := by
  induction es generalizing flags with
  | nil => rfl
  | cons e es ih =>
      rw [enableLoop, ih]
      split <;> rfl

theorem enableLoop_endpoints (enabled : Bool) (dns : String) (es : List Endpoint) (flags : Bool × Bool) :
    (enableLoop enabled (some dns) es flags).1 =
      es.map fun e => if e.dns = dns then ConfigMap.enableEndpoint enabled e else e := by
  induction es generalizing flags with
  | nil => rfl
  | cons e es ih =>
      simp only [enableLoop, ih, List.map_cons, List.cons.injEq, and_true]
      by_cases hd : dns = e.dns
      · subst hd
        by_cases he : e.enabled = enabled
        · subst he
          rw [if_pos rfl, if_pos rfl, if_pos rfl]
          rfl
        · rw [if_pos rfl, if_neg he, if_pos rfl]
          rfl
      · rw [if_neg hd, if_neg (Ne.symm hd)]

theorem enableLoop_missing (enabled : Bool) {dns : String} {es : List Endpoint}
    (h : dns ∉ es.map (·.dns)) (flags : Bool × Bool) :
    (enableLoop enabled (some dns) es flags).2 = flags := by
  induction es generalizing flags with
  | nil => rfl
  | cons e es ih =>
      rw [List.map_cons, List.mem_cons, not_or] at h
      rw [enableLoop, if_neg h.1]
      exact ih h.2 flags

theorem enableLoop_found (enabled : Bool) {es : List Endpoint} (hn : (es.map (·.dns)).Nodup)
    {e : Endpoint} (he : e ∈ es) (flags : Bool × Bool) :
    (enableLoop enabled (some e.dns) es flags).2 = (true, decide (e.enabled ≠ enabled)) := by
  induction es generalizing flags with
  | nil => cases he
  | cons d es ih =>
      rw [List.map_cons, List.nodup_cons] at hn
      rcases List.mem_cons.mp he with rfl | he
      · rw [enableLoop]
        by_cases hsame : e.enabled = enabled
        · simp [hsame, enableLoop_missing enabled hn.1]
        · simp [hsame, enableLoop_missing enabled hn.1]
      · have hne : e.dns ≠ d.dns := fun hd => hn.1 (hd ▸ List.mem_map_of_mem he)
        rw [enableLoop, if_neg hne]
        exact ih hn.2 he flags

theorem view_value (c : DistinctConfig) {e : Endpoint} (he : e ∈ c.config.endpoints) :
    c.view.endpoints.value e.dns = some e := OrderedMap.find?_self c.distinct he

theorem differs_iff (enabled flag : Bool) : some flag = some (!enabled) ↔ flag ≠ enabled := by
  cases enabled <;> cases flag <;> simp

theorem enableLoop_flags (c : DistinctConfig) (enabled : Bool) (dns : String) :
    (enableLoop enabled (some dns) c.config.endpoints (false, false)).2 =
      (c.view.setEnabled enabled (.Endpoint dns)).2 := by
  by_cases hd : dns ∈ c.config.endpoints.map (·.dns)
  · obtain ⟨e, he, rfl⟩ := List.mem_map.mp hd
    rw [enableLoop_found enabled c.distinct he, ConfigMap.setEnabled]
    simp only [view_value c he, Option.map_some, differs_iff]
    exact Prod.ext (decide_eq_true hd).symm rfl
  · have hnone : c.view.endpoints.value dns = none := by
      rw [← Option.not_isSome_iff_eq_none, c.view.endpoints.value_isSome]
      exact hd
    rw [enableLoop_missing enabled hd, ConfigMap.setEnabled]
    simp only [hnone, Option.map_none, reduceCtorEq, decide_false]
    exact Prod.ext (decide_eq_false hd).symm rfl

theorem enableLoop_distinct (c : DistinctConfig) (enabled : Bool) (dns : Option String) :
    ((enableLoop enabled dns c.config.endpoints (false, false)).1.map (·.dns)).Nodup := by
  have hdns : (enableLoop enabled dns c.config.endpoints (false, false)).1.map (·.dns) =
      c.config.endpoints.map (·.dns) := by
    cases dns with
    | none => simp [enableLoop_all, Function.comp_def, ConfigMap.enableEndpoint]
    | some dns =>
        rw [enableLoop_endpoints, List.map_map]
        apply List.map_congr_left
        intro e _
        simp only [Function.comp_apply]
        split <;> rfl
  rw [hdns]
  exact c.distinct

/-- An edit of the configuration is the edit of its map. -/
def Refines {α : Type} (r : Edited α) (s : Except String (ConfigMap × α)) : Prop :=
  match r with
  | .error message => s = .error message
  | .ok (config, answer) => ∃ c : DistinctConfig, c.config = config ∧ s = .ok (c.view, answer)

theorem Refines.map {α β : Type} {r : Edited α} {s : Except String (ConfigMap × α)} (h : Refines r s)
    (f : α → β) : Refines (r.map fun p => (p.1, f p.2)) (s.map fun p => (p.1, f p.2)) := by
  cases r with
  | error message =>
      obtain rfl : s = .error message := h
      rfl
  | ok p =>
      obtain ⟨c, hc, rfl⟩ := h
      exact ⟨c, hc, rfl⟩

theorem refines_endpoints {α : Type} (c : DistinctConfig) {es : List Endpoint}
    (h : (es.map (·.dns)).Nodup) {m : OrderedMap String Endpoint} (hm : .ofList (·.dns) es h = m)
    (answer : α) :
    Refines (.ok ({ c.config with endpoints := es }, answer))
      (.ok ({ c.view with endpoints := m }, answer)) := by
  subst hm
  exact ⟨⟨_, h⟩, rfl, rfl⟩

theorem enableAll_refines (c : DistinctConfig) (enable : Bool) :
    Refines (setEndpointEnabled enable none c.config)
      (.ok (c.view.setEnabled enable .AllEndpoints)) := by
  have hdistinct := enableLoop_distinct c enable none
  have hflags : (if c.config.endpoints = [] then (false, false) else (true, true)) =
      (c.view.setEnabled enable .AllEndpoints).2 := by
    have hkeys : c.view.endpoints.keys ≠ [] ↔ c.config.endpoints ≠ [] := by
      simp [DistinctConfig.view, OrderedMap.ofList]
    simp only [ConfigMap.setEnabled, hkeys]
    split <;> simp_all
  rw [enableLoop_all] at hdistinct
  have hview := OrderedMap.ofList_mapValues (ConfigMap.enableEndpoint enable)
    (fun _ => rfl) c.distinct hdistinct
  rw [setEndpointEnabled, enableLoop_all, hflags]
  exact refines_endpoints c hdistinct hview _

theorem enableOne_refines (c : DistinctConfig) (enable : Bool) (dns : String) :
    Refines (setEndpointEnabled enable (some dns) c.config)
      (.ok (c.view.setEnabled enable (.Endpoint dns))) := by
  have hdistinct := enableLoop_distinct c enable (some dns)
  have hloop : enableLoop enable (some dns) c.config.endpoints (false, false) =
      (c.config.endpoints.map fun e => if e.dns = dns then ConfigMap.enableEndpoint enable e else e,
        (c.view.setEnabled enable (.Endpoint dns)).2) :=
    Prod.ext (enableLoop_endpoints ..) (enableLoop_flags ..)
  have hname : ∀ e : Endpoint, decide (e.dns = dns) ↔ e.dns = dns := fun _ => decide_eq_true_iff
  have hview := OrderedMap.ofList_map (fun e => decide (e.dns = dns))
    (ConfigMap.enableEndpoint enable) (fun _ => rfl) dns hname c.distinct
  simp only [decide_eq_true_eq] at hview
  rw [enableLoop_endpoints] at hdistinct
  rw [setEndpointEnabled, hloop]
  exact refines_endpoints c hdistinct (hview hdistinct) _

theorem enableSsh_refines (c : DistinctConfig) (enable : Bool) :
    Refines (setSshEnabled enable c.config) (.ok (c.view.setEnabled enable .Ssh)) := by
  obtain ⟨⟨endpoints, ssh, loglevel⟩, hd⟩ := c
  cases ssh with
  | none => exact ⟨⟨⟨endpoints, none, loglevel⟩, hd⟩, rfl, by simp [ConfigMap.setEnabled, DistinctConfig.view]⟩
  | some ssh =>
      by_cases he : ssh.enabled = enable
      · subst he
        simp only [setSshEnabled, if_true]
        exact ⟨⟨⟨endpoints, some ssh, loglevel⟩, hd⟩, rfl,
          by simp [ConfigMap.setEnabled, DistinctConfig.view, ConfigMap.enableSsh]⟩
      · simp only [setSshEnabled, if_neg he]
        refine ⟨⟨⟨endpoints, some { ssh with enabled := enable }, loglevel⟩, hd⟩, rfl, ?_⟩
        have hdiffers : (some ssh.enabled = some (!enable)) = True := eq_true ((differs_iff ..).mpr he)
        simp [ConfigMap.setEnabled, DistinctConfig.view, ConfigMap.enableSsh, hdiffers]

theorem enabledisable_refines (c : DistinctConfig) (enable : Bool) (target : EnableDisableTarget) :
    Refines (enabledisable enable target c.config) (.ok (c.view.setEnabled enable target)) := by
  cases target with
  | Ssh => exact enableSsh_refines c enable
  | AllEndpoints => exact enableAll_refines c enable
  | Endpoint dns => exact enableOne_refines c enable dns

theorem addEndpoint_refines (c : DistinctConfig) (args : AddEndpointArgs) :
    Refines ((addEndpoint args c.config).map fun r => (r.1, none)) (c.view.edit (.AddEndpoint args)) := by
  rw [addEndpoint, ConfigMap.edit]
  cases hfind : c.config.endpoints.find? (·.dns = (newendpoint args).dns) with
  | some e =>
      have he : e.dns = (newendpoint args).dns := by simpa using List.find?_some hfind
      have hd : e.dns = args.dns := he
      have hm : args.dns ∈ c.view.endpoints.keys := by
        rw [← hd]
        exact List.mem_map_of_mem (List.mem_of_find?_eq_some hfind)
      rw [if_pos hm, ← hd]
      rfl
  | none =>
      have hm : (newendpoint args).dns ∉ c.config.endpoints.map (·.dns) := by
        simp only [List.find?_eq_none, decide_eq_true_eq] at hfind
        intro hm
        obtain ⟨e, he, hd⟩ := List.mem_map.mp hm
        exact hfind e he hd
      have hdistinct : ((c.config.endpoints ++ [newendpoint args]).map (·.dns)).Nodup := by
        rw [List.map_append, List.map_singleton, ← List.concat_eq_append]
        exact c.distinct.concat hm
      rw [if_neg (show args.dns ∉ c.view.endpoints.keys from hm)]
      exact refines_endpoints c hdistinct (OrderedMap.ofList_append _ c.distinct hdistinct) none

theorem removeEndpoint_refines (c : DistinctConfig) (args : RemoveEndpointArgs) :
    Refines ((removeEndpoint args c.config).map fun r => (r.1, none))
      (c.view.edit (.RemoveEndpoint args)) := by
  have hdeleted : (c.config.endpoints.any (·.dns = args.dns) || args.idempotent) = true ↔
      args.dns ∈ c.view.endpoints.keys ∨ args.idempotent = true := by
    rw [Bool.or_eq_true]
    apply or_congr_left
    simp [DistinctConfig.view, OrderedMap.ofList]
  rw [removeEndpoint, ConfigMap.edit]
  by_cases h : args.dns ∈ c.view.endpoints.keys ∨ args.idempotent = true
  · have hdistinct : ((c.config.endpoints.filter (·.dns ≠ args.dns)).map (·.dns)).Nodup :=
      c.distinct.sublist (List.filter_sublist.map _)
    rw [if_pos (hdeleted.mpr h), if_pos h]
    exact refines_endpoints c hdistinct (OrderedMap.ofList_filter _ c.distinct hdistinct) none
  · rw [if_neg (mt hdeleted.mp h), if_neg h]
    rfl

theorem setupSsh_refines (c : DistinctConfig) (args : SetupSshArgs) :
    Refines ((setupSsh args c.config).map fun r => (r.1, none)) (c.view.edit (.SetupSsh args)) := by
  obtain ⟨⟨endpoints, ssh, loglevel⟩, hd⟩ := c
  cases ssh with
  | none => exact ⟨⟨⟨endpoints, some (newssh args), loglevel⟩, hd⟩, rfl, rfl⟩
  | some ssh => rfl

theorem edit_refines (c : DistinctConfig) (cmd : ConfigSubCommand) :
    Refines (cmd.edit c.config) (c.view.edit cmd) := by
  cases cmd with
  | Enable args => exact (enabledisable_refines c true args.target).map some
  | Disable args => exact (enabledisable_refines c false args.target).map some
  | AddEndpoint args => exact addEndpoint_refines c args
  | RemoveEndpoint args => exact removeEndpoint_refines c args
  | SetupSsh args => exact setupSsh_refines c args
  | RemoveSshConfiguration => exact ⟨⟨{ c.config with ssh := none }, c.distinct⟩, rfl, rfl⟩
  | LogLevel levelargs =>
      cases levelargs with
      | Reset => exact ⟨⟨{ c.config with loglevel := none }, c.distinct⟩, rfl, rfl⟩
      | Set level => exact ⟨⟨{ c.config with loglevel := some level.toString }, c.distinct⟩, rfl, rfl⟩

/-- A sequence of commands over one file, none of which fails to load or save. -/
inductive Completed (y : SerdeYaml) : File → List (ConfigSubCommand × Outcome) → File → Prop
  | nil (f) : Completed y f [] f
  | cons {f cmd disk f' outcome steps f''} : ConfigSubCommand.run y cmd disk f = (f', outcome) →
      (∀ e, outcome ≠ .failed e) → Completed y f' steps f'' →
      Completed y f ((cmd, outcome) :: steps) f''

theorem run_refines {y : SerdeYaml} (hy : y.RoundTrip) {f f' : File} (c : DistinctConfig)
    (hf : loadFromFileOrNew y f = .ok c.config) {cmd : ConfigSubCommand} {disk : Disk} {outcome : Outcome}
    (hrun : cmd.run y disk f = (f', outcome)) (hdone : ∀ e, outcome ≠ .failed e) :
    (∃ message, outcome = .exited message ∧ f' = f ∧ c.view.edit cmd = .error message) ∨
      ∃ answer, ∃ c' : DistinctConfig, outcome = .saved answer ∧
        loadFromFileOrNew y f' = .ok c'.config ∧ c.view.edit cmd = .ok (c'.view, answer) := by
  have hrefines := edit_refines c cmd
  rw [ConfigSubCommand.run, hf] at hrun
  cases hedit : cmd.edit c.config with
  | error message =>
      rw [hedit] at hrefines
      simp only [hedit, Prod.mk.injEq] at hrun
      exact .inl ⟨message, hrun.2.symm, hrun.1.symm, hrefines⟩
  | ok p =>
      obtain ⟨config, answer⟩ := p
      rw [hedit] at hrefines
      obtain ⟨c', rfl, hview⟩ := hrefines
      have hload : (saveToFile y c'.config disk f).2 = .ok () → _ := loadFromFileOrNew_saved hy
      simp only [hedit] at hrun
      cases hsave : saveToFile y c'.config disk f with
      | mk left r =>
          rw [hsave] at hrun hload
          cases r with
          | error e => exact absurd (Prod.ext_iff.mp hrun).2.symm (hdone e)
          | ok =>
              simp only [Prod.mk.injEq] at hrun
              obtain ⟨rfl, rfl⟩ := hrun
              exact .inr ⟨answer, c', rfl, hload rfl, hview⟩

/-- The configuration commands are edits of a finite map: after any completed
sequence the file holds the edited map, every command ended as the map says,
and the names are still pairwise distinct. -/
theorem commands_refine_map {y : SerdeYaml} (hy : y.RoundTrip) {start finish : File}
    (c : DistinctConfig) (hstart : loadFromFileOrNew y start = .ok c.config)
    {steps : List (ConfigSubCommand × Outcome)} (h : Completed y start steps finish) :
    loadFromFileOrNew y finish = .ok (c.view.editAll (steps.map Prod.fst)).1.config ∧
      steps.map Prod.snd = (c.view.editAll (steps.map Prod.fst)).2 ∧
      ((c.view.editAll (steps.map Prod.fst)).1.config.endpoints.map (·.dns)).Nodup := by
  induction h generalizing c with
  | nil f =>
      have hview : (c.view.editAll []).1.config = c.config := config_view c
      rw [List.map_nil, hview]
      exact ⟨hstart, rfl, c.distinct⟩
  | @cons f cmd _ f' outcome steps _ hrun hdone _ ih =>
      rcases run_refines hy c hstart hrun hdone with
        ⟨message, rfl, rfl, hedit⟩ | ⟨answer, c', rfl, hload, hedit⟩
      · obtain ⟨hfinish, houts, hdistinct⟩ := ih c hstart
        simp only [List.map_cons, ConfigMap.editAll, hedit]
        exact ⟨hfinish, congrArg _ houts, hdistinct⟩
      · obtain ⟨hfinish, houts, hdistinct⟩ := ih c' hload
        simp only [List.map_cons, ConfigMap.editAll, hedit]
        exact ⟨hfinish, congrArg _ houts, hdistinct⟩

def sampleAdd : ConfigSubCommand := .AddEndpoint ⟨"a.example", 8080, none, none, false, none, none, none, none⟩

def sampleDisable : ConfigSubCommand := .Disable ⟨.Endpoint "a.example", false⟩

def sampleYaml : SerdeYaml := tableYaml
  [(⟨[⟨8080, "a.example", 5000, 40, true, none⟩], none, none⟩,
    "---\nendpoints:\n  - port: 8080\n    dns: a.example\n    maxconns: 5000\n    maxidle: 40\n" ++
      "    enabled: true\n    healthcheck: ~\nssh: ~\nloglevel: ~"),
   (⟨[⟨8080, "a.example", 5000, 40, false, none⟩], none, none⟩,
    "---\nendpoints:\n  - port: 8080\n    dns: a.example\n    maxconns: 5000\n    maxidle: 40\n" ++
      "    enabled: false\n    healthcheck: ~\nssh: ~\nloglevel: ~")]

theorem sampleYaml_roundTrip : sampleYaml.RoundTrip :=
  tableYaml_roundTrip (by decide +kernel)

theorem commands_refine_map_sample :
    ∃ finish, loadFromFileOrNew sampleYaml finish =
      .ok ⟨[⟨8080, "a.example", 5000, 40, false, none⟩], none, none⟩ := by
  have hadd := sampleAdd.run_saved (y := sampleYaml) (f := .error .NotFound) rfl rfl rfl
  have hsaved : (saveToFile sampleYaml ⟨[⟨8080, "a.example", 5000, 40, true, none⟩], none, none⟩ .wrote
      (.error .NotFound)).2 = .ok () := rfl
  have hload := loadFromFileOrNew_saved sampleYaml_roundTrip hsaved
  have hdisable := sampleDisable.run_saved (y := sampleYaml) hload rfl rfl
  have hrefines := commands_refine_map sampleYaml_roundTrip ⟨⟨[], none, none⟩, List.nodup_nil⟩ rfl
    (.cons hadd (by simp) (.cons hdisable (by simp) (.nil _)))
  exact ⟨_, hrefines.1⟩

end Ebbflow.ConfigRefinement
