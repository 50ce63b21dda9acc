import Ebbflow.ConfigFile
import Ebbflow.KeyGating

namespace Ebbflow.BlankKeys

open Config Daemon EstablishConnection InnerRun KeyReadings Runner RunnerSystem
open KeyGating ConfigFile Lib.Text Relation

structure Reloading where
  system : System
  /-- The texts of the key file that were read so far, latest first. -/
  contents : List String

def Reloading.new (clock : String) : Reloading := ⟨.new clock, []⟩

def texts (f : File) : List String :=
  match readToString f with
  | .ok text => [text]
  | .error _ => []

/-- Every call of the runner hands on what a reload has read. A reload that fails
changes nothing. -/
inductive Step (machine : Machine) (y : SerdeYaml) : Reloading → Reloading → Prop
  | reload {d : Reloading} (config key : File) {cfg : Option EbbflowDaemonConfig} {k : Option String} :
      d.system.progress = .idle → configReload y config key = .ok (cfg, k) →
      Step machine y d ⟨d.system.call cfg k, texts key ++ d.contents⟩
  | other {d : Reloading} {system : System} : RunnerSystem.Step machine d.system system →
      (∀ cfg k, d.system.progress = .idle → system ≠ d.system.call cfg k) →
      Step machine y d { d with system := system }

abbrev Steps (machine : Machine) (y : SerdeYaml) : Reloading → Reloading → Prop :=
  ReflTransGen (Step machine y)

def Blank (text : String) : Prop := ∀ c ∈ text.toList, isWhitespace c

instance : DecidablePred Blank := fun text => inferInstanceAs (Decidable (∀ c ∈ text.toList, _))

/-- The key that `getkey` finds in a text, blank or not. -/
def keyOf (text : String) : Option String := if text = "" then none else some (trim text)

variable {machine : Machine} {y : SerdeYaml} {d d' : Reloading} {clock text : String}

theorem reloadKey_text {key : File} (hread : readToString key = .ok text) :
    reloadKey key = .ok (keyOf text) := by
  have hget : getkey key = if text = "" then .error .Empty else .ok (trim text) := by rw [getkey, hread]
  rw [reloadKey, hget, keyOf]
  by_cases hempty : text = ""
  · rw [if_pos hempty, if_pos hempty]
  · rw [if_neg hempty, if_neg hempty]

theorem reloadKey_texts {key : File} {k : Option String} (h : reloadKey key = .ok k) :
    k.toList = (texts key).filterMap keyOf := by
  cases hread : readToString key with
  | error e =>
      rw [reloadKey, getkey, hread] at h
      rw [texts, hread]
      cases e <;> cases h
      rfl
  | ok text =>
      rw [reloadKey_text hread] at h
      cases h
      rw [texts, hread]
      cases hk : keyOf text with
      | none =>
          rw [List.filterMap_cons_none hk]
          rfl
      | some k =>
          rw [List.filterMap_cons_some hk]
          rfl

theorem accept_supplied (s : System) (config : Option EbbflowDaemonConfig) :
    (s.accept config).supplied = s.supplied := by
  by_cases hk : s.runner.rt.info.key.isNone
  · have hrefused : s.accept config = _ := if_pos hk
    rw [hrefused]
  · have haccepted : s.accept config = _ := if_neg hk
    rw [haccepted]
    cases config <;> rfl

theorem step_supplied (h : d.system.supplied = d.contents.filterMap keyOf) (hstep : Step machine y d d') :
    d'.system.supplied = d'.contents.filterMap keyOf := by
  cases hstep with
  | reload config key hidle hreload =>
      rw [System.call, List.filterMap_append, ← h, ← reloadKey_texts (configReload_ok.mp hreload).2]
  | other hmove hnot =>
      cases hmove with
      | call cfg k hidle => exact absurd rfl (hnot cfg k hidle)
      | accept _ => exact (accept_supplied _ _).trans h
      | endpoint | ssh | background | startUp | loop => exact h

theorem steps_supplied (h : Steps machine y (.new clock) d) :
    d.system.supplied = d.contents.filterMap keyOf := by
  induction h with
  | refl => rfl
  | tail _ hstep ih => exact step_supplied ih hstep

theorem step_system (hstep : Step machine y d d') : RunnerSystem.Step machine d.system d'.system := by
  cases hstep with
  | reload config key hidle hreload => exact .call _ _ hidle
  | other hmove _ => exact hmove

theorem steps_system (h : Steps machine y d d') : RunnerSystem.Steps machine d.system d'.system := by
  induction h with
  | refl => exact .refl
  | tail _ hstep ih => exact ih.tail (step_system hstep)

def Plain (text : String) : Prop := text = "" ∨ ¬ Blank text

def lastNonBlank (contents : List String) : Option String := contents.find? (¬ Blank ·)

theorem keyOf_blank (hplain : Plain text) (hblank : Blank text) : keyOf text = none := by
  rcases hplain with rfl | hnot
  · rfl
  · exact absurd hblank hnot

theorem keyOf_nonBlank (h : ¬ Blank text) : keyOf text = some (trim text) := by
  apply if_neg
  rintro rfl
  exact h (by simp [Blank])

theorem filterMap_head? {contents : List String} (h : ∀ text ∈ contents, Plain text) :
    (contents.filterMap keyOf).head? = (lastNonBlank contents).map trim := by
  induction contents with
  | nil => rfl
  | cons text contents ih =>
      obtain ⟨hplain, hrest⟩ := List.forall_mem_cons.mp h
      by_cases hblank : Blank text
      · rw [List.filterMap_cons_none (keyOf_blank hplain hblank), ih hrest, lastNonBlank, lastNonBlank,
          List.find?_cons_of_neg (by simpa using hblank)]
      · rw [List.filterMap_cons_some (keyOf_nonBlank hblank), lastNonBlank,
          List.find?_cons_of_pos (by simpa using hblank)]
        rfl

theorem filterMap_eq_nil {contents : List String} (h : ∀ text ∈ contents, Plain text)
    (hblank : ∀ text ∈ contents, Blank text) : contents.filterMap keyOf = [] := by
  rw [List.filterMap_eq_nil_iff]
  intro text htext
  exact keyOf_blank (h text htext) (hblank text htext)

/-- The connection can send no other hello than the one with the key of the last
text that was not blank among those read when its `create_args` read the cell. -/
def HelloOf (contents : List String) (setup : Setup) (t : ConnectionTask)
    (read : SharedInfo × List String) : Prop :=
  ∃ before text, before <:+ contents ∧ before.filterMap keyOf = read.2 ∧
    lastNonBlank before = some text ∧ trim text ≠ "" ∧ Greets (trim text) setup t

theorem lastNonBlank_trim {contents : List String} (h : lastNonBlank contents = some text) :
    trim text ≠ "" := by
  have hnot := List.find?_some h
  rw [decide_eq_true_eq] at hnot
  rwa [Ne, trim_eq_empty_iff]

theorem helloOf {contents : List String} {setup : Setup} {t : ConnectionTask}
    {read : SharedInfo × List String} (h : HelloFrom (contents.filterMap keyOf) setup t read)
    (hplain : ∀ text ∈ contents, Plain text) : HelloOf contents setup t read := by
  obtain ⟨key, hhead, ⟨later, hstamp⟩, hgreets⟩ := h
  obtain ⟨after, before, rfl, -, hbefore⟩ := List.filterMap_eq_append_iff.mp hstamp.symm
  have hlast := filterMap_head? (List.forall_mem_append.mp hplain).2
  rw [hbefore, hhead, eq_comm, Option.map_eq_some_iff] at hlast
  obtain ⟨text, htext, rfl⟩ := hlast
  exact ⟨before, text, List.suffix_append _ _, hbefore, htext, lastNonBlank_trim htext, hgreets⟩

/-- As long as every text of the key file that is read is empty or not blank, a
blank one starts nothing, and the key is the last that was not blank. -/
theorem blank_starts_nothing (h : Steps machine y (.new clock) d)
    (hplain : ∀ text ∈ d.contents, Plain text) :
    ((∀ text ∈ d.contents, Blank text) → d.system.runner.statusmeta ≠ .Good ∧ Keyless d.system) ∧
      d.system.runner.rt.info.key = (lastNonBlank d.contents).map trim ∧
      (∀ text, lastNonBlank d.contents = some text → trim text ≠ "") ∧
      ∀ l ∈ d.system.loops,
        List.Forall₂ (HelloOf d.contents l.setup) l.loop.generation.tasks l.loop.origins := by
  have hg := steps_gated (gated_new clock) (steps_system h)
  have hsupplied := steps_supplied h
  refine ⟨?_, ?_, fun _ => lastNonBlank_trim, ?_⟩
  · intro hblank
    have hempty : d.system.supplied = [] := hsupplied.trans (filterMap_eq_nil hplain hblank)
    exact ⟨fun hgood => hg.good hgood hempty, hg.keyless hempty⟩
  · rw [hg.key, hsupplied, filterMap_head? hplain]
  · intro l hl
    refine (hg.loops l hl).made.imp fun t read hmade => ?_
    have hhello := helloFrom hmade.1 hmade.2
    rw [hsupplied] at hhello
    exact helloOf hhello hplain

theorem busy_steps {system system' : System} {contents : List String}
    (h : ReflTransGen (Busy machine) system system') :
    Steps machine y ⟨system, contents⟩ ⟨system', contents⟩ := by
  induction h with
  | refl => exact .refl
  | tail _ hbusy ih => exact ih.tail (.other hbusy.2 fun _ _ hidle => absurd hidle hbusy.1)

theorem idle_step {system : System} (hstep : RunnerSystem.Step machine d.system system)
    (hidle : system.progress = .idle) : Step machine y d { d with system := system } := by
  refine .other hstep fun cfg k _ hcall => ?_
  rw [hcall] at hidle
  cases hidle

theorem reload_steps (hidle : d.system.progress = .idle) {config key : File}
    {cfg : Option EbbflowDaemonConfig} {k : Option String}
    (hreload : configReload y config key = .ok (cfg, k)) :
    Steps machine y d
      ⟨{ d.system with
        runner := updateConfig machine.osHostname d.system.runner cfg k
        progress := .idle
        supplied := k.toList ++ d.system.supplied }, texts key ++ d.contents⟩ := by
  exact .head (.reload config key hidle hreload) (busy_steps (call_busy d.system cfg k))

theorem keyOf_emptied (hblank : Blank text) (hne : text ≠ "") : keyOf text = some "" := by
  rw [keyOf, if_neg hne, trim_eq_empty_iff.mpr hblank]

/-- A text that is blank but not empty takes the place of whatever key was there. -/
theorem blank_replaces_key {config key : File} {cfg : Option EbbflowDaemonConfig} {k : Option String}
    (hreload : configReload y config key = .ok (cfg, k)) (hread : readToString key = .ok text)
    (hblank : Blank text) (hne : text ≠ "") : (d.system.call cfg k).runner.rt.info.key = some "" := by
  have hk := (configReload_ok.mp hreload).2
  rw [reloadKey_text hread, keyOf_emptied hblank hne] at hk
  cases hk
  rfl

def sampleYaml : SerdeYaml := ⟨fun _ => none, fun _ => some (.EbbflowDaemonConfig sampleConfig)⟩

theorem sample_reload (text : String) :
    configReload sampleYaml (.ok []) (.ok (encode text)) = .ok (some sampleConfig, keyOf text) := by
  have hread : readToString (.ok (encode text)) = .ok text := by simp [readToString]
  exact configReload_ok.mpr ⟨rfl, reloadKey_text hread⟩

theorem texts_encode (text : String) : texts (.ok (encode text)) = [text] := by
  simp [texts, readToString]

/-- A line break alone in the key file, and the endpoints are started. -/
theorem newline_starts_endpoints : ∃ d, Steps sampleMachine sampleYaml (.new "") d ∧
    d.contents = ["\n"] ∧ d.system.runner.statusmeta = .Good ∧ d.system.runner.rt.info.key = some "" ∧
    ∃ args, .spawned 1 args ∈ d.system.runner.rt.log.events := by
  have hkey : keyOf "\n" = some "" := keyOf_emptied (by simp [Blank, isWhitespace]) (by simp)
  have hreload := sample_reload "\n"
  rw [hkey] at hreload
  have hidle : (Reloading.new "").system.progress = .idle := rfl
  refine ⟨_, reload_steps hidle hreload, ?_, rfl, rfl, ?_⟩
  · rw [texts_encode]
    rfl
  · exact ⟨capIdle (endpointArgs ⟨8081, "a.example", 200, 2000, true, none⟩), by decide⟩

theorem blank_starts_nothing_sample : ∃ d l t read, Steps sampleMachine sampleYaml (.new "") d ∧
    d.system.loops = [l] ∧ l.loop.generation.tasks = [t] ∧ l.loop.origins = [read] ∧
    d.system.runner.rt.info.key = some "key" ∧ HelloOf [" key\n"] l.setup t read := by
  have hnot : ¬ Blank " key\n" := by simp [Blank, isWhitespace]
  have htrim : trim " key\n" = "key" := by simp [trim, trimList, isWhitespace, List.rdropWhile]
  have hkey : keyOf " key\n" = some "key" := (keyOf_nonBlank hnot).trans (congrArg some htrim)
  have hreload := sample_reload " key\n"
  rw [hkey] at hreload
  have hidle : (Reloading.new "").system.progress = .idle := rfl
  have r : Steps sampleMachine sampleYaml (.new "") _ := reload_steps hidle hreload
  have hspawned : .spawned 1 (capIdle (endpointArgs ⟨8081, "a.example", 200, 2000, true, none⟩)) ∈
      (updateConfig "host" (.new ⟨none⟩ "") (some sampleConfig) (some "key")).rt.log.events := by decide
  have r := r.tail (idle_step (.startUp [] hspawned) rfl)
  have r := r.tail (idle_step (.loop (move_single false (.new none) _
    (.other (.acquireMax rfl (by decide)) (.inr ⟨rfl, rfl⟩)))) rfl)
  have r := r.tail (idle_step (.loop (move_single false (.new none) _ (.enter rfl (by decide)))) rfl)
  have r := r.tail (idle_step (.loop (move_single false (.new none) _
    (.resolved (.found [CreateArgs.ipv4 192 0 2 1]) (.first _) [] rfl rfl rfl))) rfl)
  have hplain : ∀ text ∈ texts (.ok (encode " key\n")) ++ (Reloading.new "").contents, Plain text := by
    rw [texts_encode]
    exact List.forall_mem_singleton.mpr (.inr hnot)
  have hs := (blank_starts_nothing r hplain).2.2.2 _ (List.mem_singleton_self _)
  rw [texts_encode] at hs
  exact ⟨_, _, _, _, r, rfl, rfl, rfl, rfl, (List.forall₂_cons.mp hs).1⟩

end Ebbflow.BlankKeys
