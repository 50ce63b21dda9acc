import Ebbflow.ConfigFile
import Ebbflow.Lib.Tally
import Mathlib.Logic.Relation

namespace Ebbflow.TornFiles

open Config ConfigFile Lib.Tally Lib.Text Lib.Wire Relation

/-- The two files, the saves that have truncated a file and are still to write
it, and what was written so far: the configurations oldest first, the keys trimmed. -/
structure SavedFiles where
  config : Bytes
  key : Bytes
  openConfigs : List EbbflowDaemonConfig
  openKeys : List String
  configs : List EbbflowDaemonConfig
  keys : List String

def SavedFiles.empty : SavedFiles := ⟨[], [], [], [], [], []⟩

inductive Save (y : SerdeYaml) : SavedFiles → SavedFiles → Prop
  | truncateConfig {fs : SavedFiles} {c : EbbflowDaemonConfig} : (y.toString c).isSome →
      (c.endpoints.map (·.dns)).Nodup →
      Save y fs { fs with config := [], openConfigs := c :: fs.openConfigs }
  | writeConfig {fs : SavedFiles} {pre post : List EbbflowDaemonConfig} {c : EbbflowDaemonConfig}
      {b : String} : fs.openConfigs = pre ++ c :: post → y.toString c = some b →
      Save y fs
        { fs with config := encode b, openConfigs := pre ++ post, configs := fs.configs ++ [c] }
  | truncateKey {fs : SavedFiles} {k : String} : trim k ≠ "" →
      Save y fs { fs with key := [], openKeys := k :: fs.openKeys }
  | writeKey {fs : SavedFiles} {pre post : List String} {k : String} : fs.openKeys = pre ++ k :: post →
      Save y fs { fs with key := setkey k, openKeys := pre ++ post, keys := trim k :: fs.keys }

variable {y : SerdeYaml} {fs fs' : SavedFiles} {c : EbbflowDaemonConfig} {k : String}

/-- A save that nothing comes between leaves what `saveToFile` leaves. -/
theorem save_alone {b : String} (hb : y.toString c = some b) (hc : (c.endpoints.map (·.dns)).Nodup)
    (f : File) :
    ∃ fs', ReflTransGen (Save y) fs fs' ∧ saveToFile y c .wrote f = (.ok fs'.config, .ok ()) ∧
      fs'.configs = fs.configs ++ [c] := by
  have htruncated : ReflTransGen (Save y) fs _ := .single (.truncateConfig (by rw [hb]; rfl) hc)
  have hwritten : Save y { fs with config := [], openConfigs := c :: fs.openConfigs } _ :=
    @Save.writeConfig y _ [] fs.openConfigs c b rfl hb
  exact ⟨_, htruncated.tail hwritten, by rw [saveToFile, hb], rfl⟩

structure Sound (y : SerdeYaml) (fs : SavedFiles) : Prop where
  config : fs.config = [] ∨
    ∃ c b, fs.configs.getLast? = some c ∧ y.toString c = some b ∧ fs.config = encode b
  key : fs.key = [] ∨ ∃ k, trim k ∈ fs.keys ∧ fs.key = setkey k
  openConfigs : ∀ c ∈ fs.openConfigs, (c.endpoints.map (·.dns)).Nodup
  openKeys : ∀ k ∈ fs.openKeys, trim k ≠ ""
  configs : ∀ c ∈ fs.configs, (c.endpoints.map (·.dns)).Nodup
  keys : ∀ k ∈ fs.keys, k ≠ ""

theorem sound_empty : Sound y .empty where
  config := .inl rfl
  key := .inl rfl
  openConfigs := by simp [SavedFiles.empty]
  openKeys := by simp [SavedFiles.empty]
  configs := by simp [SavedFiles.empty]
  keys := by simp [SavedFiles.empty]

theorem sound_save (h : Sound y fs) (hs : Save y fs fs') : Sound y fs' := by
  cases hs with
  | truncateConfig _ hc =>
      exact ⟨.inl rfl, h.key, List.forall_mem_cons.mpr ⟨hc, h.openConfigs⟩, h.openKeys, h.configs, h.keys⟩
  | @writeConfig pre post c b hopen hb =>
      have hc := h.openConfigs c (mem_of_split hopen)
      refine ⟨.inr ⟨c, b, List.getLast?_concat, hb, rfl⟩, h.key, ?_, h.openKeys, ?_, h.keys⟩
      · exact forall_mem_remove hopen h.openConfigs
      · exact List.forall_mem_append.mpr ⟨h.configs, by simpa using hc⟩
  | truncateKey hk =>
      exact ⟨h.config, .inl rfl, h.openConfigs, List.forall_mem_cons.mpr ⟨hk, h.openKeys⟩, h.configs, h.keys⟩
  | @writeKey pre post k hopen =>
      have hk := h.openKeys k (mem_of_split hopen)
      refine ⟨h.config, .inr ⟨k, List.mem_cons_self, rfl⟩, h.openConfigs, ?_, h.configs, ?_⟩
      · exact forall_mem_remove hopen h.openKeys
      · exact List.forall_mem_cons.mpr ⟨hk, h.keys⟩

theorem configs_grow (hs : Save y fs fs') : fs.configs <+: fs'.configs := by
  cases hs with
  | writeConfig _ _ => exact List.prefix_append _ _
  | truncateConfig | truncateKey | writeKey => exact List.prefix_rfl

theorem keys_grow (hs : Save y fs fs') : fs.keys ⊆ fs'.keys := by
  cases hs with
  | writeKey _ => exact List.subset_cons_self _ _
  | truncateConfig | writeConfig | truncateKey => exact List.Subset.refl _

/-- A read gives what the file holds or fails. -/
def Reads (bytes : Bytes) (observed : File) : Prop := observed = .ok bytes ∨ ∃ e, observed = .error e

/-- A torn file reads as no configuration or as a failure, so one that is read
is the last one written. -/
theorem Sound.reload_config (h : Sound y fs) (hy : ∀ c ∈ fs.configs, y.Restores c)
    (hempty : y.EmptyDocument) {f : File} (hread : Reads fs.config f) (hc : reloadConfig y f = .ok (some c)) :
    fs.configs.getLast? = some c := by
  rcases hread with rfl | ⟨e, rfl⟩
  · rcases h.config with hnil | ⟨c', b, hlast, hb, hbytes⟩
    · rw [hnil] at hc
      rcases hempty with hnone | hnone <;> simp [reloadConfig, loadFromFilePath, hnone] at hc
    · have hb' := hy c' (List.mem_of_getLast? hlast) b hb
      simp only [hbytes, reloadConfig, loadFromFilePath, hb', Except.ok.injEq, Option.some.injEq] at hc
      rw [hlast, hc]
  · cases e <;> simp [reloadConfig, loadFromFilePath, ConfigError.ofIoError] at hc

theorem Sound.reload_key (h : Sound y fs) {f : File} (hread : Reads fs.key f)
    (hk : reloadKey f = .ok (some k)) : k ∈ fs.keys := by
  rcases hread with rfl | ⟨e, rfl⟩
  · rcases h.key with hnil | ⟨k', hmem, hbytes⟩
    · rw [hnil] at hk
      have hempty : getkey (.ok []) = .error .Empty := rfl
      simp [reloadKey, hempty] at hk
    · have hne : trim k' ≠ "" := h.keys _ hmem
      simp only [hbytes, reloadKey, getkey_setkey, if_neg hne, Except.ok.injEq, Option.some.injEq] at hk
      exact hk ▸ hmem
  · cases e <;> simp [reloadKey, getkey, readToString, ConfigError.ofIoError] at hk

end Ebbflow.TornFiles
