import Ebbflow.Config
import Ebbflow.Lib.Text
import Mathlib.Data.List.Nodup

namespace Ebbflow.ConfigFile

open Config Lib.Text Lib.Wire

/-- The kinds of I/O errors that are told apart, and how any other prints. -/
inductive IoError
  | NotFound
  | PermissionDenied
  | Other (debug : String)
  deriving DecidableEq, Repr

inductive ConfigError
  | Parsing
  | FileNotFound
  | FilePermissions
  | Empty
  | Unknown (s : String)
  deriving DecidableEq, Repr

def ConfigError.ofIoError : IoError → ConfigError
  | .NotFound => .FileNotFound
  | .PermissionDenied => .FilePermissions
  | .Other debug => .Unknown s!"Unexepected error reading config file {debug}"

def hexDigits (n : Nat) : String := .ofList (Nat.toDigits 16 n)

/-- What a string literal shows for a character; beyond ASCII all are shown as they are. -/
def escapeDebug (c : Char) : String :=
  match c with
  | '\t' => "\\t"
  | '\n' => "\\n"
  | '\r' => "\\r"
  | '"' => "\\\""
  | '\\' => "\\\\"
  | c =>
      if c.toNat = 0 then "\\0"
      else if c.toNat < 32 ∨ c.toNat = 127 then "\\u\x7b" ++ hexDigits c.toNat ++ "\x7d"
      else .singleton c

def debugString (s : String) : String := "\"" ++ String.join (s.toList.map escapeDebug) ++ "\""

def ConfigError.debug : ConfigError → String
  | .Parsing => "Parsing"
  | .FileNotFound => "FileNotFound"
  | .FilePermissions => "FilePermissions"
  | .Empty => "Empty"
  | .Unknown s => "Unknown(" ++ debugString s ++ ")"

abbrev File := Except IoError Bytes

def invalidUtf8 : IoError :=
  .Other "Custom \x7b kind: InvalidData, error: \"stream did not contain valid UTF-8\" \x7d"

def readToString (f : File) : Except IoError String :=
  match f with
  | .error e => .error e
  | .ok bytes =>
      match decode bytes with
      | some s => .ok s
      | none => .error invalidUtf8

inductive PossiblyEmptyEbbflowDaemonConfig
  | Empty
  | EbbflowDaemonConfig (c : EbbflowDaemonConfig)
  deriving DecidableEq, Repr

/-- The YAML library at the configuration's type. -/
structure SerdeYaml where
  toString : EbbflowDaemonConfig → Option String
  fromSlice : Bytes → Option PossiblyEmptyEbbflowDaemonConfig

def SerdeYaml.Restores (y : SerdeYaml) (c : EbbflowDaemonConfig) : Prop :=
  ∀ text, y.toString c = some text → y.fromSlice (encode text) = some (.EbbflowDaemonConfig c)

def SerdeYaml.RoundTrip (y : SerdeYaml) : Prop := ∀ c, y.Restores c

/-- An empty document loads as an empty configuration or not at all. -/
def SerdeYaml.EmptyDocument (y : SerdeYaml) : Prop :=
  y.fromSlice [] = some .Empty ∨ y.fromSlice [] = none

def loadFromFilePath (y : SerdeYaml) (f : File) : Except ConfigError EbbflowDaemonConfig :=
  match f with
  | .error e => .error (.ofIoError e)
  | .ok filebytes =>
      match y.fromSlice filebytes with
      | some .Empty => .error .Empty
      | some (.EbbflowDaemonConfig c) => .ok c
      | none => .error .Parsing

def loadFromFileOrNew (y : SerdeYaml) (f : File) : Except ConfigError EbbflowDaemonConfig :=
  match loadFromFilePath y f with
  | .ok existing => .ok existing
  | .error .Empty => .ok ⟨[], none, none⟩
  | .error .FileNotFound => .ok ⟨[], none, none⟩
  | .error e => .error e

/-- How a write to the disk goes; a failed one may leave anything behind. -/
inductive Disk
  | wrote
  | failed (e : IoError) (left : File)

def saveToFile (y : SerdeYaml) (config : EbbflowDaemonConfig) (disk : Disk) (f : File) :
    File × Except ConfigError Unit :=
  match y.toString config with
  | none => (f, .error .Parsing)
  | some b =>
      match disk with
      | .wrote => (.ok (encode b), .ok ())
      | .failed e left => (left, .error (.ofIoError e))

def getkey (f : File) : Except ConfigError String :=
  match readToString f with
  | .error e => .error (.ofIoError e)
  | .ok s => if s = "" then .error .Empty else .ok (trim s)

def setkey (k : String) : Bytes := encode (trim k)

def reloadConfig (y : SerdeYaml) (config : File) : Except ConfigError (Option EbbflowDaemonConfig) :=
  match loadFromFilePath y config with
  | .ok c => .ok (some c)
  | .error .Empty => .ok none
  | .error e => .error e

def reloadKey (key : File) : Except ConfigError (Option String) :=
  match getkey key with
  | .ok k => .ok (some k)
  | .error .Empty => .ok none
  | .error .FileNotFound => .ok none
  | .error e => .error e

def configReload (y : SerdeYaml) (config key : File) :
    Except ConfigError (Option EbbflowDaemonConfig × Option String) := do
  let cfg ← reloadConfig y config
  let key ← reloadKey key
  return (cfg, key)

theorem configReload_ok {y : SerdeYaml} {config key : File}
    {r : Option EbbflowDaemonConfig × Option String} :
    configReload y config key = .ok r ↔ reloadConfig y config = .ok r.1 ∧ reloadKey key = .ok r.2 := by
  cases hc : reloadConfig y config with
  | error e => simp [configReload, hc, bind, Except.bind]
  | ok cfg =>
      cases hk : reloadKey key with
      | error e => simp [configReload, hc, hk, bind, Except.bind]
      | ok k => simp [configReload, hc, hk, bind, Except.bind, pure, Except.pure, Prod.ext_iff]

theorem getkey_setkey (k : String) :
    getkey (.ok (setkey k)) = if trim k = "" then .error .Empty else .ok (trim k) := by
  simp [getkey, readToString, setkey]

theorem loadFromFileOrNew_text {y : SerdeYaml} {c : EbbflowDaemonConfig} (hy : y.Restores c) {text : String}
    (h : y.toString c = some text) : loadFromFileOrNew y (.ok (encode text)) = .ok c := by
  simp [loadFromFileOrNew, loadFromFilePath, hy text h]

theorem loadFromFileOrNew_saved {y : SerdeYaml} (hy : y.RoundTrip) {c : EbbflowDaemonConfig}
    {disk : Disk} {f : File} (h : (saveToFile y c disk f).2 = .ok ()) :
    loadFromFileOrNew y (saveToFile y c disk f).1 = .ok c := by
  rw [saveToFile] at h ⊢
  cases hb : y.toString c with
  | none => simp [hb] at h
  | some b =>
      cases disk with
      | failed e left => simp [hb] at h
      | wrote => exact loadFromFileOrNew_text (hy c) hb

/-- A library that knows the documents of a table and no others. -/
def tableYaml (table : List (EbbflowDaemonConfig × String)) : SerdeYaml where
  toString c := (table.find? (·.1 = c)).map (·.2)
  fromSlice bytes := (table.find? (encode ·.2 = bytes)).map fun entry => .EbbflowDaemonConfig entry.1

theorem tableYaml_nil {table : List (EbbflowDaemonConfig × String)} (h : ∀ entry ∈ table, entry.2 ≠ "") :
    (tableYaml table).fromSlice [] = none := by
  apply Option.map_eq_none_iff.mpr
  apply List.find?_eq_none.mpr
  intro entry hm
  rw [decide_eq_true_eq, encode_eq_nil]
  exact h entry hm

theorem tableYaml_emptyDocument {table : List (EbbflowDaemonConfig × String)} (h : ∀ entry ∈ table, entry.2 ≠ "") :
    (tableYaml table).EmptyDocument := .inr (tableYaml_nil h)

theorem tableYaml_roundTrip {table : List (EbbflowDaemonConfig × String)}
    (hn : (table.map fun entry => encode entry.2).Nodup) : (tableYaml table).RoundTrip := by
  intro c text h
  obtain ⟨entry, hfind, rfl⟩ := Option.map_eq_some_iff.mp h
  have hm : entry ∈ table := List.mem_of_find?_eq_some hfind
  have hc : entry.1 = c := by simpa using List.find?_some hfind
  have hsome : (table.find? (encode ·.2 = encode entry.2)).isSome :=
    List.find?_isSome.mpr ⟨entry, hm, by simp⟩
  obtain ⟨found, hfound⟩ := Option.isSome_iff_exists.mp hsome
  have hsame : encode found.2 = encode entry.2 := by simpa using List.find?_some hfound
  have hfm : found ∈ table := List.mem_of_find?_eq_some hfound
  obtain rfl := List.inj_on_of_nodup_map hn hfm hm hsame
  simp only [tableYaml, hfound, Option.map_some, hc]

end Ebbflow.ConfigFile
