import Ebbflow.Lib.Wire
import Mathlib.Data.List.DropRight

namespace Ebbflow.Lib.Text

open Wire

def encode (s : String) : Bytes := s.toByteArray.data.toList

def decode (bs : Bytes) : Option String := String.fromUTF8? ⟨bs.toArray⟩

@[simp] theorem decode_encode (s : String) : decode (encode s) = some s := by
  have he : (⟨(encode s).toArray⟩ : ByteArray) = s.toByteArray := by simp [encode]
  rw [decode, he, String.fromUTF8?, dif_pos s.isValidUTF8]
  rfl

theorem encode_eq_nil {s : String} : encode s = [] ↔ s = "" := by
  constructor
  · intro h
    have hs := decode_encode s
    rw [h] at hs
    exact (Option.some.inj hs).symm
  · rintro rfl
    rfl

/-- The characters of Unicode's `White_Space` property. -/
def isWhitespace (c : Char) : Bool :=
  (9 ≤ c.toNat && c.toNat ≤ 13) || (0x2000 ≤ c.toNat && c.toNat ≤ 0x200a) ||
    [0x20, 0x85, 0xa0, 0x1680, 0x2028, 0x2029, 0x202f, 0x205f, 0x3000].contains c.toNat

def trimList (cs : List Char) : List Char := (cs.dropWhile isWhitespace).rdropWhile isWhitespace

def trim (s : String) : String := .ofList (trimList s.toList)

/-- What is left starts at a character that is no white space, so dropping
from the end never reaches it. -/
theorem trimList_dropWhile (cs : List Char) : (trimList cs).dropWhile isWhitespace = trimList cs := by
  rw [List.dropWhile_eq_self_iff]
  intro hpos
  have hpre : trimList cs <+: cs.dropWhile isWhitespace := List.rdropWhile_prefix isWhitespace _
  have hne : cs.dropWhile isWhitespace ≠ [] := List.ne_nil_of_length_pos (hpos.trans_le hpre.length_le)
  have hhead := List.head_dropWhile_not isWhitespace hne
  rw [hpre.getElem hpos, ← List.head_eq_getElem hne, hhead]
  exact Bool.false_ne_true

@[simp] theorem trimList_trimList (cs : List Char) : trimList (trimList cs) = trimList cs := by
  rw [trimList, trimList_dropWhile]
  exact List.rdropWhile_idempotent isWhitespace _

theorem trimList_eq_nil_iff {cs : List Char} : trimList cs = [] ↔ ∀ c ∈ cs, isWhitespace c := by
  have hrest : (∀ c ∈ cs.dropWhile isWhitespace, isWhitespace c) ↔ cs.dropWhile isWhitespace = [] := by
    constructor
    · intro h
      by_contra hne
      have hhead := List.head_dropWhile_not isWhitespace hne
      rw [h _ (List.head_mem hne)] at hhead
      cases hhead
    · intro h c hc
      rw [h] at hc
      cases hc
  rw [trimList, List.rdropWhile_eq_nil_iff, hrest, List.dropWhile_eq_nil_iff]

theorem trim_eq_empty_iff {s : String} : trim s = "" ↔ ∀ c ∈ s.toList, isWhitespace c := by
  rw [trim, ← String.toList_inj, String.toList_ofList, ← trimList_eq_nil_iff]
  rfl

@[simp] theorem trim_trim (s : String) : trim (trim s) = trim s := by
  simp [trim]

end Ebbflow.Lib.Text
