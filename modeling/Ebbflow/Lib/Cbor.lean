import Ebbflow.Lib.BigEndian
import Ebbflow.Lib.Wire

namespace Ebbflow.Lib.Cbor

open BigEndian Wire

variable {α β : Type}

def uint (k : Nat) : Format Nat where
  write n := if n < 256 ^ k then some (beBytes k n) else none
  read input := if k ≤ input.length then some (beNat (input.take k), input.drop k) else none
  read_write := by
    intro n bs h rest
    split at h
    next hn =>
      obtain rfl := Option.some.inj h
      simp [beNat_beBytes hn]
    next => cases h
  write_read := by
    intro input n rest h
    split at h
    next hk =>
      simp only [Option.some.injEq, Prod.mk.injEq] at h
      obtain ⟨rfl, rfl⟩ := h
      have hlen : (input.take k).length = k := by simpa using hk
      have hlt := beNat_lt (input.take k)
      rw [hlen] at hlt
      refine ⟨input.take k, ?_, (List.take_append_drop k input).symm⟩
      rw [if_pos hlt]
      simpa only [hlen] using congrArg some (beBytes_beNat (input.take k))
    next => cases h

/-- A number that takes no bytes because its header says it. -/
def immediate (i : Nat) : Format Nat where
  write n := if n = i then some [] else none
  read input := some (i, input)
  read_write := by
    intro n bs h rest
    split at h
    next hn =>
      obtain rfl := Option.some.inj h
      rw [hn]
      rfl
    next => cases h
  write_read := by
    intro input n rest h
    simp only [Option.some.injEq, Prod.mk.injEq] at h
    obtain ⟨rfl, rfl⟩ := h
    exact ⟨[], if_pos rfl, rfl⟩

def byte : Format UInt8 where
  write b := some [b]
  read
    | [] => none
    | b :: rest => some (b, rest)
  read_write := by
    intro b bs h rest
    obtain rfl := Option.some.inj h
    rfl
  write_read := by
    intro input b rest h
    cases input with
    | nil => cases h
    | cons c tail =>
        simp only [Option.some.injEq, Prod.mk.injEq] at h
        obtain ⟨rfl, rfl⟩ := h
        exact ⟨[c], rfl, rfl⟩

def additional (n : Nat) : Nat :=
  if n < 24 then n
  else if n < 2 ^ 8 then 24
  else if n < 2 ^ 16 then 25
  else if n < 2 ^ 32 then 26
  else 27

def initial (major n : Nat) : UInt8 := UInt8.ofNat (major * 32 + additional n)

def argument (b : UInt8) : Format Nat :=
  match b.toNat % 32 with
  | 24 => uint 1
  | 25 => uint 2
  | 26 => uint 4
  | 27 => uint 8
  | i => immediate i

/-- The initial byte of a data item with its argument in the shortest form. -/
def head (major : Nat) : Format Nat := Format.dependent byte argument (initial major)

theorem additional_le (n : Nat) : additional n ≤ 27 := by
  simp only [additional]
  split_ifs <;> omega

theorem head_write {major n : Nat} {bs : Bytes} (h : (head major).write n = some bs) :
    ∃ tail, bs = initial major n :: tail := by
  simp only [head, Format.dependent, byte, Option.bind_some, Option.map_eq_some_iff] at h
  obtain ⟨tail, _, rfl⟩ := h
  exact ⟨tail, rfl⟩

def utf8 : Format Bytes → Format String := fun f =>
  f.restrict (fun bs => String.fromUTF8? ⟨bs.toArray⟩) (fun s => s.toByteArray.data.toList)
    (by
      intro s
      have he : (⟨s.toByteArray.data.toList.toArray⟩ : ByteArray) = s.toByteArray := by simp
      rw [he, String.fromUTF8?, dif_pos s.isValidUTF8]
      rfl)
    (by
      intro bs s h
      rw [String.fromUTF8?] at h
      split at h
      next hv =>
        obtain rfl := Option.some.inj h
        rfl
      next => cases h)

def text : Format String := utf8 (Format.dependent (head 3) Format.fixed List.length)

def array (f : Format α) : Format (List α) :=
  Format.dependent (head 4) (Format.items f) List.length

def map (k : Format α) (v : Format β) : Format (List (α × β)) :=
  Format.dependent (head 5) (Format.items (Format.seq k v)) List.length

def boolean : Format Bool :=
  byte.restrict (fun b => if b = 0xf4 then some false else if b = 0xf5 then some true else none)
    (fun v => if v then 0xf5 else 0xf4) (by decide)
    (by
      intro b v h
      split_ifs at h with h4 h5
      · obtain rfl := Option.some.inj h
        exact h4.symm
      · obtain rfl := Option.some.inj h
        exact h5.symm)

theorem text_write {s : String} {bs : Bytes} (h : text.write s = some bs) :
    ∃ n tail, bs = initial 3 n :: tail := by
  simp only [text, utf8, Format.restrict, Format.dependent, Option.bind_eq_some_iff,
    Option.map_eq_some_iff] at h
  obtain ⟨hd, hhead, body, _, rfl⟩ := h
  obtain ⟨tail, rfl⟩ := head_write hhead
  exact ⟨_, tail ++ body, rfl⟩

def behind (bytes : Bytes) (f : Format α) : Format α :=
  (Format.seq (Format.literal bytes) f).restrict (fun p => some p.2) (fun a => ((), a))
    (fun _ => rfl)
    (by
      rintro ⟨_, a⟩ b h
      obtain rfl := Option.some.inj h
      rfl)

def null : Bytes := [0xf6]

def textBytes (s : String) : Bytes := (text.write s).getD []

end Ebbflow.Lib.Cbor
