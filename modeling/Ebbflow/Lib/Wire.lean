import Mathlib.Data.List.Basic

namespace Ebbflow.Lib.Wire

abbrev Bytes := List UInt8

/-- A writer and a reader of the front of a byte string that undo each other:
what is written is read back whatever follows, and only what is written is read. -/
structure Format (α : Type) where
  write : α → Option Bytes
  read : Bytes → Option (α × Bytes)
  read_write : ∀ {a bs}, write a = some bs → ∀ rest, read (bs ++ rest) = some (a, rest)
  write_read : ∀ {input a rest}, read input = some (a, rest) →
    ∃ bs, write a = some bs ∧ input = bs ++ rest

namespace Format

variable {α β : Type}

def literal (bytes : Bytes) : Format Unit where
  write _ := some bytes
  read input := if bytes <+: input then some ((), input.drop bytes.length) else none
  read_write := by
    intro a bs h rest
    obtain rfl := Option.some.inj h
    simp
  write_read := by
    intro input a rest h
    split at h
    next hp =>
      obtain ⟨tail, rfl⟩ := hp
      simp only [List.drop_left, Option.some.injEq, Prod.mk.injEq, true_and] at h
      exact ⟨bytes, rfl, by rw [h]⟩
    next => cases h

def fixed (n : Nat) : Format Bytes where
  write bs := if bs.length = n then some bs else none
  read input := if n ≤ input.length then some (input.take n, input.drop n) else none
  read_write := by
    intro a bs h rest
    split at h
    next hl =>
      obtain rfl := Option.some.inj h
      simp [← hl]
    next => cases h
  write_read := by
    intro input a rest h
    split at h
    next hl =>
      simp only [Option.some.injEq, Prod.mk.injEq] at h
      obtain ⟨rfl, rfl⟩ := h
      exact ⟨input.take n, by simp [hl], (List.take_append_drop n input).symm⟩
    next => cases h

def seq (f : Format α) (g : Format β) : Format (α × β) where
  write p := (f.write p.1).bind fun bs => (g.write p.2).map fun cs => bs ++ cs
  read input := (f.read input).bind fun r => (g.read r.2).map fun s => ((r.1, s.1), s.2)
  read_write := by
    rintro ⟨a, b⟩ bs h rest
    simp only [Option.bind_eq_some_iff, Option.map_eq_some_iff] at h
    obtain ⟨bs, hf, cs, hg, rfl⟩ := h
    simp [List.append_assoc, f.read_write hf, g.read_write hg]
  write_read := by
    intro input p rest h
    simp only [Option.bind_eq_some_iff, Option.map_eq_some_iff] at h
    obtain ⟨⟨a, mid⟩, hf, ⟨b, rest'⟩, hg, he⟩ := h
    obtain ⟨rfl, rfl⟩ := Prod.mk.inj he
    obtain ⟨bs, hbs, rfl⟩ := f.write_read hf
    obtain ⟨cs, hcs, rfl⟩ := g.write_read hg
    exact ⟨bs ++ cs, by simp [hbs, hcs], (List.append_assoc _ _ _).symm⟩

/-- A header that says how the rest is to be read. -/
def dependent [DecidableEq α] (f : Format α) (g : α → Format β) (header : β → α) : Format β where
  write b := (f.write (header b)).bind fun bs => ((g (header b)).write b).map fun cs => bs ++ cs
  read input := (f.read input).bind fun r => ((g r.1).read r.2).bind fun s =>
    if header s.1 = r.1 then some s else none
  read_write := by
    intro b bs h rest
    simp only [Option.bind_eq_some_iff, Option.map_eq_some_iff] at h
    obtain ⟨bs, hf, cs, hg, rfl⟩ := h
    simp [List.append_assoc, f.read_write hf, (g (header b)).read_write hg]
  write_read := by
    intro input b rest h
    simp only [Option.bind_eq_some_iff] at h
    obtain ⟨⟨a, mid⟩, hf, ⟨b', rest'⟩, hg, he⟩ := h
    split at he
    next hh =>
      simp only [Option.some.injEq, Prod.mk.injEq] at he
      obtain ⟨rfl, rfl⟩ := he
      obtain ⟨bs, hbs, rfl⟩ := f.write_read hf
      obtain ⟨cs, hcs, rfl⟩ := (g a).write_read hg
      subst hh
      exact ⟨bs ++ cs, by simp [hbs, hcs], (List.append_assoc _ _ _).symm⟩
    next => cases he

def restrict (f : Format α) (into : α → Option β) (out : β → α)
    (into_out : ∀ b, into (out b) = some b) (out_into : ∀ a b, into a = some b → out b = a) :
    Format β where
  write b := f.write (out b)
  read input := (f.read input).bind fun r => (into r.1).map fun b => (b, r.2)
  read_write := by
    intro b bs h rest
    simp [f.read_write h, into_out]
  write_read := by
    intro input b rest h
    simp only [Option.bind_eq_some_iff, Option.map_eq_some_iff] at h
    obtain ⟨⟨a, rest'⟩, hf, b', hb, he⟩ := h
    obtain ⟨rfl, rfl⟩ := Prod.mk.inj he
    obtain ⟨bs, hbs, rfl⟩ := f.write_read hf
    exact ⟨bs, by rw [out_into a b' hb]; exact hbs, rfl⟩

/-- Either of two formats; the first must refuse all that the second writes. -/
def either (f : Format α) (g : Format β)
    (refuses : ∀ b bs, g.write b = some bs → ∀ rest, f.read (bs ++ rest) = none) : Format (α ⊕ β) where
  write
    | .inl a => f.write a
    | .inr b => g.write b
  read input :=
    match f.read input with
    | some r => some (.inl r.1, r.2)
    | none => (g.read input).map fun r => (.inr r.1, r.2)
  read_write := by
    rintro (a | b) bs h rest
    · simp [f.read_write h]
    · simp [refuses b bs h rest, g.read_write h]
  write_read := by
    intro input s rest h
    split at h
    next r hr =>
      simp only [Option.some.injEq, Prod.mk.injEq] at h
      obtain ⟨rfl, rfl⟩ := h
      exact f.write_read hr
    next =>
      simp only [Option.map_eq_some_iff, Prod.mk.injEq] at h
      obtain ⟨r, hr, rfl, rfl⟩ := h
      exact g.write_read hr

def writeAll (f : Format α) : List α → Option Bytes
  | [] => some []
  | a :: as => (f.write a).bind fun bs => (writeAll f as).map fun cs => bs ++ cs

def readCount (f : Format α) : Nat → Bytes → Option (List α × Bytes)
  | 0, input => some ([], input)
  | n + 1, input => (f.read input).bind fun r => (readCount f n r.2).map fun s => (r.1 :: s.1, s.2)

theorem readCount_writeAll (f : Format α) {as : List α} {bs : Bytes} (h : writeAll f as = some bs)
    (rest : Bytes) : readCount f as.length (bs ++ rest) = some (as, rest) := by
  induction as generalizing bs with
  | nil =>
      obtain rfl := Option.some.inj h
      rfl
  | cons a as ih =>
      simp only [writeAll, Option.bind_eq_some_iff, Option.map_eq_some_iff] at h
      obtain ⟨bs, ha, cs, has, rfl⟩ := h
      simp [readCount, List.append_assoc, f.read_write ha, ih has]

theorem writeAll_readCount (f : Format α) {n : Nat} {input : Bytes} {as : List α} {rest : Bytes}
    (h : readCount f n input = some (as, rest)) :
    as.length = n ∧ ∃ bs, writeAll f as = some bs ∧ input = bs ++ rest := by
  induction n generalizing input as with
  | zero =>
      simp only [readCount, Option.some.injEq, Prod.mk.injEq] at h
      obtain ⟨rfl, rfl⟩ := h
      exact ⟨rfl, [], rfl, rfl⟩
  | succ n ih =>
      simp only [readCount, Option.bind_eq_some_iff, Option.map_eq_some_iff] at h
      obtain ⟨⟨a, mid⟩, ha, ⟨as', rest'⟩, has, he⟩ := h
      obtain ⟨rfl, rfl⟩ := Prod.mk.inj he
      obtain ⟨hlen, cs, hcs, rfl⟩ := ih has
      obtain ⟨bs, hbs, rfl⟩ := f.write_read ha
      exact ⟨by simp [hlen], bs ++ cs, by simp [writeAll, hbs, hcs], (List.append_assoc _ _ _).symm⟩

def items (f : Format α) (n : Nat) : Format (List α) where
  write as := if as.length = n then writeAll f as else none
  read := readCount f n
  read_write := by
    intro as bs h rest
    split at h
    next hl =>
      subst hl
      exact readCount_writeAll f h rest
    next => cases h
  write_read := by
    intro input as rest h
    obtain ⟨hlen, bs, hbs, he⟩ := writeAll_readCount f h
    exact ⟨bs, by rw [if_pos hlen, hbs], he⟩

def readAll (f : Format α) (input : Bytes) : Option α :=
  (f.read input).bind fun r => if r.2 = [] then some r.1 else none

theorem readAll_write (f : Format α) {a : α} {bs : Bytes} (h : f.write a = some bs) :
    f.readAll bs = some a := by
  have hr := f.read_write h []
  rw [List.append_nil] at hr
  simp [readAll, hr]

theorem write_readAll (f : Format α) {input : Bytes} {a : α} (h : f.readAll input = some a) :
    f.write a = some input := by
  simp only [readAll, Option.bind_eq_some_iff] at h
  obtain ⟨⟨b, rest⟩, hread, he⟩ := h
  split at he
  next hrest =>
    obtain rfl := Option.some.inj he
    obtain ⟨bs, hbs, rfl⟩ := f.write_read hread
    obtain rfl : rest = [] := hrest
    rw [hbs, List.append_nil]
  next => cases he

theorem readAll_append (f : Format α) {input extra : Bytes} {a b : α} (h : f.readAll input = some a)
    (h' : f.readAll (input ++ extra) = some b) : extra = [] := by
  have hread := f.read_write (f.write_readAll h) extra
  simp only [readAll, hread, Option.bind_some] at h'
  split at h'
  next hextra => exact hextra
  next => cases h'

end Format

end Ebbflow.Lib.Wire
