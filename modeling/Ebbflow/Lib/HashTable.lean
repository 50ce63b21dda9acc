import Mathlib.Data.List.AList

namespace Ebbflow.Lib.HashTable

variable {K V σ : Type}

/-- A hash map as its entries in iteration order, one entry for each key. -/
abbrev HashMap (K V : Type) := AList (fun _ : K => V)

/-- One visit of every entry. The closure sees the key and the value, may
change the value and the surrounding state, and says whether the entry stays. -/
def retainEntries (f : K → V → σ → Bool × V × σ) :
    List (Sigma fun _ : K => V) → σ → List (Sigma fun _ : K => V) × σ
  | [], s => ([], s)
  | e :: es, s =>
      let r := f e.1 e.2 s
      let rest := retainEntries f es r.2.2
      (if r.1 then ⟨e.1, r.2.1⟩ :: rest.1 else rest.1, rest.2)

theorem retainEntries_keys (f : K → V → σ → Bool × V × σ) (es : List (Sigma fun _ : K => V)) (s : σ) :
    (retainEntries f es s).1.keys.Sublist es.keys := by
  induction es generalizing s with
  | nil => exact List.Sublist.slnil
  | cons e es ih =>
      simp only [retainEntries]
      split
      · exact (ih _).cons_cons _
      · exact (ih _).cons _

def retain (m : HashMap K V) (f : K → V → σ → Bool × V × σ) (s : σ) : HashMap K V × σ :=
  (⟨(retainEntries f m.entries s).1, List.Nodup.sublist (retainEntries_keys f m.entries s) m.nodupKeys⟩,
    (retainEntries f m.entries s).2)

variable [DecidableEq K]

/-- The map as seen halfway through the visit: the entries still to come are
the old ones, those behind are rewritten. -/
theorem retainEntries_induction (f : K → V → σ → Bool × V × σ) (Inv : (K → Option V) → σ → Prop)
    (hstep : ∀ lookup k v s, lookup k = some v → Inv lookup s →
      Inv (Function.update lookup k (if (f k v s).1 then some (f k v s).2.1 else none)) (f k v s).2.2)
    (es : List (Sigma fun _ : K => V)) (hnodup : es.NodupKeys) (lookup : K → Option V) (s : σ)
    (hes : ∀ e ∈ es, lookup e.1 = some e.2) (h : Inv lookup s) :
    Inv (fun k => if k ∈ es.keys then (retainEntries f es s).1.dlookup k else lookup k)
      (retainEntries f es s).2 := by
  induction es generalizing lookup s with
  | nil => simpa [retainEntries] using h
  | cons e es ih =>
      obtain ⟨k, v⟩ := e
      obtain ⟨hk, hnodup⟩ := List.nodupKeys_cons.mp hnodup
      have hstep' := hstep lookup k v s (hes ⟨k, v⟩ (by simp)) h
      have hrest := ih hnodup _ _ (fun e he => by
        have hmem : e.1 ∈ es.keys := List.mem_keys_of_mem he
        have hek : e.1 ≠ k := fun h => hk (h ▸ hmem)
        rw [Function.update_of_ne hek]
        exact hes e (List.mem_cons_of_mem _ he)) hstep'
      refine Eq.mp ?_ hrest
      congr 1
      funext l
      by_cases hl : l = k
      · subst hl
        have hout : l ∉ (retainEntries f es (f l v s).2.2).1.keys :=
          fun hm => hk ((retainEntries_keys f es _).subset hm)
        simp only [hk, if_false, Function.update_self, retainEntries, List.keys_cons, List.mem_cons,
          true_or, if_true]
        split
        · simp
        · rw [List.dlookup_eq_none.mpr hout]
      · simp only [Function.update_of_ne hl, retainEntries, List.keys_cons, List.mem_cons, hl, false_or]
        split
        · split
          · rw [List.dlookup_cons_ne _ _ hl]
          · rfl
        · rfl

/-- The rule for `retain`: an invariant of the map and the state that each
visited entry preserves holds of the map that is left. -/
theorem retain_induction (m : HashMap K V) (f : K → V → σ → Bool × V × σ) (s : σ)
    (Inv : (K → Option V) → σ → Prop)
    (hstep : ∀ lookup k v s, lookup k = some v → Inv lookup s →
      Inv (Function.update lookup k (if (f k v s).1 then some (f k v s).2.1 else none)) (f k v s).2.2)
    (h : Inv (fun k => m.lookup k) s) :
    Inv (fun k => (retain m f s).1.lookup k) (retain m f s).2 := by
  have hrest := retainEntries_induction f Inv hstep m.entries m.nodupKeys (fun k => m.lookup k) s
    (fun e he => AList.mem_lookup_iff.mpr he) h
  refine Eq.mp ?_ hrest
  congr 1
  funext k
  by_cases hk : k ∈ m.entries.keys
  · rw [if_pos hk]
    rfl
  · rw [if_neg hk]
    have hout : k ∉ (retainEntries f m.entries s).1.keys :=
      fun hm => hk ((retainEntries_keys f m.entries s).subset hm)
    exact (List.dlookup_eq_none.mpr hk).trans (List.dlookup_eq_none.mpr hout).symm

theorem lookup_retain (m : HashMap K V) (f : K → V → σ → Bool × V × σ) (s : σ) (p : K → Bool)
    (hf : ∀ k v s, (f k v s).1 = p k) (hkeep : ∀ k v s, p k = true → (f k v s).2.1 = v) (k : K) :
    (retain m f s).1.lookup k = if p k then m.lookup k else none := by
  change (retainEntries f m.entries s).1.dlookup k = if p k then m.entries.dlookup k else none
  generalize m.entries = es
  induction es generalizing s with
  | nil => simp [retainEntries]
  | cons e es ih =>
      obtain ⟨l, v⟩ := e
      simp only [retainEntries, hf]
      by_cases hl : k = l
      · subst hl
        cases hp : p k with
        | true => simp [hkeep k v s hp]
        | false => simp [ih, hp]
      · rw [List.dlookup_cons_ne _ _ hl]
        split
        · rw [List.dlookup_cons_ne _ _ hl, ih]
        · rw [ih]

theorem lookup_insert_eq (m : HashMap K V) (k : K) (v : V) :
    (fun l => (m.insert k v).lookup l) = Function.update (fun l => m.lookup l) k (some v) := by
  funext l
  by_cases hl : l = k
  · subst hl
    simp
  · rw [Function.update_of_ne hl, AList.lookup_insert_ne hl]

end Ebbflow.Lib.HashTable
