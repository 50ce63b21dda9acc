import Mathlib.Data.List.Nodup
import Mathlib.Logic.Function.Basic

namespace Ebbflow.Lib.KeyedList

variable {K V : Type}

/-- A finite map whose keys stand in an order. -/
@[ext] structure OrderedMap (K V : Type) where
  keys : List K
  nodup : keys.Nodup
  value : K → Option V
  value_isSome : ∀ k, (value k).isSome ↔ k ∈ keys

namespace OrderedMap

variable [DecidableEq K]

/-- A new key goes to the end; a key that is there stays as it is. -/
def push (m : OrderedMap K V) (k : K) (v : V) : OrderedMap K V :=
  if h : k ∈ m.keys then m
  else
    { keys := m.keys ++ [k]
      nodup := List.nodup_append.mpr ⟨m.nodup, List.nodup_singleton k, by
        rintro a ha b hb rfl
        exact h (List.mem_singleton.mp hb ▸ ha)⟩
      value := Function.update m.value k (some v)
      value_isSome := by
        intro l
        by_cases hl : l = k
        · simp [hl]
        · simp [hl, m.value_isSome] }

def erase (m : OrderedMap K V) (k : K) : OrderedMap K V where
  keys := m.keys.filter (· ≠ k)
  nodup := m.nodup.filter _
  value := Function.update m.value k none
  value_isSome := by
    intro l
    by_cases hl : l = k
    · simp [hl]
    · simp [hl, m.value_isSome]

def modify (m : OrderedMap K V) (k : K) (f : V → V) : OrderedMap K V where
  keys := m.keys
  nodup := m.nodup
  value := Function.update m.value k ((m.value k).map f)
  value_isSome := by
    intro l
    by_cases hl : l = k
    · simp [hl, m.value_isSome]
    · simp [hl, m.value_isSome]

omit [DecidableEq K] in
def mapValues (m : OrderedMap K V) (f : V → V) : OrderedMap K V where
  keys := m.keys
  nodup := m.nodup
  value k := (m.value k).map f
  value_isSome := by simp [m.value_isSome]

/-- A list of values that carry their own, pairwise distinct keys. -/
def ofList (key : V → K) (l : List V) (h : (l.map key).Nodup) : OrderedMap K V where
  keys := l.map key
  nodup := h
  value k := l.find? (key · = k)
  value_isSome := by simp

variable {key : V → K} {l l' : List V}

theorem find?_self (h : (l.map key).Nodup) {v : V} (hv : v ∈ l) : l.find? (key · = key v) = some v := by
  have hs : (l.find? (key · = key v)).isSome := List.find?_isSome.mpr ⟨v, hv, by simp⟩
  obtain ⟨w, hw⟩ := Option.isSome_iff_exists.mp hs
  have hk : key w = key v := by simpa using List.find?_some hw
  rw [hw, List.inj_on_of_nodup_map h (List.mem_of_find?_eq_some hw) hv hk]

def toList (m : OrderedMap K V) : List V := m.keys.filterMap m.value

theorem toList_ofList (h : (l.map key).Nodup) : (ofList key l h).toList = l := by
  have hvalue : ∀ v ∈ l, l.find? (key · = key v) = some v := fun v hv => find?_self h hv
  rw [toList, ofList, List.filterMap_map]
  calc
    l.filterMap ((fun k => l.find? (key · = k)) ∘ key) = l.filterMap some :=
      List.filterMap_congr hvalue
    _ = l := List.filterMap_some

theorem ofList_append (v : V) (h : (l.map key).Nodup) (h' : ((l ++ [v]).map key).Nodup) :
    ofList key (l ++ [v]) h' = (ofList key l h).push (key v) v := by
  have hv : key v ∉ l.map key := by
    rw [List.map_append, List.nodup_append] at h'
    intro hm
    exact h'.2.2 _ hm _ (by simp) rfl
  rw [push, dif_neg (show key v ∉ (ofList key l h).keys from hv)]
  apply OrderedMap.ext
  · simp [ofList]
  · funext k
    by_cases hk : k = key v
    · subst hk
      have hnone : l.find? (key · = key v) = none := by
        simp only [List.find?_eq_none, decide_eq_true_eq]
        intro w hw he
        exact hv (he ▸ List.mem_map_of_mem hw)
      simp [ofList, hnone]
    · simp [ofList, hk, Ne.symm hk]

theorem ofList_filter (k : K) (h : (l.map key).Nodup) (h' : ((l.filter (key · ≠ k)).map key).Nodup) :
    ofList key (l.filter (key · ≠ k)) h' = (ofList key l h).erase k := by
  apply OrderedMap.ext
  · simp [ofList, erase, List.filter_map, Function.comp_def]
  · funext j
    by_cases hj : j = k
    · subst hj
      simp [ofList, erase]
    · simp only [ofList, erase, Function.update_of_ne hj, List.find?_filter]
      congr 1
      funext v
      by_cases hv : key v = j
      · simp [hv, hj]
      · simp [hv]

theorem ofList_map (p : V → Bool) (f : V → V) (hf : ∀ v, key (f v) = key v) (k : K)
    (hp : ∀ v, p v ↔ key v = k) (h : (l.map key).Nodup)
    (h' : ((l.map fun v => if p v then f v else v).map key).Nodup) :
    ofList key (l.map fun v => if p v then f v else v) h' = (ofList key l h).modify k f := by
  have hkey : ∀ v, key (if p v then f v else v) = key v := by
    intro v
    split
    · exact hf v
    · rfl
  apply OrderedMap.ext
  · simp [ofList, modify, Function.comp_def, hkey]
  · funext j
    simp only [ofList, modify, List.find?_map, Function.comp_def, hkey]
    by_cases hj : j = k
    · subst hj
      rw [Function.update_self]
      cases hfind : l.find? (key · = j) with
      | none => rfl
      | some v =>
          have hv : key v = j := by simpa using List.find?_some hfind
          simp [(hp v).mpr hv]
    · rw [Function.update_of_ne hj]
      cases hfind : l.find? (key · = j) with
      | none => rfl
      | some v =>
          have hv : key v = j := by simpa using List.find?_some hfind
          have hnot : p v = false := by
            rw [← Bool.not_eq_true, hp, hv]
            exact hj
          simp [hnot]

theorem ofList_mapValues (f : V → V) (hf : ∀ v, key (f v) = key v) (h : (l.map key).Nodup)
    (h' : ((l.map f).map key).Nodup) : ofList key (l.map f) h' = (ofList key l h).mapValues f := by
  apply OrderedMap.ext
  · simp [ofList, mapValues, Function.comp_def, hf]
  · funext j
    simp [ofList, mapValues, Function.comp_def, hf]

end OrderedMap

end Ebbflow.Lib.KeyedList
