import Mathlib
import Mockly.Go.Strings

/-!
# Go maps

`map[string]V` as Mathlib's `AList`; a `nil` map is an empty one. A loop whose result depends on the
order of a `range` takes a `RangeOrder` as an argument.
-/

namespace Mockly

open List

/-- `map[string]V`. -/
abbrev GoMap (V : Type) := AList fun _ : GoString => V

namespace GoMap

variable {V : Type}

/-- `v, ok := m[k]`. -/
def get? (m : GoMap V) (k : GoString) : Option V := AList.lookup k m

/-- `m[k]` for a map of strings: the zero value when the key is absent. -/
def getD (m : GoMap GoString) (k : GoString) : GoString := (m.get? k).getD []

/-- `m[k] = v`. -/
def set (m : GoMap V) (k : GoString) (v : V) : GoMap V := AList.insert k v m

/-- `delete(m, k)`. -/
def del (m : GoMap V) (k : GoString) : GoMap V := AList.erase k m

/-- `len(m)`. -/
def size (m : GoMap V) : ℕ := m.entries.length

def toList (m : GoMap V) : List (GoString × V) := m.entries.map fun e => (e.1, e.2)

/-- `for k, v := range l { m[k] = v }`. -/
def setAll (m : GoMap V) (l : List (GoString × V)) : GoMap V :=
  l.foldl (fun m p => m.set p.1 p.2) m

/-- The map with these entries, the later ones counting. -/
def ofList (l : List (GoString × V)) : GoMap V := setAll ∅ l

/-! ## Lookup -/

@[simp] lemma get?_empty (k : GoString) : (∅ : GoMap V).get? k = none := rfl

lemma get?_set (m : GoMap V) (k k' : GoString) (v : V) :
    (m.set k v).get? k' = if k' = k then some v else m.get? k' := by
  by_cases h : k' = k
  · subst h
    simp [get?, set]
  · rw [if_neg h]
    exact AList.lookup_insert_ne h

@[simp] lemma get?_set_self (m : GoMap V) (k : GoString) (v : V) :
    (m.set k v).get? k = some v := by
  simp [get?_set]

lemma get?_set_ne (m : GoMap V) {k k' : GoString} (v : V) (h : k' ≠ k) :
    (m.set k v).get? k' = m.get? k' := by
  simp [get?_set, h]

lemma get?_del (m : GoMap V) (k k' : GoString) :
    (m.del k).get? k' = if k' = k then none else m.get? k' := by
  by_cases h : k' = k
  · subst h
    simp [get?, del]
  · rw [if_neg h]
    exact AList.lookup_erase_ne h

/-! ## The entries -/

lemma keys_toList (m : GoMap V) : m.toList.map Prod.fst = m.keys := by
  simp [toList, AList.keys, List.keys]

lemma nodup_toList (m : GoMap V) : (m.toList.map Prod.fst).Nodup := by
  rw [keys_toList]
  exact m.keys_nodup

@[simp] lemma size_toList (m : GoMap V) : m.toList.length = m.size := by
  simp [toList, size]

lemma mem_toList {m : GoMap V} {k : GoString} {v : V} :
    (k, v) ∈ m.toList ↔ m.get? k = some v := by
  have h : m.get? k = some v ↔ Sigma.mk k v ∈ m.entries := AList.mem_lookup_iff
  rw [h]
  constructor
  · intro hm
    obtain ⟨⟨k', v'⟩, he, heq⟩ := mem_map.mp hm
    simp only [Prod.mk.injEq] at heq
    obtain ⟨rfl, rfl⟩ := heq
    exact he
  · intro hm
    exact mem_map.mpr ⟨⟨k, v⟩, hm, rfl⟩

lemma toList_perm {m m' : GoMap V} (h : ∀ k, m.get? k = m'.get? k) :
    m.toList.Perm m'.toList := by
  have hnd : ∀ n : GoMap V, n.toList.Nodup := fun n => List.Nodup.of_map _ (nodup_toList n)
  refine (perm_ext_iff_of_nodup (hnd m) (hnd m')).mpr ?_
  rintro ⟨k, v⟩
  rw [mem_toList, mem_toList, h k]

lemma size_eq_of_get?_eq {m m' : GoMap V} (h : ∀ k, m.get? k = m'.get? k) : m.size = m'.size := by
  rw [← size_toList, ← size_toList, (toList_perm h).length_eq]

lemma get?_eq_of_le_of_size_eq {m m' : GoMap V}
    (h : ∀ k v, m.get? k = some v → m'.get? k = some v) (hsize : m.size = m'.size)
    (k : GoString) : m.get? k = m'.get? k := by
  have hsub : m.toList ⊆ m'.toList := fun p hp => mem_toList.mpr (h _ _ (mem_toList.mp hp))
  have hnd : m.toList.Nodup := List.Nodup.of_map _ (nodup_toList m)
  have hperm : m.toList.Perm m'.toList :=
    (subperm_of_subset hnd hsub).perm_of_length_le (by simp [hsize])
  refine Option.ext fun v => ?_
  rw [← mem_toList, ← mem_toList, hperm.mem_iff]

/-! ## Assigning a whole list of pairs -/

@[simp] lemma setAll_nil (m : GoMap V) : m.setAll [] = m := rfl

@[simp] lemma setAll_cons (m : GoMap V) (p : GoString × V) (l : List (GoString × V)) :
    m.setAll (p :: l) = (m.set p.1 p.2).setAll l := rfl

lemma get?_setAll_of_notMem {l : List (GoString × V)} {k : GoString}
    (h : k ∉ l.map Prod.fst) (m : GoMap V) : (m.setAll l).get? k = m.get? k := by
  induction l generalizing m with
  | nil => rfl
  | cons p l ih =>
    simp only [map_cons, mem_cons, not_or] at h
    rw [setAll_cons, ih h.2, get?_set_ne _ _ h.1]

lemma get?_setAll_of_mem {l : List (GoString × V)} {k : GoString} {v : V}
    (hnd : (l.map Prod.fst).Nodup) (h : (k, v) ∈ l) (m : GoMap V) :
    (m.setAll l).get? k = some v := by
  induction l generalizing m with
  | nil => simp at h
  | cons p l ih =>
    simp only [map_cons, nodup_cons] at hnd
    rw [setAll_cons]
    rcases mem_cons.mp h with h | h
    · subst h
      rw [get?_setAll_of_notMem hnd.1, get?_set_self]
    · exact ih hnd.2 h _

lemma get?_setAll_toList (m n : GoMap V) (k : GoString) :
    (m.setAll n.toList).get? k = (n.get? k).or (m.get? k) := by
  cases h : n.get? k with
  | none =>
    refine get?_setAll_of_notMem ?_ m
    intro hk
    obtain ⟨⟨k', v⟩, hm, rfl⟩ := mem_map.mp hk
    rw [mem_toList.mp hm] at h
    cases h
  | some v => exact get?_setAll_of_mem (nodup_toList n) (mem_toList.mpr h) m

/-! ## Deleting while ranging -/

/-- `for k, v := range m { if !p(k, v) { delete(m, k) } }`: every entry is visited once, whatever
the order, and those that fail the test go. -/
def filter (p : GoString → V → Bool) (m : GoMap V) : GoMap V where
  entries := m.entries.filter fun e => p e.1 e.2
  nodupKeys := m.nodupKeys.sublist List.filter_sublist

lemma mem_toList_filter {p : GoString → V → Bool} {m : GoMap V} {k : GoString} {v : V} :
    (k, v) ∈ (m.filter p).toList ↔ (k, v) ∈ m.toList ∧ p k v = true := by
  simp [toList, filter]

lemma get?_filter (p : GoString → V → Bool) (m : GoMap V) (k : GoString) :
    (m.filter p).get? k = (m.get? k).filter (p k) := by
  refine Option.ext fun v => ?_
  rw [← mem_toList, mem_toList_filter, mem_toList, Option.filter_eq_some_iff]

/-! ## Mapping over the values -/

/-- The entries of `m` with `f` applied to each value. -/
def mapVals {W : Type} (f : V → W) (m : GoMap V) : GoMap W :=
  ofList (m.toList.map fun p => (p.1, f p.2))

lemma get?_mapVals {W : Type} (f : V → W) (m : GoMap V) (k : GoString) :
    (m.mapVals f).get? k = (m.get? k).map f := by
  have hkeys : (m.toList.map fun p => (p.1, f p.2)).map Prod.fst = m.toList.map Prod.fst := by
    simp [map_map, Function.comp_def]
  cases h : m.get? k with
  | none =>
    refine get?_setAll_of_notMem ?_ _
    rw [hkeys]
    intro hk
    obtain ⟨⟨k', v⟩, hm, rfl⟩ := mem_map.mp hk
    rw [mem_toList.mp hm] at h
    cases h
  | some v =>
    refine get?_setAll_of_mem ?_ ?_ _
    · rw [hkeys]; exact nodup_toList m
    · exact mem_map.mpr ⟨(k, v), mem_toList.mpr h, rfl⟩

end GoMap

/-! ## Iteration order -/

/-- One resolution of the order in which `range` visits a map. -/
structure RangeOrder (V : Type) where
  seq : GoMap V → List (GoString × V)
  perm : ∀ m, (seq m).Perm m.toList

def RangeOrder.stored (V : Type) : RangeOrder V where
  seq := GoMap.toList
  perm := fun _ => List.Perm.refl _

namespace RangeOrder

variable {V : Type} (ord : RangeOrder V)

lemma mem_seq {m : GoMap V} {k : GoString} {v : V} :
    (k, v) ∈ ord.seq m ↔ m.get? k = some v := by
  rw [(ord.perm m).mem_iff, GoMap.mem_toList]

lemma nodup_seq (m : GoMap V) : ((ord.seq m).map Prod.fst).Nodup :=
  ((ord.perm m).map Prod.fst).nodup_iff.mpr (GoMap.nodup_toList m)

end RangeOrder

end Mockly
