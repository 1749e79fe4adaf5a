import Mathlib

/-!
# Layering lists of keyed entries

Putting an entry on a list replaces the last entry with its key, or appends it; in a layer one key
`e` stands for no key.

Main results: **`putAll_eq_layerAll_iff`**, **`putAll_assoc`**.
-/

namespace Keyed

open List

variable {M K : Type*} [DecidableEq K]

/-! ## The last position of a key -/

def lastIdx (k : K) : List K → Option ℕ
  | [] => none
  | x :: ks =>
    match lastIdx k ks with
    | some i => some (i + 1)
    | none => if x = k then some 0 else none

variable {k : K} {ks : List K} {i : ℕ}

lemma lastIdx_cons_of_some {x : K} (h : lastIdx k ks = some i) :
    lastIdx k (x :: ks) = some (i + 1) := by
  simp [lastIdx, h]

lemma lastIdx_cons_of_none {x : K} (h : lastIdx k ks = none) :
    lastIdx k (x :: ks) = if x = k then some 0 else none := by
  simp [lastIdx, h]

lemma lastIdx_eq_none_iff : lastIdx k ks = none ↔ k ∉ ks := by
  induction ks with
  | nil => simp [lastIdx]
  | cons x ks ih =>
    cases h : lastIdx k ks with
    | none =>
      rw [lastIdx_cons_of_none h, mem_cons, not_or, ← ih]
      simp [h, eq_comm]
    | some i =>
      have hmem : k ∈ ks := by
        by_contra hmem
        rw [ih.mpr hmem] at h
        cases h
      rw [lastIdx_cons_of_some h]
      simp [hmem]

lemma lastIdx_concat (k x : K) (ks : List K) :
    lastIdx k (ks ++ [x]) = if x = k then some ks.length else lastIdx k ks := by
  induction ks with
  | nil => simp [lastIdx]
  | cons y ks ih =>
    split_ifs at ih ⊢ with hx
    · rw [cons_append, lastIdx_cons_of_some ih, length_cons]
    · rw [cons_append]
      cases h : lastIdx k ks with
      | none => rw [lastIdx_cons_of_none (ih.trans h), lastIdx_cons_of_none h]
      | some i => rw [lastIdx_cons_of_some (ih.trans h), lastIdx_cons_of_some h]

lemma getElem?_of_lastIdx (h : lastIdx k ks = some i) : ks[i]? = some k := by
  induction ks generalizing i with
  | nil => cases h
  | cons x ks ih =>
    cases hrest : lastIdx k ks with
    | none =>
      rw [lastIdx_cons_of_none hrest] at h
      split_ifs at h with hx
      cases h
      simp [hx]
    | some j =>
      rw [lastIdx_cons_of_some hrest] at h
      cases h
      simpa using ih hrest

/-! ## Putting entries on a list -/

section

variable (key : M → K)

/-- The entry replaces the last one with its key, or is appended. -/
def put (m : M) (l : List M) : List M :=
  match lastIdx (key m) (l.map key) with
  | some i => l.set i m
  | none => l ++ [m]

def putAll (l ms : List M) : List M := ms.foldl (fun l m => put key m l) l

/-- An entry with the key `e` replaces nothing. -/
def layer (e : K) (m : M) (l : List M) : List M := if key m = e then l ++ [m] else put key m l

/-- One entry after the other. -/
def layerAll (e : K) (l ms : List M) : List M := ms.foldl (fun l m => layer key e m l) l

variable {key}

variable {m : M} {l : List M}

lemma put_of_lastIdx (h : lastIdx (key m) (l.map key) = some i) : put key m l = l.set i m := by
  simp [put, h]

lemma put_of_notMem (h : key m ∉ l.map key) : put key m l = l ++ [m] := by
  simp [put, lastIdx_eq_none_iff.mpr h]

/-- Putting an entry on a list adds its key unless it is there. -/
lemma map_put (m : M) (l : List M) :
    (put key m l).map key = if key m ∈ l.map key then l.map key else l.map key ++ [key m] := by
  split_ifs with hmem
  · cases h : lastIdx (key m) (l.map key) with
    | none => exact absurd hmem (lastIdx_eq_none_iff.mp h)
    | some i =>
      have hlt := (List.getElem?_eq_some_iff.mp (getElem?_of_lastIdx h)).1
      have hget := (List.getElem?_eq_some_iff.mp (getElem?_of_lastIdx h)).2
      rw [put_of_lastIdx h, map_set, ← hget, set_getElem_self]
  · rw [put_of_notMem hmem, map_append, map_singleton]

variable (e : K)

lemma countP_put (m : M) (l : List M) :
    (put key m l).countP (key · = e) =
      if key m = e then max 1 (l.countP (key · = e)) else l.countP (key · = e) := by
  have hmap : ∀ l : List M, l.countP (key · = e) = (l.map key).countP (· = e) := by
    intro l
    rw [countP_map]
    rfl
  rw [hmap, map_put, hmap]
  by_cases he : key m = e
  · rw [if_pos he]
    split_ifs with hmem
    · have hpos : 0 < (l.map key).countP (· = e) :=
        countP_pos_iff.mpr ⟨key m, hmem, by simpa using he⟩
      exact (max_eq_right hpos).symm
    · have hzero : (l.map key).countP (· = e) = 0 := by
        refine countP_eq_zero.mpr fun k hk => ?_
        rintro hke
        exact hmem (by rwa [he, ← of_decide_eq_true hke])
      rw [countP_append, hzero]
      simp [he]
  · rw [if_neg he]
    split_ifs with hmem
    · rfl
    · simp [countP_append, he]

lemma countP_putAll (l ms : List M) :
    (putAll key l ms).countP (key · = e) =
      if ms.countP (key · = e) = 0 then l.countP (key · = e)
      else max 1 (l.countP (key · = e)) := by
  induction ms generalizing l with
  | nil => simp [putAll]
  | cons m ms ih =>
    rw [putAll, foldl_cons, ← putAll, ih, countP_put, countP_cons]
    by_cases he : key m = e
    · simp [he]
    · simp [he]

lemma countP_layerAll (l ms : List M) :
    (layerAll key e l ms).countP (key · = e) = l.countP (key · = e) + ms.countP (key · = e) := by
  induction ms generalizing l with
  | nil => simp [layerAll]
  | cons m ms ih =>
    rw [layerAll, foldl_cons, ← layerAll, ih, layer, countP_cons]
    by_cases he : key m = e
    · rw [if_pos he, countP_append]
      simp [he]
      omega
    · rw [if_neg he, countP_put, if_neg he]
      simp [he]

/-- **When a key that stands for none makes no difference.** -/
theorem putAll_eq_layerAll_iff (l ms : List M) :
    putAll key l ms = layerAll key e l ms ↔
      ms.countP (key · = e) = 0 ∨ l.countP (key · = e) = 0 ∧ ms.countP (key · = e) = 1 := by
  constructor
  · intro h
    have hcount : (layerAll key e l ms).countP (key · = e) = _ := countP_layerAll e l ms
    rw [← h, countP_putAll] at hcount
    split_ifs at hcount <;> omega
  · -- The entries are put one after the other; up to the one with the key `e` nothing has it.
    intro h
    induction ms generalizing l with
    | nil => rfl
    | cons m ms ih =>
      rw [putAll, layerAll, foldl_cons, foldl_cons, layer]
      rw [countP_cons] at h
      by_cases he : key m = e
      · simp only [he, decide_true, if_true] at h
        have hmem : key m ∉ l.map key := by
          have hnone : l.countP (key · = e) = 0 := by omega
          rw [he, mem_map]
          rintro ⟨x, hx, hxe⟩
          exact countP_eq_zero.mp hnone x hx (by simpa using hxe)
        rw [if_pos he, put_of_notMem hmem]
        exact ih _ (.inl (by omega))
      · simp only [he, decide_false, Bool.false_eq_true, if_false, add_zero] at h
        rw [if_neg he]
        refine ih _ ?_
        rw [countP_put, if_neg he]
        exact h

/-! ## Putting lists on each other -/

@[simp] lemma putAll_cons (l : List M) (m : M) (ms : List M) :
    putAll key l (m :: ms) = putAll key (put key m l) ms := rfl

lemma putAll_concat (l ms : List M) (m : M) :
    putAll key l (ms ++ [m]) = put key m (putAll key l ms) := by
  simp [putAll]

lemma mem_map_put (m x : M) (l : List M) :
    key x ∈ (put key m l).map key ↔ key x = key m ∨ key x ∈ l.map key := by
  rw [map_put]
  split_ifs with hmem
  · exact (or_iff_right_of_imp fun h => h ▸ hmem).symm
  · rw [mem_append, mem_singleton, or_comm]

lemma put_put {m' : M} (h : key m = key m') (l : List M) :
    put key m' (put key m l) = put key m' l := by
  cases hidx : lastIdx (key m) (l.map key) with
  | none =>
    have hmem := lastIdx_eq_none_iff.mp hidx
    have hlast : lastIdx (key m') ((l ++ [m]).map key) = some l.length := by
      rw [map_append, map_singleton, lastIdx_concat, if_pos h, length_map]
    rw [put_of_notMem hmem, put_of_lastIdx hlast, put_of_notMem (h ▸ hmem)]
    simp
  | some i =>
    have hkeys : (put key m l).map key = l.map key := by
      rw [map_put, if_pos (mem_of_getElem? (getElem?_of_lastIdx hidx))]
    have hlast : lastIdx (key m') ((put key m l).map key) = some i := by rw [hkeys, ← h, hidx]
    rw [put_of_lastIdx hlast, put_of_lastIdx hidx, put_of_lastIdx (h ▸ hidx), set_set]

/-- Entries with different keys do not disturb each other; if both were appended their order would
tell which came first. -/
lemma put_comm {m' : M} (hne : key m ≠ key m') (hmem : key m ∈ l.map key) :
    put key m (put key m' l) = put key m' (put key m l) := by
  obtain ⟨i, hi⟩ := Option.ne_none_iff_exists'.mp (mt lastIdx_eq_none_iff.mp (not_not.mpr hmem))
  have hkeys : (put key m l).map key = l.map key := by rw [map_put, if_pos hmem]
  have hlt : i < l.length := by
    simpa using (List.getElem?_eq_some_iff.mp (getElem?_of_lastIdx hi)).1
  cases hj : lastIdx (key m') (l.map key) with
  | none =>
    have hnot := lastIdx_eq_none_iff.mp hj
    have hi' : lastIdx (key m) ((l ++ [m']).map key) = some i := by
      rw [map_append, map_singleton, lastIdx_concat, if_neg hne.symm, hi]
    rw [put_of_notMem hnot, put_of_lastIdx hi', put_of_notMem (by rwa [hkeys]),
      put_of_lastIdx hi, set_append_left i m hlt]
  | some j =>
    have hkeys' : (put key m' l).map key = l.map key := by
      rw [map_put, if_pos (mem_of_getElem? (getElem?_of_lastIdx hj))]
    have hij : i ≠ j := by
      rintro rfl
      exact hne (Option.some.inj ((getElem?_of_lastIdx hi).symm.trans (getElem?_of_lastIdx hj)))
    have hi' : lastIdx (key m) ((put key m' l).map key) = some i := by rw [hkeys', hi]
    have hj' : lastIdx (key m') ((put key m l).map key) = some j := by rw [hkeys, hj]
    rw [put_of_lastIdx hi', put_of_lastIdx hj', put_of_lastIdx hi, put_of_lastIdx hj,
      set_comm _ _ hij.symm]

/-- An entry whose key is there may be put before entries with other keys. -/
lemma put_putAll {ms : List M} (hmem : key m ∈ l.map key) (hnot : key m ∉ ms.map key) :
    put key m (putAll key l ms) = putAll key (put key m l) ms := by
  induction ms generalizing l with
  | nil => rfl
  | cons x ms ih =>
    rw [map_cons, mem_cons, not_or] at hnot
    rw [putAll_cons, putAll_cons, ih ((mem_map_put x m l).mpr (.inr hmem)) hnot.2,
      put_comm hnot.1 hmem]

lemma exists_put_of_mem {ms : List M} (hmem : key m ∈ ms.map key) :
    ∃ before x after, ms = before ++ x :: after ∧ key x = key m ∧ key m ∉ after.map key ∧
      put key m ms = before ++ m :: after := by
  induction ms with
  | nil => simp at hmem
  | cons y ms ih =>
    by_cases hrest : key m ∈ ms.map key
    · obtain ⟨i, hi⟩ :=
        Option.ne_none_iff_exists'.mp (mt lastIdx_eq_none_iff.mp (not_not.mpr hrest))
      have hput : put key m (y :: ms) = y :: put key m ms := by
        rw [put_of_lastIdx hi, put_of_lastIdx (lastIdx_cons_of_some hi), set_cons_succ]
      obtain ⟨before, x, after, hms, hx, hafter, hms'⟩ := ih hrest
      exact ⟨y :: before, x, after, by rw [hms, cons_append], hx, hafter,
        by rw [hput, hms', cons_append]⟩
    · have hy : key y = key m := by simpa [hrest, eq_comm] using hmem
      have hfirst : lastIdx (key m) ((y :: ms).map key) = some 0 := by
        rw [map_cons, lastIdx_cons_of_none (lastIdx_eq_none_iff.mpr hrest), if_pos hy]
      exact ⟨[], y, ms, rfl, hy, hrest, by rw [put_of_lastIdx hfirst]; rfl⟩

/-- An entry may be put on the upper list before that goes on the lower one. -/
lemma putAll_put (l ms : List M) (m : M) :
    putAll key l (put key m ms) = put key m (putAll key l ms) := by
  by_cases hmem : key m ∈ ms.map key
  · obtain ⟨before, x, after, rfl, hx, hafter, hput⟩ := exists_put_of_mem hmem
    have hthere : key m ∈ (put key x (putAll key l before)).map key :=
      (mem_map_put x m _).mpr (.inl hx.symm)
    rw [hput, putAll, putAll, foldl_append, foldl_append, foldl_cons,
      foldl_cons, ← putAll, ← putAll, ← putAll, put_putAll hthere hafter, put_put hx]
  · rw [put_of_notMem hmem, putAll_concat]

/-- **Putting lists on each other is associative.** -/
theorem putAll_assoc (a b c : List M) :
    putAll key (putAll key a b) c = putAll key a (putAll key b c) := by
  induction c generalizing b with
  | nil => rfl
  | cons m c ih => rw [putAll_cons, putAll_cons, ← putAll_put, ih]

lemma nodup_map_put (h : (l.map key).Nodup) (m : M) : ((put key m l).map key).Nodup := by
  rw [map_put]
  split_ifs with hmem
  · exact h
  · rw [← concat_eq_append]
    exact h.concat hmem

lemma nodup_map_putAll (h : (l.map key).Nodup) (ms : List M) :
    ((putAll key l ms).map key).Nodup := by
  induction ms generalizing l with
  | nil => exact h
  | cons m ms ih => exact ih (nodup_map_put h m)

lemma put_of_mem (h : (l.map key).Nodup) (hm : m ∈ l) : put key m l = l := by
  have hmem : key m ∈ l.map key := mem_map_of_mem hm
  obtain ⟨before, x, after, rfl, hx, -, hput⟩ := exists_put_of_mem hmem
  rw [hput, inj_on_of_nodup_map h hm (by simp) hx.symm]

lemma putAll_of_subset {ms : List M} (h : (l.map key).Nodup) (hms : ms ⊆ l) :
    putAll key l ms = l := by
  induction ms with
  | nil => rfl
  | cons m ms ih =>
    rw [cons_subset] at hms
    rw [putAll_cons, put_of_mem h hms.1, ih hms.2]

end

/-! ## Grouping -/

/-- Lists, or whatever is put on each other with `op`, in a grouping. -/
def regroup {L : Type*} (op : L → L → L) : FreeMagma L → L
  | .of l => l
  | .mul g h => op (regroup op g) (regroup op h)

/-- **With an associative operation all groupings come to putting one on after the other.** -/
theorem regroup_eq_foldl {L : Type*} {op : L → L → L}
    (hassoc : ∀ a b c, op (op a b) c = op a (op b c)) (g : FreeMagma L) :
    regroup op g =
      (FreeMagma.toFreeSemigroup g).tail.foldl op (FreeMagma.toFreeSemigroup g).head := by
  have : Std.Associative op := ⟨hassoc⟩
  induction g with
  | ih1 l => rfl
  | ih2 g h ihg ihh =>
    rw [map_mul, FreeSemigroup.tail_mul, FreeSemigroup.head_mul, foldl_append,
      foldl_cons, ← ihg, foldl_assoc, ← ihh]
    rfl

end Keyed
