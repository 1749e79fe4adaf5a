import Mathlib

/-!
# The best of a list

A list is sorted by descending score, in a stable way, and the first `n` are kept.

Main result: **`best_eq`**.
-/

namespace Ranking

open List

variable {α : Type*} (score : α → ℕ)

/-- The first `n` of a list, sorted stably by descending score. -/
def best (n : ℕ) (l : List α) : List α :=
  (l.mergeSort fun x y => decide (score y ≤ score x)).take n

/-- Position `i` of the list is ranked before position `j`. -/
def Precedes (l : List α) (i j : Fin l.length) : Prop :=
  score (l.get j) < score (l.get i) ∨ score (l.get i) = score (l.get j) ∧ i < j

def positionLE (l : List α) (i j : Fin l.length) : Bool :=
  List.zipIdxLE (fun x y => decide (score y ≤ score x)) (l.get i, i.val) (l.get j, j.val)

variable {score}

lemma precedes_of_positionLE {l : List α} {i j : Fin l.length} (h : positionLE score l i j = true)
    (hne : i ≠ j) : Precedes score l i j := by
  simp only [positionLE, List.zipIdxLE, decide_eq_true_eq] at h
  split_ifs at h with hle hge
  · exact Or.inr ⟨le_antisymm hge hle, lt_of_le_of_ne (by simpa using h) hne⟩
  · exact Or.inl (not_le.mp hge)

lemma zipIdx_eq_map_finRange (l : List α) :
    l.zipIdx = (List.finRange l.length).map fun i => (l.get i, i.val) := by
  apply ext_getElem
  · simp
  · intro i h₁ h₂
    simp

lemma mergeSort_eq_map_positions (l : List α) :
    l.mergeSort (fun x y => decide (score y ≤ score x)) =
      ((List.finRange l.length).mergeSort (positionLE score l)).map l.get := by
  have hmap := map_mergeSort (r := positionLE score l)
    (s := List.zipIdxLE fun x y => decide (score y ≤ score x))
    (f := fun i : Fin l.length => (l.get i, i.val)) (l := List.finRange l.length)
    fun _ _ _ _ => rfl
  rw [← mergeSort_zipIdx, zipIdx_eq_map_finRange, ← hmap, map_map]
  rfl

lemma positionLE_trans (l : List α) (i j k : Fin l.length) (hij : positionLE score l i j = true)
    (hjk : positionLE score l j k = true) : positionLE score l i k = true :=
  zipIdxLE_trans (by simpa using fun a b c hab hbc => hbc.trans hab) _ _ _ hij hjk

lemma positionLE_total (l : List α) (i j : Fin l.length) :
    (positionLE score l i j || positionLE score l j i) = true :=
  zipIdxLE_total (by simpa using fun a b => le_total (score b) (score a)) _ _

variable (score) in
/-- **What is kept of a list**: the positions ranked first, in the order of the ranking. -/
theorem best_eq (n : ℕ) (l : List α) :
    ∃ ps : List (Fin l.length), best score n l = ps.map l.get ∧ ps.length = min n l.length ∧
      ps.Pairwise (Precedes score l) ∧ ∀ i ∉ ps, ∀ p ∈ ps, Precedes score l p i := by
  set qs := (List.finRange l.length).mergeSort (positionLE score l) with hqs
  have hperm : qs.Perm (List.finRange l.length) := mergeSort_perm _ _
  have hnodup : qs.Nodup := hperm.nodup_iff.mpr (nodup_finRange _)
  have hsorted : qs.Pairwise (Precedes score l) := by
    have hle : qs.Pairwise fun i j => positionLE score l i j = true :=
      pairwise_mergeSort (positionLE_trans l) (positionLE_total l) (List.finRange l.length)
    exact (hle.and hnodup).imp fun h => precedes_of_positionLE h.1 h.2
  refine ⟨qs.take n, ?_, ?_, hsorted.sublist (take_sublist _ _), ?_⟩
  · rw [best, mergeSort_eq_map_positions, map_take]
  · rw [length_take, hperm.length_eq, length_finRange]
  · intro i hi p hp
    have hmem : i ∈ qs.take n ++ qs.drop n := by
      rw [take_append_drop, hperm.mem_iff]
      exact mem_finRange i
    have hdrop : i ∈ qs.drop n := (mem_append.mp hmem).resolve_left hi
    rw [← take_append_drop n qs, pairwise_append] at hsorted
    exact hsorted.2.2 p hp i hdrop

lemma best_map {β : Type*} (f : β → α) (n : ℕ) (l : List β) :
    best score n (l.map f) = (best (fun x => score (f x)) n l).map f := by
  have hmap := map_mergeSort (r := fun x y => decide (score (f y) ≤ score (f x)))
    (s := fun x y => decide (score y ≤ score x)) (f := f) (l := l) fun _ _ _ _ => rfl
  rw [best, best, map_take, hmap]

end Ranking
