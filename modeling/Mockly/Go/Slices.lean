import Mathlib

/-!
# Go slices

The operations on slices that can panic.  A slice is a list; what lies in its array beyond its
length is not modelled, so that slicing past the length counts as slicing out of range.
-/

namespace Mockly

inductive Panic
  /-- `makeslice: len out of range`. -/
  | makeslice
  /-- `slice bounds out of range`. -/
  | sliceBounds
  deriving DecidableEq

section

variable {α : Type*}

/-- `make([]T, n)`. -/
def makeSlice (zero : α) (n : ℤ) : Except Panic (List α) :=
  if n < 0 then .error .makeslice else .ok (List.replicate n.toNat zero)

/-- `s[lo:hi]`. -/
def slice (s : List α) (lo hi : ℤ) : Except Panic (List α) :=
  if lo < 0 ∨ hi < lo ∨ s.length < hi then .error .sliceBounds
  else .ok ((s.take hi.toNat).drop lo.toNat)

/-- What `copy(dst, src)` leaves in `dst`. -/
def copySlice (dst src : List α) : List α := src.take dst.length ++ dst.drop src.length

lemma makeSlice_of_neg (zero : α) {n : ℤ} (h : n < 0) : makeSlice zero n = .error .makeslice :=
  if_pos h

lemma makeSlice_of_nonneg (zero : α) {n : ℤ} (h : 0 ≤ n) :
    makeSlice zero n = .ok (List.replicate n.toNat zero) :=
  if_neg (not_lt.mpr h)

lemma slice_of_le {s : List α} {lo hi : ℤ} (h0 : 0 ≤ lo) (h : lo ≤ hi) (hs : hi ≤ s.length) :
    slice s lo hi = .ok ((s.take hi.toNat).drop lo.toNat) := by
  refine if_neg ?_
  omega

lemma slice_append (a b c : List α) {lo hi : ℤ} (hlo : lo = a.length)
    (hhi : hi = a.length + b.length) : slice (a ++ (b ++ c)) lo hi = .ok b := by
  have hto : hi.toNat = (a ++ b).length := by
    rw [List.length_append]
    omega
  have hfrom : lo.toNat = a.length := by omega
  rw [slice_of_le (by omega) (by omega) (by simp; omega), hto, hfrom,
    ← List.append_assoc, List.take_left, List.drop_left]

lemma slice_to_end {s : List α} {lo : ℕ} (h : lo ≤ s.length) :
    slice s lo s.length = .ok (s.drop lo) := by
  rw [slice_of_le (by omega) (by omega) le_rfl]
  simp

lemma copySlice_of_length_eq {dst src : List α} (h : dst.length = src.length) :
    copySlice dst src = src := by
  simp [copySlice, h]

end

end Mockly
