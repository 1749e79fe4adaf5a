import Mathlib

/-!
# Objects behind references

A reference is a position. `Unchanged R h h'` is the frame relation: the objects behind the
references of `R` are there in `h` and are the same in `h'`.
-/

structure ObjectHeap (V : Type*) where
  cells : List V

namespace ObjectHeap

abbrev Ref := ℕ

variable {V : Type*}

def read (h : ObjectHeap V) (r : Ref) : Option V := h.cells[r]?

def next (h : ObjectHeap V) : Ref := h.cells.length

def alloc (h : ObjectHeap V) (v : V) : ObjectHeap V := ⟨h.cells ++ [v]⟩

/-- A change through a reference. -/
def modify (h : ObjectHeap V) (r : Ref) (f : V → V) : ObjectHeap V := ⟨h.cells.modify r f⟩

lemma lt_next_of_read {h : ObjectHeap V} {r : Ref} {v : V} (hr : h.read r = some v) :
    r < h.next :=
  (List.getElem?_eq_some_iff.mp hr).1

lemma read_alloc {h : ObjectHeap V} {r : Ref} {w : V} (hr : h.read r = some w) (v : V) :
    (h.alloc v).read r = some w := by
  rw [read, alloc, List.getElem?_append_left (lt_next_of_read hr)]
  exact hr

lemma read_modify_ne (h : ObjectHeap V) {r r' : Ref} (hne : r' ≠ r) (f : V → V) :
    (h.modify r f).read r' = h.read r' := by
  simp [read, modify, hne.symm]

/-- The objects behind `R` exist, and are the same in both heaps. -/
def Unchanged (R : Set Ref) (h h' : ObjectHeap V) : Prop :=
  ∀ r ∈ R, ∃ v, h.read r = some v ∧ h'.read r = some v

namespace Unchanged

variable {R : Set Ref} {h h' : ObjectHeap V}

lemma read_eq (hu : Unchanged R h h') {r : Ref} (hr : r ∈ R) : h'.read r = h.read r := by
  obtain ⟨v, hv, hv'⟩ := hu r hr
  rw [hv, hv']

lemma alloc (hu : Unchanged R h h') (v : V) : Unchanged R h (h'.alloc v) := by
  intro r hr
  obtain ⟨w, hw, hw'⟩ := hu r hr
  exact ⟨w, hw, read_alloc hw' v⟩

lemma modify (hu : Unchanged R h h') {r : Ref} (hr : r ∉ R) (f : V → V) :
    Unchanged R h (h'.modify r f) := by
  intro r' hr'
  obtain ⟨w, hw, hw'⟩ := hu r' hr'
  have hne : r' ≠ r := ne_of_mem_of_not_mem hr' hr
  exact ⟨w, hw, (read_modify_ne h' hne f).trans hw'⟩

lemma modify_of_id (hu : Unchanged R h h') (r : Ref) {f : V → V} (hf : ∀ v, f v = v) :
    Unchanged R h (h'.modify r f) := by
  have hid : f = id := funext hf
  simpa [ObjectHeap.modify, hid] using hu

end Unchanged

end ObjectHeap
