import Mathlib

/-!
# Interleavings

Two sources feed one output, each in its own order.
-/

/-- `zs` consists of the elements of `xs` and those of `ys`, each in their order. -/
inductive Interleaves {α : Type*} : List α → List α → List α → Prop
  | nil : Interleaves [] [] []
  | left {xs ys zs : List α} (h : Interleaves xs ys zs) (a : α) :
      Interleaves (xs ++ [a]) ys (zs ++ [a])
  | right {xs ys zs : List α} (h : Interleaves xs ys zs) (a : α) :
      Interleaves xs (ys ++ [a]) (zs ++ [a])

namespace Interleaves

variable {α : Type*} {xs ys zs : List α}

lemma sublist_right (h : Interleaves xs ys zs) : ys.Sublist zs := by
  induction h with
  | nil => exact .refl _
  | left _ a ih => exact ih.trans (List.sublist_append_left _ _)
  | right _ a ih => exact ih.append (.refl _)

lemma countP_eq (h : Interleaves xs ys zs) (p : α → Bool) :
    zs.countP p = xs.countP p + ys.countP p := by
  induction h with
  | nil => rfl
  | left _ a ih | right _ a ih =>
    rw [List.countP_append, List.countP_append, ih]
    omega

end Interleaves
