import Mathlib

/-!
# Patterns with stars

A pattern with one star could be checked by its two ends. This accepts texts in which the two ends
overlap.

Main result: **`ends_iff_not_overlaps`**.
-/

namespace Stars

open List

variable {α : Type*} {star : α}

/-- The text is the pattern with each star replaced by some text. -/
inductive Expands (star : α) : List α → List α → Prop
  | nil : Expands star [] []
  | char {c : α} {p t : List α} (h : c ≠ star) (ht : Expands star p t) :
      Expands star (c :: p) (c :: t)
  | star (x : List α) {p t : List α} (ht : Expands star p t) : Expands star (star :: p) (x ++ t)

lemma expands_of_notMem {p t : List α} (h : star ∉ p) : Expands star p t ↔ t = p := by
  constructor
  · intro ht
    induction ht with
    | nil => rfl
    | char _ _ ih =>
      rw [mem_cons, not_or] at h
      rw [ih h.2]
    | star => exact absurd mem_cons_self h
  · rintro rfl
    induction t with
    | nil => exact .nil
    | cons c t ih =>
      rw [mem_cons, not_or] at h
      exact .char (Ne.symm h.1) (ih h.2)

/-- **The first star of a pattern.** -/
lemma expands_star_iff {before after t : List α} (h : star ∉ before) :
    Expands star (before ++ star :: after) t ↔
      ∃ x s, t = before ++ (x ++ s) ∧ Expands star after s := by
  induction before generalizing t with
  | nil =>
    constructor
    · intro ht
      cases ht with
      | char hne _ => exact absurd rfl hne
      | star x ht => exact ⟨x, _, rfl, ht⟩
    · rintro ⟨x, s, rfl, hs⟩
      exact .star x hs
  | cons c before ih =>
    rw [mem_cons, not_or] at h
    constructor
    · intro ht
      cases ht with
      | char hne ht =>
        obtain ⟨x, s, rfl, hs⟩ := (ih h.2).mp ht
        exact ⟨x, s, rfl, hs⟩
      | star => exact absurd rfl h.1
    · rintro ⟨x, s, rfl, hs⟩
      exact .char (Ne.symm h.1) ((ih h.2).mpr ⟨x, s, rfl, hs⟩)

lemma expands_filter [DecidableEq α] (p : List α) :
    Expands star p (p.filter (· ≠ star)) := by
  induction p with
  | nil => exact .nil
  | cons c p ih =>
    by_cases hc : c = star
    · subst hc
      rw [filter_cons_of_neg (by simp)]
      exact .star [] ih
    · rw [filter_cons_of_pos (by simpa using hc)]
      exact .char hc ih

/-- Some text, not empty, is both the end of the one and the beginning of the other. -/
def Overlaps (before after : List α) : Prop := ∃ w, w ≠ [] ∧ w <:+ before ∧ w <+: after

instance [DecidableEq α] (before after : List α) : Decidable (Overlaps before after) :=
  decidable_of_iff (∃ w ∈ before.tails, w ≠ [] ∧ w <+: after) <| by
    simp only [Overlaps, List.mem_tails]
    exact exists_congr fun w => and_left_comm

/-- A text with these two ends that is too short for them is one in which they overlap. -/
lemma overlaps_of_short {before after t : List α} (hbefore : before <+: t) (hafter : after <:+ t)
    (hshort : t.length < before.length + after.length) : Overlaps before after := by
  obtain ⟨x, rfl⟩ := hbefore
  obtain ⟨y, hy⟩ := hafter
  have hlen := congrArg List.length hy
  rw [length_append, length_append] at hlen
  rw [length_append] at hshort
  -- What is before `after` in the text is a beginning of `before`.
  obtain ⟨w, rfl⟩ : y <+: before :=
    prefix_of_prefix_length_le ⟨after, hy⟩ ⟨x, rfl⟩ (by omega)
  refine ⟨w, ?_, suffix_append _ _, ?_⟩
  · rintro rfl
    simp at hlen hshort
    omega
  · rw [append_assoc] at hy
    exact ⟨x, (append_cancel_left hy).symm⟩

/-- **The two ends decide, if they cannot overlap.** -/
theorem ends_iff_not_overlaps (before after : List α) :
    (∀ t, before <+: t ∧ after <:+ t → ∃ x, t = before ++ (x ++ after)) ↔
      ¬Overlaps before after := by
  constructor
  · rintro h ⟨w, hne, ⟨u, rfl⟩, ⟨v, rfl⟩⟩
    obtain ⟨x, hx⟩ := h (u ++ w ++ v) ⟨prefix_append _ _, u, by simp⟩
    have hlen := congrArg List.length hx
    have hpos := length_pos_of_ne_nil hne
    simp at hlen
    omega
  · rintro h t ⟨hbefore, hafter⟩
    have hlong : before.length + after.length ≤ t.length :=
      not_lt.mp fun hshort => h (overlaps_of_short hbefore hafter hshort)
    obtain ⟨y, rfl⟩ := hbefore
    have hy : after <:+ y := by
      refine suffix_of_suffix_length_le hafter (suffix_append _ _) ?_
      rw [length_append] at hlong
      omega
    obtain ⟨x, rfl⟩ := hy
    exact ⟨x, rfl⟩

end Stars
