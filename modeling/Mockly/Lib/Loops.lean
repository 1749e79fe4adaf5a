import Mathlib

/-!
# Loops over a list

The invariant of a loop is about the part of the list it has been through; a loop that may fail is
followed by another one that sees part of its value.
-/

namespace Loops

open List

/-- **The rule for a loop.**  At each turn the list is known to be what the loop has been through,
the element of this turn and the rest. -/
theorem foldl_invariant {α β : Type*} {f : β → α → β} {I : List α → β → Prop} {b : β} {l : List α}
    (hnil : I [] b)
    (hstep : ∀ done a rest, l = done ++ a :: rest → I done (done.foldl f b) →
      I (done ++ [a]) (f (done.foldl f b) a)) :
    I l (l.foldl f b) := by
  induction l using List.reverseRecOn with
  | nil => exact hnil
  | append_singleton l a ih =>
    rw [foldl_concat]
    refine hstep l a [] rfl (ih fun done x rest hl => hstep done x (rest ++ [a]) ?_)
    rw [hl, append_assoc, cons_append]

/-- The rule for a loop that changes a state. -/
theorem foldlM_invariant {α β σ : Type} {f : β → α → StateM σ β} {I : List α → β → σ → Prop}
    {b : β} {s : σ} {l : List α} (hnil : I [] b s)
    (hstep : ∀ done a rest b s, l = done ++ a :: rest → I done b s →
      I (done ++ [a]) (f b a s).1 (f b a s).2) :
    I l (l.foldlM f b s).1 (l.foldlM f b s).2 := by
  induction l using List.reverseRecOn with
  | nil => exact hnil
  | append_singleton l a ih =>
    have hlast : (l ++ [a]).foldlM f b s = f (l.foldlM f b s).1 a (l.foldlM f b s).2 := by
      simp only [foldlM_append, foldlM_cons, foldlM_nil, bind_pure]
      rfl
    rw [hlast]
    refine hstep l a [] _ _ rfl (ih fun done x rest b s hl => hstep done x (rest ++ [a]) b s ?_)
    rw [hl, append_assoc, cons_append]

section Fallible

lemma bind_eq_ok {α β ε : Type*} {x : Except ε α} {f : α → Except ε β} {b : β}
    (h : x.bind f = .ok b) : ∃ a, x = .ok a ∧ f a = .ok b := by
  cases x with
  | error e => cases h
  | ok a => exact ⟨a, rfl, h⟩

lemma mapM_ok {α β ε : Type} {f : α → Except ε β} {xs : List α} {ys : List β}
    (h : xs.mapM f = .ok ys) : List.Forall₂ (fun x y => f x = .ok y) xs ys := by
  induction xs generalizing ys with
  | nil =>
    cases h
    exact .nil
  | cons x xs ih =>
    rw [mapM_cons] at h
    obtain ⟨y, hx, h⟩ := bind_eq_ok h
    obtain ⟨ys', hxs, h⟩ := bind_eq_ok h
    cases h
    exact .cons hx (ih hxs)

variable {α β γ ε : Type*} {f : β → α → Except ε β} {b b' : β} {l : List α}

/-- The rule for a loop that may fail. -/
theorem foldlM_ok_invariant {I : β → Prop} (h : l.foldlM f b = .ok b') (hb : I b)
    (hstep : ∀ a ∈ l, ∀ b b', I b → f b a = .ok b' → I b') : I b' := by
  induction l generalizing b with
  | nil =>
    cases h
    exact hb
  | cons a l ih =>
    rw [foldlM_cons] at h
    rw [forall_mem_cons] at hstep
    obtain ⟨c, ha, h⟩ := bind_eq_ok h
    exact ih h (hstep.1 b c hb ha) hstep.2

/-- What a loop does, another loop does to what it sees of the value. -/
theorem foldlM_ok_simulation {g : γ → α → Except ε γ} {see : β → γ} (h : l.foldlM f b = .ok b')
    (hstep : ∀ a b b', f b a = .ok b' → g (see b) a = .ok (see b')) :
    l.foldlM g (see b) = .ok (see b') := by
  induction l generalizing b with
  | nil =>
    cases h
    rfl
  | cons a l ih =>
    rw [foldlM_cons] at h ⊢
    obtain ⟨c, ha, h⟩ := bind_eq_ok h
    rw [hstep a b c ha]
    exact ih h

lemma ok_of_mem_foldlM {a : α} (h : l.foldlM f b = .ok b') (ha : a ∈ l) :
    ∃ c c', f c a = .ok c' := by
  obtain ⟨before, after, rfl⟩ := append_of_mem ha
  rw [foldlM_append] at h
  obtain ⟨c, -, h⟩ := bind_eq_ok h
  rw [foldlM_cons] at h
  obtain ⟨c', hc, -⟩ := bind_eq_ok h
  exact ⟨c, c', hc⟩

/-- The other loop has ended with a value that satisfies `P`, which no value does that comes after
one that does not; and where it holds, the loop can follow the other one. -/
theorem foldlM_ok_of_simulation {g : γ → α → Except ε γ} {see : β → γ} {P : γ → Prop} {c : γ}
    (h : l.foldlM g (see b) = .ok c) (hc : P c)
    (hback : ∀ a c c', g c a = .ok c' → P c' → P c)
    (hstep : ∀ a ∈ l, ∀ b c, g (see b) a = .ok c → P c → ∃ b', f b a = .ok b' ∧ see b' = c) :
    ∃ b', l.foldlM f b = .ok b' ∧ see b' = c := by
  induction l generalizing b with
  | nil =>
    cases h
    exact ⟨b, rfl, rfl⟩
  | cons a l ih =>
    rw [foldlM_cons] at h
    rw [forall_mem_cons] at hstep
    obtain ⟨d, ha, h⟩ := bind_eq_ok h
    have hd : P d := by
      by_contra hd
      exact foldlM_ok_invariant (I := fun c => ¬P c) h hd
        (fun a _ c c' hc hg hc' => hc (hback a c c' hg hc')) hc
    obtain ⟨b₁, hb, rfl⟩ := hstep.1 b d ha hd
    rw [foldlM_cons, hb]
    exact ih h hstep.2

end Fallible

end Loops
