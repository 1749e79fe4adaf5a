import Mathlib

/-!
# Following a partial function

`next a = some b` says that `b` comes after `a`; a chain goes on until there is nothing that comes
next.

Main result: **`ends_iff_of_finite`**.
-/

namespace Chains

open Option

variable {α : Type*}

/-! ## Chains -/

variable {a b : α}

section Follow

variable (next : α → Option α)

/-- Where a number of steps leads, if the chain is so long. -/
def follow : ℕ → α → Option α
  | 0, a => some a
  | n + 1, a => (next a).bind (follow n)

/-- The chain from `a` comes to an end. -/
def Ends (a : α) : Prop := ∃ n, follow next n a = none

/-- Something on the chain from `a` leads back to itself. -/
def Recurs (a : α) : Prop :=
  ∃ m b k, follow next m a = some b ∧ follow next (k + 1) b = some b

variable {next}

lemma follow_add (m n : ℕ) (a : α) :
    follow next (m + n) a = (follow next m a).bind (follow next n) := by
  induction m generalizing a with
  | zero =>
    rw [Nat.zero_add]
    rfl
  | succ m ih =>
    rw [Nat.succ_add, follow, follow, bind_assoc]
    exact congrArg _ (funext ih)

lemma follow_eq_none_of_le {m n : ℕ} (hmn : m ≤ n) (h : follow next m a = none) :
    follow next n a = none := by
  obtain ⟨k, rfl⟩ := Nat.exists_eq_add_of_le hmn
  rw [follow_add, h, bind_none]

lemma follow_mul {k : ℕ} (h : follow next k b = some b) (j : ℕ) :
    follow next (j * k) b = some b := by
  induction j with
  | zero =>
    rw [Nat.zero_mul]
    rfl
  | succ j ih => rw [Nat.succ_mul, follow_add, ih, bind_some, h]

lemma Recurs.not_ends (h : Recurs next a) : ¬Ends next a := by
  obtain ⟨m, b, k, hm, hk⟩ := h
  rintro ⟨n, hn⟩
  have hlong : follow next (m + n * (k + 1)) a = some b := by
    rw [follow_add, hm, bind_some, follow_mul hk]
  have hend : follow next (m + n * (k + 1)) a = none :=
    follow_eq_none_of_le (Nat.le_add_left_of_le (Nat.le_mul_of_pos_right n k.succ_pos)) hn
  rw [hend] at hlong
  cases hlong

lemma mem_of_follow {S : Set α} (hS : ∀ a ∈ S, ∀ b, next a = some b → b ∈ S) {n : ℕ} (ha : a ∈ S)
    (h : follow next n a = some b) : b ∈ S := by
  induction n generalizing a with
  | zero =>
    cases h
    exact ha
  | succ n ih =>
    obtain ⟨c, hc, hrest⟩ := bind_eq_some_iff.mp h
    exact ih (hS a ha c hc) hrest

/-- **Among finitely many things, a chain ends exactly if nothing on it recurs.** -/
theorem ends_iff_of_finite {S : Set α} (hfinite : S.Finite)
    (hS : ∀ a ∈ S, ∀ b, next a = some b → b ∈ S) (ha : a ∈ S) : Ends next a ↔ ¬Recurs next a := by
  refine ⟨fun hends hrecurs => hrecurs.not_ends hends, fun h => ?_⟩
  by_contra hnever
  have hsome : ∀ n, ∃ b, follow next n a = some b := fun n =>
    ne_none_iff_exists'.mp fun hn => hnever ⟨n, hn⟩
  choose x hx using hsome
  have hmem : Set.MapsTo x Set.univ S := fun n _ => mem_of_follow hS ha (hx n)
  obtain ⟨i, -, j, -, hne, heq⟩ :=
    Set.infinite_univ.exists_ne_map_eq_of_mapsTo hmem hfinite
  wlog hij : i < j generalizing i j
  · exact this j i hne.symm heq.symm (by omega)
  obtain ⟨k, rfl⟩ := Nat.exists_eq_add_of_lt hij
  refine h ⟨i, x i, k, hx i, ?_⟩
  have hlater := hx (i + k + 1)
  rwa [← heq, Nat.add_assoc, follow_add, hx i, bind_some] at hlater

end Follow

/-! ## What a value is made of -/

def descendants (children : α → List α) (a : α) : Set α :=
  {b | Relation.ReflTransGen (fun x y => y ∈ children x) a b}

lemma descendants_subset {children : α → List α} (h : b ∈ descendants children a) :
    descendants children b ⊆ descendants children a := fun _ hc =>
  Relation.ReflTransGen.trans h hc

/-- **There are finitely many**, if what a value has is smaller. -/
theorem finite_descendants {children : α → List α} (size : α → ℕ)
    (hsize : ∀ a, ∀ b ∈ children a, size b < size a) (a : α) :
    (descendants children a).Finite := by
  induction hn : size a using Nat.strong_induction_on generalizing a with
  | _ n ih =>
    have hsplit : descendants children a =
        insert a (⋃ b ∈ {b | b ∈ children a}, descendants children b) := by
      ext c
      simp only [descendants, Set.mem_insert_iff, Set.mem_iUnion, Set.mem_ofPred_eq, exists_prop]
      rw [Relation.ReflTransGen.cases_head_iff, eq_comm]
    rw [hsplit]
    refine (Set.Finite.biUnion (List.finite_toSet (children a)) fun b hb => ?_).insert a
    exact ih (size b) (hn ▸ hsize a b hb) b rfl

end Chains
