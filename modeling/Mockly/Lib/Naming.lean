import Mathlib

/-!
# Handing out names

Names are asked for one after the other, each with a base, and no name should be given twice: by
counting (**`nodup_countNames_iff`**) or by searching (**`exists_searchNames`**).
-/

namespace Naming

open List Function

variable {β : Type*} [DecidableEq β]

/-! ## By counting -/

/-- The names for the bases, where `used` says how often each base was asked for before. -/
def countNames (name : β × ℕ → β) (used : β → ℕ) : List β → List β
  | [] => []
  | b :: bs => name (b, used b) :: countNames name (Function.update used b (used b + 1)) bs

def numbered (used : β → ℕ) (bs : List β) : Set (β × ℕ) :=
  {p | used p.1 ≤ p.2 ∧ p.2 < used p.1 + bs.count p.1}

lemma numbered_nil (used : β → ℕ) : numbered used [] = ∅ := by
  ext p
  simp [numbered]

lemma numbered_cons (used : β → ℕ) (b : β) (bs : List β) :
    numbered used (b :: bs) =
      insert (b, used b) (numbered (Function.update used b (used b + 1)) bs) := by
  ext ⟨c, n⟩
  simp only [numbered, Set.mem_ofPred_eq, Set.mem_insert_iff, Prod.mk.injEq, count_cons]
  by_cases hc : c = b
  · subst hc
    simp only [update_self, beq_self_eq_true, if_true, true_and]
    omega
  · rw [update_of_ne hc]
    have hbeq : (b == c) = false := beq_eq_false_iff_ne.mpr (Ne.symm hc)
    simp [hc, hbeq]

lemma notMem_numbered_update (used : β → ℕ) (b : β) (bs : List β) :
    (b, used b) ∉ numbered (Function.update used b (used b + 1)) bs := by
  simp only [numbered, Set.mem_ofPred_eq, update_self]
  omega

lemma mem_countNames {name : β × ℕ → β} {used : β → ℕ} {bs : List β} {x : β} :
    x ∈ countNames name used bs ↔ x ∈ name '' numbered used bs := by
  induction bs generalizing used with
  | nil => simp [countNames, numbered_nil]
  | cons b bs ih =>
    rw [countNames, mem_cons, ih, numbered_cons, Set.image_insert_eq, Set.mem_insert_iff]

/-- **Counting keeps names apart** exactly if no two numbered bases have one name. -/
theorem nodup_countNames_iff {name : β × ℕ → β} {used : β → ℕ} {bs : List β} :
    (countNames name used bs).Nodup ↔ Set.InjOn name (numbered used bs) := by
  induction bs generalizing used with
  | nil => simp [countNames, numbered_nil]
  | cons b bs ih =>
    rw [countNames, nodup_cons, mem_countNames, ih, numbered_cons,
      Set.injOn_insert (notMem_numbered_update used b bs), and_comm]

/-! ## By searching -/

/-- The first candidate that is not used, from the `i`th on; one turn for each. -/
def firstUnused (used : β → Bool) (candidate : ℕ → β) : ℕ → ℕ → Option β
  | 0, _ => none
  | fuel + 1, i =>
    if used (candidate i) then firstUnused used candidate fuel (i + 1) else some (candidate i)

omit [DecidableEq β] in
lemma used_of_firstUnused {used : β → Bool} {candidate : ℕ → β} {fuel i : ℕ} {x : β}
    (h : firstUnused used candidate fuel i = some x) : used x = false := by
  induction fuel generalizing i with
  | zero => cases h
  | succ fuel ih =>
    rw [firstUnused] at h
    split_ifs at h with hused
    · exact ih h
    · cases h
      exact Bool.eq_false_of_not_eq_true hused

omit [DecidableEq β] in
lemma firstUnused_of_exists {used : β → Bool} {candidate : ℕ → β} {fuel i j : ℕ} (hij : i ≤ j)
    (hj : j < i + fuel) (hunused : used (candidate j) = false) :
    ∃ x, firstUnused used candidate fuel i = some x := by
  induction fuel generalizing i with
  | zero => omega
  | succ fuel ih =>
    rw [firstUnused]
    split_ifs with hused
    · have hne : i ≠ j := by
        rintro rfl
        rw [hunused] at hused
        cases hused
      exact ih (by omega) (by omega)
    · exact ⟨_, rfl⟩

/-- **The search ends**: of more candidates than there are names taken, one is not. -/
theorem exists_firstUnused {used : β → Bool} {candidate : ℕ → β}
    (hcandidate : Function.Injective candidate) {taken : List β} {fuel : ℕ}
    (htaken : ∀ x, used x = true → x ∈ taken) (hfuel : taken.length < fuel) :
    ∃ x, firstUnused used candidate fuel 0 = some x := by
  have hcard : taken.toFinset.card < ((Finset.range fuel).image candidate).card := by
    rw [Finset.card_image_of_injective _ hcandidate, Finset.card_range]
    exact (toFinset_card_le taken).trans_lt hfuel
  obtain ⟨x, hx, hnot⟩ := Finset.exists_mem_notMem_of_card_lt_card hcard
  obtain ⟨j, hj, rfl⟩ := Finset.mem_image.mp hx
  refine firstUnused_of_exists (Nat.zero_le j) (by simpa using hj) ?_
  by_contra hused
  exact hnot (mem_toFinset.mpr (htaken _ (Bool.eq_true_of_not_eq_false hused)))

/-- The names for the bases, where `taken` has the names given before. -/
def searchNames (candidate : β → ℕ → β) (fuel : ℕ) : List β → List β → Option (List β)
  | _, [] => some []
  | taken, b :: bs =>
    (firstUnused (fun x => decide (x ∈ taken)) (candidate b) fuel 0).bind fun x =>
      (searchNames candidate fuel (x :: taken) bs).map (x :: ·)

/-- **Searching keeps names apart**, and comes to an end. -/
theorem exists_searchNames {candidate : β → ℕ → β}
    (hcandidate : ∀ b, Function.Injective (candidate b)) {fuel : ℕ} {taken bs : List β}
    (hfuel : taken.length + bs.length ≤ fuel) :
    ∃ names, searchNames candidate fuel taken bs = some names ∧ names.length = bs.length ∧
      names.Nodup ∧ ∀ x ∈ names, x ∉ taken := by
  induction bs generalizing taken with
  | nil => exact ⟨[], rfl, rfl, nodup_nil, fun x hx => absurd hx not_mem_nil⟩
  | cons b bs ih =>
    rw [length_cons] at hfuel
    obtain ⟨x, hx⟩ := exists_firstUnused (hcandidate b)
      (fun y hy => of_decide_eq_true hy) (show taken.length < fuel by omega)
    have hfresh : x ∉ taken := by simpa using used_of_firstUnused hx
    obtain ⟨names, hnames, hlen, hnodup, hrest⟩ :=
      ih (show (x :: taken).length + bs.length ≤ fuel by rw [length_cons]; omega)
    refine ⟨x :: names, ?_, ?_, ?_, ?_⟩
    · rw [searchNames, hx, Option.bind_some, hnames, Option.map_some]
    · rw [length_cons, hlen, length_cons]
    · exact nodup_cons.mpr ⟨fun hmem => hrest x hmem mem_cons_self, hnodup⟩
    · intro y hy
      obtain rfl | hy := mem_cons.mp hy
      · exact hfresh
      · exact fun hmem => hrest y hy (mem_cons_of_mem x hmem)

end Naming
