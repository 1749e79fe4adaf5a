import Mathlib

/-!
# A stream that arrives in pieces

A read does not go beyond the end of a piece; only a loop of reads (`readFull`) is sure to get `k`
elements. What is left of a stream is `advance n`, the places where it is divided are its `cuts`.
-/

namespace Pieces

open List

variable {α : Type*}

/-- What is left after the first `n` elements; it does not begin with an empty piece. -/
def advance : ℕ → List (List α) → List (List α)
  | _, [] => []
  | n, p :: ps => if n < p.length then p.drop n :: ps else advance (n - p.length) ps

/-- A read with room for `k` elements: what it returns and what is left; nothing at the end of the
stream. -/
def read (k : ℕ) (ps : List (List α)) : Option (List α × List (List α)) :=
  if k = 0 then some ([], advance 0 ps)
  else
    match advance 0 ps with
    | [] => none
    | p :: _ => some (p.take k, advance (min k p.length) ps)

/-- Read until `k` elements are there.  Each read returns at least one, so that `k` turns are
enough. -/
def readLoop : ℕ → ℕ → List (List α) → Option (List α × List (List α))
  | 0, _, ps => some ([], advance 0 ps)
  | turns + 1, k, ps =>
    if k = 0 then some ([], advance 0 ps)
    else do
      let (got, ps) ← read k ps
      let (rest, ps) ← readLoop turns (k - got.length) ps
      return (got ++ rest, ps)

/-- Reads until there are `k` elements. -/
def readFull (k : ℕ) (ps : List (List α)) : Option (List α × List (List α)) := readLoop k k ps

/-- The places where the stream is divided. -/
def cuts : List (List α) → List ℕ
  | [] => []
  | p :: ps => p.length :: (cuts ps).map (p.length + ·)

/-- No cut falls inside the `w` elements at `o`. -/
def Undivided (ps : List (List α)) (o w : ℕ) : Prop := ∀ c ∈ cuts ps, c ≤ o ∨ o + w ≤ c

instance (ps : List (List α)) (o w : ℕ) : Decidable (Undivided ps o w) :=
  inferInstanceAs (Decidable (∀ c ∈ cuts ps, c ≤ o ∨ o + w ≤ c))

/-! ## Going on -/

@[simp] lemma advance_nil (n : ℕ) : advance n ([] : List (List α)) = [] := rfl

lemma flatten_advance (n : ℕ) (ps : List (List α)) :
    (advance n ps).flatten = ps.flatten.drop n := by
  induction ps generalizing n with
  | nil => simp
  | cons p ps ih =>
    rw [advance, flatten_cons, drop_append]
    split_ifs with h
    · simp [Nat.sub_eq_zero_of_le h.le]
    · rw [ih, drop_of_length_le (not_lt.mp h), nil_append]

lemma advance_advance (m n : ℕ) (ps : List (List α)) :
    advance m (advance n ps) = advance (n + m) ps := by
  induction ps generalizing n with
  | nil => simp
  | cons p ps ih =>
    by_cases h : n < p.length
    · simp only [advance, if_pos h, length_drop]
      by_cases hm : n + m < p.length
      · rw [if_pos hm, if_pos (by omega), drop_drop]
      · rw [if_neg hm, if_neg (by omega)]
        congr 1
        omega
    · simp only [advance, if_neg h, if_neg (show ¬n + m < p.length by omega), ih]
      congr 1
      omega

variable {ps : List (List α)}

lemma length_pos_of_advance {n : ℕ} {rest : List (List α)} {p : List α}
    (h : advance n ps = p :: rest) : 0 < p.length := by
  induction ps generalizing n with
  | nil => simp at h
  | cons q qs ih =>
    rw [advance] at h
    split_ifs at h with hq
    · obtain ⟨rfl, -⟩ := List.cons.inj h
      rw [length_drop]
      omega
    · exact ih h

lemma undivided_advance (n o w : ℕ) (ps : List (List α)) :
    Undivided (advance n ps) o w ↔ Undivided ps (n + o) w := by
  unfold Undivided
  induction ps generalizing n o with
  | nil => simp [cuts]
  | cons p ps ih =>
    by_cases h : n < p.length
    · simp only [advance, if_pos h, cuts, length_drop, forall_mem_cons, forall_mem_map]
      refine and_congr (by omega) (forall₂_congr fun c _ => by omega)
    · have hfirst : p.length ≤ n + o ∨ n + o + w ≤ p.length := by omega
      simp only [advance, if_neg h, ih, cuts, forall_mem_cons, forall_mem_map, hfirst, true_and]
      exact forall₂_congr fun c _ => by omega

/-! ## Reading -/

/-- What a read returns: all up to the first cut, as far as there is room. -/
lemma read_eq {k : ℕ} (hk : 0 < k) (hps : ps.flatten ≠ []) :
    ∃ c, 0 < c ∧ c ≤ k ∧ c ≤ ps.flatten.length ∧
      read k ps = some (ps.flatten.take c, advance c ps) ∧ (c = k ↔ Undivided ps 0 k) := by
  -- Empty pieces in front change neither the elements nor the cuts that matter.
  have hflat : (advance 0 ps).flatten = ps.flatten := flatten_advance 0 ps
  have hcuts : Undivided (advance 0 ps) 0 k ↔ Undivided ps 0 k := by
    rw [undivided_advance]
  cases hp : advance 0 ps with
  | nil =>
    rw [hp, flatten_nil] at hflat
    exact absurd hflat.symm hps
  | cons p rest =>
    have hne : 0 < p.length := length_pos_of_advance hp
    have hlen : p.length ≤ ps.flatten.length := by
      rw [← hflat, hp, flatten_cons, length_append]
      omega
    refine ⟨min k p.length, by omega, min_le_left _ _, by omega, ?_, ?_⟩
    · have htake : p.take k = ps.flatten.take (min k p.length) := by
        rw [← hflat, hp, flatten_cons, take_append_of_le_length (min_le_right _ _)]
        simp [take_eq_take_iff]
      simp [read, hk.ne', hp, htake]
    · rw [← hcuts, hp]
      simp only [Undivided, cuts, forall_mem_cons, forall_mem_map]
      constructor
      · intro h
        exact ⟨by omega, fun c _ => by omega⟩
      · rintro ⟨h, -⟩
        omega

lemma read_of_undivided {k : ℕ} (hps : k ≤ ps.flatten.length) (h : Undivided ps 0 k) :
    read k ps = some (ps.flatten.take k, advance k ps) := by
  rcases Nat.eq_zero_or_pos k with rfl | hk
  · simp [read]
  · obtain ⟨c, -, -, -, hread, hc⟩ := read_eq hk (ne_nil_of_length_pos (hk.trans_le hps))
    rw [hread, hc.mpr h]

/-- A read of elements that are divided returns some of them, and not all. -/
lemma read_of_divided {k : ℕ} (hps : k ≤ ps.flatten.length) (h : ¬Undivided ps 0 k) :
    ∃ c, 0 < c ∧ c < k ∧ read k ps = some (ps.flatten.take c, advance c ps) := by
  have hk : 0 < k := by
    by_contra hk
    exact h fun c _ => Or.inr (by omega)
  obtain ⟨c, hpos, hle, -, hread, hc⟩ := read_eq hk (ne_nil_of_length_pos (hk.trans_le hps))
  exact ⟨c, hpos, lt_of_le_of_ne hle fun hck => h (hc.mp hck), hread⟩

lemma read_of_flatten_eq_nil {k : ℕ} (hk : 0 < k) (h : ps.flatten = []) : read k ps = none := by
  cases hp : advance 0 ps with
  | nil => simp [read, hk.ne', hp]
  | cons p rest =>
    have hflat : (advance 0 ps).flatten = ps.flatten := flatten_advance 0 ps
    have hne := length_pos_of_advance hp
    rw [hp, h, flatten_cons, append_eq_nil_iff] at hflat
    rw [hflat.1] at hne
    exact absurd hne (lt_irrefl 0)

lemma eq_of_read {k : ℕ} {got : List α} {qs : List (List α)} (h : read k ps = some (got, qs)) :
    ∃ c, c ≤ k ∧ c ≤ ps.flatten.length ∧ (0 < k → 0 < c) ∧ got = ps.flatten.take c ∧
      qs = advance c ps := by
  rcases Nat.eq_zero_or_pos k with rfl | hk
  · simp only [read, if_true, Option.some.injEq, Prod.mk.injEq] at h
    exact ⟨0, le_rfl, Nat.zero_le _, fun hk => hk, by rw [← h.1, take_zero], h.2.symm⟩
  · by_cases hnil : ps.flatten = []
    · rw [read_of_flatten_eq_nil hk hnil] at h
      cases h
    · obtain ⟨c, hpos, hle, hlen, hread, -⟩ := read_eq hk hnil
      rw [hread, Option.some.injEq, Prod.mk.injEq] at h
      exact ⟨c, hle, hlen, fun _ => hpos, h.1.symm, h.2.symm⟩

lemma readLoop_eq (turns k : ℕ) (ps : List (List α)) (ht : k ≤ turns) :
    readLoop turns k ps =
      if k ≤ ps.flatten.length then some (ps.flatten.take k, advance k ps) else none := by
  induction turns generalizing k ps with
  | zero => simp [readLoop, Nat.le_zero.mp ht]
  | succ turns ih =>
    rcases Nat.eq_zero_or_pos k with rfl | hk
    · simp [readLoop]
    rw [readLoop, if_neg hk.ne']
    by_cases hnil : ps.flatten = []
    · rw [read_of_flatten_eq_nil hk hnil, if_neg (by simpa [hnil] using hk.ne')]
      rfl
    · obtain ⟨c, hpos, hle, hlen, hread, -⟩ := read_eq hk hnil
      rw [hread]
      simp only [Option.pure_def, Option.bind_eq_bind, Option.bind_some,
        length_take_of_le hlen, ih (k - c) (advance c ps) (by omega), flatten_advance,
        advance_advance, length_drop, Nat.add_sub_cancel' hle]
      by_cases hk : k ≤ ps.flatten.length
      · rw [if_pos (by omega), if_pos hk, Option.bind_some, ← take_add, Nat.add_sub_cancel' hle]
      · rw [if_neg (by omega), if_neg hk]
        rfl

/-- **The loop is independent of the pieces.** -/
lemma readFull_eq (k : ℕ) (ps : List (List α)) :
    readFull k ps =
      if k ≤ ps.flatten.length then some (ps.flatten.take k, advance k ps) else none :=
  readLoop_eq k k ps le_rfl

end Pieces
