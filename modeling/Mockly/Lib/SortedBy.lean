import Mathlib

/-!
# Lists sorted by a key

A table whose entries ascend by a key, where equal keys may repeat, falls into what is below a key
`q`, at it and above it.

Main result: **`drop_eq`**.
-/

namespace SortedBy

open List

variable {α κ : Type*} [LinearOrder κ] {key : α → κ} {l : List α} {q : κ}

/-- The entries at a key. -/
def matching (key : α → κ) (q : κ) (l : List α) : List α := l.filter fun a => key a = q

/-- The entries above a key. -/
def above (key : α → κ) (q : κ) (l : List α) : List α := l.filter fun a => q < key a

lemma mem_matching {a : α} : a ∈ matching key q l ↔ a ∈ l ∧ key a = q := by
  simp [matching]

lemma mem_above {a : α} : a ∈ above key q l ↔ a ∈ l ∧ q < key a := by
  simp [above]

lemma length_matching_le_one (h : (l.map key).Nodup) (q : κ) : (matching key q l).length ≤ 1 := by
  calc (matching key q l).length
      = l.countP fun a => key a = q := countP_eq_length_filter.symm
    _ = (l.map key).countP fun k => k = q := by rw [countP_map]; rfl
    _ = (l.map key).count q := by
        rw [List.count]
        exact countP_congr fun k _ => by simp
    _ ≤ 1 := nodup_iff_count_le_one.mp h q

lemma split (h : l.Pairwise fun a b => key a ≤ key b) (q : κ) :
    (l.filter fun a => key a < q) ++ (matching key q l ++ above key q l) = l := by
  induction l with
  | nil => rfl
  | cons a l ih =>
    rw [pairwise_cons] at h
    obtain ⟨ha, hl⟩ := h
    rcases lt_trichotomy (key a) q with hlt | heq | hgt
    · have hab : (matching key q (a :: l) ++ above key q (a :: l)) =
          matching key q l ++ above key q l := by
        simp [matching, above, hlt.ne, hlt.le]
      rw [hab, filter_cons_of_pos (by simpa using hlt), cons_append, ih hl]
    · have hbelow : (a :: l).filter (fun b => key b < q) = [] := by
        simpa [heq] using fun b hb => heq ▸ ha b hb
      have hbelow' : l.filter (fun b => key b < q) = [] := by
        simpa using fun b hb => heq ▸ ha b hb
      have ih := ih hl
      rw [hbelow', nil_append] at ih
      rw [hbelow, nil_append]
      simpa [matching, above, heq] using ih
    · have hall : ∀ b ∈ a :: l, q < key b := by
        intro b hb
        rcases mem_cons.mp hb with rfl | hb
        · exact hgt
        · exact hgt.trans_le (ha b hb)
      have hbelow : (a :: l).filter (fun b => key b < q) = [] :=
        filter_eq_nil_iff.mpr fun b hb => by simpa using (hall b hb).le
      have hat : matching key q (a :: l) = [] :=
        filter_eq_nil_iff.mpr fun b hb => by simpa using (hall b hb).ne'
      have habove : above key q (a :: l) = a :: l :=
        filter_eq_self.mpr fun b hb => by simpa using hall b hb
      rw [hbelow, hat, habove, nil_append, nil_append]

/-- The place where a key is or would be. -/
theorem drop_eq (h : l.Pairwise fun a b => key a ≤ key b) {n : ℕ}
    (hbefore : ∀ a ∈ l.take n, key a < q) (hbehind : ∀ a ∈ l.drop n, q ≤ key a) :
    l.drop n = matching key q l ++ above key q l := by
  have hlen : (l.filter fun a => key a < q) = l.take n := by
    have htake : (l.take n).filter (fun a => key a < q) = l.take n :=
      filter_eq_self.mpr fun a ha => by simpa using hbefore a ha
    have hdrop : (l.drop n).filter (fun a => key a < q) = [] :=
      filter_eq_nil_iff.mpr fun a ha => by simpa using hbehind a ha
    calc (l.filter fun a => key a < q)
        = (l.take n ++ l.drop n).filter (fun a => key a < q) := by rw [take_append_drop]
      _ = l.take n := by rw [filter_append, htake, hdrop, append_nil]
  have hsplit := split h q
  rw [hlen] at hsplit
  exact (append_cancel_left (hsplit.trans (take_append_drop n l).symm)).symm

lemma matching_above {k : κ} (h : q < k) : matching key k (above key q l) = matching key k l := by
  simp only [matching, above, filter_filter]
  refine filter_congr fun b _ => ?_
  rw [Bool.eq_iff_iff]
  simpa using fun hb => hb ▸ h

lemma above_above {k : κ} (h : q < k) : above key k (above key q l) = above key k l := by
  simp only [above, filter_filter]
  refine filter_congr fun b _ => ?_
  rw [Bool.eq_iff_iff]
  simpa using fun hb => h.trans hb

/-- Above the first entry above `q` are the others, if its key is not repeated. -/
lemma above_cons {a : α} {rest : List α} (h : l.Pairwise fun a b => key a ≤ key b)
    (ha : above key q l = a :: rest) (hone : (matching key (key a) l).length ≤ 1) :
    matching key (key a) l = [a] ∧ above key (key a) l = rest := by
  have hlt : q < key a := (mem_above.mp (ha ▸ mem_cons_self)).2
  have hat : matching key (key a) l = a :: matching key (key a) rest := by
    rw [← matching_above hlt, ha]
    simp [matching]
  have hnone : matching key (key a) rest = [] := by
    rw [hat, length_cons] at hone
    exact length_eq_zero_iff.mp (by omega)
  refine ⟨by rw [hat, hnone], ?_⟩
  have hsorted : (above key q l).Pairwise fun a b => key a ≤ key b := h.sublist filter_sublist
  rw [ha, pairwise_cons] at hsorted
  rw [← above_above hlt, ha]
  simp only [above, filter_cons, lt_irrefl, decide_false, Bool.false_eq_true, if_false]
  refine filter_eq_self.mpr fun b hb => ?_
  have hne : key b ≠ key a := fun heq => by
    have hb' : b ∈ matching key (key a) rest := mem_matching.mpr ⟨hb, heq⟩
    simp [hnone] at hb'
  simpa using lt_of_le_of_ne (hsorted.1 b hb) hne.symm

lemma pairwise_above (h : l.Pairwise fun a b => key a ≤ key b)
    (hone : ∀ k, q < k → (matching key k l).length ≤ 1) :
    (above key q l).Pairwise fun a b => key a < key b := by
  induction hl : above key q l generalizing q with
  | nil => exact List.Pairwise.nil
  | cons a rest ih =>
    have hlt : q < key a := (mem_above.mp (hl ▸ mem_cons_self)).2
    have hrest : above key (key a) l = rest := (above_cons h hl (hone _ hlt)).2
    refine pairwise_cons.mpr ⟨fun b hb => ?_, ih (fun k hk => hone k (hlt.trans hk)) hrest⟩
    exact (mem_above.mp (hrest ▸ hb)).2

end SortedBy
