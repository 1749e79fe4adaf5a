import Mockly.Go.Strings

/-!
# Runes and white space

How a string falls into runes when it is put together from parts.  A byte below 0x80 is a rune of
its own wherever it stands: no encoding of another rune contains it.

* `segments_append_ascii` — the runes on both sides of such a byte are those of the two parts.
* `validString_ascii` — ASCII text is valid UTF-8.
* `trimSpace_eq_self` — a string without white space at its ends is left alone by `TrimSpace`.
-/

namespace Mockly

open List Option

/-! ## Decoding -/

variable {b : UInt8}

lemma isCont_of_ascii {lo hi : UInt8} (hlo : 0x80 ≤ lo) (hb : b < 0x80) :
    isCont lo hi b = false := by
  have hlt : ¬lo ≤ b := by
    rw [UInt8.not_le]
    exact UInt8.lt_of_lt_of_le hb hlo
  simp [isCont, hlt]

variable {s : GoString}

/-- What follows a string is not taken for a part of its first rune, if it starts in ASCII. -/
lemma decodeRune_append_ascii (hs : s ≠ []) (hb : b < 0x80) (t : GoString) :
    decodeRune (s ++ b :: t) = decodeRune s := by
  have h80 : ∀ hi, isCont 0x80 hi b = false := fun hi => isCont_of_ascii (by decide) hb
  have hE0 : ∀ (b0 : UInt8) hi, isCont (if b0 = 0xE0 then 0xA0 else 0x80) hi b = false := by
    intro b0 hi
    refine isCont_of_ascii ?_ hb
    split_ifs <;> decide
  have hF0 : ∀ (b0 : UInt8) hi, isCont (if b0 = 0xF0 then 0x90 else 0x80) hi b = false := by
    intro b0 hi
    refine isCont_of_ascii ?_ hb
    split_ifs <;> decide
  obtain ⟨b0, rest, rfl⟩ := exists_cons_of_ne_nil hs
  rcases rest with _ | ⟨b1, _ | ⟨b2, _ | ⟨b3, rest⟩⟩⟩
  · rcases t with _ | ⟨t1, _ | ⟨t2, t⟩⟩ <;> simp [decodeRune, h80, hE0, hF0]
  · rcases t with _ | ⟨t1, t⟩ <;> simp [decodeRune, h80]
  · simp [decodeRune, h80]
  · simp [decodeRune]

lemma decodeRune_ascii (hb : b < 0x80) (t : GoString) : decodeRune (b :: t) = (b.toNat, 1) := by
  unfold decodeRune
  exact if_pos hb

lemma width_ite {p : Prop} [Decidable p] {x y : ℕ × ℕ} {n : ℕ} (hx : 0 < x.2 ∧ x.2 ≤ n)
    (hy : 0 < y.2 ∧ y.2 ≤ n) : 0 < (if p then x else y).2 ∧ (if p then x else y).2 ≤ n := by
  split_ifs
  · exact hx
  · exact hy

lemma decodeRune_width (b : UInt8) (s : GoString) :
    0 < (decodeRune (b :: s)).2 ∧ (decodeRune (b :: s)).2 ≤ (b :: s).length := by
  unfold decodeRune
  rcases s with _ | ⟨b1, _ | ⟨b2, _ | ⟨b3, rest⟩⟩⟩ <;> dsimp only <;>
    repeat' with_reducible apply width_ite
  all_goals simp

/-! ## Segments -/

lemma segments_loop_cons (fuel : ℕ) (b : UInt8) (s : GoString) :
    segments.loop (fuel + 1) (b :: s) =
      ((decodeRune (b :: s)).1, (b :: s).take (decodeRune (b :: s)).2) ::
        segments.loop fuel ((b :: s).drop (decodeRune (b :: s)).2) :=
  rfl

lemma segments_loop_nil (fuel : ℕ) : segments.loop fuel [] = [] := by
  cases fuel <;> rfl

lemma segments_loop_eq {fuel : ℕ} (h : s.length ≤ fuel) : segments.loop fuel s = segments s := by
  suffices hall : ∀ n m s, s.length ≤ n → s.length ≤ m → segments.loop n s = segments.loop m s from
    hall fuel s.length s h le_rfl
  intro n
  induction n with
  | zero =>
    intro m s hn _
    rw [length_eq_zero_iff.mp (Nat.le_zero.mp hn), segments_loop_nil, segments_loop_nil]
  | succ n ih =>
    intro m s hn hm
    cases s with
    | nil => rw [segments_loop_nil, segments_loop_nil]
    | cons b s =>
      obtain ⟨hpos, -⟩ := decodeRune_width b s
      obtain ⟨m, rfl⟩ : ∃ k, m = k + 1 := ⟨m - 1, by rw [length_cons] at hm; omega⟩
      have hlen : ((b :: s).drop (decodeRune (b :: s)).2).length ≤ s.length := by
        rw [length_drop, length_cons]
        omega
      rw [length_cons] at hn hm
      rw [segments_loop_cons, segments_loop_cons, ih m _ (by omega) (by omega)]

@[simp] lemma segments_nil : segments [] = [] := rfl

lemma segments_cons (b : UInt8) (s : GoString) :
    segments (b :: s) =
      ((decodeRune (b :: s)).1, (b :: s).take (decodeRune (b :: s)).2) ::
        segments ((b :: s).drop (decodeRune (b :: s)).2) := by
  obtain ⟨hpos, -⟩ := decodeRune_width b s
  rw [segments, length_cons, segments_loop_cons, segments_loop_eq]
  rw [length_drop, length_cons]
  omega

lemma segments_cons_ascii (hb : b < 0x80) (t : GoString) :
    segments (b :: t) = (b.toNat, [b]) :: segments t := by
  rw [segments_cons, decodeRune_ascii hb]
  rfl

/-- **A byte below 0x80 divides the runes.** -/
lemma segments_append_ascii (hb : b < 0x80) (s t : GoString) :
    segments (s ++ b :: t) = segments s ++ (b.toNat, [b]) :: segments t := by
  induction h : s.length using Nat.strong_induction_on generalizing s with
  | _ n ih =>
    cases s with
    | nil => exact segments_cons_ascii hb t
    | cons c s =>
      obtain ⟨hpos, hle⟩ := decodeRune_width c s
      have hdecode := decodeRune_append_ascii (cons_ne_nil c s) hb t
      have hlt : ((c :: s).drop (decodeRune (c :: s)).2).length < n := by
        rw [← h, length_drop]
        omega
      rw [cons_append] at hdecode ⊢
      rw [segments_cons, hdecode, ← cons_append, take_append_of_le_length hle,
        drop_append_of_le_length hle, ih _ hlt _ rfl, segments_cons c s]
      rfl

lemma flatMap_segments (s : GoString) : (segments s).flatMap Prod.snd = s := by
  induction h : s.length using Nat.strong_induction_on generalizing s with
  | _ n ih =>
    cases s with
    | nil => rfl
    | cons b s =>
      obtain ⟨hpos, -⟩ := decodeRune_width b s
      have hlt : ((b :: s).drop (decodeRune (b :: s)).2).length < n := by
        rw [← h, length_drop, length_cons]
        omega
      rw [segments_cons, flatMap_cons, ih _ hlt _ rfl, take_append_drop]

lemma mem_runes_of_ascii (hb : b < 0x80) (hmem : b ∈ s) : b.toNat ∈ runes s := by
  obtain ⟨pre, post, rfl⟩ := append_of_mem hmem
  simp [runes, segments_append_ascii hb]

lemma runes_of_ascii (h : ∀ b ∈ s, b < 0x80) : runes s = s.map UInt8.toNat := by
  induction s with
  | nil => rfl
  | cons b s ih =>
    obtain ⟨hb, hs⟩ := forall_mem_cons.mp h
    rw [runes, segments_cons_ascii hb, map_cons, map_cons, ← ih hs, runes]

/-! ## Valid encodings -/

/-- `utf8.ValidString`: no rune is one byte that could not be decoded. -/
def validString (s : GoString) : Bool :=
  (segments s).all fun p => !(p.1 == runeError && p.2.length == 1)

lemma validString_ascii (h : ∀ b ∈ s, b < 0x80) : validString s = true := by
  induction s with
  | nil => rfl
  | cons b s ih =>
    have hb : b < 0x80 := h b mem_cons_self
    have hne : b.toNat ≠ runeError := by
      have hlt : b.toNat < 0x80 := UInt8.lt_iff_toNat_lt.mp hb
      unfold runeError
      omega
    have hs := ih fun c hc => h c (mem_cons_of_mem b hc)
    rw [validString, segments_cons_ascii hb, all_cons]
    rw [beq_false_of_ne hne, Bool.false_and, Bool.not_false, Bool.true_and]
    exact hs

/-! ## White space -/

/-- There is no white space at the beginning of the string, and none at its end. -/
def Trimmed (s : GoString) : Prop :=
  (∀ r ∈ (runes s).head?, isSpace r = false) ∧ ∀ r ∈ (runes s).getLast?, isSpace r = false

instance (s : GoString) : Decidable (Trimmed s) :=
  inferInstanceAs (Decidable (_ ∧ _))

lemma dropWhile_eq_self {α : Type} {p : α → Bool} {l : List α}
    (h : ∀ a ∈ l.head?, p a = false) : l.dropWhile p = l := by
  cases l with
  | nil => rfl
  | cons a l => exact dropWhile_cons_of_neg (by simpa using h a)

lemma trimSpace_eq_self (h : Trimmed s) : trimSpace s = s := by
  obtain ⟨hfirst, hlast⟩ := h
  rw [runes, List.head?_map] at hfirst
  rw [runes, List.getLast?_map] at hlast
  have hblank : (segments s).dropWhile (fun p => isSpace p.1) = segments s :=
    dropWhile_eq_self fun p hp => hfirst p.1 (mem_map_of_mem Prod.fst hp)
  have hblank' : (segments s).reverse.dropWhile (fun p => isSpace p.1) = (segments s).reverse := by
    refine dropWhile_eq_self fun p hp => hlast p.1 (mem_map_of_mem Prod.fst ?_)
    rwa [List.head?_reverse] at hp
  simp [trimSpace, hblank, hblank', flatMap_segments]

lemma runes_ne_nil (h : s ≠ []) : runes s ≠ [] := by
  obtain ⟨b, s, rfl⟩ := exists_cons_of_ne_nil h
  rw [runes, segments_cons]
  simp

lemma trimmed_of_no_space (h : ∀ r ∈ runes s, isSpace r = false) : Trimmed s :=
  ⟨fun r hr => h r (mem_of_mem_head? hr), fun r hr => h r (mem_of_mem_getLast? hr)⟩

lemma Trimmed.append_ascii {t : GoString} (hs : Trimmed s) (hne : s ≠ []) (ht : Trimmed t)
    (hb : b < 0x80) (hblank : isSpace b.toNat = false) : Trimmed (s ++ b :: t) := by
  have hrunes : runes (s ++ b :: t) = runes s ++ b.toNat :: runes t := by
    simp [runes, segments_append_ascii hb]
  rw [Trimmed, hrunes]
  constructor
  · intro r hr
    rw [List.head?_append_of_ne_nil _ (runes_ne_nil hne)] at hr
    exact hs.1 r hr
  · intro r hr
    rw [List.getLast?_append_cons, List.getLast?_cons, mem_def, some_inj] at hr
    cases hlast : (runes t).getLast? with
    | none =>
      rw [hlast, getD_none] at hr
      rwa [← hr]
    | some q =>
      rw [hlast, getD_some] at hr
      rw [← hr]
      exact ht.2 q hlast

end Mockly
