import Mockly.Lib.BigEndian

/-!
# Decoding BER

What is cut short is refused, and so are the indefinite and the reserved length and tags of more
than one byte.
-/

namespace BER

structure Element where
  tag : UInt8
  content : List UInt8

def content (length : ℕ) (bs : List UInt8) : Option (List UInt8 × List UInt8) :=
  if bs.length < length then none else some (bs.take length, bs.drop length)

def length : List UInt8 → Option (ℕ × List UInt8)
  | [] => none
  | first :: bs =>
    if first < 0x80 then some (first.toNat, bs)
    else if first = 0x80 ∨ first = 0xFF then none
    else (content (first.toNat - 0x80) bs).map fun r => (BigEndian.value r.1, r.2)

/-- One element, and what comes after it. -/
def element : List UInt8 → Option (Element × List UInt8)
  | [] => none
  | tag :: bs =>
    if tag &&& 0x1F = 0x1F then none
    else do
      let (n, bs) ← length bs
      let (c, bs) ← content n bs
      return (⟨tag, c⟩, bs)

/-- At most `n` elements, from end to end. -/
def elementsUpTo : ℕ → List UInt8 → Option (List Element)
  | _, [] => some []
  | 0, _ :: _ => none
  | n + 1, b :: bs => do
      let (e, bs) ← element (b :: bs)
      let es ← elementsUpTo n bs
      return e :: es

/-- Bytes that are elements from end to end; an element has at least one byte. -/
def elements (bs : List UInt8) : Option (List Element) := elementsUpTo bs.length bs

def integer (bs : List UInt8) : Option ℤ := if bs = [] then none else some (BigEndian.signed bs)

/-! ## Reading what was written -/

lemma content_append (c rest : List UInt8) : content c.length (c ++ rest) = some (c, rest) := by
  simp [content]

variable {n : ℕ}

lemma length_short (h : n < 0x80) (rest : List UInt8) :
    length (UInt8.ofNat n :: rest) = some (n, rest) := by
  have hn : (UInt8.ofNat n).toNat = n := by
    simp
    omega
  have hlt : UInt8.ofNat n < 0x80 := by
    rw [UInt8.lt_iff_toNat_lt, hn]
    exact h
  rw [length, if_pos hlt, hn]

lemma length_long {first : UInt8} (bs : List UInt8) (hpos : bs ≠ [])
    (hfirst : first.toNat = 0x80 + bs.length) (hlt : bs.length < 0x7F) (rest : List UInt8) :
    length (first :: bs ++ rest) = some (BigEndian.value bs, rest) := by
  have hlen := List.length_pos_iff.mpr hpos
  have hge : ¬first < 0x80 := by
    rw [UInt8.lt_iff_toNat_lt, hfirst]
    simp
  have hform : ¬(first = 0x80 ∨ first = 0xFF) := by
    rintro (rfl | rfl)
    · have h80 : (0x80 : UInt8).toNat = 0x80 := rfl
      omega
    · have hFF : (0xFF : UInt8).toNat = 0xFF := rfl
      omega
  have hcount : first.toNat - 0x80 = bs.length := by omega
  rw [List.cons_append, length, if_neg hge, if_neg hform, hcount, content_append]
  rfl

variable {bs : List UInt8}

lemma element_of_length {tag : UInt8} {bs' : List UInt8} (htag : tag &&& 0x1F ≠ 0x1F)
    (hlength : length bs = some (n, bs')) (hle : n ≤ bs'.length) :
    element (tag :: bs) = some (⟨tag, bs'.take n⟩, bs'.drop n) := by
  have hcontent : content n bs' = some (bs'.take n, bs'.drop n) := if_neg (by omega)
  rw [element, if_neg htag, hlength]
  simp [hcontent]

/-! ## Sequences of elements -/

variable {rest : List UInt8}

lemma length_le_of_content {c : List UInt8} (h : content n bs = some (c, rest)) :
    rest.length ≤ bs.length := by
  unfold content at h
  split_ifs at h
  cases h
  simp

lemma length_lt_of_length (h : length bs = some (n, rest)) : rest.length < bs.length := by
  cases bs with
  | nil => cases h
  | cons first bs =>
    rw [List.length_cons, Nat.lt_succ_iff]
    rw [length] at h
    split_ifs at h
    · cases h
      rfl
    · obtain ⟨r, hr, heq⟩ := Option.map_eq_some_iff.mp h
      cases heq
      exact length_le_of_content hr

variable {e : Element}

lemma length_lt_of_element (h : element bs = some (e, rest)) : rest.length < bs.length := by
  cases bs with
  | nil => cases h
  | cons tag bs =>
    rw [element] at h
    split_ifs at h
    obtain ⟨r, hr, h⟩ := Option.bind_eq_some_iff.mp h
    obtain ⟨q, hq, h⟩ := Option.bind_eq_some_iff.mp h
    cases h
    have hlt := length_lt_of_length hr
    have hle := length_le_of_content hq
    rw [List.length_cons]
    omega

lemma elementsUpTo_succ (h : element bs = some (e, rest)) (n : ℕ) :
    elementsUpTo (n + 1) bs = (elementsUpTo n rest).map (e :: ·) := by
  cases bs with
  | nil => cases h
  | cons b bs =>
    rw [elementsUpTo, h]
    cases hn : elementsUpTo n rest <;> simp [hn]

lemma elementsUpTo_succ_of_none {b : UInt8} (h : element (b :: bs) = none) (n : ℕ) :
    elementsUpTo (n + 1) (b :: bs) = none := by
  simp [elementsUpTo, h]

lemma elementsUpTo_of_le {m : ℕ} (hn : bs.length ≤ n) (hm : bs.length ≤ m) :
    elementsUpTo n bs = elementsUpTo m bs := by
  induction n generalizing m bs with
  | zero =>
    rw [List.length_eq_zero_iff.mp (Nat.le_zero.mp hn)]
    cases m <;> rfl
  | succ n ih =>
    cases bs with
    | nil => cases m <;> rfl
    | cons b bs =>
      obtain ⟨m, rfl⟩ : ∃ k, m = k + 1 := ⟨m - 1, by rw [List.length_cons] at hm; omega⟩
      cases h : element (b :: bs) with
      | none => rw [elementsUpTo_succ_of_none h, elementsUpTo_succ_of_none h]
      | some r =>
        obtain ⟨e, rest⟩ := r
        have hlt := length_lt_of_element h
        have hrest : elementsUpTo n rest = elementsUpTo m rest := ih (by omega) (by omega)
        rw [elementsUpTo_succ h, elementsUpTo_succ h, hrest]

/-- **The first of several elements.** -/
lemma elements_of_element (h : element bs = some (e, rest)) :
    elements bs = (elements rest).map (e :: ·) := by
  have hlt := length_lt_of_element h
  obtain ⟨n, hn⟩ : ∃ n, bs.length = n + 1 := ⟨bs.length - 1, by omega⟩
  rw [elements, hn, elementsUpTo_succ h, elements, elementsUpTo_of_le (by omega) le_rfl]

lemma elements_ne_nil (h : bs ≠ []) : elements bs ≠ some [] := by
  cases bs with
  | nil => exact absurd rfl h
  | cons b bs =>
    cases helem : element (b :: bs) with
    | none => rw [elements, List.length_cons, elementsUpTo_succ_of_none helem]; simp
    | some r => rw [elements_of_element helem]; simp

end BER
