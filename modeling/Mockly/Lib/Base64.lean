import Mathlib.Tactic.FinCases
import Mathlib.Data.Fintype.Basic

/-!
# Base64

The standard encoding with padding. A decoder passes over line breaks.
-/

namespace Base64

def pad : UInt8 := 61

def digit (n : ℕ) : UInt8 :=
  if n < 26 then UInt8.ofNat (n + 65)
  else if n < 52 then UInt8.ofNat (n + 71)
  else if n < 62 then UInt8.ofNat (n - 4)
  else if n = 62 then 43 else 47

def value (b : UInt8) : Option ℕ :=
  if 65 ≤ b ∧ b ≤ 90 then some (b.toNat - 65)
  else if 97 ≤ b ∧ b ≤ 122 then some (b.toNat - 71)
  else if 48 ≤ b ∧ b ≤ 57 then some (b.toNat + 4)
  else if b = 43 then some 62
  else if b = 47 then some 63
  else none

/-- Groups of three bytes as four digits. -/
def encode : List UInt8 → List UInt8
  | [] => []
  | [a] => [digit (a.toNat / 4), digit (a.toNat % 4 * 16), pad, pad]
  | [a, b] =>
    [digit (a.toNat / 4), digit (a.toNat % 4 * 16 + b.toNat / 16), digit (b.toNat % 16 * 4), pad]
  | a :: b :: c :: s =>
    digit (a.toNat / 4) :: digit (a.toNat % 4 * 16 + b.toNat / 16) ::
      digit (b.toNat % 16 * 4 + c.toNat / 64) :: digit (c.toNat % 64) :: encode s

def first (w x : ℕ) : UInt8 := UInt8.ofNat (w * 4 + x / 16)

def second (x y : ℕ) : UInt8 := UInt8.ofNat (x % 16 * 16 + y / 4)

def third (y z : ℕ) : UInt8 := UInt8.ofNat (y % 4 * 64 + z)

def decodeGroups : List UInt8 → Option (List UInt8)
  | [] => some []
  | w :: x :: y :: z :: s => do
      let w ← value w
      let x ← value x
      if y = pad then
        if z = pad ∧ s = [] then some [first w x] else none
      else
        let y ← value y
        if z = pad then
          if s = [] then some [first w x, second x y] else none
        else
          let z ← value z
          let t ← decodeGroups s
          some (first w x :: second x y :: third y z :: t)
  | _ => none

def isBreak (b : UInt8) : Bool := b == 13 || b == 10

def joinLines (t : List UInt8) : List UInt8 := t.filter fun b => !isBreak b

/-- Reading groups of four digits, line breaks apart. -/
def decode (t : List UInt8) : Option (List UInt8) := decodeGroups (joinLines t)

/-! ## Digits -/

variable {n : ℕ}

lemma forall_digit {p : UInt8 → ℕ → Prop} (h : ∀ n : Fin 64, p (digit n) n) (hn : n < 64) :
    p (digit n) n :=
  h ⟨n, hn⟩

lemma value_digit (hn : n < 64) : value (digit n) = some n :=
  forall_digit (p := fun b n => value b = some n) (by decide) hn

lemma digit_ne_pad (hn : n < 64) : digit n ≠ pad :=
  forall_digit (p := fun b _ => b ≠ pad) (by decide) hn

lemma digit_lt (hn : n < 64) : digit n < 0x80 :=
  forall_digit (p := fun b _ => b < 0x80) (by decide) hn

lemma isBreak_digit (hn : n < 64) : isBreak (digit n) = false :=
  forall_digit (p := fun b _ => isBreak b = false) (by decide) hn

/-! ## Text -/

lemma forall_mem_encode {p : UInt8 → Prop} (hdigit : ∀ {n}, n < 64 → p (digit n)) (hpad : p pad)
    (s : List UInt8) : ∀ x ∈ encode s, p x := by
  induction s using encode.induct with
  | case1 => simp [encode]
  | case2 a =>
    have ha := a.toNat_lt
    intro x hx
    simp only [encode, List.mem_cons, List.not_mem_nil, or_false] at hx
    rcases hx with rfl | rfl | rfl | rfl
    · exact hdigit (by omega)
    · exact hdigit (by omega)
    · exact hpad
    · exact hpad
  | case3 a b =>
    have ha := a.toNat_lt
    have hb := b.toNat_lt
    intro x hx
    simp only [encode, List.mem_cons, List.not_mem_nil, or_false] at hx
    rcases hx with rfl | rfl | rfl | rfl
    · exact hdigit (by omega)
    · exact hdigit (by omega)
    · exact hdigit (by omega)
    · exact hpad
  | case4 a b c s ih =>
    have ha := a.toNat_lt
    have hb := b.toNat_lt
    have hc := c.toNat_lt
    intro x hx
    simp only [encode, List.mem_cons] at hx
    rcases hx with rfl | rfl | rfl | rfl | hx
    · exact hdigit (by omega)
    · exact hdigit (by omega)
    · exact hdigit (by omega)
    · exact hdigit (by omega)
    · exact ih x hx

variable (s : List UInt8)

lemma isASCII_encode : ∀ b ∈ encode s, b < 0x80 :=
  forall_mem_encode digit_lt (by decide) s

lemma joinLines_encode : joinLines (encode s) = encode s := by
  refine List.filter_eq_self.mpr fun b hb => ?_
  have hno := forall_mem_encode (p := fun b => isBreak b = false) isBreak_digit (by decide) s b hb
  rw [hno, Bool.not_false]

/-! ## Reading back -/

lemma ofNat_of_eq {a : UInt8} (h : n = a.toNat) : UInt8.ofNat n = a := by
  rw [h, UInt8.ofNat_toNat]

lemma first_digits (a : UInt8) (hn : n < 16) : first (a.toNat / 4) (a.toNat % 4 * 16 + n) = a :=
  ofNat_of_eq (by omega)

lemma second_digits (b : UInt8) {m : ℕ} (hn : n < 4) :
    second (m * 16 + b.toNat / 16) (b.toNat % 16 * 4 + n) = b :=
  have hb := b.toNat_lt
  ofNat_of_eq (by omega)

lemma third_digits (c : UInt8) {m : ℕ} : third (m * 4 + c.toNat / 64) (c.toNat % 64) = c :=
  have hc := c.toNat_lt
  ofNat_of_eq (by omega)

lemma decodeGroups_encode : decodeGroups (encode s) = some s := by
  induction s using encode.induct with
  | case1 => rfl
  | case2 a =>
    have ha := a.toNat_lt
    have hw : a.toNat / 4 < 64 := by omega
    have hx : a.toNat % 4 * 16 < 64 := by omega
    have hfirst : first (a.toNat / 4) (a.toNat % 4 * 16) = a :=
      first_digits a (n := 0) (by decide)
    simp [encode, decodeGroups, value_digit hw, value_digit hx, hfirst]
  | case3 a b =>
    have ha := a.toNat_lt
    have hb := b.toNat_lt
    have hw : a.toNat / 4 < 64 := by omega
    have hx : a.toNat % 4 * 16 + b.toNat / 16 < 64 := by omega
    have hy : b.toNat % 16 * 4 < 64 := by omega
    have hfirst := first_digits a (n := b.toNat / 16) (by omega)
    have hsecond : second (a.toNat % 4 * 16 + b.toNat / 16) (b.toNat % 16 * 4) = b :=
      second_digits b (n := 0) (by decide)
    simp [encode, decodeGroups, value_digit hw, value_digit hx, value_digit hy, digit_ne_pad hy,
      hfirst, hsecond]
  | case4 a b c s ih =>
    have ha := a.toNat_lt
    have hb := b.toNat_lt
    have hc := c.toNat_lt
    have hw : a.toNat / 4 < 64 := by omega
    have hx : a.toNat % 4 * 16 + b.toNat / 16 < 64 := by omega
    have hy : b.toNat % 16 * 4 + c.toNat / 64 < 64 := by omega
    have hz : c.toNat % 64 < 64 := by omega
    have hfirst := first_digits a (n := b.toNat / 16) (by omega)
    have hsecond := second_digits b (m := a.toNat % 4) (n := c.toNat / 64) (by omega)
    have hthird := third_digits c (m := b.toNat % 16)
    simp [encode, decodeGroups, value_digit hw, value_digit hx, value_digit hy, value_digit hz,
      digit_ne_pad hy, digit_ne_pad hz, ih, hfirst, hsecond, hthird]

lemma decode_encode : decode (encode s) = some s := by
  rw [decode, joinLines_encode, decodeGroups_encode]

end Base64
