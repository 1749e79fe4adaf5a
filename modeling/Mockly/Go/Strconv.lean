import Mockly.Go.Strings
import Mockly.Go.Time

/-!
# Decimal numbers

A failed parse returns the `NumError` of the package. **`formatNat_injective`** — two different
numbers are never written the same way.
-/

namespace Mockly

open List

/-- The digits of `n`, most significant first. -/
def formatNat (n : ℕ) : GoString :=
  if n = 0 then [48] else (Nat.digits 10 n).reverse.map fun d => UInt8.ofNat (48 + d)

/-- `strconv.FormatInt(n, 10)`. -/
def formatInt (n : ℤ) : GoString :=
  if n < 0 then 45 :: formatNat n.natAbs else formatNat n.natAbs

/-- `strconv.ErrSyntax` and `strconv.ErrRange`. -/
inductive NumErrorKind
  | syntaxError
  | rangeError
  deriving DecidableEq

/-- `strconv.NumError`, for the function `ParseInt`. -/
structure NumError where
  num : GoString
  kind : NumErrorKind
  deriving DecidableEq

def maxUint64 : ℕ := 2 ^ 64 - 1

/-- The digit loop of `strconv.ParseUint`.  A number that no longer fits ends the loop, whatever
follows it. -/
def parseDigits (n : ℕ) : GoString → Except NumErrorKind ℕ
  | [] => .ok n
  | c :: cs =>
    if c < 48 ∨ 57 < c then .error .syntaxError
    else if n * 10 + (c.toNat - 48) > maxUint64 then .error .rangeError
    else parseDigits (n * 10 + (c.toNat - 48)) cs

/-- `strconv.ParseUint(s, 10, 64)`. -/
def parseUint (s : GoString) : Except NumErrorKind ℕ :=
  if s = [] then .error .syntaxError else parseDigits 0 s

/-- `strconv.ParseInt(s, 10, 64)`. -/
def parseInt (s : GoString) : Except NumError ℤ :=
  let (neg, digits) : Bool × GoString :=
    match s with
    | 43 :: rest => (false, rest)
    | 45 :: rest => (true, rest)
    | _ => (false, s)
  match parseUint digits with
  | .error k => .error ⟨s, k⟩
  | .ok un =>
    if !neg && decide (2 ^ 63 ≤ un) then .error ⟨s, .rangeError⟩
    else if neg && decide (2 ^ 63 < un) then .error ⟨s, .rangeError⟩
    else .ok (if neg then -(un : ℤ) else un)

/-- `strconv.Atoi` with its error ignored: 0 for what is not a number, and the nearest number for
one that is out of range. -/
def atoi (s : GoString) : ℤ :=
  match parseInt s with
  | .ok n => n
  | .error ⟨_, .syntaxError⟩ => 0
  | .error ⟨_, .rangeError⟩ => if s.head? = some 45 then -2 ^ 63 else 2 ^ 63 - 1

/-- The number whose digits are written in `s`. -/
def readNat (s : GoString) : ℕ := Nat.ofDigits 10 (s.map fun c => c.toNat - 48).reverse

lemma readNat_formatNat (n : ℕ) : readNat (formatNat n) = n := by
  by_cases hn : n = 0
  · subst hn
    rfl
  · have hdigit : ∀ d ∈ (Nat.digits 10 n).reverse,
        ((fun c : UInt8 => c.toNat - 48) ∘ fun d => UInt8.ofNat (48 + d)) d = id d := by
      intro d hd
      have hlt : d < 10 := Nat.digits_lt_base (by norm_num) (mem_reverse.mp hd)
      simp only [Function.comp_apply, UInt8.toNat_ofNat', id_eq]
      omega
    rw [formatNat, if_neg hn, readNat, map_map, map_congr_left hdigit, map_id,
      reverse_reverse, Nat.ofDigits_digits]

lemma digit_of_mem_formatNat {n : ℕ} {c : UInt8} (h : c ∈ formatNat n) :
    48 ≤ c.toNat ∧ c.toNat ≤ 57 := by
  rw [formatNat] at h
  split_ifs at h with hn
  · rw [mem_singleton.mp h]
    decide
  · obtain ⟨d, hd, rfl⟩ := mem_map.mp h
    have hlt : d < 10 := Nat.digits_lt_base (by norm_num) (mem_reverse.mp hd)
    rw [UInt8.toNat_ofNat']
    omega

/-- **Different numbers have different decimals.** -/
theorem formatNat_injective : Function.Injective formatNat :=
  Function.LeftInverse.injective readNat_formatNat

example : formatInt (-1204) = go "-1204" := by decide
example : parseInt (go "-1204") = .ok (-1204) := by decide
example : parseInt (go "9223372036854775808") =
    .error ⟨go "9223372036854775808", .rangeError⟩ := by decide

end Mockly
