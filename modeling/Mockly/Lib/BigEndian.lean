import Mathlib

/-!
# Numbers in big-endian bytes

A number in a fixed number of bytes, the most significant first; `signed` and `signedBytes` are in
two's complement.
-/

namespace BigEndian

/-- The number whose digits to the base 256 are the bytes. -/
def value (bs : List UInt8) : ℕ := bs.foldl (fun n b => n * 256 + b.toNat) 0

/-- The last `k` digits of a number to the base 256. -/
def bytes : ℕ → ℕ → List UInt8
  | 0, _ => []
  | k + 1, n => bytes k (n / 256) ++ [UInt8.ofNat n]

@[simp] lemma value_nil : value [] = 0 := rfl

lemma value_concat (bs : List UInt8) (b : UInt8) :
    value (bs ++ [b]) = value bs * 256 + b.toNat := by
  simp [value]

lemma value_lt (bs : List UInt8) : value bs < 256 ^ bs.length := by
  induction bs using List.reverseRecOn with
  | nil => simp
  | append_singleton bs b ih =>
    have hb : b.toNat < 256 := b.toNat_lt
    rw [value_concat, List.length_append, List.length_singleton, pow_succ]
    omega

@[simp] lemma length_bytes (k n : ℕ) : (bytes k n).length = k := by
  induction k generalizing n with
  | zero => rfl
  | succ k ih => simp [bytes, ih]

@[simp] lemma value_bytes (k n : ℕ) : value (bytes k n) = n % 256 ^ k := by
  induction k generalizing n with
  | zero => simp [bytes, Nat.mod_one]
  | succ k ih =>
    have hlast : (UInt8.ofNat n).toNat = n % 256 := by simp
    rw [bytes, value_concat, ih, hlast, pow_succ', Nat.mod_mul]
    ring

lemma value_bytes_of_lt {k n : ℕ} (h : n < 256 ^ k) : value (bytes k n) = n := by
  rw [value_bytes, Nat.mod_eq_of_lt h]

lemma bytes_value (bs : List UInt8) : bytes bs.length (value bs) = bs := by
  induction bs using List.reverseRecOn with
  | nil => rfl
  | append_singleton bs b ih =>
    have hb : b.toNat < 256 := b.toNat_lt
    have hdiv : (value bs * 256 + b.toNat) / 256 = value bs := by omega
    have hmod : UInt8.ofNat (value bs * 256 + b.toNat) = b := by
      rw [← UInt8.toNat_inj, UInt8.toNat_ofNat']
      omega
    rw [List.length_append, List.length_singleton, bytes, value_concat, hdiv, hmod, ih]

/-! ## Two's complement -/

def signed (bs : List UInt8) : ℤ := (value bs : ℤ).bmod (256 ^ bs.length)

/-- The last `k` digits of a number that may be negative. -/
def signedBytes (k : ℕ) (n : ℤ) : List UInt8 := bytes k (n % 256 ^ k).toNat

@[simp] lemma length_signedBytes (k : ℕ) (n : ℤ) : (signedBytes k n).length = k := length_bytes _ _

@[simp] lemma signed_signedBytes (k : ℕ) (n : ℤ) :
    signed (signedBytes k n) = n.bmod (256 ^ k) := by
  have hpos : (0 : ℤ) < 256 ^ k := by positivity
  have hval : (value (signedBytes k n) : ℤ) = n % 256 ^ k := by
    rw [signedBytes, value_bytes]
    push_cast
    rw [Int.toNat_of_nonneg (Int.emod_nonneg _ hpos.ne'), Int.emod_emod_of_dvd _ dvd_rfl]
  rw [signed, hval, length_signedBytes]
  exact_mod_cast Int.emod_bmod n (256 ^ k)

lemma signed_signedBytes_of_mem {k : ℕ} {n : ℤ} (hlo : -(256 ^ k : ℕ) ≤ 2 * n)
    (hhi : 2 * n < (256 ^ k : ℕ)) : signed (signedBytes k n) = n := by
  rw [signed_signedBytes]
  exact Int.bmod_eq_of_le_mul_two (by omega) (by omega)

end BigEndian
