import Mathlib

/-!
# Time and 64-bit integers

A `time.Time` is the number of nanoseconds since the zero `Time`; a `time.Duration` an integer
together with the wrap-around of the operations that can leave its 64 bits. `Clock` is what
`time.Now` can return on a machine whose clock is not set before the Unix epoch.
-/

namespace Mockly

/-! ## Signed 64-bit integers -/

/-- The value an `int64` takes when the mathematical result is `x`. -/
def wrap64 (x : ℤ) : ℤ := Int.bmod x (2 ^ 64)

def minInt64 : ℤ := -(2 ^ 63)

def maxInt64 : ℤ := 2 ^ 63 - 1

lemma wrap64_bounds (x : ℤ) : minInt64 ≤ wrap64 x ∧ wrap64 x ≤ maxInt64 := by
  have h1 := @Int.le_bmod x (2 ^ 64) (by norm_num)
  have h2 := @Int.bmod_lt x (2 ^ 64) (by norm_num)
  constructor
  · simp only [minInt64, wrap64]
    omega
  · simp only [maxInt64, wrap64]
    omega

lemma wrap64_eq_self_iff {x : ℤ} : wrap64 x = x ↔ minInt64 ≤ x ∧ x ≤ maxInt64 := by
  constructor
  · intro h
    rw [← h]
    exact wrap64_bounds x
  · rintro ⟨hmin, hmax⟩
    simp only [minInt64, maxInt64] at hmin hmax
    exact Int.bmod_eq_of_le (by omega) (by omega)

lemma wrap64_add_wrap64 (x y : ℤ) : wrap64 (x + wrap64 y) = wrap64 (x + y) :=
  Int.add_bmod_bmod

/-! ## Durations -/

def second : ℤ := 1000000000

/-- `lessThanHalf` of package time: `x + x < y`, in unsigned arithmetic. -/
def lessThanHalf (x y : ℤ) : Bool := decide (x + x < y)

def round (d m : ℤ) : ℤ :=
  if m ≤ 0 then d
  else
    let r := Int.tmod d m
    if d < 0 then
      let r := -r
      if lessThanHalf r m then d + r
      else
        let d1 := wrap64 (d - m + r)
        if d1 < d then d1 else minInt64
    else if lessThanHalf r m then d - r
    else
      let d1 := wrap64 (d + m - r)
      if d1 > d then d1 else maxInt64

/-- `int64(d.Seconds())`: the whole seconds of a duration. -/
def wholeSeconds (d : ℤ) : ℤ := Int.tdiv d second

/-! ## Instants -/

/-- `t.IsZero()`. -/
def isZero (t : ℤ) : Bool := decide (t = 0)

/-- `t.After(u)`. -/
def after (t u : ℤ) : Bool := decide (u < t)

/-- `t.Sub(u)`, which saturates at the largest and smallest duration. -/
def sub (t u : ℤ) : ℤ := max minInt64 (min maxInt64 (t - u))

/-- The zero `Time` to the Unix epoch. -/
def unixEpoch : ℤ := 62135596800 * second

/-- What `time.Now` returns: an instant not before the Unix epoch. -/
abbrev Clock := {t : ℤ // unixEpoch ≤ t}

/-- The Unix epoch itself as a clock reading, and the instants after it. -/
def Clock.epochPlus (n : ℕ) : Clock := ⟨unixEpoch + n, by omega⟩

lemma Clock.add_ne_zero (now : Clock) {d : ℤ} (hd : minInt64 ≤ d) : now.1 + d ≠ 0 := by
  have h := now.2
  simp only [unixEpoch, second, minInt64] at h hd
  omega

/-! ## Deadlines

Both stores write the zero `Time` for "never expires". -/

/-- `!deadline.IsZero() && now.After(deadline)`. -/
def deadlinePassed (deadline now : ℤ) : Bool := !isZero deadline && after now deadline

lemma deadlinePassed_iff {deadline now : ℤ} :
    deadlinePassed deadline now = true ↔ deadline ≠ 0 ∧ deadline < now := by
  simp [deadlinePassed, isZero, after]

@[simp] lemma deadlinePassed_zero (now : ℤ) : deadlinePassed 0 now = false := by
  simp [deadlinePassed, isZero]

lemma deadlinePassed_mono {deadline now later : ℤ} (h : deadlinePassed deadline now = true)
    (hle : now ≤ later) : deadlinePassed deadline later = true := by
  rw [deadlinePassed_iff] at h ⊢
  omega

end Mockly
