import Mathlib

/-!
# Go strings

A Go `string` is a sequence of bytes; a Lean literal is turned into its UTF-8 bytes by `go`. Case
mapping of runes beyond ASCII is a parameter (`CaseTable`).
-/

namespace Mockly

/-- A Go `string`: its bytes. -/
abbrev GoString := List UInt8

instance : LawfulBEq GoString := inferInstanceAs (LawfulBEq (List UInt8))

/-- The bytes of a literal. -/
def go (s : String) : GoString := s.toList.flatMap String.utf8EncodeChar

/-! ## Prefixes, suffixes and substrings -/

def hasPrefix (s p : GoString) : Bool := p.isPrefixOf s

def hasSuffix (s p : GoString) : Bool := p.isSuffixOf s

def contains (s sub : GoString) : Bool := decide (sub <:+: s)

/-- `strings.Index` and `bytes.Index`; absent stands for -1. -/
def index (s sub : GoString) : Option ℕ := s.tails.findIdx? sub.isPrefixOf

def trimPrefix (s p : GoString) : GoString :=
  if hasPrefix s p then s.drop p.length else s

def trimSuffix (s p : GoString) : GoString :=
  if hasSuffix s p then s.take (s.length - p.length) else s

/-- `strings.Split` for a separator of one byte. -/
def split (s : GoString) (sep : UInt8) : List GoString := s.splitOn sep

def join (ss : List GoString) (sep : GoString) : GoString := sep.intercalate ss

/-! ## Runes

A rune is the natural number of its code point.
-/

/-- `utf8.RuneError`, which every undecodable byte reads as. -/
def runeError : ℕ := 0xFFFD

/-- A continuation byte, restricted to the range its lead byte allows. -/
def isCont (lo hi : UInt8) (b : UInt8) : Bool := lo ≤ b && b ≤ hi

/-- `utf8.DecodeRune`: the first rune of the string and how many bytes it takes.  An invalid
encoding is `RuneError` of width one. -/
def decodeRune : GoString → ℕ × ℕ
  | [] => (runeError, 0)
  | b0 :: rest =>
    if b0 < 0x80 then (b0.toNat, 1)
    else if 0xC2 ≤ b0 && b0 ≤ 0xDF then
      match rest with
      | b1 :: _ =>
        if isCont 0x80 0xBF b1 then ((b0.toNat - 0xC0) * 64 + (b1.toNat - 0x80), 2)
        else (runeError, 1)
      | _ => (runeError, 1)
    else if 0xE0 ≤ b0 && b0 ≤ 0xEF then
      match rest with
      | b1 :: b2 :: _ =>
        let lo := if b0 = 0xE0 then 0xA0 else 0x80
        let hi := if b0 = 0xED then 0x9F else 0xBF
        if isCont lo hi b1 && isCont 0x80 0xBF b2 then
          ((b0.toNat - 0xE0) * 4096 + (b1.toNat - 0x80) * 64 + (b2.toNat - 0x80), 3)
        else (runeError, 1)
      | _ => (runeError, 1)
    else if 0xF0 ≤ b0 && b0 ≤ 0xF4 then
      match rest with
      | b1 :: b2 :: b3 :: _ =>
        let lo := if b0 = 0xF0 then 0x90 else 0x80
        let hi := if b0 = 0xF4 then 0x8F else 0xBF
        if isCont lo hi b1 && isCont 0x80 0xBF b2 && isCont 0x80 0xBF b3 then
          ((b0.toNat - 0xF0) * 262144 + (b1.toNat - 0x80) * 4096 + (b2.toNat - 0x80) * 64
            + (b3.toNat - 0x80), 4)
        else (runeError, 1)
      | _ => (runeError, 1)
    else (runeError, 1)

/-- The runes a `range` loop visits, each with the bytes it was read from. -/
def segments (s : GoString) : List (ℕ × GoString) := loop s.length s
where
  /-- One rune a turn; the fuel is the number of bytes, and every turn takes at least one. -/
  loop : ℕ → GoString → List (ℕ × GoString)
    | 0, _ => []
    | _, [] => []
    | fuel + 1, s@(_ :: _) =>
      let (r, n) := decodeRune s
      (r, s.take n) :: loop fuel (s.drop n)

def runes (s : GoString) : List ℕ := (segments s).map Prod.fst

/-- `utf8.AppendRune` to an empty slice. -/
def encodeRune (r : ℕ) : GoString :=
  if r < 0x80 then [UInt8.ofNat r]
  else if r < 0x800 then [UInt8.ofNat (0xC0 + r / 64), UInt8.ofNat (0x80 + r % 64)]
  else if r < 0x10000 then
    [UInt8.ofNat (0xE0 + r / 4096), UInt8.ofNat (0x80 + r / 64 % 64), UInt8.ofNat (0x80 + r % 64)]
  else
    [UInt8.ofNat (0xF0 + r / 262144), UInt8.ofNat (0x80 + r / 4096 % 64),
      UInt8.ofNat (0x80 + r / 64 % 64), UInt8.ofNat (0x80 + r % 64)]

/-! ## Case -/

def asciiLower (r : ℕ) : ℕ := if 0x41 ≤ r ∧ r ≤ 0x5A then r + 32 else r

/-- The case tables of package `unicode`. `fold` picks one representative of each
`unicode.SimpleFold` orbit; the Kelvin sign and the long s are the two runes beyond ASCII with an
ASCII letter in theirs. -/
structure CaseTable where
  fold : ℕ → ℕ
  lower : ℕ → ℕ
  fold_ascii : ∀ r, r < 0x80 → fold r = asciiLower r
  fold_kelvin : fold 0x212A = 0x6B
  fold_longS : fold 0x17F = 0x73
  fold_other : ∀ r, 0x80 ≤ r → r ≠ 0x212A → r ≠ 0x17F → 0x80 ≤ fold r
  lower_ascii : ∀ r, r < 0x80 → lower r = asciiLower r

/-- A table that knows no case beyond ASCII apart from the two runes that fold into it. -/
def asciiTable : CaseTable where
  fold r := if r = 0x212A then 0x6B else if r = 0x17F then 0x73 else asciiLower r
  lower := asciiLower
  fold_ascii := by
    intro r h
    rw [if_neg (by omega), if_neg (by omega)]
  fold_kelvin := rfl
  fold_longS := rfl
  fold_other := by
    intro r h hk hs
    rw [if_neg hk, if_neg hs, asciiLower, if_neg (by omega)]
    exact h
  lower_ascii := fun _ _ => rfl

/-- `strings.EqualFold`: equal rune by rune up to simple case folding. -/
def equalFold (ct : CaseTable) (s t : GoString) : Bool :=
  (runes s).map ct.fold == (runes t).map ct.fold

@[simp] lemma equalFold_self (ct : CaseTable) (s : GoString) : equalFold ct s s = true := by
  simp [equalFold]

def toLower (ct : CaseTable) (s : GoString) : GoString :=
  (runes s).flatMap fun r => encodeRune (ct.lower r)

/-- `unicode.ToUpper`.  The dotless i and the long s are the two runes beyond ASCII whose upper
case is an ASCII letter. -/
structure UpperTable where
  upper : ℕ → ℕ
  upper_ascii : ∀ r, r < 0x80 → upper r = if 0x61 ≤ r ∧ r ≤ 0x7A then r - 32 else r
  upper_dotlessI : upper 0x131 = 0x49
  upper_longS : upper 0x17F = 0x53

/-- A table that knows no case beyond ASCII apart from the two runes that become ASCII letters. -/
def asciiUpperTable : UpperTable where
  upper r :=
    if r = 0x131 then 0x49 else if r = 0x17F then 0x53
    else if 0x61 ≤ r ∧ r ≤ 0x7A then r - 32 else r
  upper_ascii := by
    intro r h
    rw [if_neg (by omega), if_neg (by omega)]
  upper_dotlessI := rfl
  upper_longS := rfl

def toUpper (ut : UpperTable) (s : GoString) : GoString :=
  (runes s).flatMap fun r => encodeRune (ut.upper r)

/-! ## White space -/

def isSpace (r : ℕ) : Bool :=
  (0x09 ≤ r && r ≤ 0x0D) || r == 0x20 || r == 0x85 || r == 0xA0 || r == 0x1680 ||
    (0x2000 ≤ r && r ≤ 0x200A) || r == 0x2028 || r == 0x2029 || r == 0x202F || r == 0x205F ||
    r == 0x3000

def fields (s : GoString) : List GoString :=
  (((segments s).splitOnP fun p => isSpace p.1).filter (· ≠ [])).map fun f => f.flatMap Prod.snd

/-- `strings.TrimRight` for a set of single bytes. -/
def trimRight (s : GoString) (cutset : List UInt8) : GoString :=
  (s.reverse.dropWhile fun b => decide (b ∈ cutset)).reverse

/-- `strings.Trim` for a set of single bytes. -/
def trim (s : GoString) (cutset : List UInt8) : GoString :=
  trimRight (s.dropWhile fun b => decide (b ∈ cutset)) cutset

def trimSpace (s : GoString) : GoString :=
  let blank : ℕ × GoString → Bool := fun p => isSpace p.1
  ((((segments s).dropWhile blank).reverse.dropWhile blank).reverse).flatMap Prod.snd

/-! ## Header names -/

/-- A byte that may occur in a header field name (RFC 7230 `tchar`). -/
def validHeaderFieldByte (b : UInt8) : Bool :=
  (0x30 ≤ b && b ≤ 0x39) || (0x41 ≤ b && b ≤ 0x5A) || (0x61 ≤ b && b ≤ 0x7A) ||
    (go "!#$%&'*+-.^_|~").contains b || b == 0x60

/-- Upper-case the first letter of every dash-separated word, lower-case the rest. -/
def canonicalBytes : Bool → GoString → GoString
  | _, [] => []
  | upper, b :: bs =>
    let c :=
      if upper && 0x61 ≤ b && b ≤ 0x7A then b - 32
      else if !upper && 0x41 ≤ b && b ≤ 0x5A then b + 32
      else b
    c :: canonicalBytes (c == 0x2D) bs

/-- `http.CanonicalHeaderKey`.  A name with a byte no header name may contain is left alone. -/
def canonicalHeaderKey (s : GoString) : GoString :=
  if s.all validHeaderFieldByte then canonicalBytes true s else s

example : canonicalHeaderKey (go "content-type") = go "Content-Type" := by decide

end Mockly
