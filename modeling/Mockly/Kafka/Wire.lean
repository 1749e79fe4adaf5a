import Mockly.Go.Slices
import Mockly.Go.Strings
import Mockly.Lib.BigEndian
import Mockly.Lib.Parser

/-!
# Kafka: what is read and written

The errors of `binary.Read` and `io.ReadFull` are ignored: what is missing reads as zero. The size
of every `make` and every round of a loop are noted.
-/

namespace Mockly.Kafka

open Parser BigEndian

abbrev Reading := Parser Panic

/-- `binary.Read` of a signed number. -/
def readInt (k : ℕ) : Reading ℤ := do
  let bs ← upTo k
  pure (if bs.length < k then 0 else signed bs)

/-- `make`, for a slice or for the capacity of one. -/
def make (n : ℤ) : Reading Unit := do
  demand n
  if n < 0 then fail .makeslice else pure ()

/-- `make([]byte, n)`, and `io.ReadFull` into it. -/
def readFull (n : ℤ) : Reading GoString := do
  make n
  let bs ← upTo n.toNat
  pure (copySlice (List.replicate n.toNat 0) bs)

def turn : Reading Unit := demand 1

def readKafkaString : Reading GoString := do
  let n ← readInt 2
  if n ≤ 0 then pure [] else readFull n

/-- `readKafkaBytes`; a null is read like an empty string. -/
def readKafkaBytes : Reading GoString := do
  let n ← readInt 4
  if n < 0 then pure [] else readFull n

/-- `binary.Write` of a signed number, which is cut off to its width. -/
def writeInt (k : ℕ) (n : ℤ) : GoString := signedBytes k n

def writeKafkaString (s : GoString) : GoString := writeInt 2 s.length ++ s

def writeKafkaBytes : Option GoString → GoString
  | none => writeInt 4 (-1)
  | some b => writeInt 4 b.length ++ b

@[simp] lemma length_writeInt (k : ℕ) (n : ℤ) : (writeInt k n).length = k :=
  length_signedBytes k n

@[simp] lemma length_writeKafkaString (s : GoString) :
    (writeKafkaString s).length = 2 + s.length := by
  rw [writeKafkaString, List.length_append, length_writeInt]

@[simp] lemma length_writeKafkaBytes (b : Option GoString) :
    (writeKafkaBytes b).length = 4 + (b.getD []).length := by
  cases b <;> simp [writeKafkaBytes]

/-! ## `hash/crc32` -/

/-- One bit of the polynomial division, with the polynomial reversed. -/
def crcBit (c : UInt32) : UInt32 :=
  if c &&& 1 = 1 then (c >>> 1) ^^^ 0xEDB88320 else c >>> 1

def checksumIEEE (bs : GoString) : UInt32 :=
  ~~~bs.foldl (fun c b => crcBit^[8] (c ^^^ b.toUInt32)) 0xFFFFFFFF

example : checksumIEEE (go "123456789") = 0xCBF43926 := by decide +kernel

/-! ## Reading what was written -/

/-- `n` is a number of `k` bytes. -/
def Fits (k : ℕ) (n : ℤ) : Prop := -(256 ^ k : ℕ) ≤ 2 * n ∧ 2 * n < (256 ^ k : ℕ)

instance (k : ℕ) (n : ℤ) : Decidable (Fits k n) :=
  inferInstanceAs (Decidable (_ ∧ _))

variable {k : ℕ} {n : ℤ}

lemma signed_writeInt (h : Fits k n) : signed (writeInt k n) = n :=
  signed_signedBytes_of_mem h.1 h.2

lemma fits_length {α : Type} {xs : List α} (h : 2 * xs.length < 256 ^ k) : Fits k xs.length := by
  constructor <;> omega

lemma reads_readInt_bytes {bs : GoString} (h : bs.length = k) :
    Reads (readInt k) bs (signed bs) := by
  refine (reads_upTo h).bind_pure ?_
  rw [if_neg (by omega)]
  exact reads_pure _

lemma reads_readInt (h : Fits k n) : Reads (readInt k) (writeInt k n) n := by
  have hread := reads_readInt_bytes (length_writeInt k n)
  rwa [signed_writeInt h] at hread

lemma reads_turn : Reads turn [] () := reads_demand 1

lemma reads_make (h : 0 ≤ n) : Reads (make n) [] () := by
  refine (reads_demand n).of_nil ?_
  rw [if_neg (not_lt.mpr h)]
  exact reads_pure ()

lemma reads_readFull (s : GoString) : Reads (readFull s.length) s s := by
  refine (reads_make (Int.natCast_nonneg _)).of_nil ?_
  rw [Int.toNat_natCast]
  refine (reads_upTo rfl).bind_pure ?_
  have hcopy : copySlice (List.replicate s.length 0) s = s := by simp [copySlice]
  rw [hcopy]
  exact reads_pure s

lemma reads_readKafkaString {s : GoString} (h : 2 * s.length < 256 ^ 2) :
    Reads readKafkaString (writeKafkaString s) s := by
  refine (reads_readInt (fits_length h)).bind ?_
  split_ifs with hs
  · have hnil : s = [] := List.length_eq_zero_iff.mp (by omega)
    rw [hnil]
    exact reads_pure []
  · exact reads_readFull s

lemma reads_readKafkaBytes {b : Option GoString} (h : 2 * (b.getD []).length < 256 ^ 4) :
    Reads readKafkaBytes (writeKafkaBytes b) (b.getD []) := by
  cases b with
  | none => exact (reads_readInt (by decide : Fits 4 (-1))).bind_pure (reads_pure [])
  | some b =>
    refine (reads_readInt (fits_length h)).bind ?_
    rw [if_neg (by omega)]
    exact reads_readFull b

end Mockly.Kafka
