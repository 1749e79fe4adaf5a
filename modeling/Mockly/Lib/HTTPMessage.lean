import Mathlib

/-!
# HTTP/1 messages

All that is asked of a `LineReader` is that a line without CR and LF, with a CRLF behind it, is read
as that line.

Main result: **`parse_write`**.
-/

namespace HTTPMessage

open List

abbrev Text := List UInt8

def CR : UInt8 := 0x0D

def LF : UInt8 := 0x0A

def colon : UInt8 := 0x3A

def SP : UInt8 := 0x20

def HTAB : UInt8 := 0x09

/-! ## Lines -/

def OneLine (s : Text) : Prop := CR ∉ s ∧ LF ∉ s

lemma OneLine.append {s t : Text} (hs : OneLine s) (ht : OneLine t) : OneLine (s ++ t) := by
  simp only [OneLine, mem_append, not_or]
  exact ⟨⟨hs.1, ht.1⟩, hs.2, ht.2⟩

lemma oneLine_cons {b : UInt8} {s : Text} :
    OneLine (b :: s) ↔ (b ≠ CR ∧ b ≠ LF) ∧ OneLine s := by
  simp only [OneLine, mem_cons, not_or, ne_comm (a := b)]
  tauto

/-- A reader of lines. -/
structure LineReader where
  /-- The first line, and what is behind its end. -/
  cut : Text → Option (Text × Text)
  cut_line : ∀ line rest, OneLine line → cut (line ++ CR :: LF :: rest) = some (line, rest)

def cutCRLF : Text → Option (Text × Text)
  | [] => none
  | b :: s =>
    if b = CR ∧ s.head? = some LF then some ([], s.tail)
    else (cutCRLF s).map fun p => (b :: p.1, p.2)

def cutAny : Text → Option (Text × Text)
  | [] => none
  | b :: s =>
    if b = LF then some ([], s)
    else if b = CR then some ([], if s.head? = some LF then s.tail else s)
    else (cutAny s).map fun p => (b :: p.1, p.2)

def strict : LineReader where
  cut := cutCRLF
  cut_line line rest h := by
    induction line with
    | nil => simp [cutCRLF]
    | cons b line ih =>
      obtain ⟨hb, hline⟩ := oneLine_cons.mp h
      simp [cutCRLF, hb.1, ih hline]

/-- A reader that takes whatever may be meant for a line end. -/
def liberal : LineReader where
  cut := cutAny
  cut_line line rest h := by
    induction line with
    | nil => simp [cutAny, CR, LF]
    | cons b line ih =>
      obtain ⟨hb, hline⟩ := oneLine_cons.mp h
      simp [cutAny, hb.1, hb.2, ih hline]

/-- The lines up to the first empty one, and what is behind it. -/
def readLines (r : LineReader) : ℕ → Text → Option (List Text × Text)
  | 0, _ => none
  | n + 1, s =>
    match r.cut s with
    | none => none
    | some ([], rest) => some ([], rest)
    | some (b :: line, rest) => (readLines r n rest).map fun p => ((b :: line) :: p.1, p.2)

def writeLines (lines : List Text) : Text := lines.flatMap fun line => line ++ [CR, LF]

lemma writeLines_cons (line : Text) (lines : List Text) :
    writeLines (line :: lines) = line ++ CR :: LF :: writeLines lines := by
  simp [writeLines]

lemma readLines_writeLines (r : LineReader) {lines : List Text}
    (h : ∀ line ∈ lines, line ≠ [] ∧ OneLine line) (rest : Text) {n : ℕ} (hn : lines.length < n) :
    readLines r n (writeLines lines ++ CR :: LF :: rest) = some (lines, rest) := by
  induction lines generalizing n with
  | nil =>
    obtain ⟨n, rfl⟩ := Nat.exists_eq_succ_of_ne_zero (Nat.ne_zero_of_lt hn)
    have hcut := r.cut_line [] rest ⟨not_mem_nil, not_mem_nil⟩
    rw [nil_append] at hcut
    simp [readLines, writeLines, hcut]
  | cons line lines ih =>
    obtain ⟨n, rfl⟩ := Nat.exists_eq_succ_of_ne_zero (Nat.ne_zero_of_lt hn)
    obtain ⟨⟨hne, hline⟩, hlines⟩ := forall_mem_cons.mp h
    obtain ⟨b, line, rfl⟩ := exists_cons_of_ne_nil hne
    rw [length_cons] at hn
    have hcut := r.cut_line (b :: line) (writeLines lines ++ CR :: LF :: rest) hline
    rw [writeLines_cons, append_assoc]
    change readLines r (n + 1)
      (b :: line ++ CR :: LF :: (writeLines lines ++ CR :: LF :: rest)) = _
    rw [readLines, hcut]
    simp [ih hlines (Nat.lt_of_succ_lt_succ hn)]

/-! ## Fields -/

def isBlank (b : UInt8) : Bool := b == SP || b == HTAB

def trimBlanks (s : Text) : Text :=
  ((s.dropWhile isBlank).reverse.dropWhile isBlank).reverse

lemma trimBlanks_eq_self {s : Text} (h : ∀ b ∈ s, isBlank b = false) : trimBlanks s = s := by
  have hdrop : ∀ t : Text, (∀ b ∈ t, isBlank b = false) → t.dropWhile isBlank = t := by
    intro t ht
    cases t with
    | nil => rfl
    | cons b t => rw [dropWhile_cons_of_neg (by simp [ht b mem_cons_self])]
  rw [trimBlanks, hdrop s h, hdrop _ fun b hb => h b (mem_reverse.mp hb), reverse_reverse]

def notColon (b : UInt8) : Bool := b != colon

def parseField (line : Text) : Option (Text × Text) :=
  let name := line.takeWhile notColon
  match line.dropWhile notColon with
  | [] => none
  | _ :: value => if name.any isBlank then none else some (name, trimBlanks value)

def writeField (f : Text × Text) : Text := f.1 ++ colon :: SP :: f.2

/-- Something that can be written in the place of a name. -/
def IsName (name : Text) : Prop :=
  OneLine name ∧ colon ∉ name ∧ ∀ b ∈ name, isBlank b = false

lemma parseField_writeField {f : Text × Text} (h : IsName f.1) :
    parseField (writeField f) = some (f.1, trimBlanks f.2) := by
  obtain ⟨name, value⟩ := f
  obtain ⟨-, hcolon, hblank⟩ := h
  have hname : ∀ b ∈ name, notColon b = true := by
    intro b hb
    rw [notColon, bne_iff_ne]
    rintro rfl
    exact hcolon hb
  have htake : (name ++ colon :: SP :: value).takeWhile notColon = name := by
    rw [takeWhile_append_of_pos hname]
    simp [notColon]
  have hdrop : (name ++ colon :: SP :: value).dropWhile notColon = colon :: SP :: value := by
    rw [dropWhile_append_of_pos hname]
    simp [notColon]
  have hany : name.any isBlank = false := by
    rw [any_eq_false]
    intro b hb
    simp [hblank b hb]
  have htrim : trimBlanks (SP :: value) = trimBlanks value := by
    simp [trimBlanks, isBlank]
  simp [parseField, writeField, htake, hdrop, hany, htrim]

/-- Field names are the same up to the case of ASCII letters. -/
def lowerByte (b : UInt8) : UInt8 := if 0x41 ≤ b ∧ b ≤ 0x5A then b + 32 else b

def sameName (a b : Text) : Bool := a.map lowerByte == b.map lowerByte

/-! ## Messages -/

structure Message where
  startLine : Text
  fields : List (Text × Text)
  body : Text

/-- A line takes at least two bytes, so that there are no more lines than bytes. -/
def parse (r : LineReader) (s : Text) : Option Message :=
  match readLines r s.length s with
  | some (startLine :: lines, body) =>
    (lines.mapM parseField).map fun fields => ⟨startLine, fields, body⟩
  | _ => none

/-- The bytes of a message. -/
def write (m : Message) : Text :=
  writeLines (m.startLine :: m.fields.map writeField) ++ CR :: LF :: m.body

lemma length_le_writeLines (lines : List Text) : lines.length ≤ (writeLines lines).length := by
  induction lines with
  | nil => exact le_rfl
  | cons line lines ih =>
    rw [writeLines_cons, length_append, length_cons, length_cons, length_cons]
    omega

lemma mapM_parseField {fields : List (Text × Text)} (h : ∀ f ∈ fields, IsName f.1) :
    (fields.map writeField).mapM parseField =
      some (fields.map fun f => (f.1, trimBlanks f.2)) := by
  induction fields with
  | nil => rfl
  | cons f fields ih =>
    obtain ⟨hf, hfields⟩ := forall_mem_cons.mp h
    simp [parseField_writeField hf, ih hfields]

/-- **Every reader reads what was written.** -/
theorem parse_write (r : LineReader) {m : Message} (hstart : m.startLine ≠ [] ∧ OneLine m.startLine)
    (hfields : ∀ f ∈ m.fields, IsName f.1 ∧ OneLine f.2) :
    parse r (write m) =
      some { m with fields := m.fields.map fun f => (f.1, trimBlanks f.2) } := by
  have hlines : ∀ line ∈ m.startLine :: m.fields.map writeField, line ≠ [] ∧ OneLine line := by
    rw [forall_mem_cons]
    refine ⟨hstart, fun line hline => ?_⟩
    obtain ⟨f, hf, rfl⟩ := mem_map.mp hline
    obtain ⟨hname, hvalue⟩ := hfields f hf
    refine ⟨by simp [writeField], hname.1.append ?_⟩
    rw [oneLine_cons, oneLine_cons]
    exact ⟨by decide, by decide, hvalue⟩
  have hfuel : (m.startLine :: m.fields.map writeField).length < (write m).length := by
    have := length_le_writeLines (m.startLine :: m.fields.map writeField)
    simp only [write, length_append, length_cons] at this ⊢
    omega
  have hread := readLines_writeLines r hlines m.body hfuel
  rw [parse, write] at *
  rw [hread]
  simp [mapM_parseField fun f hf => (hfields f hf).1]

end HTTPMessage
