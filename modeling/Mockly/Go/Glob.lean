import Mockly.Go.Files
import Mockly.Go.Sort

/-!
# Patterns of file names

`filepath.Match` and `filepath.Glob` as documented, where the separator is a slash. A pattern with
an unfinished class or nothing behind a backslash is malformed. Names need not be UTF-8.
-/

namespace Mockly

/-! ## Patterns -/

inductive GlobTerm
  | star
  | any
  | oneOf (negated : Bool) (ranges : List (ℕ × ℕ))
  | byte (b : UInt8)

/-- `getEsc`: a character of a class, which must not end with it. -/
def getEsc (s : GoString) : Option (ℕ × GoString) := do
  let s ←
    match s with
    | [] => none
    | c :: rest =>
      if c = 0x2D ∨ c = 0x5D then none
      else if c = 0x5C then if rest = [] then none else some rest
      else some s
  let (r, n) := decodeRune s
  let rest := s.drop n
  if (r = runeError ∧ n = 1) ∨ rest = [] then none else some (r, rest)

/-- The ranges of a class up to its end; every turn takes at least one byte. -/
def parseRanges : ℕ → List (ℕ × ℕ) → GoString → Option (List (ℕ × ℕ) × GoString)
  | 0, _, _ => none
  | fuel + 1, ranges, s =>
    if s.head? = some 0x5D ∧ ranges ≠ [] then some (ranges, s.drop 1)
    else do
      let (lo, s) ← getEsc s
      if s.head? = some 0x2D then
        let (hi, s) ← getEsc (s.drop 1)
        parseRanges fuel (ranges ++ [(lo, hi)]) s
      else parseRanges fuel (ranges ++ [(lo, lo)]) s

/-- The terms of a pattern, unless it is malformed; every turn takes at least one byte. -/
def parseTerms : ℕ → GoString → Option (List GlobTerm)
  | _, [] => some []
  | 0, _ :: _ => none
  | fuel + 1, b :: s =>
    if b = 0x2A then (parseTerms fuel s).map (.star :: ·)
    else if b = 0x3F then (parseTerms fuel s).map (.any :: ·)
    else if b = 0x5B then
      let negated := s.head? = some 0x5E
      let s := if negated then s.drop 1 else s
      match parseRanges (s.length + 1) [] s with
      | none => none
      | some (ranges, s) => (parseTerms fuel s).map (.oneOf negated ranges :: ·)
    else if b = 0x5C then
      match s with
      | [] => none
      | c :: s => (parseTerms fuel s).map (.byte c :: ·)
    else (parseTerms fuel s).map (.byte b :: ·)

def parseGlob (pattern : GoString) : Option (List GlobTerm) := parseTerms pattern.length pattern

def afterStar : GoString → List GoString
  | [] => [[]]
  | c :: s => (c :: s) :: if c = 0x2F then [] else afterStar s

/-- A name against the terms of a pattern. -/
def matchTerms : List GlobTerm → GoString → Bool
  | [], s => s == []
  | .star :: ts, s => (afterStar s).any (matchTerms ts)
  | .any :: ts, s =>
    s ≠ [] && s.head? ≠ some 0x2F && matchTerms ts (s.drop (decodeRune s).2)
  | .oneOf negated ranges :: ts, s =>
    let (r, n) := decodeRune s
    s ≠ [] && (ranges.any (fun range => range.1 ≤ r && r ≤ range.2) != negated) &&
      matchTerms ts (s.drop n)
  | .byte b :: ts, s => s.head? = some b && matchTerms ts (s.drop 1)

/-- `filepath.Match`; a malformed pattern is an error. -/
def filepathMatch (pattern name : GoString) : Option Bool :=
  (parseGlob pattern).map fun ts => matchTerms ts name

example : filepathMatch (go "[^b-d]*.y?ml") (go "a*.yaml") = some true := by decide

example : filepathMatch (go "[a].yaml") (go "[a].yaml") = some false := by decide

/-- There is a special character in the text. -/
def hasMeta (p : GoString) : Bool := p.any fun b => b = 0x2A ∨ b = 0x3F ∨ b = 0x5B ∨ b = 0x5C

lemma parseGlob_of_plain {p : GoString} (h : hasMeta p = false) :
    parseGlob p = some (p.map .byte) := by
  unfold parseGlob
  induction p with
  | nil => rfl
  | cons b p ih =>
    rw [hasMeta, List.any_cons, Bool.or_eq_false_iff, decide_eq_false_iff_not] at h
    push Not at h
    obtain ⟨⟨hstar, hany, hclass, hescape⟩, hp⟩ := h
    rw [List.length_cons]
    unfold parseTerms
    rw [if_neg hstar, if_neg hany, if_neg hclass, if_neg hescape, ih hp]
    rfl

/-! ## Files -/

namespace FileSystem

variable (fs : FileSystem)

/-- `filepath.Split`: what precedes the last slash, that included, and what is behind it. -/
def split (p : GoString) : GoString × GoString :=
  let file := (p.reverse.takeWhile (· != 0x2F)).reverse
  (p.take (p.length - file.length), file)

def cleanGlobPath (p : GoString) : GoString :=
  if p = [] then go "." else if p = go "/" then p else p.dropLast

/-- The files in a directory whose names match; `none` is for a malformed pattern. -/
def globIn (dir pattern : GoString) : Option (List GoString) :=
  match fs.stat dir with
  | .ok (.dir d) =>
    let names := sortStrings d.entries.names
    match parseGlob pattern with
    | none => if names = [] then some [] else none
    | some ts => some ((names.filter (matchTerms ts)).map (pathJoin dir))
  | _ => some []

/-- `globWithLimit`, where the limit counts down; `none` is for a malformed pattern. -/
def globWithLimit : ℕ → GoString → Option (List GoString)
  | 0, _ => none
  | depth + 1, pattern =>
    if parseGlob pattern = none then none
    else if !hasMeta pattern then
      match fs.stat pattern with
      | .error _ => some []
      | .ok _ => some [pattern]
    else
      let (dir, file) := split pattern
      let dir := cleanGlobPath dir
      if !hasMeta dir then fs.globIn dir file
      else if dir = pattern then none
      else do
        let dirs ← globWithLimit depth dir
        let found ← dirs.mapM fun dir => fs.globIn dir file
        return found.flatten

def glob (pattern : GoString) : Option (List GoString) := fs.globWithLimit 10000 pattern

/-- **A pattern without special characters** finds the file of that name. -/
lemma glob_of_plain {p : GoString} (h : hasMeta p = false) {info : FileInfo}
    (hstat : fs.stat p = .ok info) : fs.glob p = some [p] := by
  rw [glob, globWithLimit, parseGlob_of_plain h, h, hstat]
  rfl

end FileSystem

end Mockly
