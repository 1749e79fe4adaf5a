import Mathlib

/-!
# A reader of Server-Sent Events

A line ends with CR, LF or the two together (`normalize`); it is a field, up to its first colon,
with the value behind it; a blank line ends an event.
-/

namespace SSE

open List

abbrev Text := List UInt8

def CR : UInt8 := 0x0D

def LF : UInt8 := 0x0A

def NUL : UInt8 := 0x00

def colon : UInt8 := 0x3A

def space : UInt8 := 0x20

/-! ## Line ends -/

def normalize : Text → Text
  | [] => []
  | b :: s =>
    if b = CR then if s.head? = some LF then normalize s else LF :: normalize s
    else b :: normalize s

def noLoneCR : Text → Bool
  | [] => true
  | b :: s => (b != CR || s.head? == some LF) && noLoneCR s

lemma noLoneCR_cons (b : UInt8) (s : Text) :
    noLoneCR (b :: s) = ((b != CR || s.head? == some LF) && noLoneCR s) := rfl

lemma CR_notMem_normalize (s : Text) : CR ∉ normalize s := by
  induction s with
  | nil => exact not_mem_nil
  | cons b s ih =>
    rw [normalize]
    split_ifs with hb hs
    · exact ih
    · rw [mem_cons, not_or]
      exact ⟨by decide, ih⟩
    · rw [mem_cons, not_or]
      exact ⟨Ne.symm hb, ih⟩

variable {s : Text}

lemma normalize_of_notMem (h : CR ∉ s) : normalize s = s := by
  induction s with
  | nil => rfl
  | cons b s ih =>
    rw [mem_cons, not_or] at h
    rw [normalize, if_neg (Ne.symm h.1), ih h.2]

lemma normalize_append_of_notMem (h : CR ∉ s) (t : Text) :
    normalize (s ++ t) = s ++ normalize t := by
  induction s with
  | nil => rfl
  | cons b s ih =>
    rw [mem_cons, not_or] at h
    rw [cons_append, normalize, if_neg (Ne.symm h.1), ih h.2, cons_append]

lemma head?_append_LF (s t : Text) : (s ++ LF :: t).head? = (s ++ [LF]).head? := by
  cases s <;> rfl

lemma normalize_append_LF (s t : Text) :
    normalize (s ++ LF :: t) = normalize (s ++ [LF]) ++ normalize t := by
  induction s with
  | nil => rfl
  | cons b s ih =>
    rw [cons_append, cons_append, normalize, normalize, head?_append_LF, ih]
    split_ifs <;> rfl

lemma normalize_concat_LF (s : Text) :
    normalize (s ++ [LF]) =
      if s.getLast? = some CR then normalize s else normalize s ++ [LF] := by
  induction s with
  | nil => rfl
  | cons b s ih =>
    cases s with
    | nil =>
      by_cases hb : b = CR
      · rw [hb]
        rfl
      · rw [List.getLast?_singleton, if_neg fun h => hb (Option.some.inj h), cons_append,
          normalize, normalize, if_neg hb, if_neg hb]
        rfl
    | cons c s =>
      have hhead : (c :: s ++ [LF]).head? = (c :: s).head? := rfl
      rw [List.getLast?_cons_cons, cons_append, normalize, normalize, hhead, ih]
      split_ifs <;> rfl

lemma count_normalize (s : Text) : s.count LF ≤ (normalize s).count LF := by
  induction s with
  | nil => exact Nat.le_refl _
  | cons b s ih =>
    rw [normalize]
    split_ifs with hb hs
    · rwa [hb, count_cons_of_ne (by decide)]
    · rw [hb, count_cons_of_ne (by decide), count_cons_self]
      exact Nat.le_succ_of_le ih
    · rw [count_cons, count_cons]
      exact Nat.add_le_add_right ih _

lemma noLoneCR_of_count (h : (normalize s).count LF ≤ s.count LF) : noLoneCR s = true := by
  induction s with
  | nil => rfl
  | cons b s ih =>
    rw [normalize] at h
    rw [noLoneCR, Bool.and_eq_true, Bool.or_eq_true, bne_iff_ne, beq_iff_eq]
    split_ifs at h with hb hs
    · rw [hb, count_cons_of_ne (by decide)] at h
      exact ⟨Or.inr hs, ih h⟩
    · rw [hb, count_cons_self, count_cons_of_ne (by decide)] at h
      exact absurd (count_normalize s) (by omega)
    · rw [count_cons, count_cons] at h
      exact ⟨Or.inl hb, ih (Nat.le_of_add_le_add_right h)⟩

lemma count_normalize_of_noLoneCR (h : noLoneCR s = true) :
    (normalize s).count LF = s.count LF := by
  induction s with
  | nil => rfl
  | cons b s ih =>
    rw [noLoneCR, Bool.and_eq_true, Bool.or_eq_true, bne_iff_ne, beq_iff_eq] at h
    rw [normalize]
    split_ifs with hb hs
    · rw [hb, count_cons_of_ne (by decide), ih h.2]
    · exact absurd (h.1.resolve_left (not_not.mpr hb)) hs
    · rw [count_cons, count_cons, ih h.2]

lemma noLoneCR_append_LF (s t : Text) :
    noLoneCR (s ++ LF :: t) = (noLoneCR (s ++ [LF]) && noLoneCR t) := by
  induction s with
  | nil => rfl
  | cons b s ih =>
    rw [cons_append, cons_append, noLoneCR, noLoneCR, head?_append_LF, ih, Bool.and_assoc]

lemma noLoneCR_iff : noLoneCR s = true ↔ noLoneCR (s ++ [LF]) = true ∧ s.getLast? ≠ some CR := by
  induction s with
  | nil => exact ⟨fun _ => ⟨rfl, by simp⟩, fun _ => rfl⟩
  | cons b s ih =>
    cases s with
    | nil =>
      by_cases hb : b = CR
      · rw [hb]
        decide
      · have hne : (b != CR) = true := bne_iff_ne.mpr hb
        rw [cons_append, noLoneCR_cons b, noLoneCR_cons b, hne, List.getLast?_singleton]
        exact ⟨fun _ => ⟨rfl, fun h => hb (Option.some.inj h)⟩, fun _ => rfl⟩
    | cons c s =>
      have hhead : (c :: s ++ [LF]).head? = (c :: s).head? := rfl
      rw [List.getLast?_cons_cons, cons_append, noLoneCR_cons b, noLoneCR_cons b, hhead,
        Bool.and_eq_true, Bool.and_eq_true, ih, and_assoc]

lemma exists_normalize_concat_LF (s : Text) : ∃ u, normalize (s ++ [LF]) = u ++ [LF] := by
  induction s with
  | nil => exact ⟨[], rfl⟩
  | cons b s ih =>
    obtain ⟨u, hu⟩ := ih
    rw [cons_append, normalize, hu]
    split_ifs
    · exact ⟨u, rfl⟩
    · exact ⟨LF :: u, rfl⟩
    · exact ⟨b :: u, rfl⟩

/-! ## Lines -/

/-- The lines of a normalized text, without what is behind the last line end. -/
def lines : Text → List Text
  | [] => []
  | b :: s =>
    if b = LF then [] :: lines s
    else
      match lines s with
      | [] => []
      | l :: ls => (b :: l) :: ls

variable {b : UInt8}

lemma lines_cons_of_nil (hb : b ≠ LF) (h : lines s = []) : lines (b :: s) = [] := by
  rw [lines, if_neg hb, h]

variable {l : Text}

lemma lines_cons_of_cons {ls : List Text} (hb : b ≠ LF) (h : lines s = l :: ls) :
    lines (b :: s) = (b :: l) :: ls := by
  rw [lines, if_neg hb, h]

lemma exists_lines_eq_cons (h : LF ∈ s) : ∃ l ls, lines s = l :: ls := by
  induction s with
  | nil => cases h
  | cons b s ih =>
    by_cases hb : b = LF
    · exact ⟨[], lines s, by rw [lines, if_pos hb]⟩
    · obtain ⟨l, ls, hl⟩ := ih ((mem_cons.mp h).resolve_left (Ne.symm hb))
      exact ⟨b :: l, ls, lines_cons_of_cons hb hl⟩

lemma lines_append_LF (h : LF ∉ l) (s : Text) : lines (l ++ LF :: s) = l :: lines s := by
  induction l with
  | nil => rw [nil_append, lines, if_pos rfl]
  | cons b l ih =>
    rw [mem_cons, not_or] at h
    exact lines_cons_of_cons (Ne.symm h.1) (ih h.2)

lemma lines_append (s t : Text) : lines (s ++ LF :: t) = lines (s ++ [LF]) ++ lines t := by
  induction s with
  | nil => rw [nil_append, nil_append, lines, if_pos rfl, lines, if_pos rfl]; rfl
  | cons b s ih =>
    by_cases hb : b = LF
    · rw [cons_append, cons_append, lines, if_pos hb, lines, if_pos hb, ih]
      rfl
    · have hend : LF ∈ s ++ [LF] := mem_append_right s mem_cons_self
      obtain ⟨l, ls, hl⟩ := exists_lines_eq_cons hend
      rw [cons_append, cons_append, lines_cons_of_cons hb hl]
      rw [hl, cons_append] at ih
      rw [lines_cons_of_cons hb ih, cons_append]

lemma lines_normalize_append (s t : Text) :
    lines (normalize (s ++ LF :: t)) = lines (normalize (s ++ [LF])) ++ lines (normalize t) := by
  obtain ⟨u, hu⟩ := exists_normalize_concat_LF s
  rw [normalize_append_LF, hu, append_assoc, singleton_append, lines_append]

lemma mem_of_mem_lines (hl : l ∈ lines s) (hb : b ∈ l) : b ∈ s ∧ b ≠ LF := by
  induction s generalizing l b with
  | nil => cases hl
  | cons c s ih =>
    by_cases hc : c = LF
    · rw [lines, if_pos hc] at hl
      obtain rfl | hl := mem_cons.mp hl
      · cases hb
      · exact (ih hl hb).imp_left (mem_cons_of_mem c)
    · cases hs : lines s with
      | nil =>
        rw [lines_cons_of_nil hc hs] at hl
        cases hl
      | cons k ks =>
        rw [hs] at ih
        rw [lines_cons_of_cons hc hs] at hl
        obtain rfl | hl := mem_cons.mp hl
        · obtain rfl | hb := mem_cons.mp hb
          · exact ⟨mem_cons_self, hc⟩
          · exact (ih mem_cons_self hb).imp_left (mem_cons_of_mem c)
        · exact (ih (mem_cons_of_mem k hl) hb).imp_left (mem_cons_of_mem c)

lemma sum_length_lines (s : Text) : ((lines s).map List.length).sum + s.count LF ≤ s.length := by
  induction s with
  | nil => exact Nat.le_refl _
  | cons c s ih =>
    by_cases hc : c = LF
    · rw [lines, if_pos hc, hc, count_cons_self, map_cons, sum_cons, length_nil, length_cons]
      omega
    · rw [count_cons_of_ne hc, length_cons]
      cases hs : lines s with
      | nil =>
        rw [hs] at ih
        rw [lines_cons_of_nil hc hs]
        omega
      | cons k ks =>
        rw [hs, map_cons, sum_cons] at ih
        rw [lines_cons_of_cons hc hs, map_cons, sum_cons, length_cons]
        omega

/-! ## The reader -/

structure Message where
  event : Text
  data : Text
  lastID : Text
  deriving DecidableEq

/-- The buffers of the reader, at the beginning of a line. -/
structure Reader where
  data : Text := []
  event : Text := []
  lastID : Text := []

def fieldName (l : Text) : Text := l.takeWhile (· != colon)

/-- Behind the colon, and behind one space if there is one. -/
def fieldValue (l : Text) : Text :=
  let value := (l.dropWhile (· != colon)).tail
  if value.head? = some space then value.tail else value

def dataField : Text := [0x64, 0x61, 0x74, 0x61]

lemma dataField_clean : ∀ b ∈ dataField, b ≠ CR ∧ b ≠ LF := by simp [dataField, CR, LF]

def eventField : Text := [0x65, 0x76, 0x65, 0x6E, 0x74]

def idField : Text := [0x69, 0x64]

variable {name : Text} (r : Reader)

namespace Reader

def field (r : Reader) (name value : Text) : Reader :=
  if name = dataField then { r with data := r.data ++ value ++ [LF] }
  else if name = eventField then { r with event := value }
  else if name = idField ∧ NUL ∉ value then { r with lastID := value }
  else r

@[simp] lemma field_event (value : Text) :
    r.field eventField value = { r with event := value } := rfl

lemma field_id {value : Text} (h : NUL ∉ value) :
    r.field idField value = { r with lastID := value } := by
  rw [field, if_neg (by decide), if_neg (by decide), if_pos ⟨rfl, h⟩]

/-- One line: at a blank one the message is complete, unless there is no data. -/
def line (r : Reader) (l : Text) : Reader × List Message :=
  if l = [] then
    (⟨[], [], r.lastID⟩, if r.data = [] then [] else [⟨r.event, r.data.dropLast, r.lastID⟩])
  else (r.field (fieldName l) (fieldValue l), [])

/-- The messages in some lines. -/
def read (r : Reader) : List Text → Reader × List Message
  | [] => (r, [])
  | l :: ls => (((r.line l).1.read ls).1, (r.line l).2 ++ ((r.line l).1.read ls).2)

def readText (r : Reader) (s : Text) : Reader × List Message := r.read (lines (normalize s))

lemma read_written (hname : colon ∉ name) (value : Text) (ls : List Text) :
    r.read ((name ++ colon :: space :: value) :: ls) = (r.field name value).read ls := by
  have hnot : ∀ b ∈ name, (b != colon) = true := fun b hb => by
    rw [bne_iff_ne]
    exact fun heq => hname (heq ▸ hb)
  have hfield : fieldName (name ++ colon :: space :: value) = name := by
    rw [fieldName, takeWhile_append_of_pos hnot, takeWhile_cons_of_neg (by simp), append_nil]
  have hvalue : fieldValue (name ++ colon :: space :: value) = value := by
    rw [fieldValue, dropWhile_append_of_pos hnot, dropWhile_cons_of_neg (by simp)]
    rfl
  have hline : r.line (name ++ colon :: space :: value) = (r.field name value, []) := by
    rw [line, if_neg (by simp), hfield, hvalue]
  rw [read, hline, nil_append]

end Reader

/-! ## What can be in a message -/

/-- Names are within one line, and ids have no NUL. -/
structure Clean (event lastID : Text) : Prop where
  event : ∀ b ∈ event, b ≠ CR ∧ b ≠ LF
  lastID : ∀ b ∈ lastID, b ≠ CR ∧ b ≠ LF ∧ b ≠ NUL

lemma fieldValue_subset (l : Text) : fieldValue l ⊆ l := by
  have htail : (l.dropWhile (· != colon)).tail ⊆ l :=
    List.Subset.trans (tail_subset _) (dropWhile_suffix _).subset
  rw [fieldValue]
  split_ifs
  · exact List.Subset.trans (tail_subset _) htail
  · exact htail

lemma Clean.field {r : Reader} (h : Clean r.event r.lastID) (name : Text) {value : Text}
    (hvalue : ∀ b ∈ value, b ≠ CR ∧ b ≠ LF) :
    Clean (r.field name value).event (r.field name value).lastID := by
  rw [Reader.field]
  split_ifs with hdata hevent hid
  · exact h
  · exact ⟨hvalue, h.lastID⟩
  · exact ⟨h.event, fun b hb =>
      ⟨(hvalue b hb).1, (hvalue b hb).2, fun heq => hid.2 (heq ▸ hb)⟩⟩
  · exact h

lemma ne_of_mem_lines (hl : l ∈ lines (normalize s)) : ∀ b ∈ l, b ≠ CR ∧ b ≠ LF := fun _ hb =>
  ⟨fun heq => CR_notMem_normalize s (heq ▸ (mem_of_mem_lines hl hb).1), (mem_of_mem_lines hl hb).2⟩

lemma clean_of_mem_read {r : Reader} {ls : List Text} (h : Clean r.event r.lastID)
    (hls : ∀ l ∈ ls, ∀ b ∈ l, b ≠ CR ∧ b ≠ LF) :
    ∀ m ∈ (r.read ls).2, Clean m.event m.lastID := by
  induction ls generalizing r with
  | nil => exact fun m hm => absurd hm not_mem_nil
  | cons l ls ih =>
    rw [forall_mem_cons] at hls
    intro m hm
    rw [Reader.read, mem_append, Reader.line] at hm
    have hblank : Clean (Reader.mk [] [] r.lastID).event (Reader.mk [] [] r.lastID).lastID :=
      ⟨fun b hb => absurd hb not_mem_nil, h.lastID⟩
    split_ifs at hm
    · exact ih hblank hls.2 m (hm.resolve_left not_mem_nil)
    · obtain hm | hm := hm
      · rw [mem_singleton.mp hm]
        exact h
      · exact ih hblank hls.2 m hm
    · have hfield := h.field (fieldName l) fun b hb => hls.1 b (fieldValue_subset l hb)
      exact ih hfield hls.2 m (hm.resolve_left not_mem_nil)

def weight (l : Text) : ℕ := if fieldName l = dataField then (fieldValue l).length + 1 else 0

lemma length_fieldValue_le (l : Text) :
    (fieldName l).length + (fieldValue l).length ≤ l.length := by
  have hsplit : (fieldName l).length + (l.dropWhile (· != colon)).length = l.length := by
    rw [fieldName, ← length_append, takeWhile_append_dropWhile]
  have hvalue : (fieldValue l).length ≤ (l.dropWhile (· != colon)).length := by
    rw [fieldValue]
    split_ifs
    · rw [length_tail, length_tail]
      omega
    · rw [length_tail]
      omega
  omega

lemma weight_le (l : Text) : weight l ≤ l.length := by
  have hle := length_fieldValue_le l
  rw [weight]
  split_ifs with hdata
  · have hname : (fieldName l).length = 4 := congrArg List.length hdata
    omega
  · exact Nat.zero_le _

lemma weight_written (value : Text) : weight (dataField ++ colon :: space :: value) =
    value.length + 1 := rfl

lemma length_data_field (l : Text) :
    (r.field (fieldName l) (fieldValue l)).data.length = r.data.length + weight l := by
  rw [Reader.field, weight]
  split_ifs
  · rw [length_append, length_append, length_singleton, Nat.add_assoc]
  all_goals rfl

lemma length_data_of_mem_read (ls : List Text) :
    ∀ m ∈ (r.read ls).2, m.data.length + 1 ≤ r.data.length + (ls.map weight).sum := by
  induction ls generalizing r with
  | nil => exact fun m hm => absurd hm not_mem_nil
  | cons l ls ih =>
    intro m hm
    rw [Reader.read, mem_append, Reader.line] at hm
    rw [map_cons, sum_cons]
    split_ifs at hm with hblank hdata
    · have hm := hm.resolve_left not_mem_nil
      have hle := ih _ m hm
      rw [length_nil] at hle
      omega
    · obtain hm | hm := hm
      · have hpos := length_pos_of_ne_nil hdata
        rw [mem_singleton.mp hm, length_dropLast]
        omega
      · have hle := ih _ m hm
        rw [length_nil] at hle
        omega
    · have hle := ih _ m (hm.resolve_left not_mem_nil)
      rw [length_data_field] at hle
      omega

/-! ## Written fields -/

/-- A field with its name, a colon, a space and a line end. -/
def writeField (name value : Text) : Text := name ++ colon :: space :: (value ++ [LF])

lemma normalize_writeField (hname : CR ∉ name) (value : Text) :
    normalize (writeField name value) = name ++ colon :: space :: normalize (value ++ [LF]) := by
  have hpre : CR ∉ name ++ [colon, space] := by
    rw [mem_append, not_or]
    exact ⟨hname, by decide⟩
  have hsplit : writeField name value = (name ++ [colon, space]) ++ (value ++ [LF]) := by
    rw [writeField, append_assoc]
    rfl
  rw [hsplit, normalize_append_of_notMem hpre, append_assoc]
  rfl

lemma lines_writeField_append (name value t : Text) :
    lines (normalize (writeField name value ++ t)) =
      lines (normalize (writeField name value)) ++ lines (normalize t) := by
  have hend : ∀ rest, writeField name value ++ rest =
      (name ++ colon :: space :: value) ++ LF :: rest := by
    intro rest
    simp [writeField]
  have hnil := hend []
  rw [append_nil] at hnil
  rw [hend, lines_normalize_append, ← hnil]

lemma LF_notMem_written {value : Text} (hname : LF ∉ name) (hvalue : LF ∉ value) :
    LF ∉ name ++ colon :: space :: value := by
  rw [mem_append, mem_cons, mem_cons]
  rintro (h | h | h | h)
  · exact hname h
  · cases h
  · cases h
  · exact hvalue h

lemma Reader.read_writeField {value u : Text} (hname : ∀ b ∈ name, b ≠ CR ∧ b ≠ LF)
    (hcolon : colon ∉ name) (hu : normalize (value ++ [LF]) = u ++ [LF]) (hLF : LF ∉ u)
    (ls : List Text) :
    r.read (lines (normalize (writeField name value)) ++ ls) = (r.field name u).read ls := by
  have hline := LF_notMem_written (fun h => (hname LF h).2 rfl) hLF
  have htext : normalize (writeField name value) = (name ++ colon :: space :: u) ++ LF :: [] := by
    rw [normalize_writeField fun h => (hname CR h).1 rfl, hu]
    simp
  rw [htext, lines_append_LF hline, lines, cons_append, nil_append, read_written r hcolon]

/-! ## Written data -/

/-- A field for each line of the data. -/
def writeData (parts : List Text) : Text := parts.flatMap (writeField dataField)

def ended (parts : List Text) : Text := parts.flatMap (· ++ [LF])

variable (p : Text) (ps : List Text)

lemma ended_cons : ended (p :: ps) = p ++ LF :: ended ps := by
  simp [ended]

lemma lines_writeData_cons :
    lines (normalize (writeData (p :: ps))) =
      lines (normalize (writeField dataField p)) ++ lines (normalize (writeData ps)) := by
  rw [writeData, flatMap_cons, lines_writeField_append]
  rfl

lemma lines_writeData_append (t : Text) :
    lines (normalize (writeData ps ++ t)) =
      lines (normalize (writeData ps)) ++ lines (normalize t) := by
  induction ps with
  | nil => rfl
  | cons p ps ih =>
    have hcons : writeData (p :: ps) ++ t = writeField dataField p ++ (writeData ps ++ t) := by
      rw [writeData, flatMap_cons, append_assoc]
      rfl
    rw [hcons, lines_writeField_append, ih, lines_writeData_cons, append_assoc]

lemma sum_weight_writeField :
    ((lines (normalize (writeField dataField p))).map weight).sum +
      (normalize (p ++ [LF])).count LF ≤ (normalize (p ++ [LF])).length + 1 := by
  obtain ⟨u, hu⟩ := exists_normalize_concat_LF p
  have hmem : LF ∈ normalize (p ++ [LF]) := by
    rw [hu]
    exact mem_append_right u mem_cons_self
  obtain ⟨first, rest, hsplit, hfirst⟩ := eq_append_cons_of_mem hmem
  have hline := LF_notMem_written (show LF ∉ dataField by decide) hfirst
  have htext : normalize (writeField dataField p) =
      (dataField ++ colon :: space :: first) ++ LF :: rest := by
    rw [normalize_writeField (by decide), hsplit]
    simp
  have hothers : ((lines rest).map weight).sum ≤ ((lines rest).map List.length).sum :=
    sum_le_sum fun l _ => weight_le l
  have hsum := sum_length_lines rest
  rw [htext, lines_append_LF hline, map_cons, sum_cons, weight_written, hsplit, count_append,
    count_eq_zero.mpr hfirst, count_cons_self, length_append, length_cons]
  omega

lemma sum_weight_writeData :
    ((lines (normalize (writeData ps))).map weight).sum + (normalize (ended ps)).count LF ≤
      (normalize (ended ps)).length + ps.length := by
  induction ps with
  | nil => exact Nat.le_refl _
  | cons p ps ih =>
    have hfirst := sum_weight_writeField p
    rw [lines_writeData_cons, ended_cons, normalize_append_LF, map_append, sum_append,
      count_append, length_append, length_cons]
    omega

lemma Reader.read_writeData {ps : List Text} (hps : ∀ p ∈ ps, LF ∉ p)
    (hCR : noLoneCR (ended ps) = true) (ls : List Text) :
    r.read (lines (normalize (writeData ps)) ++ ls) =
      Reader.read { r with data := r.data ++ normalize (ended ps) } ls := by
  induction ps generalizing r with
  | nil =>
    rw [ended, flatMap_nil, normalize, append_nil]
    rfl
  | cons p ps ih =>
    rw [forall_mem_cons] at hps
    rw [ended_cons, noLoneCR_append_LF, Bool.and_eq_true] at hCR
    obtain ⟨u, hu⟩ := exists_normalize_concat_LF p
    have hLF : LF ∉ u := by
      have hcount := count_normalize_of_noLoneCR hCR.1
      rw [hu, count_append, count_append, count_eq_zero.mpr hps.1] at hcount
      exact count_eq_zero.mp (Nat.add_right_cancel hcount)
    rw [lines_writeData_cons, append_assoc, read_writeField r dataField_clean (by decide) hu hLF,
      ih _ hps.2 hCR.2, ended_cons, normalize_append_LF, hu]
    simp [Reader.field]

end SSE
