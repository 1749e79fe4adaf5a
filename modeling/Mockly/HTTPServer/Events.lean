import Mockly.Go.Text
import Mockly.HTTPServer.Reply
import Mockly.Lib.SSE

/-!
# Events as a client reads them

`writeStream` takes LF for the end of a line. A reader also takes CR for one, so that behind a CR in
the data a new field begins.

Main result: **`conveys_iff`**.
-/

namespace Mockly

open SSE Reader List

open SSE (CR LF NUL Reader Message noLoneCR normalize lines writeField writeData ended)

def frameText (env : Env) (wireType : GoString) (ev : HTTPStreamEvent) (data : Piece) : GoString :=
  (frameEvent env wireType ev data).flatMap Piece.text

def isSSE (env : Env) (wireType : GoString) : Bool :=
  contains (toLower env.caseTable wireType) (go "text/event-stream")

/-- **A reader at the beginning of a line gets exactly one message**, with the name of the event,
its id or else the last one there was, and the data with its line ends as LF. -/
def Conveys (env : Env) (wireType : GoString) (ev : HTTPStreamEvent) (data : Piece) : Prop :=
  ∀ lastID, readText ⟨[], [], lastID⟩ (frameText env wireType ev data) =
    let id := if ev.id = [] then lastID else ev.id
    (⟨[], [], id⟩, [⟨ev.event, normalize data.text, id⟩])

/-- A field that is left out if there is nothing to write. -/
def optionalField (name value : GoString) : GoString :=
  if value = [] then [] else writeField name value

section Frame

variable {env : Env} {wireType : GoString} {ev : HTTPStreamEvent} {data : Piece}

lemma line_eq_writeField {label name : GoString} (h : label = name ++ [colon, space])
    (value : GoString) : label ++ value ++ go "\n" = writeField name value := by
  have hend : go "\n" = [LF] := by decide
  rw [h, hend, writeField]
  simp

lemma frameText_eq (hsse : isSSE env wireType = true) :
    frameText env wireType ev data =
      optionalField eventField ev.event ++ (optionalField idField ev.id ++
        (writeData (split data.text LF) ++ [LF])) := by
  have hoptional : ∀ {label name value : GoString}, label = name ++ [colon, space] →
      (if value ≠ [] then [Piece.fixed (label ++ value ++ go "\n")] else []).flatMap Piece.text =
        optionalField name value := by
    intro label name value hlabel
    rw [optionalField, ite_not]
    split_ifs
    · rfl
    · rw [flatMap_singleton, ← line_eq_writeField hlabel]
      rfl
  have hdata : ((split data.text 0x0A).map fun line =>
      Piece.mk (go "data: " ++ line ++ go "\n") data.origin).flatMap Piece.text =
        writeData (split data.text LF) := by
    rw [flatMap_map, writeData]
    exact congrArg₂ _ (funext (line_eq_writeField (by decide))) rfl
  have hevent : go "event: " = eventField ++ [colon, space] := by decide
  have hid : go "id: " = idField ++ [colon, space] := by decide
  rw [isSSE] at hsse
  rw [frameText, frameEvent, if_pos hsse, flatMap_append, flatMap_append, flatMap_append,
    hoptional hevent, hoptional hid, hdata, append_assoc, append_assoc]
  rfl

lemma ended_split (s : GoString) : ended (split s LF) = s ++ [LF] := flatMap_split s LF

lemma length_split (s : GoString) : (split s LF).length = (s ++ [LF]).count LF := by
  have hcount : ∀ {parts : List GoString}, (∀ p ∈ parts, LF ∉ p) →
      (ended parts).count LF = parts.length := by
    intro parts hparts
    induction parts with
    | nil => rfl
    | cons p parts ih =>
      rw [forall_mem_cons] at hparts
      rw [ended_cons, count_append, count_eq_zero.mpr hparts.1,
        count_cons_self, ih hparts.2, Nat.zero_add, length_cons]
  rw [← hcount fun p hp => notMem_of_mem_split hp, ended_split]

lemma read_optionalField (r : Reader) {name value : GoString}
    (hname : ∀ b ∈ name, b ≠ CR ∧ b ≠ LF) (hcolon : colon ∉ name)
    (hvalue : ∀ b ∈ value, b ≠ CR ∧ b ≠ LF) (t : GoString) :
    r.read (lines (normalize (optionalField name value ++ t))) =
      (if value = [] then r else r.field name value).read (lines (normalize t)) := by
  rw [optionalField]
  split_ifs with hnil
  · rfl
  · have hCR : CR ∉ value ++ [LF] := by
      rw [mem_append, not_or]
      exact ⟨fun h => (hvalue CR h).1 rfl, by decide⟩
    rw [lines_writeField_append, read_writeField r hname hcolon
      (normalize_of_notMem hCR) fun h => (hvalue LF h).2 rfl]

/-- The reader behind the name and the id of an event. -/
def afterHeader (ev : HTTPStreamEvent) (lastID : GoString) : Reader :=
  ⟨[], ev.event, if ev.id = [] then lastID else ev.id⟩

lemma readText_frameText (hsse : isSSE env wireType = true) (hclean : SSE.Clean ev.event ev.id)
    (lastID : GoString) :
    readText ⟨[], [], lastID⟩ (frameText env wireType ev data) = (afterHeader ev lastID).read
        (lines (normalize (writeData (split data.text LF))) ++ [[]]) := by
  have hid : ∀ b ∈ ev.id, b ≠ CR ∧ b ≠ LF := fun b hb =>
    ⟨(hclean.lastID b hb).1, (hclean.lastID b hb).2.1⟩
  rw [frameText_eq hsse, readText, read_optionalField _ (by simp [eventField, CR, LF])
    (by decide) hclean.event, read_optionalField _ (by simp [idField, CR, LF]) (by decide) hid,
    lines_writeData_append]
  have hNUL : NUL ∉ ev.id := fun h => (hclean.lastID NUL h).2.2 rfl
  have hheader : (if ev.id = [] then
      (if ev.event = [] then (⟨[], [], lastID⟩ : Reader)
        else field ⟨[], [], lastID⟩ eventField ev.event)
      else field (if ev.event = [] then ⟨[], [], lastID⟩
        else field ⟨[], [], lastID⟩ eventField ev.event) idField ev.id) =
      afterHeader ev lastID := by
    rw [afterHeader, field_id _ hNUL, field_event]
    by_cases hevent : ev.event = [] <;> by_cases hid : ev.id = [] <;> simp [hevent, hid]
  rw [hheader]
  rfl

lemma clean_of_conveys (h : Conveys env wireType ev data) : SSE.Clean ev.event ev.id := by
  have hempty : SSE.Clean (mk [] [] []).event (mk [] [] []).lastID :=
    ⟨fun b hb => absurd hb not_mem_nil, fun b hb => absurd hb not_mem_nil⟩
  have hclean := clean_of_mem_read hempty
    fun l (hl : l ∈ lines (normalize (frameText env wireType ev data))) => ne_of_mem_lines hl
  have hread := h []
  rw [readText] at hread
  rw [hread, forall_mem_singleton] at hclean
  by_cases hid : ev.id = []
  · rw [hid]
    exact ⟨hclean.event, fun b hb => absurd hb not_mem_nil⟩
  · simpa [hid] using hclean

/-- **There is not enough to read** if a CR is alone: the lines it makes are no data, or shorter
than they are in the data. -/
lemma noLoneCR_of_conveys (hsse : isSSE env wireType = true)
    (h : Conveys env wireType ev data) : noLoneCR data.text = true := by
  have hread := h []
  rw [readText_frameText hsse (clean_of_conveys h)] at hread
  have hlen := length_data_of_mem_read (afterHeader ev [])
    (lines (normalize (writeData (split data.text LF))) ++ [[]])
  rw [hread, forall_mem_singleton, map_append, sum_append] at hlen
  have hsum := sum_weight_writeData (split data.text LF)
  rw [ended_split, length_split] at hsum
  have hcount := count_normalize (data.text ++ [LF])
  have hblank : ([[]].map weight).sum = 0 := rfl
  have hbuffer : (afterHeader ev []).data.length = 0 := rfl
  dsimp only at hlen
  rw [noLoneCR_iff]
  have hconcat := normalize_concat_LF data.text
  split_ifs at hconcat with hlast
  · rw [hconcat] at hsum hcount
    omega
  · have hlength := congrArg List.length hconcat
    rw [length_append, length_singleton] at hlength
    exact ⟨noLoneCR_of_count (by omega), hlast⟩

end Frame

/-- **An event is read as it is** exactly if its name and its id are of one line, the id has no NUL,
and every CR in the data is followed by an LF. -/
theorem conveys_iff (env : Env) (wireType : GoString) (ev : HTTPStreamEvent) (data : Piece)
    (hsse : isSSE env wireType = true) :
    Conveys env wireType ev data ↔
      SSE.Clean ev.event ev.id ∧ noLoneCR data.text = true := by
  refine ⟨fun h => ⟨clean_of_conveys h, noLoneCR_of_conveys hsse h⟩, ?_⟩
  rintro ⟨hclean, hCR⟩ lastID
  obtain ⟨hCR, hlast⟩ := noLoneCR_iff.mp hCR
  rw [readText_frameText hsse hclean, read_writeData _ (fun p => notMem_of_mem_split)
    (by rwa [ended_split]), ended_split, normalize_concat_LF, if_neg hlast]
  simp [Reader.read, Reader.line, afterHeader]

/-- Names, ids, and line ends of both usual kinds. -/
theorem conveys_tick :
    Conveys Env.basic (go "text/event-stream") { data := [], event := go "tick", id := go "7" }
      (.fixed (go "one\r\ntwo\nthree")) := by
  have hevent : go "tick" = [0x74, 0x69, 0x63, 0x6B] := by decide
  have hid : go "7" = [0x37] := by decide
  refine (conveys_iff _ _ _ _ (by decide)).mpr ⟨⟨?_, ?_⟩, by decide⟩
  · simp [hevent, CR, LF]
  · simp [hid, CR, LF, NUL]

def twoReturns : RequestContext where
  method := go "GET"
  path := go "/events"
  query := (∅ : GoMap GoString).set (go "name") (go "a\r\rdata: b")
  headers := ∅
  body := []
  pathParams := ∅

/-- **The request makes an event of its own.** -/
theorem request_makes_event :
    (readText {} (frameText Env.basic (go "text/event-stream")
      { data := go "\x7b\x7b.request.query.name\x7d\x7d" }
      (renderEvent Env.basic twoReturns (go "text/event-stream")
        (go "\x7b\x7b.request.query.name\x7d\x7d")))).2 =
      [⟨[], go "a", []⟩, ⟨[], go "b", []⟩] := by
  decide

end Mockly
