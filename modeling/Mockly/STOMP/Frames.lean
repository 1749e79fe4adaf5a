import Mockly.Go.Maps
import Mockly.Go.Runes
import Mockly.Go.Strconv
import Mockly.Go.Text

/-!
# STOMP frames

The reader skips blank lines before the command, takes both kinds of line ends, cuts white space off
the lines, and takes the body up to a zero byte or at its `content-length`. The writer ranges over
the map of the headers.

Main result: **`frames_read_back`**.
-/

namespace Mockly.STOMP

open List GoMap

structure Frame where
  cmd : GoString
  headers : GoMap GoString
  body : GoString

/-! ## Reading -/

inductive FrameError
  | eof
  | invalidContentLength (value : GoString)
  | missingTerminator
  | bodyTooLarge

def maxBody : ℕ := 10 * 1024 * 1024

/-- The loop that collects the lines of a frame before its body, with what has been collected; a
line takes at least one byte. -/
def readHead : ℕ → GoString → GoString → Except FrameError (GoString × GoString)
  | 0, _, _ => .error .eof
  | fuel + 1, raw, r =>
    match readUntil 0x0A r with
    | none => .error .eof
    | some (line, r) =>
      if trimRight line [0x0D, 0x0A] = [] then
        if raw = [] then readHead fuel raw r else .ok (raw ++ line, r)
      else readHead fuel (raw ++ line) r

def parseHeaders (headers : GoMap GoString) : List GoString → GoMap GoString
  | [] => headers
  | line :: lines =>
    let line := trimSpace line
    if line = [] then headers
    else
      match index line [0x3A] with
      | none => parseHeaders headers lines
      | some idx => parseHeaders (headers.set (line.take idx) (line.drop (idx + 1))) lines

/-- A body of a given length, and the zero byte behind it. -/
def readSized (cmd : GoString) (headers : GoMap GoString) (cl : ℕ) (r : GoString) :
    Except FrameError (Frame × GoString) :=
  let buf := r.take (cl + 1)
  if buf.length < cl + 1 then .error .eof
  else if buf.getD cl 0 ≠ 0 then .error .missingTerminator
  else .ok (⟨cmd, headers, buf.take cl⟩, r.drop (cl + 1))

def readTerminated (cmd : GoString) (headers : GoMap GoString) (r : GoString) :
    Except FrameError (Frame × GoString) :=
  match readUntil 0 r with
  | none => .error .eof
  | some (body, r) =>
    if maxBody + 1 < body.length then .error .bodyTooLarge
    else .ok (⟨cmd, headers, trimSuffix body [0]⟩, r)

def readSTOMPFrame (r : GoString) : Except FrameError (Frame × GoString) := do
  let (raw, r) ← readHead (r.length + 1) [] r
  let lines := split (replaceAll raw (go "\r\n") (go "\n")) 0x0A
  let cmd := trimSpace (lines.headD [])
  let headers := parseHeaders ∅ lines.tail
  let clStr := trimSpace (headers.getD (go "content-length"))
  if clStr = [] then readTerminated cmd headers r
  else
    match parseInt clStr with
    | .error _ => .error (.invalidContentLength clStr)
    | .ok cl =>
      if cl < 0 ∨ (maxBody : ℤ) < cl then .error (.invalidContentLength clStr)
      else readSized cmd headers cl.toNat r

def readFrames : ℕ → GoString → Except FrameError (List Frame × GoString)
  | 0, r => .ok ([], r)
  | n + 1, r => do
      let (f, r) ← readSTOMPFrame r
      let (fs, r) ← readFrames n r
      return (f :: fs, r)

/-! ## Writing -/

def headerLine (h : GoString × GoString) : GoString := h.1 ++ 0x3A :: h.2

/-- `writeFrame`: what is written to the connection. -/
def writeFrame (ord : RangeOrder GoString) (f : Frame) : GoString :=
  f.cmd ++ [0x0A] ++ (ord.seq f.headers).flatMap (fun h => headerLine h ++ [0x0A]) ++ [0x0A] ++
    f.body ++ [0]

/-! ## The lines of a frame -/

/-- A line that is not taken for a blank one. -/
structure IsLine (l : GoString) : Prop where
  ne_nil : l ≠ []
  no_cr : 0x0D ∉ l
  no_lf : 0x0A ∉ l

lemma trimRight_line {l : GoString} (h : IsLine l) : trimRight (l ++ [0x0A]) [0x0D, 0x0A] = l := by
  have hlast : ∀ b ∈ l.reverse.head?, decide (b ∈ [0x0D, 0x0A]) = false := by
    intro b hb
    have hmem : b ∈ l := mem_reverse.mp (mem_of_mem_head? hb)
    simp only [mem_cons, not_mem_nil, or_false, decide_eq_false_iff_not, not_or]
    exact ⟨fun hcr => h.no_cr (hcr ▸ hmem), fun hlf => h.no_lf (hlf ▸ hmem)⟩
  rw [trimRight, reverse_append, reverse_singleton, singleton_append,
    dropWhile_cons_of_pos (by decide), dropWhile_eq_self hlast, reverse_reverse]

variable {ls : List GoString}

/-- **The lines up to a blank one.** -/
lemma readHead_lines (hls : ∀ l ∈ ls, IsLine l) {fuel : ℕ} {raw : GoString}
    (hraw : raw ≠ [] ∨ ls ≠ []) (rest : GoString) (hfuel : ls.length < fuel) :
    readHead fuel raw (ls.flatMap (· ++ [0x0A]) ++ 0x0A :: rest) =
      .ok (raw ++ ls.flatMap (· ++ [0x0A]) ++ [0x0A], rest) := by
  induction ls generalizing fuel raw with
  | nil =>
    obtain ⟨fuel, rfl⟩ : ∃ n, fuel = n + 1 := ⟨fuel - 1, by simp at hfuel; omega⟩
    have hraw : raw ≠ [] := hraw.resolve_right fun h => h rfl
    have hread := readUntil_append (not_mem_nil (a := (0x0A : UInt8))) rest
    rw [nil_append, nil_append] at hread
    simp only [flatMap_nil, nil_append, readHead, hread]
    rw [if_pos (by decide), if_neg hraw, append_nil]
  | cons l ls ih =>
    rw [forall_mem_cons] at hls
    obtain ⟨fuel, rfl⟩ : ∃ n, fuel = n + 1 := ⟨fuel - 1, by simp at hfuel; omega⟩
    have hread := readUntil_append hls.1.no_lf (ls.flatMap (· ++ [0x0A]) ++ 0x0A :: rest)
    have htext : (l :: ls).flatMap (· ++ [0x0A]) ++ 0x0A :: rest =
        l ++ 0x0A :: (ls.flatMap (· ++ [0x0A]) ++ 0x0A :: rest) := by simp
    rw [htext]
    simp only [readHead, hread, trimRight_line hls.1, if_neg hls.1.ne_nil]
    rw [ih hls.2 (.inl (by simp)) (by simpa using hfuel)]
    simp

lemma split_lines (hls : ∀ l ∈ ls, IsLine l) :
    split (ls.flatMap (· ++ [0x0A]) ++ [0x0A]) 0x0A = ls ++ [[], []] := by
  induction ls with
  | nil => decide
  | cons l ls ih =>
    rw [forall_mem_cons] at hls
    have htext : (l :: ls).flatMap (· ++ [0x0A]) ++ [0x0A] =
        l ++ 0x0A :: (ls.flatMap (· ++ [0x0A]) ++ [0x0A]) := by simp
    rw [htext, split_append hls.1.no_lf, ih hls.2, cons_append]

lemma replaceAll_lines (hls : ∀ l ∈ ls, IsLine l) :
    replaceAll (ls.flatMap (· ++ [0x0A]) ++ [0x0A]) (go "\r\n") (go "\n") =
      ls.flatMap (· ++ [0x0A]) ++ [0x0A] := by
  refine replaceAll_of_notMem ?_ _
  rw [mem_append, not_or, mem_flatMap]
  refine ⟨?_, by decide⟩
  rintro ⟨l, hl, hmem⟩
  rcases mem_append.mp hmem with hcr | hcr
  · exact (hls l hl).no_cr hcr
  · exact absurd hcr (by decide)

/-! ## Headers -/

/-- A name and a value that survive a line. -/
structure HeaderOK (key value : GoString) : Prop where
  key_ne_nil : key ≠ []
  key_no_colon : 0x3A ∉ key
  key_no_cr : 0x0D ∉ key
  key_no_lf : 0x0A ∉ key
  key_trimmed : Trimmed key
  value_no_cr : 0x0D ∉ value
  value_no_lf : 0x0A ∉ value
  value_trimmed : Trimmed value

lemma HeaderOK.isLine {h : GoString × GoString} (hok : HeaderOK h.1 h.2) :
    IsLine (headerLine h) where
  ne_nil := by simp [headerLine]
  no_cr := by simp [headerLine, hok.key_no_cr, hok.value_no_cr]
  no_lf := by simp [headerLine, hok.key_no_lf, hok.value_no_lf]

lemma HeaderOK.trimmed {h : GoString × GoString} (hok : HeaderOK h.1 h.2) :
    Trimmed (headerLine h) :=
  hok.key_trimmed.append_ascii hok.key_ne_nil hok.value_trimmed (by decide) (by decide)

variable {hs : List (GoString × GoString)}

lemma parseHeaders_lines (hok : ∀ h ∈ hs, HeaderOK h.1 h.2) (headers : GoMap GoString) :
    parseHeaders headers (hs.map headerLine ++ [[], []]) = headers.setAll hs := by
  induction hs generalizing headers with
  | nil => rfl
  | cons h hs ih =>
    rw [forall_mem_cons] at hok
    have hindex : index (headerLine h) [0x3A] = some h.1.length :=
      index_singleton hok.1.key_no_colon h.2
    have hkey : (headerLine h).take h.1.length = h.1 := take_left
    have hvalue : (headerLine h).drop (h.1.length + 1) = h.2 := by
      rw [headerLine, drop_append]
      simp
    simp only [map_cons, cons_append, parseHeaders, trimSpace_eq_self hok.1.trimmed,
      if_neg hok.1.isLine.ne_nil, hindex, hkey, hvalue]
    exact ih hok.2 _

lemma get?_setAll_seq (ord : RangeOrder GoString) (headers : GoMap GoString) (k : GoString) :
    ((∅ : GoMap GoString).setAll (ord.seq headers)).get? k = headers.get? k := by
  cases h : headers.get? k with
  | some v => exact get?_setAll_of_mem (ord.nodup_seq headers) (ord.mem_seq.mpr h) _
  | none =>
    rw [get?_setAll_of_notMem, get?_empty]
    intro hmem
    obtain ⟨⟨k', v⟩, hv, rfl⟩ := mem_map.mp hmem
    rw [ord.mem_seq.mp hv] at h
    cases h

/-! ## Frames that can be sent -/

/-- A frame that can be sent: see the reader for what it would not leave alone. -/
structure Sendable extends Frame where
  cmd_ne_nil : cmd ≠ []
  cmd_no_space : ∀ r ∈ runes cmd, isSpace r = false
  headers_ok : ∀ k v, headers.get? k = some v → HeaderOK k v
  no_content_length : headers.get? (go "content-length") = none
  body_no_nul : 0 ∉ body
  body_le : body.length ≤ maxBody

/-- The same frame, with headers as maps. -/
structure Same (f g : Frame) : Prop where
  cmd : f.cmd = g.cmd
  headers : ∀ k, f.headers.get? k = g.headers.get? k
  body : f.body = g.body

lemma Sendable.isLine_cmd (f : Sendable) : IsLine f.cmd := by
  have hno : ∀ b : UInt8, b < 0x80 → isSpace b.toNat = true → b ∉ f.cmd := by
    intro b hb hspace hmem
    rw [f.cmd_no_space _ (mem_runes_of_ascii hb hmem)] at hspace
    cases hspace
  exact ⟨f.cmd_ne_nil, hno 0x0D (by decide) (by decide), hno 0x0A (by decide) (by decide)⟩

lemma readTerminated_append {body : GoString} (hnul : 0 ∉ body) (hle : body.length ≤ maxBody)
    (cmd : GoString) (headers : GoMap GoString) (rest : GoString) :
    readTerminated cmd headers (body ++ 0 :: rest) = .ok (⟨cmd, headers, body⟩, rest) := by
  have htrim : trimSuffix (body ++ [0]) [0] = body := by
    rw [trimSuffix, if_pos (by simp [hasSuffix])]
    simp
  simp only [readTerminated, readUntil_append hnul rest, htrim]
  rw [if_neg (by simp; omega)]

lemma length_le_flatMap (ls : List GoString) : ls.length ≤ (ls.flatMap (· ++ [0x0A])).length := by
  induction ls with
  | nil => rfl
  | cons l ls ih =>
    rw [flatMap_cons, length_append, length_append, length_cons]
    simp only [length_singleton]
    omega

lemma readSTOMPFrame_lines {cmd : GoString} {body : GoString} (hcmd : IsLine cmd)
    (htrimmed : Trimmed cmd) (hok : ∀ h ∈ hs, HeaderOK h.1 h.2)
    (hlength : getD ((∅ : GoMap GoString).setAll hs) (go "content-length") = [])
    (hnul : 0 ∉ body) (hle : body.length ≤ maxBody) (rest : GoString) :
    readSTOMPFrame
        ((cmd :: hs.map headerLine).flatMap (· ++ [0x0A]) ++ 0x0A :: (body ++ 0 :: rest)) =
      .ok (⟨cmd, (∅ : GoMap GoString).setAll hs, body⟩, rest) := by
  have hlines : ∀ l ∈ cmd :: hs.map headerLine, IsLine l := by
    rw [forall_mem_cons]
    refine ⟨hcmd, fun l hl => ?_⟩
    obtain ⟨h, hh, rfl⟩ := mem_map.mp hl
    exact (hok h hh).isLine
  have hhead : ∀ fuel, (cmd :: hs.map headerLine).length < fuel → readHead fuel []
          ((cmd :: hs.map headerLine).flatMap (· ++ [0x0A]) ++ 0x0A :: (body ++ 0 :: rest)) =
        .ok ((cmd :: hs.map headerLine).flatMap (· ++ [0x0A]) ++ [0x0A], body ++ 0 :: rest) :=
    fun fuel => readHead_lines hlines (.inr (cons_ne_nil _ _)) (body ++ 0 :: rest)
  have hfuel := length_le_flatMap (cmd :: hs.map headerLine)
  rw [readSTOMPFrame, hhead _ (by rw [length_append]; omega)]
  simp only [Bind.bind, Except.bind, replaceAll_lines hlines, split_lines hlines, cons_append,
    headD_cons, tail_cons, trimSpace_eq_self htrimmed, parseHeaders_lines hok, hlength]
  exact readTerminated_append hnul hle cmd _ rest

/-- **One frame.** -/
lemma readSTOMPFrame_writeFrame (ord : RangeOrder GoString) (f : Sendable) (rest : GoString) :
    ∃ g, readSTOMPFrame (writeFrame ord f.toFrame ++ rest) = .ok (g, rest) ∧ Same g f.toFrame := by
  have htext : writeFrame ord f.toFrame ++ rest =
      (f.cmd :: (ord.seq f.headers).map headerLine).flatMap (· ++ [0x0A]) ++
        0x0A :: (f.body ++ 0 :: rest) := by
    simp [writeFrame, flatMap_map]
  have hlength : GoMap.getD ((∅ : GoMap GoString).setAll (ord.seq f.headers))
      (go "content-length") = [] := by
    rw [GoMap.getD, get?_setAll_seq, f.no_content_length]
    rfl
  rw [htext, readSTOMPFrame_lines f.isLine_cmd (trimmed_of_no_space f.cmd_no_space)
    (fun h hh => f.headers_ok h.1 h.2 (ord.mem_seq.mp hh)) hlength f.body_no_nul f.body_le]
  exact ⟨_, rfl, ⟨rfl, get?_setAll_seq ord f.headers, rfl⟩⟩

/-- **Frames that can be sent are read back.** For every order of their headers and everything that
follows: the reader returns the same command, headers and body, one frame after the other, and
leaves what follows unread. -/
theorem frames_read_back :
    (∀ (ord : RangeOrder GoString) (f : Sendable) (rest : GoString), ∃ g,
      readSTOMPFrame (writeFrame ord f.toFrame ++ rest) = .ok (g, rest) ∧ Same g f.toFrame) ∧
    ∀ (fs : List (RangeOrder GoString × Sendable)) (rest : GoString), ∃ gs,
      readFrames fs.length (fs.flatMap (fun f => writeFrame f.1 f.2.toFrame) ++ rest) =
        .ok (gs, rest) ∧ List.Forall₂ (fun g f => Same g f.2.toFrame) gs fs := by
  refine ⟨readSTOMPFrame_writeFrame, fun fs => ?_⟩
  induction fs with
  | nil => exact fun rest => ⟨[], rfl, .nil⟩
  | cons f fs ih =>
    intro rest
    obtain ⟨gs, hgs, hsame⟩ := ih rest
    obtain ⟨g, hg, hf⟩ := readSTOMPFrame_writeFrame f.1 f.2
      (fs.flatMap (fun f => writeFrame f.1 f.2.toFrame) ++ rest)
    refine ⟨g :: gs, ?_, .cons hf hsame⟩
    rw [flatMap_cons, append_assoc, length_cons, readFrames, hg]
    simp only [Bind.bind, Except.bind, hgs]
    rfl

def sendFrame : Sendable where
  cmd := go "SEND"
  headers := ofList [(go "destination", go "/queue/a"), (go "time", go "12:30")]
  body := go "one\ntwo"
  cmd_ne_nil := by decide
  cmd_no_space := by decide
  headers_ok := by
    intro k v h
    simp only [ofList, setAll, foldl_cons, foldl_nil, get?_set, get?_empty] at h
    split_ifs at h with hk hk <;> subst hk <;> cases h <;> constructor <;> decide
  no_content_length := by decide
  body_no_nul := by decide
  body_le := by decide

/-- A frame with two headers and a body of two lines, before another text. -/
theorem send_frame_read_back :
    ∃ g, readSTOMPFrame (writeFrame (.stored _) sendFrame.toFrame ++ go "NEXT") =
        .ok (g, go "NEXT") ∧ g.cmd = go "SEND" ∧
      g.headers.get? (go "time") = some (go "12:30") ∧ g.body = go "one\ntwo" := by
  obtain ⟨g, hg, hsame⟩ := frames_read_back.1 (.stored _) sendFrame (go "NEXT")
  exact ⟨g, hg, hsame.cmd, hsame.headers _, hsame.body⟩

end Mockly.STOMP
