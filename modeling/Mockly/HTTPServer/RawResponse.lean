import Mockly.Go.Runes
import Mockly.Go.Strconv
import Mockly.HTTPServer.Reply
import Mockly.Lib.HTTPMessage

/-!
# Responses that are written by hand

`rawResponse` are the bytes; they are read by a reader of HTTP messages that knows nothing of how
they were made.

Main result: **`truncated_parses`**.
-/

namespace Mockly

open HTTPMessage List UInt8

/-! ## The bytes -/

/-- The table behind `http.StatusText`. -/
def statusTexts : List (ℤ × String) :=
  [(100, "Continue"), (101, "Switching Protocols"), (102, "Processing"), (103, "Early Hints"),
    (200, "OK"), (201, "Created"), (202, "Accepted"), (203, "Non-Authoritative Information"),
    (204, "No Content"), (205, "Reset Content"), (206, "Partial Content"), (207, "Multi-Status"),
    (208, "Already Reported"), (226, "IM Used"), (300, "Multiple Choices"),
    (301, "Moved Permanently"), (302, "Found"), (303, "See Other"), (304, "Not Modified"),
    (305, "Use Proxy"), (307, "Temporary Redirect"), (308, "Permanent Redirect"),
    (400, "Bad Request"), (401, "Unauthorized"), (402, "Payment Required"), (403, "Forbidden"),
    (404, "Not Found"), (405, "Method Not Allowed"), (406, "Not Acceptable"),
    (407, "Proxy Authentication Required"), (408, "Request Timeout"), (409, "Conflict"),
    (410, "Gone"), (411, "Length Required"), (412, "Precondition Failed"),
    (413, "Request Entity Too Large"), (414, "Request URI Too Long"),
    (415, "Unsupported Media Type"), (416, "Requested Range Not Satisfiable"),
    (417, "Expectation Failed"), (418, "I'm a teapot"), (421, "Misdirected Request"),
    (422, "Unprocessable Entity"), (423, "Locked"), (424, "Failed Dependency"),
    (425, "Too Early"), (426, "Upgrade Required"), (428, "Precondition Required"),
    (429, "Too Many Requests"), (431, "Request Header Fields Too Large"),
    (451, "Unavailable For Legal Reasons"), (500, "Internal Server Error"),
    (501, "Not Implemented"), (502, "Bad Gateway"), (503, "Service Unavailable"),
    (504, "Gateway Timeout"), (505, "HTTP Version Not Supported"),
    (506, "Variant Also Negotiates"), (507, "Insufficient Storage"), (508, "Loop Detected"),
    (510, "Not Extended"), (511, "Network Authentication Required")]

def statusText (code : ℤ) : GoString :=
  match statusTexts.find? fun p => p.1 = code with
  | some p => go p.2
  | none => []

def crlf : GoString := go "\r\n"

/-- What `truncateResponse` writes to the connection it has taken over. -/
def rawResponse (status : ℤ) (headers : List (GoString × GoString)) (contentType : GoString)
    (claimedLen : ℕ) (body : GoString) : GoString :=
  go "HTTP/1.1 " ++ formatInt status ++ go " " ++ statusText status ++ crlf ++
    headers.flatMap (fun p => p.1 ++ go ": " ++ p.2 ++ crlf) ++
    go "Content-Length: " ++ formatNat claimedLen ++ crlf ++
    go "Content-Type: " ++ contentType ++ crlf ++
    go "X-Content-Type-Options: nosniff" ++ crlf ++ crlf ++ body

/-- The bytes of a response that does not go through the library. -/
def Wire.raw? : Wire → Option GoString
  | .truncated status headers contentType claimedLen body =>
    some (rawResponse status headers contentType claimedLen body.text)
  | .response _ _ _ => none
  | .noResponse => none

def statusLine (status : ℤ) : GoString :=
  go "HTTP/1.1 " ++ formatInt status ++ go " " ++ statusText status

def ownFields (contentType : GoString) (claimedLen : ℕ) : List (GoString × GoString) :=
  [(go "Content-Length", formatNat claimedLen), (go "Content-Type", contentType),
    (go "X-Content-Type-Options", go "nosniff")]

lemma rawResponse_eq_write (status : ℤ) (headers : List (GoString × GoString))
    (contentType : GoString) (claimedLen : ℕ) (body : GoString) :
    rawResponse status headers contentType claimedLen body =
      write ⟨statusLine status, headers ++ ownFields contentType claimedLen, body⟩ := by
  have hcrlf : crlf = [CR, LF] := by decide
  have hcolon : go ": " = [colon, SP] := by decide
  have hlines : headers.flatMap (fun p => p.1 ++ go ": " ++ p.2 ++ crlf) =
      writeLines (headers.map writeField) := by
    simp [writeLines, writeField, flatMap_map, hcrlf, hcolon]
  have hlength : go "Content-Length: " = go "Content-Length" ++ [colon, SP] := by decide
  have htype : go "Content-Type: " = go "Content-Type" ++ [colon, SP] := by decide
  have hsniff : go "X-Content-Type-Options: nosniff" =
      go "X-Content-Type-Options" ++ [colon, SP] ++ go "nosniff" := by decide
  unfold rawResponse
  rw [hlines]
  simp only [hlength, htype, hsniff, hcrlf]
  simp [write, writeLines, statusLine, ownFields, writeField]

/-! ## One line each -/

lemma oneLine_formatNat (n : ℕ) : OneLine (formatNat n) := by
  constructor
  · intro h
    exact absurd (digit_of_mem_formatNat h).1 (by decide)
  · intro h
    exact absurd (digit_of_mem_formatNat h).1 (by decide)

lemma oneLine_formatInt (n : ℤ) : OneLine (formatInt n) := by
  unfold formatInt
  split_ifs
  · exact oneLine_cons.mpr ⟨by decide, oneLine_formatNat _⟩
  · exact oneLine_formatNat _

lemma oneLine_statusText (status : ℤ) : OneLine (statusText status) := by
  have htable : (statusTexts.all fun p => (go p.2).all fun b => b != CR && b != LF) = true := by
    decide +kernel
  unfold statusText
  cases h : statusTexts.find? fun p => p.1 = status with
  | none => exact ⟨not_mem_nil, not_mem_nil⟩
  | some p =>
    have hall := all_eq_true.mp htable p (mem_of_find?_eq_some h)
    have hne : ∀ b ∈ go p.2, b ≠ CR ∧ b ≠ LF := by
      intro b hb
      simpa using all_eq_true.mp hall b hb
    exact ⟨fun h => (hne _ h).1 rfl, fun h => (hne _ h).2 rfl⟩

lemma oneLine_sanitizeHeaderLine (s : GoString) : OneLine (sanitizeHeaderLine s) := by
  have hne : ∀ b ∈ sanitizeHeaderLine s, b ≠ 0x0D ∧ b ≠ 0x0A := by
    intro b hb
    obtain ⟨c, -, rfl⟩ := mem_map.mp hb
    split_ifs with hc
    · decide
    · exact not_or.mp hc
  exact ⟨fun h => (hne _ h).1 rfl, fun h => (hne _ h).2 rfl⟩

lemma sanitizeHeaderLine_of_oneLine {s : GoString} (h : OneLine s) : sanitizeHeaderLine s = s := by
  refine (map_congr_left fun b hb => if_neg ?_).trans (map_id s)
  rintro (rfl | rfl)
  · exact h.1 hb
  · exact h.2 hb

def SpacelessName (k : GoString) : Prop := ∀ r ∈ runes k, r ≠ 0x3A ∧ isSpace r = false

lemma SpacelessName.isName {k : GoString} (h : SpacelessName k) : IsName k := by
  have hnot : ∀ b : UInt8, b < 0x80 → (b.toNat = 0x3A ∨ isSpace b.toNat = true) → b ∉ k := by
    intro b hb hbad hmem
    obtain ⟨hcolon, hspace⟩ := h _ (mem_runes_of_ascii hb hmem)
    rcases hbad with hbad | hbad
    · exact hcolon hbad
    · rw [hbad] at hspace
      cases hspace
  refine ⟨⟨hnot CR (by decide) (.inr rfl), hnot LF (by decide) (.inr rfl)⟩,
    hnot colon (by decide) (.inl rfl), fun b hb => ?_⟩
  rw [isBlank, Bool.or_eq_false_iff, beq_eq_false_iff_ne, beq_eq_false_iff_ne]
  constructor
  · rintro rfl
    exact hnot SP (by decide) (.inr rfl) hb
  · rintro rfl
    exact hnot HTAB (by decide) (.inr rfl) hb

/-! ## Names in any case -/

lemma toNat_lowerByte (b : UInt8) : (lowerByte b).toNat = asciiLower b.toNat := by
  unfold lowerByte asciiLower
  simp only [UInt8.le_iff_toNat_le, UInt8.reduceToNat]
  split_ifs with h
  · simp only [UInt8.toNat_add, UInt8.reduceToNat]
    omega
  · rfl

lemma toNat_lt_of_asciiLower {r : ℕ} (h : asciiLower r < 0x80) : r < 0x80 := by
  unfold asciiLower at h
  split_ifs at h <;> omega

lemma equalFold_of_sameName (ct : CaseTable) {a b : GoString} (hb : ∀ x ∈ b, x < 0x80)
    (h : sameName a b = true) : equalFold ct a b = true := by
  have hlower : a.map (asciiLower ∘ UInt8.toNat) = b.map (asciiLower ∘ UInt8.toNat) := by
    have hmap := congrArg (List.map UInt8.toNat) (eq_of_beq h)
    simpa [Function.comp_def, toNat_lowerByte] using hmap
  have hfold : ∀ s : GoString, (∀ x ∈ s, x < 0x80) →
      (runes s).map ct.fold = s.map (asciiLower ∘ UInt8.toNat) := by
    intro s hs
    rw [runes_of_ascii hs, map_map]
    exact map_congr_left fun x hx => ct.fold_ascii _ (lt_iff_toNat_lt.mp (hs x hx))
  have ha : ∀ x ∈ a, x < 0x80 := by
    intro x hx
    have hmem : asciiLower x.toNat ∈ b.map (asciiLower ∘ UInt8.toNat) := by
      rw [← hlower]
      exact mem_map_of_mem hx
    obtain ⟨y, hy, hxy⟩ := mem_map.mp hmem
    have hylt := lt_iff_toNat_lt.mp (hb y hy)
    refine lt_iff_toNat_lt.mpr (toNat_lt_of_asciiLower ?_)
    rw [← hxy]
    simp only [Function.comp_apply, asciiLower, UInt8.reduceToNat] at hylt ⊢
    split_ifs <;> omega
  rw [equalFold, hfold a ha, hfold b hb, hlower]
  exact beq_self_eq_true _

/-- The names that `truncateResponse` looks for. -/
def fourNames : List GoString :=
  [go "Content-Type", go "X-Content-Type-Options", go "Content-Length", go "Transfer-Encoding"]

/-- The headers that are not among the four, in the order of the map. -/
def keptHeaders (env : Env) (headers : GoMap GoString) : List (GoString × GoString) :=
  (env.writeOrder.seq headers).filter fun p => !ownHeader env p.1

lemma mem_keptHeaders {env : Env} {headers : GoMap GoString} {k v : GoString} :
    (k, v) ∈ keptHeaders env headers ↔ headers.get? k = some v ∧ ownHeader env k = false := by
  rw [keptHeaders, mem_filter, RangeOrder.mem_seq]
  simp

lemma nodup_keptHeaders (env : Env) (headers : GoMap GoString) :
    ((keptHeaders env headers).map Prod.fst).Nodup :=
  (env.writeOrder.nodup_seq headers).sublist (filter_sublist.map _)

lemma not_sameName_of_kept {env : Env} {headers : GoMap GoString} {p : GoString × GoString}
    (hp : p ∈ keptHeaders env headers) {name : GoString}
    (hname : name ∈ fourNames) : sameName p.1 name = false := by
  obtain ⟨-, hown⟩ := mem_keptHeaders.mp hp
  have hfour : (fourNames.all fun name => name.all fun x => decide (x < 0x80)) = true := by
    decide +kernel
  have hascii : ∀ x ∈ name, x < 0x80 := by
    intro x hx
    simpa using all_eq_true.mp (all_eq_true.mp hfour name hname) x hx
  cases h : sameName p.1 name with
  | false => rfl
  | true =>
    have hfold := equalFold_of_sameName env.caseTable hascii h
    have hany : ownHeader env p.1 = true := any_eq_true.mpr ⟨name, hname, hfold⟩
    rw [hany] at hown
    cases hown

/-! ## What a reader makes of it -/

def fieldCount (name : GoString) (fields : List (GoString × GoString)) : ℕ :=
  fields.countP fun f => sameName f.1 name

/-- The fields of a response that was cut off, as they are read. -/
def readFields (env : Env) (headers : GoMap GoString) (bodyLen : ℕ) :
    List (GoString × GoString) :=
  (keptHeaders env headers).map (fun p => (p.1, trimBlanks (sanitizeHeaderLine p.2))) ++
    [(go "Content-Length", formatNat (bodyLen + 128)),
      (go "Content-Type", trimBlanks (truncatedType headers)),
      (go "X-Content-Type-Options", go "nosniff")]

lemma fieldCount_readFields (env : Env) (headers : GoMap GoString) (bodyLen : ℕ) {name : GoString}
    (hname : name ∈ fourNames) :
    fieldCount name (readFields env headers bodyLen) =
      if name = go "Transfer-Encoding" then 0 else 1 := by
  have hkept : fieldCount name ((keptHeaders env headers).map fun p =>
      (p.1, trimBlanks (sanitizeHeaderLine p.2))) = 0 := by
    rw [fieldCount, countP_eq_zero]
    intro f hf
    obtain ⟨p, hp, rfl⟩ := mem_map.mp hf
    simp [not_sameName_of_kept hp hname]
  rw [readFields, fieldCount, countP_append]
  change fieldCount name _ + _ = _
  rw [hkept, zero_add]
  simp only [fourNames, mem_cons, not_mem_nil, or_false] at hname
  rcases hname with rfl | rfl | rfl | rfl <;> rfl

lemma trimBlanks_formatNat (n : ℕ) : trimBlanks (formatNat n) = formatNat n := by
  refine trimBlanks_eq_self fun b hb => ?_
  have hdigit := (digit_of_mem_formatNat hb).1
  rw [isBlank, Bool.or_eq_false_iff, beq_eq_false_iff_ne, beq_eq_false_iff_ne]
  constructor
  · rintro rfl
    exact absurd hdigit (by decide)
  · rintro rfl
    exact absurd hdigit (by decide)

lemma statusLine_oneLine (status : ℤ) : statusLine status ≠ [] ∧ OneLine (statusLine status) := by
  refine ⟨nofun, ?_⟩
  have hversion : OneLine (go "HTTP/1.1 ") := ⟨by decide, by decide⟩
  have hblank : OneLine (go " ") := ⟨by decide, by decide⟩
  exact ((hversion.append (oneLine_formatInt status)).append hblank).append
    (oneLine_statusText status)

lemma isName_fourNames {name : GoString} (h : name ∈ fourNames) : IsName name := by
  have hfour : (fourNames.all fun name => name.all fun b =>
      b != CR && b != LF && b != colon && !isBlank b) = true := by
    decide +kernel
  have hplain : ∀ b ∈ name, ((b ≠ CR ∧ b ≠ LF) ∧ b ≠ colon) ∧ isBlank b = false := by
    intro b hb
    simpa using all_eq_true.mp (all_eq_true.mp hfour name h) b hb
  exact ⟨⟨fun h => (hplain _ h).1.1.1 rfl, fun h => (hplain _ h).1.1.2 rfl⟩,
    fun h => (hplain _ h).1.2 rfl, fun b hb => (hplain b hb).2⟩

lemma written_oneLine {env : Env} {headers : GoMap GoString}
    (hnames : ∀ k v, headers.get? k = some v → SpacelessName k) (bodyLen : ℕ) :
    ∀ f ∈ (keptHeaders env headers).map (fun p => (p.1, sanitizeHeaderLine p.2)) ++
      ownFields (truncatedType headers) (bodyLen + 128), IsName f.1 ∧ OneLine f.2 := by
  rw [forall_mem_append]
  constructor
  · intro f hf
    obtain ⟨⟨k, v⟩, hp, rfl⟩ := mem_map.mp hf
    exact ⟨(hnames k v (mem_keptHeaders.mp hp).1).isName, oneLine_sanitizeHeaderLine v⟩
  · simp only [ownFields, forall_mem_cons]
    exact ⟨⟨isName_fourNames (by decide), oneLine_formatNat _⟩,
      ⟨isName_fourNames (by decide), oneLine_sanitizeHeaderLine _⟩,
      ⟨isName_fourNames (by decide), by decide, by decide⟩, nofun⟩

/-- One status line, a field for each header that is not among the four, one length that is 128 too
large, one type and one `nosniff`, no transfer coding, and the beginning of the body. -/
theorem truncated_parses (env : Env) (r : Reply) (n : ℤ) (hn : 0 ≤ n)
    (hnames : ∀ k v, r.headers.get? k = some v → SpacelessName k) :
    ∃ bytes body, (truncateResponse env .works r n).raw? = some bytes ∧
      (∀ reader : LineReader, parse reader bytes =
        some ⟨statusLine r.status, readFields env r.headers r.body.text.length, body⟩) ∧
      (∀ k v, (k, v) ∈ keptHeaders env r.headers ↔
        r.headers.get? k = some v ∧ ownHeader env k = false) ∧
      ((keptHeaders env r.headers).map Prod.fst).Nodup ∧
      (∀ name ∈ [go "Content-Length", go "Content-Type", go "X-Content-Type-Options"],
        fieldCount name (readFields env r.headers r.body.text.length) = 1) ∧
      fieldCount (go "Transfer-Encoding") (readFields env r.headers r.body.text.length) = 0 ∧
      body <+: r.body.text ∧ (body.length : ℤ) = min n r.body.text.length := by
  -- the names are written as they are
  have hheaders : ((env.writeOrder.seq r.headers).filter fun p => !ownHeader env p.1).map
      (fun p => (sanitizeHeaderLine p.1, sanitizeHeaderLine p.2)) =
        (keptHeaders env r.headers).map fun p => (p.1, sanitizeHeaderLine p.2) := by
    refine List.map_congr_left fun p hp => ?_
    have hp : p ∈ keptHeaders env r.headers := hp
    rw [sanitizeHeaderLine_of_oneLine (hnames p.1 p.2 (mem_keptHeaders.mp hp).1).isName.1]
  have hsniff : trimBlanks (go "nosniff") = go "nosniff" := by decide
  have hcount := fun name => @fieldCount_readFields env r.headers r.body.text.length name
  refine ⟨_, r.body.text.take n.toNat, rfl, fun reader => ?_, fun k v => mem_keptHeaders,
    nodup_keptHeaders env r.headers, fun name hname => ?_, ?_, List.take_prefix _ _, ?_⟩
  · rw [hheaders, rawResponse_eq_write, parse_write reader (statusLine_oneLine _)
      (written_oneLine hnames _)]
    simp [readFields, ownFields, trimBlanks_formatNat, hsniff]
  · simp only [List.mem_cons, List.not_mem_nil, or_false] at hname
    rcases hname with rfl | rfl | rfl
    · exact hcount _ (by decide)
    · exact hcount _ (by decide)
    · exact hcount _ (by decide)
  · exact hcount _ (by decide)
  · rw [List.length_take]
    omega

def splitting : Reply where
  status := 200
  body := .fixed (go "hello")
  headers := GoMap.ofList [(go "X-A", go "1\r\nX-B: 2"), (go "CONTENT-LENGTH", go "1")]
  matchedID := []
  delay := 0
  stream := none

theorem truncated_parses_splitting :
    ∃ bytes body, (truncateResponse Env.basic .works splitting 2).raw? = some bytes ∧
      (∀ reader : LineReader, parse reader bytes =
        some ⟨go "HTTP/1.1 200 OK", [(go "X-A", go "1  X-B: 2"), (go "Content-Length", go "133"),
          (go "Content-Type", go "application/octet-stream"),
          (go "X-Content-Type-Options", go "nosniff")], body⟩) ∧
      (body.length : ℤ) = 2 := by
  have hnames : ∀ k v, splitting.headers.get? k = some v → SpacelessName k := by
    intro k v h
    have hkeys : ∀ p ∈ splitting.headers.toList, SpacelessName p.1 := by
      unfold SpacelessName
      decide +kernel
    exact hkeys (k, v) (GoMap.mem_toList.mpr h)
  obtain ⟨bytes, body, hraw, hparse, -, -, -, -, -, hlen⟩ :=
    truncated_parses Env.basic splitting 2 (by decide) hnames
  exact ⟨bytes, body, hraw, hparse, hlen⟩

end Mockly
