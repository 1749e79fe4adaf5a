import Mockly.Go.URL

/-!
# The URL of a forwarded request

`forward` puts the target, the decoded path and the query together as a text, and `http.NewRequest`
parses that text again: what was escaped in the request is not escaped any more.

Main result: **`forward_carries`**.
-/

namespace Mockly

open URL List

/-- The target `newRecorder` keeps. -/
def recorderTarget (target : GoString) : GoString := trimRight target [0x2F]

/-- The URL `forward` builds, from the decoded path and the query of the request. -/
def forwardURL (target path rawQuery : GoString) : GoString :=
  if rawQuery ≠ [] then target ++ path ++ (go "?" ++ rawQuery) else target ++ path

/-- The request data that survives: nothing in it is cut or decoded, and the path does not run into
the host. -/
structure Survives (kept path rawQuery : GoString) : Prop where
  path_bytes : ∀ b ∈ path, isCTLByte b = false ∧ b ≠ 0x3F ∧ b ≠ 0x23 ∧ b ≠ 0x25
  query_bytes : ∀ b ∈ rawQuery, isCTLByte b = false ∧ b ≠ 0x23
  path_slash : kept = [] → ∀ b ∈ path.head?, b = 0x2F

/-- What `forward` appends to the target. -/
def forwardTail (path rawQuery : GoString) : GoString :=
  path ++ if rawQuery ≠ [] then 0x3F :: rawQuery else []

lemma forwardURL_eq (target path rawQuery : GoString) :
    forwardURL target path rawQuery = target ++ forwardTail path rawQuery := by
  rw [forwardURL, forwardTail]
  split_ifs
  · exact append_assoc _ _ _
  · rw [append_nil]

lemma mem_forwardTail {path rawQuery : GoString} {b : UInt8} (hb : b ∈ forwardTail path rawQuery) :
    b ∈ path ∨ b = 0x3F ∨ b ∈ rawQuery := by
  rw [forwardTail] at hb
  split_ifs at hb
  · simpa using hb
  · exact Or.inl (by simpa using hb)

lemma cut_forwardTail {path : GoString} (hmark : 0x3F ∉ path) (rawQuery : GoString) :
    cut (forwardTail path rawQuery) 0x3F = (path, rawQuery) := by
  rw [forwardTail]
  split_ifs with hquery
  · exact cut_append_cons hmark _
  · rw [append_nil, cut_of_notMem hmark, not_not.mp hquery]

lemma cut_cut_forwardTail {path : GoString} (hmark : 0x3F ∉ path) (hhash : 0x23 ∉ path)
    (rawQuery : GoString) :
    cut (cut (forwardTail path rawQuery) 0x23).1 0x3F = (path, (cut rawQuery 0x23).1) := by
  rw [forwardTail, cut_append hhash]
  split_ifs with hquery
  · have hcut : (cut (0x3F :: rawQuery) 0x23).1 = 0x3F :: (cut rawQuery 0x23).1 :=
      congrArg Prod.fst (cut_append (s := [0x3F]) (by decide) rawQuery)
    rw [hcut, cut_append_cons hmark]
  · rw [not_not.mp hquery]
    exact (cut_append hmark []).trans (by simp [cut])

/-- The path that is found is no longer than the one that was asked for, and shorter if it was cut.
-/
lemma length_cut_forwardTail (path rawQuery : GoString) :
    (cut (cut (forwardTail path rawQuery) 0x23).1 0x3F).1.length ≤ path.length ∧
      (path.length ≤ (cut (cut (forwardTail path rawQuery) 0x23).1 0x3F).1.length →
        0x3F ∉ path ∧ 0x23 ∉ path) := by
  have hmark := notMem_cut_fst (cut (forwardTail path rawQuery) 0x23).1 0x3F
  have hfound : (cut (cut (forwardTail path rawQuery) 0x23).1 0x3F).1 <+:
      (cut (forwardTail path rawQuery) 0x23).1 := List.takeWhile_prefix _
  have hclean (h : path.length ≤ (cut (cut (forwardTail path rawQuery) 0x23).1 0x3F).1.length) :
      0x3F ∉ path ∧ 0x23 ∉ path := by
    have hsub := (prefix_of_prefix_length_le (prefix_append path _)
      (hfound.trans ( List.takeWhile_prefix _)) h).subset
    exact ⟨fun hmem => hmark (hsub hmem),
      fun hmem => notMem_cut_fst _ _ (hfound.subset (hsub hmem))⟩
  refine ⟨?_, hclean⟩
  by_contra hlt
  obtain ⟨hmark', hhash'⟩ := hclean (by omega)
  rw [cut_cut_forwardTail hmark' hhash'] at hlt
  exact hlt le_rfl

section Carries

variable {authority : AuthorityParser} {scheme host rawPath path rawQuery : GoString}
  {base url : URL}

lemma notMem_forwardTail (hpath : 0x23 ∉ path) (hquery : 0x23 ∉ rawQuery) :
    0x23 ∉ forwardTail path rawQuery := by
  intro hmem
  rcases mem_forwardTail hmem with hmem | heq | hmem
  · exact hpath hmem
  · exact absurd heq (by decide)
  · exact hquery hmem

lemma Survives.parse_append (hs : Survives base.path path rawQuery)
    (h : Absolute authority scheme host rawPath base) :
    ∃ url, parse authority (absoluteText scheme host rawPath ++ forwardTail path rawQuery) =
        some url ∧ url.scheme = base.scheme ∧ url.host = base.host ∧
      url.path = base.path ++ path ∧ url.rawQuery = rawQuery ∧ url.fragment = [] := by
  have hnofragment : base.fragment = [] := congrArg URL.fragment h.base_eq
  have hhash := notMem_forwardTail (fun hmem => (hs.path_bytes _ hmem).2.2.1 rfl)
    fun hmem => (hs.query_bytes _ hmem).2 rfl
  have hctl : ∀ b ∈ forwardTail path rawQuery, isCTLByte b = false := by
    intro b hb
    rcases mem_forwardTail hb with hmem | rfl | hmem
    · exact (hs.path_bytes b hmem).1
    · decide
    · exact (hs.query_bytes b hmem).1
  have hcontinues : Absolute.Continues rawPath path := by
    by_cases hraw : rawPath = []
    · refine Or.inr (hs.path_slash ?_)
      have hparse := h.parse_path
      rw [hraw] at hparse
      exact (Option.some.inj hparse).symm
    · exact Or.inl hraw
  obtain ⟨force, hurl⟩ := h.parse_append hhash hctl
    (cut_forwardTail (fun hmem => (hs.path_bytes _ hmem).2.1 rfl) rawQuery)
    (fun hmem => (hs.path_bytes _ hmem).2.2.2 rfl) hcontinues
  exact ⟨_, hurl, rfl, rfl, rfl, rfl, hnofragment⟩

/-- A path that runs into the host is not found. -/
lemma continues_of_unescape (h : Absolute authority scheme host rawPath base) {p : GoString}
    (hp : p.length ≤ path.length) (hunescape : unescape ((host ++ (rawPath ++ p)).dropWhile
      (· != 0x2F)) = some (base.path ++ path)) : Absolute.Continues rawPath p := by
  by_contra hcontinues
  rw [Absolute.Continues, not_or, not_not] at hcontinues
  obtain ⟨rfl, hhead⟩ := hcontinues
  have hlen := (length_unescape hunescape).1
  rw [dropWhile_append_of_pos (bne_of_notMem h.host_bytes), nil_append,
    length_append] at hlen
  cases p with
  | nil => simp at hhead
  | cons c rest =>
    have hdrop : (rest.dropWhile (· != 0x2F)).length ≤ rest.length :=
      (dropWhile_suffix _).length_le
    rw [dropWhile_cons_of_pos (by simpa using hhead)] at hlen
    rw [length_cons] at hp
    omega

lemma Survives.of_parse_append (h : Absolute authority scheme host rawPath base)
    (hurl : parse authority (absoluteText scheme host rawPath ++ forwardTail path rawQuery) =
      some url) (hpath : url.path = base.path ++ path) (hraw : url.rawQuery = rawQuery) :
    Survives base.path path rawQuery := by
  obtain ⟨hctl, hunescape, hquery⟩ := h.of_parse_append hurl
  obtain ⟨hle, hclean⟩ := length_cut_forwardTail path rawQuery
  rw [hpath] at hunescape
  have hcontinues := continues_of_unescape h hle hunescape
  rw [(h.takeWhile_host hcontinues).2, unescape_append h.parse_path] at hunescape
  obtain ⟨path', hpath', happend⟩ := Option.map_eq_some_iff.mp hunescape
  obtain rfl := append_cancel_left happend
  obtain ⟨hlen, hpercent, -⟩ := length_unescape hpath'
  obtain ⟨hmark, hhash⟩ := hclean hlen
  rw [cut_cut_forwardTail hmark hhash] at hquery hpercent hcontinues
  have hnohash : 0x23 ∉ rawQuery := by
    rw [hraw.symm.trans hquery]
    exact notMem_cut_fst _ _
  rw [cut_of_notMem (notMem_forwardTail hhash hnohash)] at hctl
  refine ⟨fun b hb => ⟨hctl b (by simp [forwardTail, hb]), ?_, ?_, ?_⟩,
    fun b hb => ⟨hctl b ?_, ?_⟩, fun hbase => hcontinues.resolve_left (not_not.mpr ?_)⟩
  · rintro rfl
    exact hmark hb
  · rintro rfl
    exact hhash hb
  · rintro rfl
    exact (hpercent hb).false
  · simp [forwardTail, ne_nil_of_mem hb, hb]
  · rintro rfl
    exact hnohash hb
  · exact (length_unescape h.parse_path).2.2 hbase

/-- Behind a target with a query or a fragment, nothing arrives where it belongs. -/
lemma forwardTail_eq_nil {target : GoString} (htarget : parse authority target = some base)
    (hscheme : base.scheme ≠ []) (hhost : base.host ≠ []) (h : 0x3F ∈ target ∨ 0x23 ∈ target)
    (hurl : parse authority (target ++ forwardTail path rawQuery) = some url)
    (hpath : url.path = base.path ++ path) (hraw : url.rawQuery = rawQuery)
    (hfragment : url.fragment = []) : forwardTail path rawQuery = [] := by
  by_cases hhash : 0x23 ∈ target
  · obtain ⟨u, -, hu⟩ := Option.bind_eq_some_iff.mp hurl
    rw [cut_append_of_mem hhash] at hu
    split_ifs at hu with hnil
    · exact (append_eq_nil_iff.mp hnil).2
    · obtain ⟨fragment, hunescape, rfl⟩ := Option.map_eq_some_iff.mp hu
      exact absurd ((length_unescape hunescape).2.2 hfragment) hnil
  · obtain ⟨hsame, hquery, hbase⟩ := of_parse_append_query htarget hscheme hhost hhash
      (h.resolve_right hhash) hurl
    obtain rfl : path = [] := by simpa [hsame] using hpath
    rw [hraw] at hquery
    by_contra htail
    have hne : rawQuery ≠ [] := fun hnil => htail (by simp [forwardTail, hnil])
    have htext : forwardTail [] rawQuery = 0x3F :: rawQuery := by simp [forwardTail, hne]
    -- the query would be itself and a question mark, up to a hash
    have hnohash : 0x23 ∉ rawQuery := by
      rw [hquery, mem_append, not_or]
      exact ⟨hbase, notMem_cut_fst _ _⟩
    rw [cut_of_notMem (by simp [htext, hnohash]), htext] at hquery
    have hlen := congrArg List.length hquery
    simp only [length_append, length_cons] at hlen
    omega

end Carries

/-- **The requests that are forwarded as they are.** The URL that `forward` builds has the scheme
and host of the target, its path and behind it that of the request, the query of the request and no
fragment, exactly if the target has neither query nor fragment, no byte of the path is a control
byte, a question mark, a hash or a percent sign, no byte of the query a control byte or a hash, and
the path begins with a slash if the target has none; or if there is nothing to forward, and the
query and the fragment of the target are empty. -/
theorem forward_carries {authority : AuthorityParser} {target : GoString} {base : URL}
    (htarget : parse authority (recorderTarget target) = some base) (hscheme : base.scheme ≠ [])
    (hhost : base.host ≠ []) (path rawQuery : GoString) :
    (∃ url, parse authority (forwardURL (recorderTarget target) path rawQuery) = some url ∧
      url.scheme = base.scheme ∧ url.host = base.host ∧ url.path = base.path ++ path ∧
      url.rawQuery = rawQuery ∧ url.fragment = []) ↔
    (0x3F ∉ recorderTarget target ∧ 0x23 ∉ recorderTarget target ∧
        Survives base.path path rawQuery) ∨
      (path = [] ∧ rawQuery = [] ∧ base.rawQuery = [] ∧ base.fragment = []) := by
  rw [forwardURL_eq]
  constructor
  · rintro ⟨url, hurl, -, -, hpath, hraw, hfragment⟩
    by_cases h : 0x3F ∈ recorderTarget target ∨ 0x23 ∈ recorderTarget target
    · have hnil := forwardTail_eq_nil htarget hscheme hhost h hurl hpath hraw hfragment
      rw [hnil, append_nil, htarget] at hurl
      obtain rfl := Option.some.inj hurl
      obtain ⟨rfl, hquery⟩ := append_eq_nil_iff.mp hnil
      obtain rfl : rawQuery = [] := by simpa using hquery
      exact Or.inr ⟨rfl, rfl, hraw, hfragment⟩
    · rw [not_or] at h
      obtain ⟨scheme, host, rawPath, htext, habsolute⟩ :=
        absolute_of_parse htarget hscheme hhost h.1 h.2
      rw [htext] at hurl
      exact Or.inl ⟨h.1, h.2, .of_parse_append habsolute hurl hpath hraw⟩
  · rintro (⟨hquery, hfragment, hs⟩ | ⟨rfl, rfl, hquery, hfragment⟩)
    · obtain ⟨scheme, host, rawPath, htext, habsolute⟩ :=
        absolute_of_parse htarget hscheme hhost hquery hfragment
      rw [htext]
      exact hs.parse_append habsolute
    · have hnil : forwardTail [] [] = [] := rfl
      rw [hnil, append_nil]
      exact ⟨base, htarget, rfl, rfl, (append_nil _).symm, hquery, hfragment⟩

def nameAuthority : AuthorityParser := fun s =>
  if s.all fun b => isLetter b || isSchemeByte b then some (none, s) else none

/-- A path with a blank is forwarded as it is. -/
theorem forward_carries_blank :
    ∃ url, parse nameAuthority (forwardURL (recorderTarget (go "http://upstream/api/"))
        (go "/a b") (go "x=1")) = some url ∧
      url.scheme = go "http" ∧ url.host = go "upstream" ∧ url.path = go "/api" ++ go "/a b" ∧
      url.rawQuery = go "x=1" ∧ url.fragment = [] := by
  have htarget : parse nameAuthority (recorderTarget (go "http://upstream/api/")) =
      some { scheme := go "http", host := go "upstream", path := go "/api" } := by decide +kernel
  exact (forward_carries htarget (by decide) (by decide) (go "/a b") (go "x=1")).mpr
    (Or.inl ⟨by decide +kernel, by decide +kernel, by decide +kernel, by decide +kernel,
      by decide +kernel⟩)

/-- **What is decoded is parsed again.** A path with a question mark is forwarded as a path and a
query; one with a percent sign or a line feed is not forwarded at all; and a query with a hash is
forwarded as a query and a fragment. -/
theorem forward_parses_decoded_path :
    (parseRequestURI nameAuthority (go "/a%3Fb") = some { path := go "/a?b" } ∧
      parse nameAuthority (forwardURL (recorderTarget (go "http://upstream")) (go "/a?b") []) =
        some { scheme := go "http", host := go "upstream", path := go "/a", rawQuery := go "b" }) ∧
    (parseRequestURI nameAuthority (go "/100%25") = some { path := go "/100%" } ∧
      parse nameAuthority (forwardURL (recorderTarget (go "http://upstream")) (go "/100%") []) =
        none) ∧
    (parseRequestURI nameAuthority (go "/a%0Ab") = some { path := go "/a\nb" } ∧
      parse nameAuthority (forwardURL (recorderTarget (go "http://upstream")) (go "/a\nb") []) =
        none) ∧
    (parseRequestURI nameAuthority (go "/a?b#c") = some { path := go "/a", rawQuery := go "b#c" } ∧
      parse nameAuthority (forwardURL (recorderTarget (go "http://upstream")) (go "/a")
        (go "b#c")) =
        some { scheme := go "http", host := go "upstream", path := go "/a", rawQuery := go "b"
               fragment := go "c" }) := by
  decide +kernel

end Mockly
