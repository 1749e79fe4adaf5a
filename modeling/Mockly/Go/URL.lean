import Mockly.Go.Strings

/-!
# URLs

A URL is cut at the first `#`, behind the scheme, at the first `?`, and at the slash that ends the
authority; then the percent signs of the path are decoded. The syntax of the authority is a
parameter (`AuthorityParser`).
-/

namespace Mockly

open List Option

structure Userinfo where
  username : GoString
  password : Option GoString
  deriving DecidableEq

/-- `url.URL`.  The fields that only say how a part was written (`RawPath`, `RawFragment`,
`OmitHost`) are left out. -/
structure URL where
  scheme : GoString := []
  /-- `Opaque`, what stands behind the scheme if it does not begin with a slash. -/
  rootless : GoString := []
  user : Option Userinfo := none
  host : GoString := []
  path : GoString := []
  rawQuery : GoString := []
  forceQuery : Bool := false
  fragment : GoString := []
  deriving DecidableEq

/-- `parseAuthority`. -/
abbrev AuthorityParser := GoString → Option (Option Userinfo × GoString)

namespace URL

/-! ## The parser -/

/-- `strings.Cut` at a byte. -/
def cut (s : GoString) (sep : UInt8) : GoString × GoString :=
  (s.takeWhile (· != sep), (s.dropWhile (· != sep)).tail)

def isHex (c : UInt8) : Bool :=
  (0x30 ≤ c && c ≤ 0x39) || (0x61 ≤ c && c ≤ 0x66) || (0x41 ≤ c && c ≤ 0x46)

def unhex (c : UInt8) : UInt8 :=
  if c ≤ 0x39 then c - 0x30 else if c ≤ 0x46 then c - 0x41 + 10 else c - 0x61 + 10

/-- `unescape` for a path or a fragment. -/
def unescape : GoString → Option GoString
  | [] => some []
  | c :: s =>
    if c = 0x25 then
      match s with
      | d :: e :: s =>
        if isHex d && isHex e then (unescape s).map fun a => (unhex d <<< 4 ||| unhex e) :: a
        else none
      | _ => none
    else (unescape s).map fun a => c :: a

def isCTLByte (b : UInt8) : Bool := b < 0x20 || b == 0x7F

def isLetter (c : UInt8) : Bool := (0x61 ≤ c && c ≤ 0x7A) || (0x41 ≤ c && c ≤ 0x5A)

def isSchemeByte (c : UInt8) : Bool := (0x30 ≤ c && c ≤ 0x39) || (go "+-.").contains c

/-- The loop of `getScheme`, with what has been passed. -/
def getSchemeLoop (rawURL : GoString) : GoString → GoString → Option (GoString × GoString)
  | _, [] => some ([], rawURL)
  | seen, c :: rest =>
    if isLetter c then getSchemeLoop rawURL (seen ++ [c]) rest
    else if isSchemeByte c then
      if seen = [] then some ([], rawURL) else getSchemeLoop rawURL (seen ++ [c]) rest
    else if c = 0x3A then
      if seen = [] then none else some (seen, rest)
    else some ([], rawURL)

/-- `getScheme`: the scheme and the rest, or the error "missing protocol scheme". -/
def getScheme (rawURL : GoString) : Option (GoString × GoString) := getSchemeLoop rawURL [] rawURL

/-- `strings.ToLower` on a scheme, which is ASCII. -/
def lowerScheme (s : GoString) : GoString :=
  s.map fun b => if 0x41 ≤ b && b ≤ 0x5A then b + 32 else b

section Parse

variable (authority : AuthorityParser)

/-- `parse` from the scheme on.  The rest without a final question mark, which `ForceQuery` asks
for, is what the cut leaves as well. -/
def parseRest (scheme rest : GoString) (viaRequest : Bool) : Option URL :=
  let url : URL :=
    { scheme, rawQuery := (cut rest 0x3F).2
      forceQuery := rest.getLast? == some 0x3F && rest.count 0x3F == 1 }
  let rest := (cut rest 0x3F).1
  if !hasPrefix rest (go "/") && scheme ≠ [] then some { url with rootless := rest }
  else if !hasPrefix rest (go "/") && (viaRequest || contains (cut rest 0x2F).1 (go ":")) then none
  else if hasPrefix rest (go "//") &&
      (scheme ≠ [] || !viaRequest && !hasPrefix rest (go "///")) then
    (authority ((rest.drop 2).takeWhile (· != 0x2F))).bind fun r =>
      (unescape ((rest.drop 2).dropWhile (· != 0x2F))).map fun path =>
        { url with user := r.1, host := r.2, path }
  else (unescape rest).map fun path => { url with path }

/-- `parse`, for what stands before the fragment. -/
def parseBefore (rawURL : GoString) (viaRequest : Bool) : Option URL :=
  if rawURL.any isCTLByte then none
  else if rawURL = [] && viaRequest then none
  else if rawURL = go "*" then some { path := go "*" }
  else (getScheme rawURL).bind fun r => parseRest authority (lowerScheme r.1) r.2 viaRequest

/-- `url.Parse`. -/
def parse (rawURL : GoString) : Option URL :=
  (parseBefore authority (cut rawURL 0x23).1 false).bind fun url =>
    if (cut rawURL 0x23).2 = [] then some url
    else (unescape (cut rawURL 0x23).2).map fun fragment => { url with fragment }

/-- `url.ParseRequestURI`, which the HTTP server calls on the target of a request. -/
def parseRequestURI (rawURL : GoString) : Option URL := parseBefore authority rawURL true

end Parse

/-! ## Cuts -/

variable {s : GoString} {sep : UInt8}

lemma bne_of_notMem (h : sep ∉ s) : ∀ b ∈ s, (b != sep) = true := by
  intro b hb
  rw [bne_iff_ne]
  rintro rfl
  exact h hb

lemma cut_of_notMem (h : sep ∉ s) : cut s sep = (s, []) := by
  have hall := bne_of_notMem h
  rw [cut, takeWhile_eq_self_iff.mpr hall, dropWhile_eq_nil_iff.mpr hall, tail_nil]

lemma cut_append_cons (h : sep ∉ s) (t : GoString) : cut (s ++ sep :: t) sep = (s, t) := by
  have hall := bne_of_notMem h
  rw [cut, takeWhile_append_of_pos hall, dropWhile_append_of_pos hall,
    takeWhile_cons_of_neg (by simp), dropWhile_cons_of_neg (by simp), append_nil, tail_cons]

lemma cut_append (h : sep ∉ s) (t : GoString) :
    cut (s ++ t) sep = (s ++ (cut t sep).1, (cut t sep).2) := by
  have hall := bne_of_notMem h
  rw [cut, takeWhile_append_of_pos hall, dropWhile_append_of_pos hall, cut]

lemma cut_append_of_mem (h : sep ∈ s) (t : GoString) :
    cut (s ++ t) sep = ((cut s sep).1, (cut s sep).2 ++ t) := by
  obtain ⟨a, b, rfl, ha⟩ := eq_append_cons_of_mem h
  rw [append_assoc, cons_append, cut_append_cons ha, cut_append_cons ha]

lemma notMem_cut_fst (s : GoString) (sep : UInt8) : sep ∉ (cut s sep).1 := fun h => by
  simpa using mem_takeWhile_imp h

/-! ## Decoding -/

lemma unescape_cons_of_ne {c : UInt8} (hc : c ≠ 0x25) (s : GoString) :
    unescape (c :: s) = (unescape s).map fun a => c :: a := by
  rw [unescape.eq_def]
  exact if_neg hc

lemma unescape_append {a : GoString} (h : unescape s = some a) (t : GoString) :
    unescape (s ++ t) = (unescape t).map fun b => a ++ b := by
  fun_induction unescape s generalizing a with
  | case1 => simp_all
  | case2 d e s hhex ih =>
    obtain ⟨a, ha, rfl⟩ := map_eq_some_iff.mp h
    rw [cons_append, cons_append, cons_append, unescape, if_pos rfl]
    simp only [hhex, if_true, ih ha, Option.map_map]
    rfl
  | case3 => simp_all
  | case4 => simp_all
  | case5 c s hc ih =>
    obtain ⟨a, ha, rfl⟩ := Option.map_eq_some_iff.mp h
    rw [cons_append, unescape_cons_of_ne hc, ih ha, Option.map_map]
    rfl

lemma unescape_of_notMem (h : 0x25 ∉ s) : unescape s = some s := by
  induction s with
  | nil => rfl
  | cons c s ih =>
    rw [mem_cons, not_or] at h
    rw [unescape_cons_of_ne (Ne.symm h.1), ih h.2]
    rfl

/-- What is decoded is shorter. -/
lemma length_unescape {a : GoString} (h : unescape s = some a) :
    a.length ≤ s.length ∧ (0x25 ∈ s → a.length < s.length) ∧ (a = [] → s = []) := by
  fun_induction unescape s generalizing a with
  | case1 => simp_all
  | case2 d e s hhex ih =>
    obtain ⟨a, ha, rfl⟩ := map_eq_some_iff.mp h
    have hle := (ih ha).1
    simp only [length_cons]
    exact ⟨by omega, fun _ => by omega, nofun⟩
  | case3 => simp_all
  | case4 => simp_all
  | case5 c s hc ih =>
    obtain ⟨a, ha, rfl⟩ := Option.map_eq_some_iff.mp h
    obtain ⟨hle, hlt, -⟩ := ih ha
    refine ⟨by simpa using hle, fun hmem => ?_, nofun⟩
    simpa using hlt ((mem_cons.mp hmem).resolve_left (Ne.symm hc))

/-! ## The scheme -/

lemma getSchemeLoop_spec {rawURL seen scheme rest : GoString}
    (h : getSchemeLoop rawURL seen s = some (scheme, rest)) (hne : scheme ≠ []) :
    ∃ passed, s = passed ++ 0x3A :: rest ∧ scheme = seen ++ passed ∧ 0x3F ∉ passed ∧
      ∀ rawURL' x, getSchemeLoop rawURL' seen (passed ++ 0x3A :: x) = some (scheme, x) := by
  induction s generalizing seen with
  | nil =>
    simp only [getSchemeLoop, Option.some.injEq, Prod.mk.injEq] at h
    exact absurd h.1.symm hne
  | cons c s ih =>
    rw [getSchemeLoop] at h
    split_ifs at h with hletter hbyte hseen hcolon hseen
    · obtain ⟨passed, rfl, rfl, hmark, hloop⟩ := ih h
      refine ⟨c :: passed, rfl, by simp, fun hmem => ?_, fun rawURL' x => ?_⟩
      · obtain rfl := (mem_cons.mp hmem).resolve_right hmark
        exact absurd hletter (by decide)
      · rw [cons_append, getSchemeLoop, if_pos hletter, hloop]
    · exact absurd (Prod.mk.inj (Option.some.inj h)).1.symm hne
    · obtain ⟨passed, rfl, rfl, hmark, hloop⟩ := ih h
      refine ⟨c :: passed, rfl, by simp, fun hmem => ?_, fun rawURL' x => ?_⟩
      · obtain rfl := (mem_cons.mp hmem).resolve_right hmark
        exact absurd hbyte (by decide)
      · rw [cons_append, getSchemeLoop, if_neg hletter, if_pos hbyte, if_neg hseen, hloop]
    · obtain ⟨rfl, rfl⟩ := Prod.mk.inj (Option.some.inj h)
      refine ⟨[], by rw [hcolon]; rfl, by simp, not_mem_nil, fun rawURL' x => ?_⟩
      rw [hcolon] at hletter hbyte
      rw [nil_append, getSchemeLoop, if_neg hletter, if_neg hbyte, if_pos rfl, if_neg hseen]
    · exact absurd (Prod.mk.inj (Option.some.inj h)).1.symm hne

/-- What the parser takes for a scheme. -/
structure IsScheme (scheme : GoString) : Prop where
  ne_nil : scheme ≠ []
  no_mark : 0x3F ∉ scheme
  getScheme_append : ∀ x, getScheme (scheme ++ 0x3A :: x) = some (scheme, x)

lemma isScheme_of_getScheme {scheme rest : GoString} (h : getScheme s = some (scheme, rest))
    (hne : scheme ≠ []) : s = scheme ++ 0x3A :: rest ∧ IsScheme scheme := by
  obtain ⟨passed, rfl, rfl, hmark, hloop⟩ := getSchemeLoop_spec h hne
  exact ⟨rfl, hne, hmark, fun x => hloop _ x⟩

/-! ## Absolute URLs -/

section Absolute

variable {authority : AuthorityParser}

lemma parseRest_authority {scheme : GoString} (hscheme : scheme ≠ []) (z : GoString)
    (viaRequest : Bool) :
    parseRest authority scheme (0x2F :: 0x2F :: z) viaRequest =
      (authority ((cut z 0x3F).1.takeWhile (· != 0x2F))).bind fun r =>
        (unescape ((cut z 0x3F).1.dropWhile (· != 0x2F))).map fun path =>
          { scheme, user := r.1, host := r.2, path, rawQuery := (cut z 0x3F).2
            forceQuery := (0x2F :: 0x2F :: z).getLast? == some 0x3F && z.count 0x3F == 1 } := by
  have hcut : cut (0x2F :: 0x2F :: z) 0x3F = (0x2F :: 0x2F :: (cut z 0x3F).1, (cut z 0x3F).2) :=
    cut_append (s := [0x2F, 0x2F]) (by decide) z
  have hslash : hasPrefix (0x2F :: 0x2F :: (cut z 0x3F).1) (go "/") = true := rfl
  have hslashes : hasPrefix (0x2F :: 0x2F :: (cut z 0x3F).1) (go "//") = true := rfl
  simp [parseRest, hcut, hslash, hslashes, hscheme]

/-- The text of an absolute URL without query and fragment. -/
def absoluteText (scheme host rawPath : GoString) : GoString :=
  scheme ++ 0x3A :: 0x2F :: 0x2F :: (host ++ rawPath)

/-- The parts of such a URL, and what they are parsed to. -/
structure Absolute (authority : AuthorityParser) (scheme host rawPath : GoString) (base : URL) :
    Prop where
  isScheme : IsScheme scheme
  host_bytes : 0x2F ∉ host
  path_slash : ∀ b ∈ rawPath.head?, b = 0x2F
  plain : ∀ b ∈ absoluteText scheme host rawPath, isCTLByte b = false ∧ b ≠ 0x3F ∧ b ≠ 0x23
  parse_host : authority host = some (base.user, base.host)
  parse_path : unescape rawPath = some base.path
  base_eq : base =
    { scheme := lowerScheme scheme, user := base.user, host := base.host, path := base.path }

lemma head_dropWhile_slash (s : GoString) : ∀ b ∈ (s.dropWhile (· != 0x2F)).head?, b = 0x2F := by
  intro b hb
  have hnot := List.head?_dropWhile_not (· != (0x2F : UInt8)) s
  rw [mem_def.mp hb] at hnot
  simpa using hnot

lemma scheme_of_parseRest {scheme rest : GoString} {viaRequest : Bool} {url : URL}
    (h : parseRest authority scheme rest viaRequest = some url) : url.scheme = scheme := by
  simp only [parseRest] at h
  split_ifs at h
  · rw [← Option.some.inj h]
  · obtain ⟨r, -, hpath⟩ := bind_eq_some_iff.mp h
    obtain ⟨path, -, rfl⟩ := map_eq_some_iff.mp hpath
    rfl
  · obtain ⟨path, -, rfl⟩ := map_eq_some_iff.mp h
    rfl

lemma slashes_of_parseRest {scheme rest : GoString} {viaRequest : Bool} {url : URL}
    (h : parseRest authority scheme rest viaRequest = some url) (hhost : url.host ≠ []) :
    go "//" <+: (cut rest 0x3F).1 := by
  simp only [parseRest] at h
  split_ifs at h with hrootless hrelative hslashes
  · rw [← Option.some.inj h] at hhost
    exact absurd rfl hhost
  · rw [Bool.and_eq_true] at hslashes
    exact isPrefixOf_iff_prefix.mp hslashes.1
  · obtain ⟨path, -, rfl⟩ := map_eq_some_iff.mp h
    exact absurd rfl hhost

lemma exists_of_parse {rawURL : GoString} {url : URL} (h : parse authority rawURL = some url) :
    ∃ u, parseBefore authority (cut rawURL 0x23).1 false = some u ∧ url.path = u.path ∧
      url.rawQuery = u.rawQuery := by
  obtain ⟨u, hbefore, hurl⟩ := bind_eq_some_iff.mp h
  refine ⟨u, hbefore, ?_⟩
  split_ifs at hurl
  · obtain rfl := Option.some.inj hurl
    exact ⟨rfl, rfl⟩
  · obtain ⟨fragment, -, rfl⟩ := map_eq_some_iff.mp hurl
    exact ⟨rfl, rfl⟩

lemma parseBefore_scheme {scheme : GoString} (h : IsScheme scheme) (x : GoString) :
    parseBefore authority (scheme ++ 0x3A :: x) false =
      if (scheme ++ 0x3A :: x).any isCTLByte then none
      else parseRest authority (lowerScheme scheme) x false := by
  have hstar : scheme ++ 0x3A :: x ≠ go "*" := by
    intro heq
    have hlen := congrArg List.length heq
    have hpos := length_pos_of_ne_nil h.ne_nil
    simp only [length_append, length_cons, show (go "*").length = 1 by decide] at hlen
    omega
  simp [parseBefore, hstar, h.getScheme_append]

/-- **A URL with a scheme and a host** begins with the scheme and two slashes. -/
lemma scheme_of_parse {target : GoString} {base : URL} (h : parse authority target = some base)
    (hscheme : base.scheme ≠ []) (hhost : base.host ≠ []) (hfragment : 0x23 ∉ target) :
    ∃ scheme z, target = scheme ++ 0x3A :: 0x2F :: 0x2F :: z ∧ IsScheme scheme ∧
      lowerScheme scheme ≠ [] ∧ (∀ b ∈ target, isCTLByte b = false) ∧
      parseRest authority (lowerScheme scheme) (0x2F :: 0x2F :: z) false = some base := by
  rw [parse, cut_of_notMem hfragment, bind_eq_some_iff] at h
  obtain ⟨url, hbefore, hurl⟩ := h
  rw [if_pos rfl] at hurl
  obtain rfl := Option.some.inj hurl
  rw [parseBefore] at hbefore
  split_ifs at hbefore with hctl hempty hstar
  · obtain rfl := Option.some.inj hbefore
    exact absurd rfl hscheme
  obtain ⟨⟨scheme, rest⟩, hget, hrest⟩ := bind_eq_some_iff.mp hbefore
  have hlower := scheme_of_parseRest hrest
  have hne : scheme ≠ [] := by
    rintro rfl
    exact hscheme hlower
  obtain ⟨rfl, hisScheme⟩ := isScheme_of_getScheme hget hne
  obtain ⟨z, rfl⟩ := (slashes_of_parseRest hrest hhost).trans ( takeWhile_prefix _)
  refine ⟨scheme, z, rfl, hisScheme, hlower ▸ hscheme, fun b hb => ?_, hrest⟩
  by_contra hb'
  exact hctl (any_eq_true.mpr ⟨b, hb, by simpa using hb'⟩)

/-- Such a URL without query and fragment. -/
lemma absolute_of_parse {target : GoString} {base : URL} (h : parse authority target = some base)
    (hscheme : base.scheme ≠ []) (hhost : base.host ≠ []) (hquery : 0x3F ∉ target)
    (hfragment : 0x23 ∉ target) :
    ∃ scheme host rawPath, target = absoluteText scheme host rawPath ∧
      Absolute authority scheme host rawPath base := by
  obtain ⟨scheme, z, rfl, hisScheme, hlower, hctl, hrest⟩ :=
    scheme_of_parse h hscheme hhost hfragment
  have hzQuery : 0x3F ∉ z := fun hmem => hquery (by simp [hmem])
  obtain ⟨⟨user, host⟩, hauthority, hpath⟩ := bind_eq_some_iff.mp
    ((parseRest_authority hlower z false).symm.trans hrest)
  obtain ⟨path, hunescape, hbase⟩ := map_eq_some_iff.mp hpath
  rw [cut_of_notMem hzQuery] at hauthority hunescape hbase
  have hz : z.takeWhile (· != 0x2F) ++ z.dropWhile (· != 0x2F) = z :=
    takeWhile_append_dropWhile
  have htext : scheme ++ 0x3A :: 0x2F :: 0x2F :: z =
      absoluteText scheme (z.takeWhile (· != 0x2F)) (z.dropWhile (· != 0x2F)) := by
    rw [absoluteText, hz]
  have hforce : ((0x2F :: 0x2F :: z).getLast? == some 0x3F && z.count 0x3F == 1) = false := by
    rw [count_eq_zero.mpr hzQuery]
    simp
  refine ⟨_, _, _, htext, hisScheme, fun hmem => ?_, head_dropWhile_slash z, ?_, ?_, ?_, ?_⟩
  · simpa using mem_takeWhile_imp hmem
  · intro b hb
    rw [← htext] at hb
    refine ⟨hctl b hb, ?_, ?_⟩
    · rintro rfl
      exact hquery hb
    · rintro rfl
      exact hfragment hb
  · rw [hauthority, ← hbase]
  · rw [hunescape, ← hbase]
  · rw [← hbase, hforce]

/-! ## A text behind an absolute URL -/

namespace Absolute

variable {scheme host rawPath : GoString} {base : URL}

lemma notMem_of_plain (h : Absolute authority scheme host rawPath base) :
    0x23 ∉ absoluteText scheme host rawPath ∧ 0x3F ∉ host ++ rawPath := by
  refine ⟨fun hmem => (h.plain _ hmem).2.2 rfl, fun hmem => (h.plain 0x3F ?_).2.1 rfl⟩
  exact mem_append_right _ (mem_cons_of_mem _ (mem_cons_of_mem _
    (mem_cons_of_mem _ hmem)))

lemma parseBefore_append (h : Absolute authority scheme host rawPath base) (x : GoString) :
    parseBefore authority (absoluteText scheme host rawPath ++ x) false =
      if x.any isCTLByte then none
      else parseRest authority (lowerScheme scheme) (0x2F :: 0x2F :: (host ++ rawPath ++ x))
        false := by
  have hctl : (absoluteText scheme host rawPath ++ x).any isCTLByte = x.any isCTLByte := by
    rw [any_append, any_eq_false.mpr fun b hb => by simp [(h.plain b hb).1], Bool.false_or]
  have htext : absoluteText scheme host rawPath ++ x =
      scheme ++ 0x3A :: 0x2F :: 0x2F :: (host ++ rawPath ++ x) := by simp [absoluteText]
  rw [htext] at hctl ⊢
  rw [parseBefore_scheme h.isScheme, hctl]

/-- The path goes on behind the URL: it has begun, or begins there. -/
def Continues (rawPath y : GoString) : Prop := rawPath ≠ [] ∨ ∀ b ∈ y.head?, b = 0x2F

lemma takeWhile_host (h : Absolute authority scheme host rawPath base) {y : GoString}
    (hy : Continues rawPath y) :
    (host ++ (rawPath ++ y)).takeWhile (· != 0x2F) = host ∧
      (host ++ (rawPath ++ y)).dropWhile (· != 0x2F) = rawPath ++ y := by
  have hhost := bne_of_notMem h.host_bytes
  have hhead : ∀ b ∈ (rawPath ++ y).head?, b = 0x2F := by
    cases hraw : rawPath with
    | nil => exact hy.resolve_left (not_not.mpr hraw)
    | cons c s =>
      have := h.path_slash
      rwa [hraw] at this
  rw [takeWhile_append_of_pos hhost, dropWhile_append_of_pos hhost]
  cases hz : rawPath ++ y with
  | nil => simp
  | cons c s =>
    obtain rfl := hhead c (by rw [hz]; rfl)
    simp

lemma lower_ne_nil (h : Absolute authority scheme host rawPath base) : lowerScheme scheme ≠ [] := by
  simpa [lowerScheme] using h.isScheme.ne_nil

/-- **A path and a query behind the URL**, with nothing in them that is decoded or cut. -/
lemma parse_append (h : Absolute authority scheme host rawPath base) {tail path query : GoString}
    (hfragment : 0x23 ∉ tail) (hctl : ∀ b ∈ tail, isCTLByte b = false)
    (hcut : cut tail 0x3F = (path, query)) (hpath : 0x25 ∉ path)
    (hcontinues : Continues rawPath path) :
    ∃ force, parse authority (absoluteText scheme host rawPath ++ tail) =
      some { base with path := base.path ++ path, rawQuery := query, forceQuery := force } := by
  obtain ⟨hfragment', hquery⟩ := h.notMem_of_plain
  have hnone : 0x23 ∉ absoluteText scheme host rawPath ++ tail := by
    simp [hfragment, hfragment']
  have hany : tail.any isCTLByte = false := any_eq_false.mpr fun b hb => by simp [hctl b hb]
  obtain ⟨htake, hdrop⟩ := h.takeWhile_host hcontinues
  rw [parse, cut_of_notMem hnone]
  dsimp only
  rw [h.parseBefore_append, hany, if_neg (by simp), parseRest_authority h.lower_ne_nil,
    cut_append hquery, hcut]
  dsimp only
  rw [append_assoc, htake, hdrop, h.parse_host, unescape_append h.parse_path,
    unescape_of_notMem hpath]
  have hscheme : base.scheme = lowerScheme scheme := congrArg URL.scheme h.base_eq
  have hrootless : base.rootless = [] := congrArg URL.rootless h.base_eq
  have hnofragment : base.fragment = [] := congrArg URL.fragment h.base_eq
  rw [hscheme, hrootless, hnofragment]
  exact ⟨_, rfl⟩

/-- **Any text behind the URL**: the path and the query that are parsed from it. -/
lemma of_parse_append (h : Absolute authority scheme host rawPath base) {tail : GoString}
    {url : URL}
    (hurl : parse authority (absoluteText scheme host rawPath ++ tail) = some url) :
    (∀ b ∈ (cut tail 0x23).1, isCTLByte b = false) ∧
      unescape ((host ++ (rawPath ++ (cut (cut tail 0x23).1 0x3F).1)).dropWhile (· != 0x2F)) =
        some url.path ∧
      url.rawQuery = (cut (cut tail 0x23).1 0x3F).2 := by
  obtain ⟨hfragment, hquery⟩ := h.notMem_of_plain
  obtain ⟨u, hbefore, hpath, hraw⟩ := exists_of_parse hurl
  rw [cut_append hfragment] at hbefore
  dsimp only at hbefore
  rw [h.parseBefore_append] at hbefore
  split_ifs at hbefore with hctl
  rw [parseRest_authority h.lower_ne_nil, cut_append hquery] at hbefore
  obtain ⟨r, -, hbefore⟩ := bind_eq_some_iff.mp hbefore
  obtain ⟨path, hunescape, rfl⟩ := map_eq_some_iff.mp hbefore
  rw [append_assoc] at hunescape
  refine ⟨fun b hb => ?_, hpath ▸ hunescape, hraw⟩
  by_contra hb'
  exact hctl (any_eq_true.mpr ⟨b, hb, by simpa using hb'⟩)

end Absolute

/-- A text behind a URL with a query belongs to the query. -/
lemma of_parse_append_query {target tail : GoString} {base url : URL}
    (h : parse authority target = some base) (hscheme : base.scheme ≠ []) (hhost : base.host ≠ [])
    (hfragment : 0x23 ∉ target) (hquery : 0x3F ∈ target)
    (hurl : parse authority (target ++ tail) = some url) :
    url.path = base.path ∧ url.rawQuery = base.rawQuery ++ (cut tail 0x23).1 ∧
      0x23 ∉ base.rawQuery := by
  obtain ⟨scheme, z, rfl, hisScheme, hlower, -, hrest⟩ :=
    scheme_of_parse h hscheme hhost hfragment
  have hz : 0x3F ∈ z := by simpa [hisScheme.no_mark] using hquery
  rw [parseRest_authority hlower] at hrest
  obtain ⟨r, -, hrest⟩ := bind_eq_some_iff.mp hrest
  obtain ⟨path, hpath, rfl⟩ := map_eq_some_iff.mp hrest
  obtain ⟨u, hbefore, hupath, huraw⟩ := exists_of_parse hurl
  rw [cut_append hfragment, append_assoc, cons_append, cons_append, cons_append,
    parseBefore_scheme hisScheme] at hbefore
  split_ifs at hbefore
  rw [parseRest_authority hlower, cut_append_of_mem hz] at hbefore
  obtain ⟨r', -, hbefore⟩ := bind_eq_some_iff.mp hbefore
  obtain ⟨path', hpath', rfl⟩ := map_eq_some_iff.mp hbefore
  refine ⟨hupath.trans (Option.some.inj (hpath'.symm.trans hpath)), huraw, fun hmem => ?_⟩
  refine hfragment ?_
  have hz' : 0x23 ∈ z := (dropWhile_suffix _).subset (mem_of_mem_tail hmem)
  simp [hz']

end Absolute

end URL

end Mockly
