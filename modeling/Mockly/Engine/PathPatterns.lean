import Mockly.Engine.Literal
import Mockly.Go.Text

/-!
# Path patterns as documented

A pattern that ends in `/*` is matched by its text: in `/users/{id}/*` the braces are nothing but
braces (`documentedMatch`).

Main result: **`matchPath_eq_documented_iff`**.
-/

namespace Mockly

open List Bool

/-! ## The documented meaning -/

def paramName (seg : GoString) : Option GoString :=
  if hasPrefix seg (go "\x7b") && hasSuffix seg (go "\x7d") then some (seg.drop 1).dropLast
  else none

/-- A segment of the pattern that does not stand for itself. -/
def isWild (seg : GoString) : Bool := seg == go "*" || (paramName seg).isSome

def bindSegment (params : GoMap GoString) (seg s : GoString) : Option (GoMap GoString) :=
  if seg = go "*" then some params
  else
    match paramName seg with
    | some name => some (if name = [] then params else params.set name s)
    | none => if seg = s then some params else none

/-- Segment by segment, with what is bound. -/
def bindSegments (params : GoMap GoString) :
    List GoString → List GoString → Option (GoMap GoString)
  | [], [] => some params
  | seg :: pp, s :: sp => (bindSegment params seg s).bind fun params => bindSegments params pp sp
  | _, _ => none

/-- What the documentation says about a pattern that is no regular expression. -/
def documentedMatch (pattern path : GoString) : Option (GoMap GoString) :=
  let pp := split pattern 0x2F
  let sp := split path 0x2F
  if 1 < pp.length ∧ pp.getLast? = some (go "*") then
    bindSegments ∅ pp.dropLast (sp.take pp.dropLast.length)
  else bindSegments ∅ pp sp

/-! ## Segments -/

variable {pp : List GoString} (params : GoMap GoString)

lemma matchSegments_eq {sp : List GoString} (h : pp.length = sp.length) :
    matchSegments params pp sp = bindSegments params pp sp := by
  induction pp generalizing params sp with
  | nil =>
    obtain rfl := length_eq_zero_iff.mp h.symm
    rfl
  | cons seg pp ih =>
    cases sp with
    | nil => cases h
    | cons s sp =>
      have hlen : pp.length = sp.length := by simpa using h
      rw [matchSegments, bindSegments, bindSegment, paramName]
      by_cases hstar : seg = go "*"
      · rw [if_pos hstar, if_pos hstar, ih _ hlen]
        rfl
      rw [if_neg hstar, if_neg hstar]
      by_cases hbraces : (hasPrefix seg (go "\x7b") && hasSuffix seg (go "\x7d")) = true
      · rw [if_pos hbraces, if_pos hbraces, ih _ hlen]
        rfl
      rw [if_neg hbraces, if_neg hbraces]
      by_cases hs : seg = s
      · simp [hs, ih _ hlen]
      · simp [hs]

variable {seg : GoString}

lemma bindSegment_of_plain (h : isWild seg = false) (params : GoMap GoString) (s : GoString) :
    bindSegment params seg s = if seg = s then some params else none := by
  rw [isWild, or_eq_false_iff, beq_eq_false_iff_ne, Option.isSome_eq_false_iff,
    Option.isNone_iff_eq_none] at h
  rw [bindSegment, if_neg h.1, h.2]

lemma bindSegment_of_wild (h : isWild seg = true) (params : GoMap GoString) (s : GoString) :
    ∃ params', bindSegment params seg s = some params' := by
  rw [bindSegment]
  by_cases hstar : seg = go "*"
  · exact ⟨params, if_pos hstar⟩
  · rw [isWild, beq_eq_false_iff_ne.mpr hstar, Bool.false_or] at h
    obtain ⟨name, hname⟩ := Option.isSome_iff_exists.mp h
    rw [if_neg hstar, hname]
    exact ⟨_, rfl⟩

lemma bindSegment_self (seg : GoString) : ∃ params', bindSegment params seg seg = some params' := by
  cases hwild : isWild seg with
  | true => exact bindSegment_of_wild hwild params seg
  | false => exact ⟨params, by rw [bindSegment_of_plain hwild, if_pos rfl]⟩

lemma bindSegments_of_plain (h : ∀ seg ∈ pp, isWild seg = false) (params : GoMap GoString)
    (sp : List GoString) : bindSegments params pp sp = if pp = sp then some params else none := by
  induction pp generalizing sp with
  | nil => cases sp <;> rfl
  | cons seg pp ih =>
    rw [forall_mem_cons] at h
    cases sp with
    | nil => rfl
    | cons s sp =>
      rw [bindSegments, bindSegment_of_plain h.1]
      by_cases hs : seg = s
      · simp [hs, ih h.2]
      · simp [hs]

/-- The segments of a path that a pattern is for, with one text in the place of wildcards. -/
def fillIn (text : GoString) (pp : List GoString) : List GoString :=
  pp.map fun seg => if isWild seg then text else seg

variable (text : GoString)

lemma fillIn_cons (seg : GoString) (pp : List GoString) :
    fillIn text (seg :: pp) = (if isWild seg then text else seg) :: fillIn text pp := rfl

lemma length_fillIn (pp : List GoString) : (fillIn text pp).length = pp.length :=
  length_map _

lemma mem_fillIn {text s : GoString} (h : s ∈ fillIn text pp) : s = text ∨ s ∈ pp := by
  obtain ⟨seg, hseg, rfl⟩ := mem_map.mp h
  split_ifs
  · exact Or.inl rfl
  · exact Or.inr hseg

lemma split_join_fillIn {text : GoString} {sep : UInt8} (hne : pp ≠ [])
    (hpp : ∀ seg ∈ pp, sep ∉ seg) (htext : sep ∉ text) :
    split (join (fillIn text pp) [sep]) sep = fillIn text pp := by
  refine split_join ?_ fun s hs => ?_
  · rwa [← length_pos_iff, length_fillIn, length_pos_iff]
  · obtain rfl | hs := mem_fillIn hs
    · exact htext
    · exact hpp s hs

lemma bindSegment_fillIn (seg : GoString) :
    ∃ params', bindSegment params seg (if isWild seg then text else seg) = some params' := by
  split_ifs with hwild
  · exact bindSegment_of_wild hwild params text
  · exact bindSegment_self params seg

lemma bindSegments_fillIn (pp : List GoString) :
    (bindSegments params pp (fillIn text pp)).isSome := by
  induction pp generalizing params with
  | nil => rfl
  | cons seg pp ih =>
    obtain ⟨params', hparams'⟩ := bindSegment_fillIn params text seg
    rw [fillIn_cons, bindSegments, hparams']
    exact ih params'

lemma fillIn_eq_self_iff {text : GoString} (htext : isWild text = false) :
    fillIn text pp = pp ↔ ∀ seg ∈ pp, isWild seg = false := by
  induction pp with
  | nil => simp [fillIn]
  | cons seg pp ih =>
    rw [fillIn_cons, List.cons.injEq, ih, forall_mem_cons]
    refine and_congr_left fun _ => ?_
    cases hwild : isWild seg with
    | false => simp
    | true =>
      refine iff_of_false (fun heq => ?_) (by decide)
      rw [if_pos rfl] at heq
      rw [heq, hwild] at htext
      cases htext

lemma bindSegments_of_length_ne {sp : List GoString} (h : pp.length ≠ sp.length)
    (params : GoMap GoString) : bindSegments params pp sp = none := by
  induction pp generalizing params sp with
  | nil =>
    cases sp with
    | nil => exact absurd rfl h
    | cons s sp => rfl
  | cons seg pp ih =>
    cases sp with
    | nil => rfl
    | cons s sp =>
      have hlen : pp.length ≠ sp.length := by simpa using h
      rw [bindSegments]
      cases bindSegment params seg s with
      | none => rfl
      | some params' => exact ih hlen params'

lemma matchPathSegments_eq (pattern path : GoString) :
    matchPathSegments pattern path = bindSegments ∅ (split pattern 0x2F) (split path 0x2F) := by
  rw [matchPathSegments]
  split_ifs with h
  · rw [bindSegments_of_length_ne h]
  · exact matchSegments_eq ∅ (not_not.mp h)

/-! ## Patterns -/

variable {env : Env} {pattern path : GoString}

lemma split_tail (pre : GoString) :
    split (pre ++ go "/*") 0x2F = split pre 0x2F ++ [go "*"] :=
  split_append_cons pre (go "*") 0x2F

lemma hasSuffix_iff : hasSuffix pattern (go "/*") = true ↔
    1 < (split pattern 0x2F).length ∧ (split pattern 0x2F).getLast? = some (go "*") := by
  rw [hasSuffix, isSuffixOf_iff_suffix]
  constructor
  · rintro ⟨pre, rfl⟩
    have hpos := length_pos_of_ne_nil (split_ne_nil pre 0x2F)
    rw [split_tail, List.getLast?_concat, length_append, length_singleton]
    exact ⟨by omega, rfl⟩
  · rintro ⟨hlen, hlast⟩
    obtain ⟨segs, hsegs⟩ := List.getLast?_eq_some_iff.mp hlast
    have hne : segs ≠ [] := by
      rintro rfl
      rw [hsegs] at hlen
      exact absurd hlen (by decide)
    refine ⟨join segs [0x2F], ?_⟩
    rw [← join_split pattern 0x2F, hsegs, join_append hne (by simp)]
    rfl

lemma matchPath_tail (hre : isRegex (pattern ++ go "/*") = false) :
    matchPath env (pattern ++ go "/*") path =
      if split pattern 0x2F <+: split path 0x2F then some ∅ else none := by
  have hsuffix : hasSuffix (pattern ++ go "/*") (go "/*") = true :=
    isSuffixOf_iff_suffix.mpr (suffix_append _ _)
  have hpre : trimSuffix (pattern ++ go "/*") (go "/*") = pattern := by
    rw [trimSuffix, if_pos hsuffix]
    simp
  have hother : ¬(pattern ++ go "/*" = [] ∨ pattern ++ go "/*" = go "*") := by
    rintro (h | h)
    · cases (append_eq_nil_iff.mp h).2
    · have hlen := congrArg List.length h
      rw [length_append] at hlen
      exact absurd hlen (Nat.ne_of_gt (Nat.lt_of_lt_of_le (by decide) (Nat.le_add_left _ _)))
  unfold matchPath
  dsimp only
  rw [if_neg hother, hre, if_neg (by decide), if_pos hsuffix, hpre]
  refine if_congr ?_ rfl rfl
  rw [split_isPrefix_iff, or_eq_true, beq_iff_eq, hasPrefix, List.isPrefixOf_iff_prefix]
  rfl

lemma documentedMatch_tail :
    documentedMatch (pattern ++ go "/*") path =
      bindSegments ∅ (split pattern 0x2F)
        ((split path 0x2F).take (split pattern 0x2F).length) := by
  have hsuffix := hasSuffix_iff.mp
    (isSuffixOf_iff_suffix.mpr (suffix_append pattern (go "/*")))
  unfold documentedMatch
  dsimp only
  rw [if_pos hsuffix, split_tail, dropLast_concat]

lemma matchPath_tail_iff (hre : isRegex (pattern ++ go "/*") = false) :
    (∀ path, matchPath env (pattern ++ go "/*") path = documentedMatch (pattern ++ go "/*") path) ↔
      ∀ seg ∈ split pattern 0x2F, isWild seg = false := by
  simp only [matchPath_tail hre, documentedMatch_tail]
  constructor
  · intro h
    -- the path with nothing in the place of the wildcards
    have hsplit := split_join_fillIn (split_ne_nil pattern 0x2F)
      (fun seg => notMem_of_mem_split) not_mem_nil
    have hpath := h (join (fillIn [] (split pattern 0x2F)) [0x2F])
    rw [hsplit, ← length_fillIn [] (split pattern 0x2F), take_length] at hpath
    have hsome := bindSegments_fillIn ∅ [] (split pattern 0x2F)
    rw [← hpath] at hsome
    split_ifs at hsome with hsegs
    · exact (fillIn_eq_self_iff rfl).mp (hsegs.eq_of_length (length_fillIn _ _).symm).symm
    · cases hsome
  · intro h path
    rw [bindSegments_of_plain h]
    exact if_congr prefix_iff_eq_take rfl rfl

lemma isWild_of_literal (hstar : contains pattern (go "*") = false)
    (hbraces : (contains pattern (go "\x7b") && contains pattern (go "\x7d")) = false)
    (hseg : seg ∈ split pattern 0x2F) : isWild seg = false := by
  have hcontains : ∀ text, text <:+: seg → contains pattern text = true := fun text htext =>
    decide_eq_true (htext.trans (isInfix_of_mem_split hseg))
  rw [isWild, or_eq_false_iff, beq_eq_false_iff_ne, paramName]
  constructor
  · rintro rfl
    rw [hcontains _ infix_rfl] at hstar
    cases hstar
  · split_ifs with h
    · rw [and_eq_true, hasPrefix, hasSuffix, List.isPrefixOf_iff_prefix, isSuffixOf_iff_suffix] at h
      rw [hcontains _ h.1.isInfix, hcontains _ h.2.isInfix] at hbraces
      cases hbraces
    · rfl

/-- The patterns that the code gives their documented meaning. -/
structure AsDocumented (pattern : GoString) : Prop where
  nonempty : pattern ≠ []
  notStar : pattern ≠ go "*"
  plainTail : hasSuffix pattern (go "/*") = true →
    ∀ seg ∈ (split pattern 0x2F).dropLast, isWild seg = false

lemma matchPath_of_no_tail (hnil : pattern ≠ []) (hstar : pattern ≠ go "*")
    (hre : isRegex pattern = false) (htail : hasSuffix pattern (go "/*") = false)
    (path : GoString) : matchPath env pattern path = documentedMatch pattern path := by
  have hdocumented : documentedMatch pattern path =
      bindSegments ∅ (split pattern 0x2F) (split path 0x2F) :=
    if_neg fun h => by
      rw [hasSuffix_iff.mpr h] at htail
      cases htail
  have hother : ¬(pattern = [] ∨ pattern = go "*") := not_or.mpr ⟨hnil, hstar⟩
  unfold matchPath
  dsimp only
  rw [if_neg hother, hre, if_neg (by decide), htail, if_neg (by decide), hdocumented]
  by_cases hsegments : (contains pattern (go "*") ||
      contains pattern (go "\x7b") && contains pattern (go "\x7d")) = true
  · rw [if_pos hsegments, matchPathSegments_eq]
  · rw [if_neg hsegments]
    rw [not_eq_true, or_eq_false_iff] at hsegments
    rw [bindSegments_of_plain fun seg => isWild_of_literal hsegments.1 hsegments.2]
    exact if_congr (by rw [beq_iff_eq, split_inj]) rfl rfl

/-- **A path pattern means what the documentation says** unless it is the empty one, a single star,
or has a wildcard before a last `/*`. -/
theorem matchPath_eq_documented_iff (env : Env) (pattern : GoString)
    (hre : isRegex pattern = false) :
    (∀ path, matchPath env pattern path = documentedMatch pattern path) ↔
      AsDocumented pattern := by
  by_cases hnil : pattern = []
  · refine iff_of_false (fun h => ?_) fun h => h.nonempty hnil
    rw [hnil] at h
    have hall : matchPath env [] (go "/") = some ∅ := rfl
    cases hall.symm.trans (h (go "/"))
  by_cases hstar : pattern = go "*"
  · refine iff_of_false (fun h => ?_) fun h => h.notStar hstar
    rw [hstar] at h
    have hall : matchPath env (go "*") (go "/") = some ∅ := rfl
    cases hall.symm.trans (h (go "/"))
  cases htail : hasSuffix pattern (go "/*") with
  | false =>
    refine iff_of_true (matchPath_of_no_tail hnil hstar hre htail) ⟨hnil, hstar, fun h => ?_⟩
    rw [htail] at h
    cases h
  | true =>
    obtain ⟨pre, rfl⟩ := List.isSuffixOf_iff_suffix.mp htail
    have hsplit : (split (pre ++ go "/*") 0x2F).dropLast = split pre 0x2F := by
      rw [split_tail, List.dropLast_concat]
    rw [matchPath_tail_iff hre, ← hsplit]
    exact ⟨fun h => ⟨hnil, hstar, fun _ => h⟩, fun h => h.plainTail htail⟩

/-- Parameters and stars in the middle, and a tail below a plain path. -/
theorem documented_patterns :
    (∀ path, matchPath Env.basic (go "/users/\x7bid\x7d/files/*/raw") path =
        documentedMatch (go "/users/\x7bid\x7d/files/*/raw") path) ∧
      ∀ path, matchPath Env.basic (go "/static/*") path =
        documentedMatch (go "/static/*") path := by
  refine ⟨(matchPath_eq_documented_iff _ _ (by decide)).mpr ⟨by decide, by decide, by decide⟩,
    (matchPath_eq_documented_iff _ _ (by decide)).mpr ⟨by decide, by decide, by decide⟩⟩

/-- **A parameter before a last `/*` is matched by its text**, and so is a star. -/
theorem tail_forgets_wildcards :
    matchPath Env.basic (go "/users/\x7bid\x7d/*") (go "/users/7/x") = none ∧
      documentedMatch (go "/users/\x7bid\x7d/*") (go "/users/7/x") =
        some ((∅ : GoMap GoString).set (go "id") (go "7")) ∧
      matchPath Env.basic (go "/regions/*/files/*") (go "/regions/eu/files/x") = none ∧
      documentedMatch (go "/regions/*/files/*") (go "/regions/eu/files/x") = some ∅ :=
  ⟨rfl, rfl, rfl, rfl⟩

end Mockly
