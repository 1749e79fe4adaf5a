import Mockly.Engine.Match

/-!
# Requests read as patterns

Record mode stores the path and the query of a request where the matcher expects patterns.

* `matchPath_self` — every path matches itself as a pattern, regular expressions apart.
* `LiteralPath`, `LiteralQuery` — texts that match nothing but themselves.
-/

namespace Mockly

variable {env : Env}

/-! ## Paths -/

lemma matchSegments_self (segs : List GoString) (params : GoMap GoString) :
    (matchSegments params segs segs).isSome = true := by
  induction segs generalizing params with
  | nil => rfl
  | cons seg segs ih =>
    simp only [matchSegments]
    split
    · exact ih _
    · split
      · exact ih _
      · rw [if_neg (by simp)]
        exact ih _

/-- What stands before a suffix is a prefix of the text, with the first byte of the suffix. -/
lemma hasPrefix_trimSuffix {p : GoString} (h : hasSuffix p (go "/*") = true) :
    hasPrefix p (trimSuffix p (go "/*") ++ go "/") = true := by
  have hsuffix : go "/*" <:+ p := List.isSuffixOf_iff_suffix.mp h
  obtain ⟨pre, rfl⟩ := hsuffix
  have hpre : trimSuffix (pre ++ go "/*") (go "/*") = pre := by
    rw [trimSuffix, if_pos h]
    simp
  rw [hpre, hasPrefix, List.isPrefixOf_iff_prefix, List.prefix_append_right_inj]
  decide

/-- **A path matches itself as a pattern** unless it is a regular expression. -/
theorem matchPath_self {p : GoString} (h : isRegex p = false) :
    (matchPath env p p).isSome = true := by
  unfold matchPath
  dsimp only
  split
  · rfl
  · rw [if_neg (by simp [h])]
    split
    · rename_i hsuffix
      simp [hasPrefix_trimSuffix hsuffix]
    · split
      · rw [matchPathSegments, if_neg (by simp)]
        exact matchSegments_self _ _
      · simp

/-- A path without any meaning as a pattern. -/
structure LiteralPath (p : GoString) : Prop where
  nonempty : p ≠ []
  notRegex : isRegex p = false
  noStar : contains p (go "*") = false
  noParam : (contains p (go "\x7b") && contains p (go "\x7d")) = false

lemma contains_of_hasSuffix {p : GoString} (h : hasSuffix p (go "/*") = true) :
    contains p (go "*") = true := by
  have hsuffix : go "/*" <:+ p := List.isSuffixOf_iff_suffix.mp h
  have hstar : go "*" <:+ go "/*" := by decide
  exact decide_eq_true (hstar.trans hsuffix).isInfix

/-- A literal path matches itself only. -/
theorem matchPath_of_literal {p path : GoString} (hp : LiteralPath p)
    (h : (matchPath env p path).isSome = true) : p = path := by
  have hstar : p ≠ go "*" := by
    rintro rfl
    exact absurd hp.noStar (by decide)
  have hsuffix : hasSuffix p (go "/*") = false := by
    by_contra hne
    have hcontains := contains_of_hasSuffix (Bool.eq_true_of_not_eq_false hne)
    rw [hp.noStar] at hcontains
    cases hcontains
  by_contra hne
  simp [matchPath, hp.nonempty, hstar, hp.notRegex, hsuffix, hp.noStar, hp.noParam, hne] at h

/-! ## Queries -/

/-- The values match nothing but themselves. -/
def LiteralQuery (query : GoMap GoString) : Prop :=
  ∀ k v, query.get? k = some v → v ≠ queryAbsent ∧ v ≠ go "*" ∧ isRegex v = false

lemma matchQueryKey_literal {v : GoString} {values : List GoString} (habsent : v ≠ queryAbsent)
    (hstar : v ≠ go "*") (hre : isRegex v = false) :
    matchQueryKey env v values = true ↔ v ∈ values := by
  simp [matchQueryKey, habsent, hstar, matchQueryValue, matchValue, hre]

/-- A literal query asks for exactly its values to be there. -/
theorem matchQuery_literal {want : GoMap GoString} {got : GoMap (List GoString)}
    (hwant : LiteralQuery want) :
    matchQuery env want got = true ↔ ∀ k v, want.get? k = some v → v ∈ (got.get? k).getD [] := by
  simp only [matchQuery, List.all_eq_true, Prod.forall, GoMap.mem_toList]
  refine forall_congr' fun k => forall_congr' fun v => imp_congr_right fun hv => ?_
  obtain ⟨habsent, hstar, hre⟩ := hwant k v hv
  exact matchQueryKey_literal habsent hstar hre

/-- The first values of a query match the query, if none of them means something else. -/
theorem matchQuery_self {got : GoMap (List GoString)}
    (h : ∀ k v, (firstQueryValues got).get? k = some v → v ≠ queryAbsent ∧ isRegex v = false) :
    matchQuery env (firstQueryValues got) got = true := by
  simp only [matchQuery, List.all_eq_true, Prod.forall, GoMap.mem_toList]
  intro k v hv
  obtain ⟨habsent, hre⟩ := h k v hv
  rw [get?_firstQueryValues, Option.bind_eq_some_iff] at hv
  obtain ⟨values, hvalues, hhead⟩ := hv
  have hmem : v ∈ values := List.mem_of_head? hhead
  simp only [matchQueryKey, habsent, if_false, hvalues, Option.getD_some, List.any_eq_true]
  exact ⟨v, hmem, by simp [matchQueryValue, matchValue, hre]⟩

end Mockly
