import Mockly.Lib.Stars
import Mockly.STOMP.Server

/-!
# What patterns with a star accept

Six servers take a pattern apart at its first star and compare the two ends, which may overlap in
the text (`Expands`).

Main result: **`accepts_iff_expands`**.
-/

namespace Mockly

open Stars List

/-- The six servers. -/
inductive StarMatcher
  | redis | memcached | kafka | amqp | stomp | smtp

def StarMatcher.accepts (env : Env) : StarMatcher → GoString → GoString → Bool
  | .redis => matchRedisKey env
  | .memcached => matchMemcachedKey env
  | .kafka => matchKafkaTopic env
  | .amqp => matchAMQPRoutingKey env
  | .stomp => STOMP.matchDestination env
  | .smtp => matchSMTPPattern env

variable {env : Env} {pattern : GoString}

lemma star_notMem_beforeStar (pattern : GoString) : star ∉ beforeStar pattern := by
  intro h
  have hne := mem_takeWhile_imp h
  simp at hne

lemma eq_beforeStar_append (h : star ∈ pattern) :
    pattern = beforeStar pattern ++ star :: behindStar pattern := by
  have hne : pattern.dropWhile (· != star) ≠ [] := by
    rw [Ne, dropWhile_eq_nil_iff]
    intro hall
    simpa using hall star h
  have hhead : (pattern.dropWhile (· != star)).head hne = star := by
    simpa using head_dropWhile_not (· != star) hne
  have hcons := cons_head_tail hne
  rw [hhead] at hcons
  rw [behindStar, drop_one, hcons, beforeStar, takeWhile_append_dropWhile]

lemma ends_eq_true_iff (pattern text : GoString) :
    (hasPrefix text (beforeStar pattern) &&
      (behindStar pattern == [] || hasSuffix text (behindStar pattern))) = true ↔
      beforeStar pattern <+: text ∧ behindStar pattern <:+ text := by
  simp only [hasPrefix, hasSuffix, Bool.and_eq_true, Bool.or_eq_true, beq_iff_eq,
    List.isPrefixOf_iff_prefix, isSuffixOf_iff_suffix]
  refine and_congr_right fun _ => ⟨fun h => ?_, Or.inr⟩
  obtain hnil | hsuffix := h
  · rw [hnil]
    exact nil_suffix
  · exact hsuffix

lemma ends_of_star (text : GoString) :
    beforeStar (go "*") <+: text ∧ behindStar (go "*") <:+ text :=
  ⟨List.nil_prefix, nil_suffix⟩

lemma contains_star (h : star ∈ pattern) : contains pattern (go "*") = true := by
  rw [show go "*" = [star] from rfl, contains_singleton, decide_eq_true_iff]
  exact h

lemma matchWildcard_iff_ends (hre : isRegex pattern = false) (hstar : star ∈ pattern)
    (text : GoString) :
    matchWildcard env pattern text = true ↔
      beforeStar pattern <+: text ∧ behindStar pattern <:+ text := by
  rw [matchWildcard]
  split_ifs with hany hregex hcontains
  · have honly : pattern = go "*" := hany.resolve_left (ne_nil_of_mem hstar)
    rw [honly]
    exact iff_of_true rfl (ends_of_star text)
  · rw [hre] at hregex
    cases hregex
  · exact ends_eq_true_iff pattern text
  · exact absurd (contains_star hstar) hcontains

/-- **What the servers do with a star.** -/
lemma accepts_iff_ends (hre : isRegex pattern = false) (hstar : star ∈ pattern) (m : StarMatcher)
    (text : GoString) :
    m.accepts env pattern text = true ↔
      beforeStar pattern <+: text ∧ behindStar pattern <:+ text := by
  have hcontains := contains_star hstar
  cases m with
  | redis =>
    by_cases hany : pattern = go "*"
    · rw [hany]
      exact iff_of_true rfl (ends_of_star text)
    · change matchRedisKey env pattern text = true ↔ _
      rw [matchRedisKey, if_neg hany, hre, hcontains, ← ends_eq_true_iff, bne]
      cases hasPrefix text (beforeStar pattern) <;> cases behindStar pattern == [] <;>
        cases hasSuffix text (behindStar pattern) <;> simp
  | smtp =>
    change matchSMTPPattern env pattern text = true ↔ _
    rw [matchSMTPPattern, hre, hcontains, ← ends_eq_true_iff]
    simp
  | memcached | kafka | amqp | stomp => exact matchWildcard_iff_ends hre hstar text

/-- **When a star is read as usual**: it is the only one, and the two ends cannot overlap. -/
theorem accepts_iff_expands (env : Env) (m : StarMatcher) (pattern : GoString)
    (hre : isRegex pattern = false) (hstar : star ∈ pattern) :
    (∀ text, m.accepts env pattern text = true ↔ Expands star pattern text) ↔
      star ∉ behindStar pattern ∧ ¬Overlaps (beforeStar pattern) (behindStar pattern) := by
  have hexpands (text : GoString) : Expands star pattern text ↔
      ∃ x s, text = beforeStar pattern ++ (x ++ s) ∧ Expands star (behindStar pattern) s := by
    conv_lhs => rw [eq_beforeStar_append hstar]
    exact expands_star_iff (star_notMem_beforeStar pattern)
  simp only [accepts_iff_ends hre hstar, hexpands]
  by_cases hbehind : star ∈ behindStar pattern
  · -- The text without the other stars is not accepted.
    refine iff_of_false (fun h => ?_) fun h => h.1 hbehind
    have hends := (h (beforeStar pattern ++ ([] ++ (behindStar pattern).filter (· ≠ star)))).mpr
      ⟨[], _, rfl, expands_filter _⟩
    have hmem := hends.2.subset hbehind
    rw [List.nil_append, List.mem_append] at hmem
    obtain hmem | hmem := hmem
    · exact star_notMem_beforeStar pattern hmem
    · simp at hmem
  · simp only [expands_of_notMem hbehind, exists_eq_right, hbehind, not_false_eq_true, true_and,
      ← ends_iff_not_overlaps]
    refine forall_congr' fun text => ⟨fun h => h.mp, fun h => ⟨h, ?_⟩⟩
    rintro ⟨x, rfl⟩
    exact ⟨List.prefix_append _ _, (List.suffix_append _ _).trans (List.suffix_append _ _)⟩

/-- A pattern that is read as usual. -/
theorem accepts_user_file :
    StarMatcher.redis.accepts .basic (go "user-*.json") (go "user-7.json") = true ↔
      Expands star (go "user-*.json") (go "user-7.json") :=
  (accepts_iff_expands .basic .redis (go "user-*.json") rfl (by decide)).mpr
    ⟨by decide, by decide⟩ (go "user-7.json")

/-- The dash of `orders-v1` serves as both dashes of `orders-*-v1`, and the second star of `*.*` is
a star. -/
theorem star_misread :
    ((∀ m : StarMatcher, m.accepts .basic (go "orders-*-v1") (go "orders-v1") = true) ∧
      ¬Expands star (go "orders-*-v1") (go "orders-v1")) ∧
    (∀ m : StarMatcher, m.accepts .basic (go "*.*") (go "a.b") = false) ∧
      Expands star (go "*.*") (go "a.b") := by
  have hfirst : ¬Expands star (go "orders-*-v1") (go "orders-v1") := by
    intro h
    rw [show go "orders-*-v1" = go "orders-" ++ star :: go "-v1" from rfl,
      expands_star_iff (by decide)] at h
    obtain ⟨x, s, htext, hs⟩ := h
    rw [expands_of_notMem (by decide)] at hs
    subst hs
    have hlen := congrArg List.length htext
    rw [List.length_append, List.length_append, show (go "orders-v1").length = 9 from rfl,
      show (go "orders-").length = 7 from rfl, show (go "-v1").length = 3 from rfl] at hlen
    omega
  have hsecond : Expands star (go "*.*") (go "a.b") :=
    .star (go "a") (.char (by decide) (.star (go "b") .nil))
  refine ⟨⟨?_, hfirst⟩, ?_, hsecond⟩
  · intro m
    cases m <;> rfl
  · intro m
    cases m <;> rfl

end Mockly
