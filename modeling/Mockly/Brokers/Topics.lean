import Mockly.Brokers.Match

/-!
# The topics of an MQTT filter

`matchMQTTTopic` against the rules of MQTT (`MatchesTopic`), for a filter with `#` at most as its
last level.
-/

namespace Mockly.Brokers

open List

def braced (name : GoString) : GoString := go "\x7b" ++ name ++ go "\x7d"

/-- A level of a filter and a level of a topic it is for. -/
inductive OneLevel : GoString → GoString → Prop
  | plus (t : GoString) : OneLevel (go "+") t
  | braces (name t : GoString) : OneLevel (braced name) t
  | literal {f : GoString} (h : f ≠ go "#") : OneLevel f f

/-- The topics of a filter, by their levels. -/
def MatchesTopic (filter topic : List GoString) : Prop :=
  List.Forall₂ OneLevel filter topic ∨
    ∃ levels parent beneath, filter = levels ++ [go "#"] ∧ topic = parent ++ beneath ∧
      List.Forall₂ OneLevel levels parent

/-- Where the last `{name}` of the filter stands, the topic has this level. -/
def BindsLast (filter topic : List GoString) (name level : GoString) : Prop :=
  ∃ i : ℕ, filter[i]? = some (braced name) ∧ topic[i]? = some level ∧
    ∀ j : ℕ, i < j → filter[j]? ≠ some (braced name)

/-! ## Levels -/

variable {f name : GoString}

lemma capture_eq_some_iff : capture f = some name ↔ f = braced name := by
  have hopen : go "\x7b" = [0x7B] := by decide
  have hclose : go "\x7d" = [0x7D] := by decide
  rw [capture, braced, hopen, hclose]
  constructor
  · intro h
    split_ifs at h with hbraces
    rw [Bool.and_eq_true, hasPrefix, hasSuffix, List.isPrefixOf_iff_prefix,
      isSuffixOf_iff_suffix] at hbraces
    obtain ⟨⟨rest, rfl⟩, ⟨init, hinit⟩⟩ := hbraces
    -- The two braces are different bytes, so that they are two.
    cases init with
    | nil => simp at hinit
    | cons b init =>
      rw [cons_append, singleton_append, List.cons.injEq] at hinit
      obtain ⟨rfl, rfl⟩ := hinit
      have hname : init = name := by simpa using h
      rw [hname, append_assoc]
  · rintro rfl
    rw [if_pos]
    · simp
    · rw [Bool.and_eq_true, hasPrefix, hasSuffix, List.isPrefixOf_iff_prefix, isSuffixOf_iff_suffix]
      exact ⟨⟨name ++ [0x7D], by simp⟩, ⟨[0x7B] ++ name, rfl⟩⟩

lemma braced_injective : Function.Injective braced := by
  intro a b hab
  have ha : capture (braced b) = some a := capture_eq_some_iff.mpr hab.symm
  rw [capture_eq_some_iff.mpr rfl] at ha
  exact (Option.some.inj ha).symm

lemma braced_ne_hash (name : GoString) : braced name ≠ go "#" := by
  intro h
  have hnone : capture (go "#") = none := by decide
  rw [capture_eq_some_iff.mpr h.symm] at hnone
  exact absurd hnone (Option.some_ne_none _)

def bindLevel (params : GoMap GoString) (f t : GoString) : GoMap GoString :=
  match capture f with
  | some name => if name = [] then params else params.set name t
  | none => params

lemma bindLevel_of_capture (h : capture f = some name) (params : GoMap GoString) (t : GoString) :
    bindLevel params f t = if name = [] then params else params.set name t := by
  rw [bindLevel, h]

lemma bindLevel_of_not_braced (h : capture f = none) (params : GoMap GoString) (t : GoString) :
    bindLevel params f t = params := by
  rw [bindLevel, h]

lemma matchLevels_cons_cons {t : GoString} (hf : f ≠ go "#") (fs ts : List GoString)
    (params : GoMap GoString) :
    (OneLevel f t → matchLevels (go "+") (go "#") (f :: fs) (t :: ts) params =
      matchLevels (go "+") (go "#") fs ts (bindLevel params f t)) ∧
    (¬OneLevel f t → matchLevels (go "+") (go "#") (f :: fs) (t :: ts) params = none) := by
  rw [matchLevels, if_neg hf]
  by_cases hplus : f = go "+"
  · subst hplus
    have hbind : bindLevel params (go "+") t = params := bindLevel_of_not_braced (by decide) _ _
    simp [hbind, OneLevel.plus]
  · cases hc : capture f with
    | some name =>
      obtain rfl := capture_eq_some_iff.mp hc
      simp [hplus, bindLevel_of_capture hc, OneLevel.braces]
    | none =>
      have hone : OneLevel f t ↔ f = t := by
        constructor
        · intro h
          cases h with
          | plus t => exact absurd rfl hplus
          | braces name t => exact absurd hc (by simp [capture_eq_some_iff.mpr rfl])
          | literal h => rfl
        · rintro rfl
          exact .literal hf
      simp only [hplus, if_false, bindLevel_of_not_braced hc, hone]
      exact ⟨fun h => if_pos h, fun h => if_neg h⟩

/-! ## Acceptance -/

variable {topic : List GoString}

lemma matchesTopic_nil : MatchesTopic [] topic ↔ topic = [] := by
  simp [MatchesTopic]

lemma matchesTopic_hash (topic : List GoString) : MatchesTopic [go "#"] topic :=
  Or.inr ⟨[], [], topic, rfl, rfl, .nil⟩

variable {fs : List GoString}

lemma matchesTopic_cons (hf : f ≠ go "#") :
    MatchesTopic (f :: fs) topic ↔ ∃ t ts, topic = t :: ts ∧ OneLevel f t ∧ MatchesTopic fs ts := by
  constructor
  · rintro (h | ⟨levels, parent, beneath, hfilter, rfl, hlevels⟩)
    · obtain ⟨t, ts, hone, hts, rfl⟩ := forall₂_cons_left_iff.mp h
      exact ⟨t, ts, rfl, hone, Or.inl hts⟩
    · cases hlevels with
      | nil => exact absurd (List.cons.inj hfilter).1 hf
      | cons hone hrest =>
        obtain ⟨rfl, rfl⟩ := List.cons.inj hfilter
        exact ⟨_, _, rfl, hone, Or.inr ⟨_, _, beneath, rfl, rfl, hrest⟩⟩
  · rintro ⟨t, ts, rfl, hone, hts | ⟨levels, parent, beneath, rfl, rfl, hlevels⟩⟩
    · exact Or.inl (.cons hone hts)
    · exact Or.inr ⟨f :: levels, t :: parent, beneath, rfl, rfl, .cons hone hlevels⟩

variable {filter : List GoString}

lemma matchesTopic_self (h : go "#" ∉ filter.dropLast) : MatchesTopic filter filter := by
  induction filter with
  | nil => exact matchesTopic_nil.mpr rfl
  | cons f fs ih =>
    by_cases hf : f = go "#"
    · subst hf
      cases fs with
      | nil => exact matchesTopic_hash _
      | cons g fs => simp at h
    · refine (matchesTopic_cons hf).mpr ⟨f, fs, rfl, .literal hf, ih fun hmem => h ?_⟩
      cases fs with
      | nil => simp at hmem
      | cons g fs => exact mem_cons_of_mem _ hmem

lemma cons_of_hash_last (h : go "#" ∉ (f :: fs).dropLast) :
    (f = go "#" → fs = []) ∧ go "#" ∉ fs.dropLast := by
  cases fs with
  | nil => simp
  | cons g fs =>
    rw [dropLast_cons_cons, mem_cons, not_or] at h
    exact ⟨fun hf => absurd hf.symm h.1, h.2⟩

/-- The loop accepts what the rules accept; the induction is on the filter. -/
lemma isSome_matchLevels (h : go "#" ∉ filter.dropLast) (topic : List GoString)
    (params : GoMap GoString) :
    (matchLevels (go "+") (go "#") filter topic params).isSome ↔ MatchesTopic filter topic := by
  induction filter generalizing topic params with
  | nil =>
    rw [matchesTopic_nil, matchLevels]
    by_cases ht : topic = [] <;> simp [ht]
  | cons f fs ih =>
    obtain ⟨hlast, hfs⟩ := cons_of_hash_last h
    by_cases hf : f = go "#"
    · subst hf
      obtain rfl := hlast rfl
      simp [matchesTopic_hash]
    · rw [matchesTopic_cons hf]
      cases topic with
      | nil => simp [matchLevels, hf]
      | cons t ts =>
        obtain ⟨hyes, hno⟩ := matchLevels_cons_cons (t := t) hf fs ts params
        by_cases hone : OneLevel f t
        · rw [hyes hone, ih hfs]
          simp [hone]
        · rw [hno hone]
          simp [hone]

/-! ## Captures -/

lemma not_bindsLast_nil {level : GoString} : ¬BindsLast [] topic name level := by
  rintro ⟨i, hi, -⟩
  simp at hi

lemma bindsLast_cons {t level : GoString} {ts : List GoString} :
    BindsLast (f :: fs) (t :: ts) name level ↔
      BindsLast fs ts name level ∨ f = braced name ∧ t = level ∧ braced name ∉ fs := by
  constructor
  · rintro ⟨i, hf, ht, hlast⟩
    cases i with
    | zero =>
      refine Or.inr ⟨by simpa using hf, by simpa using ht, fun hmem => ?_⟩
      obtain ⟨j, hj⟩ := mem_iff_getElem?.mp hmem
      exact hlast (j + 1) (Nat.succ_pos j) (by simpa using hj)
    | succ i =>
      refine Or.inl ⟨i, by simpa using hf, by simpa using ht, fun j hij hj => ?_⟩
      exact hlast (j + 1) (Nat.succ_lt_succ hij) (by simpa using hj)
  · rintro (⟨i, hf, ht, hlast⟩ | ⟨rfl, rfl, hlast⟩)
    · refine ⟨i + 1, by simpa using hf, by simpa using ht, fun j hij hj => ?_⟩
      cases j with
      | zero => exact absurd hij (Nat.not_lt_zero _)
      | succ j => exact hlast j (Nat.lt_of_succ_lt_succ hij) (by simpa using hj)
    · refine ⟨0, by simp, by simp, fun j hij hj => ?_⟩
      cases j with
      | zero => exact absurd hij (lt_irrefl _)
      | succ j => exact hlast (mem_iff_getElem?.mpr ⟨j, by simpa using hj⟩)

lemma get?_bindLevel (hname : name ≠ []) (params : GoMap GoString) (f t : GoString) :
    (bindLevel params f t).get? name = if f = braced name then some t else params.get? name := by
  cases hc : capture f with
  | none =>
    have hf : f ≠ braced name := fun h => by simp [capture_eq_some_iff.mpr h] at hc
    rw [bindLevel_of_not_braced hc, if_neg hf]
  | some name' =>
    obtain rfl := capture_eq_some_iff.mp hc
    rw [bindLevel_of_capture hc]
    simp only [braced_injective.eq_iff]
    by_cases hnil : name' = []
    · rw [if_pos hnil, if_neg (hnil ▸ hname.symm)]
    · rw [if_neg hnil, GoMap.get?_set]
      simp [eq_comm]

lemma get?_nil_bindLevel (params : GoMap GoString) (f t : GoString) :
    (bindLevel params f t).get? [] = params.get? [] := by
  cases hc : capture f with
  | none => rw [bindLevel_of_not_braced hc]
  | some name =>
    rw [bindLevel_of_capture hc]
    split_ifs with hnil
    · rfl
    · exact GoMap.get?_set_ne _ _ (Ne.symm hnil)

lemma get?_matchLevels (h : go "#" ∉ filter.dropLast) {params out : GoMap GoString}
    (hout : matchLevels (go "+") (go "#") filter topic params = some out) :
    out.get? [] = params.get? [] ∧ ∀ name level, name ≠ [] →
      (out.get? name = some level ↔ BindsLast filter topic name level ∨
        braced name ∉ filter ∧ params.get? name = some level) := by
  induction filter generalizing topic params with
  | nil =>
    rw [matchLevels] at hout
    split_ifs at hout
    obtain rfl := Option.some.inj hout
    simp [not_bindsLast_nil]
  | cons f fs ih =>
    obtain ⟨hlast, hfs⟩ := cons_of_hash_last h
    by_cases hf : f = go "#"
    · subst hf
      obtain rfl := hlast rfl
      rw [matchLevels_multi] at hout
      obtain rfl := Option.some.inj hout
      refine ⟨rfl, fun name level _ => ?_⟩
      have hne : ∀ i : ℕ, [go "#"][i]? ≠ some (braced name) := fun i hi =>
        braced_ne_hash name (mem_singleton.mp (mem_iff_getElem?.mpr ⟨i, hi⟩))
      have hnot : ¬BindsLast [go "#"] topic name level := fun ⟨i, hi, _⟩ => hne i hi
      simp [hnot, braced_ne_hash]
    · cases topic with
      | nil => simp [matchLevels, hf] at hout
      | cons t ts =>
        obtain ⟨hyes, hno⟩ := matchLevels_cons_cons (t := t) hf fs ts params
        by_cases hone : OneLevel f t
        · rw [hyes hone] at hout
          obtain ⟨hnil, hnames⟩ := ih hfs hout
          refine ⟨hnil.trans (get?_nil_bindLevel _ _ _), fun name level hname => ?_⟩
          rw [hnames name level hname, get?_bindLevel hname, bindsLast_cons, mem_cons]
          by_cases hb : f = braced name
          · by_cases hmem : braced name ∈ fs <;> simp [hb, hmem]
          · simp [hb, Ne.symm hb]
        · rw [hno hone] at hout
          simp at hout

lemma exists_bindsLast (h : go "#" ∉ filter.dropLast) (hmatch : MatchesTopic filter topic)
    (hname : braced name ∈ filter) : ∃ level, BindsLast filter topic name level := by
  induction filter generalizing topic with
  | nil => simp at hname
  | cons f fs ih =>
    obtain ⟨hlast, hfs⟩ := cons_of_hash_last h
    by_cases hf : f = go "#"
    · obtain rfl := hlast hf
      exact absurd ((mem_singleton.mp hname).trans hf) (braced_ne_hash name)
    · obtain ⟨t, ts, rfl, -, hts⟩ := (matchesTopic_cons hf).mp hmatch
      by_cases hmem : braced name ∈ fs
      · obtain ⟨level, hlevel⟩ := ih hfs hts hmem
        exact ⟨level, bindsLast_cons.mpr (Or.inl hlevel)⟩
      · have hb : f = braced name := ((mem_cons.mp hname).resolve_right hmem).symm
        exact ⟨t, bindsLast_cons.mpr (Or.inr ⟨hb, rfl, hmem⟩)⟩

/-! ## The filter as a whole -/

/-- Where the two differ it is the loop that answers; for `#` alone it would answer the same. -/
lemma matchMQTTTopic_of_ne {filter topic : GoString} (hne : filter ≠ topic) :
    matchMQTTTopic filter topic =
      matchLevels (go "+") (go "#") (split filter slash) (split topic slash) ∅ := by
  rw [matchMQTTTopic, if_neg hne]
  split_ifs with hhash
  · rw [hhash, show split (go "#") slash = [go "#"] by decide, matchLevels_multi]
  · rfl

lemma matchMQTTTopic_self (filter : GoString) : matchMQTTTopic filter filter = some ∅ := by
  simp [matchMQTTTopic]

/-- **`matchMQTTTopic` follows the rules of MQTT** for every filter with `#` at most as its last
level; and where filter and topic are not the same, the captures are the names in braces, each with
the level at its last place. -/
theorem matchMQTTTopic_iff_matchesTopic {filter topic : GoString}
    (h : go "#" ∉ (split filter slash).dropLast) :
    ((matchMQTTTopic filter topic).isSome ↔
      MatchesTopic (split filter slash) (split topic slash)) ∧
    ∀ params, filter ≠ topic → matchMQTTTopic filter topic = some params →
      (∀ name level, params.get? name = some level ↔
        name ≠ [] ∧ BindsLast (split filter slash) (split topic slash) name level) ∧
      ∀ name, name ≠ [] → braced name ∈ split filter slash →
        ∃ level, BindsLast (split filter slash) (split topic slash) name level := by
  have haccept : (matchMQTTTopic filter topic).isSome ↔
      MatchesTopic (split filter slash) (split topic slash) := by
    by_cases heq : filter = topic
    · subst heq
      simp [matchMQTTTopic_self, matchesTopic_self h]
    · rw [matchMQTTTopic_of_ne heq, isSome_matchLevels h]
  refine ⟨haccept, fun params hne hparams => ⟨fun name level => ?_, fun name _ hmem => ?_⟩⟩
  · rw [matchMQTTTopic_of_ne hne] at hparams
    obtain ⟨hnil, hnames⟩ := get?_matchLevels h hparams
    by_cases hname : name = []
    · simp [hname, hnil]
    · simp [hnames name level hname, hname]
  · exact exists_bindsLast h (haccept.mp (Option.isSome_of_eq_some hparams)) hmem

/-- A name that stands twice. -/
theorem matchMQTTTopic_repeated_name :
    ((matchMQTTTopic (go "a/\x7bx\x7d/\x7bx\x7d/#") (go "a/b/c")).isSome ↔
      MatchesTopic (split (go "a/\x7bx\x7d/\x7bx\x7d/#") slash) (split (go "a/b/c") slash)) ∧
    (matchMQTTTopic (go "a/\x7bx\x7d/\x7bx\x7d/#") (go "a/b/c")).map (fun p => p.get? (go "x")) =
      some (some (go "c")) :=
  ⟨(matchMQTTTopic_iff_matchesTopic (by decide)).1, by decide⟩

end Mockly.Brokers
