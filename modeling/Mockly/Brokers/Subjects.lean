import Mockly.Brokers.Servers
import Mockly.Engine.PathPatterns

/-!
# What a NATS mock is for

`matchNATSSubject` leaves its loop at the first `>` before it asks whether there is a token left; in
a queue group the NATS server decides, which does not know about braces.

Main result: **`triggered_eq_iff`**.
-/

namespace Mockly.Brokers.NATS

open List Option

/-! ## The meaning of a pattern -/

/-- The tokens of a subject read by those of a pattern. -/
def denote (params : GoMap GoString) : List GoString → List GoString → Option (GoMap GoString)
  | [], ts => if ts = [] then some params else none
  | p :: ps, ts =>
    if p = go ">" ∧ ps = [] ∧ ts ≠ [] then some params
    else
      match ts with
      | [] => none
      | t :: ts => (bindSegment params p t).bind fun params => denote params ps ts

def denoted (pattern subject : GoString) : Option (GoMap GoString) :=
  (denote ∅ (split pattern dot) (split subject dot)).map fun params =>
    if pattern = subject then ∅ else params

/-! ## The server of one mock -/

/-- With what `handleMessage` is called. -/
def arguments (mocks : List NATSMock) (γ : Moment) (subject : GoString) :
    Receiver → Option (NATSMock × GoMap GoString)
  | .catchAll => matchPlainMock mocks γ subject
  | .queue mock => some (mock, ∅)

/-- A message is handled with these. -/
theorem handle_eq (mocks : List NATSMock) (γ : Moment) (h : Receiver) (msg : Msg) :
    handle mocks γ h msg =
      (arguments mocks γ msg.subject h).bind fun p => handleMessage γ msg p.1 p.2 := by
  cases h <;> rfl

/-- The captures of each time the mock is triggered, if it is the only one. -/
def triggered (accepts : GoString → GoString → Bool) (m : NATSMock) (γ : Moment)
    (subject : GoString) : List (GoMap GoString) :=
  (receivers (resubscribe accepts [m]) γ subject).filterMap fun h =>
    (arguments [m] γ subject h).map Prod.snd

/-- The state of the mock holds, and of its queue group it is the one that is chosen. -/
structure Ready (m : NATSMock) (γ : Moment) : Prop where
  state : stateHolds (some γ.content) m.state = true
  chosen : γ.member m.queueGroup = 0

/-- The server refuses no subscription that would be given a message. -/
def Standard (accepts : GoString → GoString → Bool) : Prop :=
  ∀ pattern group, accepts pattern group = false →
    ∀ subject, [] ∉ split subject dot → covers pattern subject = false

section Triggered

variable {accepts : GoString → GoString → Bool} {m : NATSMock} {γ : Moment} {subject : GoString}

lemma triggered_plain (hm : m.queueGroup = []) (hγ : Ready m γ)
    (hsubject : [] ∉ split subject dot) :
    triggered accepts m γ subject = (matchNATSSubject m.subject subject).toList := by
  have hsubs : resubscribe accepts [m] = ⟨[], true⟩ := by
    simp [resubscribe, queueSubscribe, hm]
  have hreceivers : receivers (resubscribe accepts [m]) γ subject = [.catchAll] := by
    rw [hsubs, receivers, if_neg hsubject]
    rfl
  rw [triggered, hreceivers]
  simp only [arguments, matchPlainMock, List.findSome?_cons, hm, hγ.state]
  cases matchNATSSubject m.subject subject <;> rfl

lemma triggered_queue (haccepts : Standard accepts) (hm : m.queueGroup ≠ []) (hγ : Ready m γ)
    (hsubject : [] ∉ split subject dot) :
    triggered accepts m γ subject =
      (if covers m.subject subject then some ∅ else none : Option (GoMap GoString)).toList := by
  cases haccepted : accepts m.subject m.queueGroup with
  | false =>
    have hsubs : resubscribe accepts [m] = ⟨[], false⟩ := by
      simp [resubscribe, queueSubscribe, hm, haccepted]
    rw [haccepts _ _ haccepted subject hsubject, if_neg (by decide), triggered, hsubs, receivers,
      if_neg hsubject]
    rfl
  | true =>
    have hsubs : resubscribe accepts [m] = ⟨[m], false⟩ := by
      simp [resubscribe, queueSubscribe, hm, haccepted]
    have hmembers : members ⟨[m], false⟩ subject m.queueGroup =
        if covers m.subject subject then [m] else [] := by
      simp [members, filter_cons]
    have hgroups : groups ⟨[m], false⟩ = [m.queueGroup] := rfl
    rw [triggered, hsubs, receivers, if_neg hsubject, hgroups, filterMap_cons, hmembers, hγ.chosen]
    cases covers m.subject subject <;> rfl

lemma exists_ready (m : NATSMock) : ∃ γ, Ready m γ := by
  refine ⟨⟨fun _ => (m.state.map StateCondition.value).getD [], false, Env.basic, fun _ => false,
    fun _ => 0⟩, ?_, rfl⟩
  cases m.state with
  | none => rfl
  | some cond => exact beq_self_eq_true cond.value

lemma triggered_eq_denoted_iff {decides : GoString → Option (GoMap GoString)}
    (h : ∀ {γ subject}, Ready m γ → [] ∉ split subject dot →
      triggered accepts m γ subject = (decides subject).toList) :
    (∀ γ subject, Ready m γ → [] ∉ split subject dot →
      triggered accepts m γ subject = (denoted m.subject subject).toList) ↔
      ∀ subject, [] ∉ split subject dot → decides subject = denoted m.subject subject := by
  constructor
  · intro htriggered subject hsubject
    obtain ⟨γ, hγ⟩ := exists_ready m
    have heq := htriggered γ subject hγ hsubject
    rw [h hγ hsubject] at heq
    refine Option.ext fun params => ?_
    rw [← mem_toList, heq, mem_toList]
  · intro hdecides γ subject hγ hsubject
    rw [h hγ hsubject, hdecides subject hsubject]

end Triggered

/-! ## Without a queue group -/

lemma capture_eq_paramName (p : GoString) : capture p = paramName p := rfl

variable {p : GoString}

lemma matchLevels_cons (hp : p ≠ go ">") (ps : List GoString) (t : GoString) (ts : List GoString)
    (params : GoMap GoString) :
    matchLevels (go "*") (go ">") (p :: ps) (t :: ts) params =
      (bindSegment params p t).bind fun params =>
        matchLevels (go "*") (go ">") ps ts params := by
  rw [matchLevels, if_neg hp, bindSegment]
  by_cases hstar : p = go "*"
  · rw [if_pos hstar, if_pos hstar]
    rfl
  rw [if_neg hstar, if_neg hstar, capture_eq_paramName]
  cases paramName p with
  | some name => rfl
  | none =>
    dsimp only
    split_ifs <;> rfl

variable (params : GoMap GoString)

lemma denote_nil (p : GoString) (ps : List GoString) : denote params (p :: ps) [] = none := by
  rw [denote, if_neg fun hp => hp.2.2 rfl]

variable {ts : List GoString}

lemma denote_greater (hts : ts ≠ []) : denote params [go ">"] ts = some params := by
  cases ts with
  | nil => exact absurd rfl hts
  | cons t ts => exact if_pos ⟨rfl, rfl, hts⟩

variable {ps : List GoString}

lemma denote_cons (hp : p = go ">" → ps ≠ []) (params : GoMap GoString) (t : GoString)
    (ts : List GoString) :
    denote params (p :: ps) (t :: ts) =
      (bindSegment params p t).bind fun params => denote params ps ts := by
  rw [denote, if_neg fun h => hp h.1 h.2.1]

lemma matchLevels_eq (h : go ">" ∉ ps) (ts : List GoString) (params : GoMap GoString) :
    matchLevels (go "*") (go ">") ps ts params = denote params ps ts := by
  induction ps generalizing ts params with
  | nil => rfl
  | cons p ps ih =>
    rw [mem_cons, not_or] at h
    cases ts with
    | nil =>
      rw [matchLevels, if_neg (Ne.symm h.1), denote_nil]
    | cons t ts =>
      rw [matchLevels_cons (Ne.symm h.1), denote_cons fun hp => absurd hp.symm h.1]
      exact congrArg _ (funext fun params => ih h.2 ts params)

lemma denote_of_empty (hps : [] ∈ ps) (hts : [] ∉ ts) (params : GoMap GoString) :
    denote params ps ts = none := by
  induction ps generalizing ts params with
  | nil => cases hps
  | cons p ps ih =>
    cases ts with
    | nil => exact denote_nil params p ps
    | cons t ts =>
      rw [mem_cons, not_or] at hts
      have hp : p = go ">" → ps ≠ [] := by
        rintro rfl rfl
        cases mem_singleton.mp hps
      rw [denote_cons hp]
      obtain rfl | hps := mem_cons.mp hps
      · rw [bindSegment_of_plain rfl, if_neg hts.1]
        rfl
      · cases bindSegment params p t with
        | none => rfl
        | some params' => exact ih hps hts.2 params'

lemma matchLevels_of_empty (hps : [] ∈ ps.takeWhile (· ≠ go ">")) (hts : [] ∉ ts)
    (params : GoMap GoString) : matchLevels (go "*") (go ">") ps ts params = none := by
  induction ps generalizing ts params with
  | nil => cases hps
  | cons p ps ih =>
    rw [takeWhile_cons] at hps
    split_ifs at hps with hp
    · replace hp : p ≠ go ">" := of_decide_eq_true hp
      cases ts with
      | nil => rw [matchLevels, if_neg hp]
      | cons t ts =>
        rw [mem_cons, not_or] at hts
        rw [matchLevels_cons hp]
        obtain rfl | hps := mem_cons.mp hps
        · rw [bindSegment_of_plain rfl, if_neg hts.1]
          rfl
        · cases bindSegment params p t with
          | none => rfl
          | some params' => exact ih hps hts.2 params'
    · cases hps

lemma matchLevels_tail (pre post rest : List GoString) (text : GoString) (hpre : go ">" ∉ pre)
    (params : GoMap GoString) :
    (matchLevels (go "*") (go ">") (pre ++ go ">" :: post) (fillIn text pre ++ rest)
      params).isSome := by
  induction pre generalizing params with
  | nil =>
    rw [nil_append, matchLevels_multi]
    rfl
  | cons p pre ih =>
    rw [mem_cons, not_or] at hpre
    obtain ⟨params', hparams'⟩ := bindSegment_fillIn params text p
    rw [fillIn_cons, cons_append, cons_append, matchLevels_cons (Ne.symm hpre.1), hparams']
    exact ih hpre.2 params'

lemma length_le_of_denote {params : GoMap GoString} (h : (denote params ps ts).isSome) :
    ps.length ≤ ts.length := by
  induction ps generalizing ts params with
  | nil => exact Nat.zero_le _
  | cons p ps ih =>
    cases ts with
    | nil =>
      rw [denote_nil] at h
      cases h
    | cons t ts =>
      by_cases hp : p = go ">" → ps ≠ []
      · rw [denote_cons hp] at h
        cases hbind : bindSegment params p t with
        | none =>
          rw [hbind] at h
          cases h
        | some params' =>
          rw [hbind] at h
          exact Nat.succ_le_succ (ih h)
      · rw [Classical.not_imp, not_not] at hp
        rw [hp.2]
        exact Nat.succ_le_succ (Nat.zero_le _)

/-- A pattern as it stands, or with one text in the place of its wildcards. -/
lemma denote_of_fillIn (h : ts = ps ∨ ∃ text, ts = fillIn text ps) (params : GoMap GoString) :
    (denote params ps ts).isSome := by
  induction ps generalizing ts params with
  | nil =>
    obtain rfl | ⟨text, rfl⟩ := h
    · rfl
    · rfl
  | cons p ps ih =>
    have hts : ∃ t rest, ts = t :: rest ∧ (rest = ps ∨ ∃ text, rest = fillIn text ps) ∧
        ∃ params', bindSegment params p t = some params' := by
      obtain rfl | ⟨text, rfl⟩ := h
      · exact ⟨p, ps, rfl, Or.inl rfl, bindSegment_self params p⟩
      · exact ⟨_, fillIn text ps, rfl, Or.inr ⟨text, rfl⟩, bindSegment_fillIn params text p⟩
    obtain ⟨t, rest, rfl, hrest, params', hparams'⟩ := hts
    by_cases hp : p = go ">" → ps ≠ []
    · rw [denote_cons hp, hparams']
      exact ih hrest params'
    · rw [Classical.not_imp, not_not] at hp
      rw [hp.1, hp.2, denote_greater params (cons_ne_nil _ _)]
      rfl

/-- There is no `>`, it is alone, or the loop does not come so far. -/
def PlainTail (ps : List GoString) : Prop :=
  go ">" ∈ ps → ps = [go ">"] ∨ [] ∈ ps.takeWhile (· ≠ go ">")

def anyToken : GoString := go "x"

variable (pattern : GoString)

lemma exists_subject (hne : ts ≠ []) (h : ∀ t ∈ ts, t = anyToken ∨ t ≠ [] ∧ t ∈ split pattern dot) :
    ∃ subject, split subject dot = ts ∧ [] ∉ split subject dot := by
  have hts : split (join ts [dot]) dot = ts := by
    refine split_join hne fun t ht => ?_
    obtain rfl | ⟨-, hmem⟩ := h t ht
    · decide
    · exact notMem_of_mem_split hmem
  refine ⟨join ts [dot], hts, ?_⟩
  rw [hts]
  intro hempty
  obtain heq | ⟨heq, -⟩ := h [] hempty
  · cases heq
  · exact heq rfl

lemma exists_short_subject {pattern : GoString} (h : ¬PlainTail (split pattern dot)) :
    ∃ subject, [] ∉ split subject dot ∧
      (matchNATSSubject pattern subject).isSome ∧
      (split subject dot).length < (split pattern dot).length := by
  rw [PlainTail, Classical.not_imp, not_or] at h
  obtain ⟨hmem, halone, hempty⟩ := h
  obtain ⟨pre, post, hsplit, hpre⟩ := eq_append_cons_of_mem hmem
  have htake : (split pattern dot).takeWhile (· ≠ go ">") = pre := by
    rw [hsplit, takeWhile_append_of_pos, takeWhile_cons_of_neg (by simp), append_nil]
    exact fun p hp => decide_eq_true fun heq => hpre (heq ▸ hp)
  rw [htake] at hempty
  -- one token if there would be none
  obtain ⟨rest, hrest, hne, hlen⟩ : ∃ rest : List GoString, (∀ t ∈ rest, t = anyToken) ∧
      fillIn anyToken pre ++ rest ≠ [] ∧ pre.length + rest.length < (split pattern dot).length := by
    cases pre with
    | nil =>
      refine ⟨[anyToken], fun t ht => mem_singleton.mp ht, cons_ne_nil _ _, ?_⟩
      have hpost : post ≠ [] := by
        rintro rfl
        exact halone hsplit
      have hpos := length_pos_of_ne_nil hpost
      rw [hsplit, nil_append, length_cons, length_cons]
      exact Nat.lt_of_lt_of_le (Nat.lt_succ_of_le (Nat.le_refl 1)) (Nat.succ_le_succ hpos)
    | cons p pre =>
      refine ⟨[], fun t ht => absurd ht not_mem_nil, cons_ne_nil _ _, ?_⟩
      rw [hsplit, length_append, length_cons, length_nil, length_cons]
      omega
  have htoken : ∀ t ∈ fillIn anyToken pre ++ rest,
      t = anyToken ∨ t ≠ [] ∧ t ∈ split pattern dot := by
    intro t ht
    obtain ht | ht := mem_append.mp ht
    · refine (mem_fillIn ht).imp_right fun hmem => ⟨fun heq => hempty (heq ▸ hmem), ?_⟩
      rw [hsplit]
      exact mem_append_left _ hmem
    · exact Or.inl (hrest t ht)
  obtain ⟨subject, hts, hsubject⟩ := exists_subject pattern hne htoken
  refine ⟨subject, hsubject, ?_, ?_⟩
  · rw [matchNATSSubject]
    split_ifs
    · rfl
    · rw [hts, hsplit]
      exact matchLevels_tail pre post rest anyToken hpre ∅
  · rw [hts, length_append, length_fillIn]
    exact hlen

lemma matchNATSSubject_eq_iff :
    (∀ subject, [] ∉ split subject dot →
      matchNATSSubject pattern subject = denoted pattern subject) ↔
      PlainTail (split pattern dot) := by
  constructor
  · intro h
    by_contra hnot
    obtain ⟨subject, hsubject, hsome, hlen⟩ := exists_short_subject hnot
    rw [h subject hsubject, denoted, isSome_map] at hsome
    exact Nat.not_le_of_lt hlen (length_le_of_denote hsome)
  · intro h subject hsubject
    rw [matchNATSSubject, denoted]
    by_cases heq : pattern = subject
    · obtain ⟨params, hparams⟩ :=
        isSome_iff_exists.mp (denote_of_fillIn (Or.inl rfl) ∅)
      rw [if_pos heq, heq, hparams, Option.map_some, if_pos rfl]
    simp only [heq, if_false, Option.map_id']
    by_cases hmem : go ">" ∈ split pattern dot
    · obtain halone | hempty := h hmem
      · rw [halone, matchLevels_multi, denote_greater ∅ (split_ne_nil subject dot)]
      · rw [matchLevels_of_empty hempty hsubject,
          denote_of_empty ((takeWhile_subset _) hempty) hsubject]
    · exact matchLevels_eq hmem _ _

/-! ## In a queue group -/

/-- There are no braces and no `>` before the end, or the pattern denotes no subject. -/
def PlainQueue (ps : List GoString) : Prop :=
  [] ∈ ps ∨ (∀ p ∈ ps, capture p = none) ∧ go ">" ∉ ps.dropLast

lemma notMem_dropLast_cons (h : go ">" ∉ (p :: ps).dropLast) :
    (p = go ">" → ps = []) ∧ go ">" ∉ ps.dropLast := by
  cases ps with
  | nil => exact ⟨fun _ => rfl, not_mem_nil⟩
  | cons q ps =>
    rw [dropLast_cons_cons, mem_cons, not_or] at h
    exact ⟨fun hp => absurd hp.symm h.1, h.2⟩

lemma coversTokens_greater (ps ts : List GoString) :
    coversTokens (go ">" :: ps) ts = (ps.isEmpty && !ts.isEmpty) := by
  cases ts <;> exact if_pos rfl

lemma coversTokens_nil (hp : p ≠ go ">") (ps : List GoString) : coversTokens (p :: ps) [] = false :=
  if_neg hp

lemma coversTokens_cons (hp : p ≠ go ">") (ps : List GoString) (t : GoString) (ts : List GoString) :
    coversTokens (p :: ps) (t :: ts) = ((p == go "*" || p == t) && coversTokens ps ts) :=
  if_neg hp

lemma coversTokens_eq (hcapture : ∀ p ∈ ps, capture p = none) (htail : go ">" ∉ ps.dropLast)
    (ts : List GoString) (params : GoMap GoString) :
    denote params ps ts = if coversTokens ps ts then some params else none := by
  induction ps generalizing ts with
  | nil => cases ts <;> rfl
  | cons p ps ih =>
    rw [forall_mem_cons] at hcapture
    obtain ⟨hlast, htail⟩ := notMem_dropLast_cons htail
    by_cases hp : p = go ">"
    · rw [hlast hp, hp, coversTokens_greater]
      cases ts with
      | nil => exact denote_nil params _ _
      | cons t ts => exact denote_greater params (cons_ne_nil t ts)
    cases ts with
    | nil =>
      rw [denote_nil, coversTokens_nil hp]
      rfl
    | cons t ts =>
      rw [denote_cons fun h => absurd h hp, coversTokens_cons hp, bindSegment]
      by_cases hstar : p = go "*"
      · rw [if_pos hstar, hstar]
        exact ih hcapture.2 htail ts
      rw [if_neg hstar, ← capture_eq_paramName, hcapture.1]
      by_cases heq : p = t
      · simp [heq, ih hcapture.2 htail ts]
      · simp [heq, hstar]

lemma coversTokens_of_empty (hps : [] ∈ ps) (hts : [] ∉ ts) : coversTokens ps ts = false := by
  induction ps generalizing ts with
  | nil => cases hps
  | cons p ps ih =>
    by_cases hp : p = go ">"
    · have hmem : [] ∈ ps := by
        obtain heq | hmem := mem_cons.mp hps
        · cases heq.trans hp
        · exact hmem
      rw [hp, coversTokens_greater, isEmpty_eq_false_iff.mpr (ne_nil_of_mem hmem), Bool.false_and]
    cases ts with
    | nil => exact coversTokens_nil hp ps
    | cons t ts =>
      rw [mem_cons, not_or] at hts
      rw [coversTokens_cons hp]
      obtain rfl | hps := mem_cons.mp hps
      · rw [beq_eq_false_iff_ne.mpr hts.1]
        rfl
      · rw [ih hps hts.2, Bool.and_false]

lemma plain_of_coversTokens {text : GoString} (htext : capture text = none)
    (h : coversTokens ps (fillIn text ps) = true) :
    (∀ p ∈ ps, capture p = none) ∧ go ">" ∉ ps.dropLast := by
  induction ps with
  | nil => exact ⟨fun p hp => absurd hp not_mem_nil, not_mem_nil⟩
  | cons p ps ih =>
    by_cases hp : p = go ">"
    · rw [hp, coversTokens_greater, Bool.and_eq_true, List.isEmpty_iff] at h
      rw [h.1, hp]
      exact ⟨fun q hq => by rw [List.mem_singleton.mp hq]; rfl, List.not_mem_nil⟩
    rw [fillIn_cons, coversTokens_cons hp, Bool.and_eq_true, Bool.or_eq_true, beq_iff_eq,
      beq_iff_eq] at h
    obtain ⟨hfirst, hrest⟩ := h
    obtain ⟨hcapture, htail⟩ := ih hrest
    have hplain : capture p = none := by
      obtain rfl | heq := hfirst
      · rfl
      split_ifs at heq with hwild
      · rw [heq, htext]
      · rw [isWild, Bool.or_eq_true, not_or, Bool.not_eq_true, Bool.not_eq_true,
          isSome_eq_false_iff, isNone_iff_eq_none] at hwild
        exact hwild.2
    refine ⟨forall_mem_cons.mpr ⟨hplain, hcapture⟩, ?_⟩
    cases ps with
    | nil => exact not_mem_nil
    | cons q ps =>
      rw [dropLast_cons_cons, mem_cons, not_or]
      exact ⟨Ne.symm hp, htail⟩

lemma covers_eq_iff :
    (∀ subject, [] ∉ split subject dot →
      (if covers pattern subject then some ∅ else none) = denoted pattern subject) ↔
      PlainQueue (split pattern dot) := by
  constructor
  · intro h
    by_cases hempty : [] ∈ split pattern dot
    · exact Or.inl hempty
    refine Or.inr (plain_of_coversTokens (show capture anyToken = none from rfl) ?_)
    have hne : fillIn anyToken (split pattern dot) ≠ [] := fun heq =>
      split_ne_nil pattern dot (map_eq_nil_iff.mp heq)
    obtain ⟨subject, hts, hsubject⟩ := exists_subject pattern hne fun t ht =>
      (mem_fillIn ht).imp_right fun hmem => ⟨fun heq => hempty (heq ▸ hmem), hmem⟩
    have hsubject := h subject hsubject
    obtain ⟨params, hparams⟩ :=
      isSome_iff_exists.mp (denote_of_fillIn (Or.inr ⟨anyToken, rfl⟩) ∅)
    rw [covers, denoted, hts, hparams] at hsubject
    by_contra hcovers
    rw [if_neg hcovers] at hsubject
    cases hsubject
  · rintro (hempty | ⟨hcapture, htail⟩) subject hsubject
    · rw [covers, coversTokens_of_empty hempty hsubject, denoted, denote_of_empty hempty hsubject]
      rfl
    · rw [covers, denoted, coversTokens_eq hcapture htail]
      split_ifs <;> rfl

/-! ## Both -/

/-- The subject has a form in which just what it denotes triggers the mock. -/
structure AsDenoted (m : NATSMock) : Prop where
  plain : m.queueGroup = [] → PlainTail (split m.subject dot)
  queue : m.queueGroup ≠ [] → PlainQueue (split m.subject dot)

/-- **A mock is triggered by exactly what its pattern denotes** if it has no `>`, or nothing else,
or, in a queue group, if it has no braces and a `>` only at the end. -/
theorem triggered_eq_iff (accepts : GoString → GoString → Bool) (haccepts : Standard accepts)
    (m : NATSMock) :
    (∀ γ subject, Ready m γ → [] ∉ split subject dot →
      triggered accepts m γ subject = (denoted m.subject subject).toList) ↔ AsDenoted m := by
  by_cases hm : m.queueGroup = []
  · rw [triggered_eq_denoted_iff (triggered_plain hm), matchNATSSubject_eq_iff]
    exact ⟨fun h => ⟨fun _ => h, fun hne => absurd hm hne⟩, fun h => h.plain hm⟩
  · rw [triggered_eq_denoted_iff (triggered_queue haccepts hm), covers_eq_iff]
    exact ⟨fun h => ⟨fun heq => absurd heq hm, fun _ => h⟩, fun h => h.queue hm⟩

/-- Captures without a queue group, and a tail in one. -/
theorem triggered_orders :
    (∀ γ subject, Ready ⟨go "orders.\x7bid\x7d.*", [], none, none⟩ γ → [] ∉ split subject dot →
      triggered (fun _ _ => true) ⟨go "orders.\x7bid\x7d.*", [], none, none⟩ γ subject =
        (denoted (go "orders.\x7bid\x7d.*") subject).toList) ∧
    ∀ γ subject, Ready ⟨go "orders.>", go "workers", none, none⟩ γ → [] ∉ split subject dot →
      triggered (fun _ _ => true) ⟨go "orders.>", go "workers", none, none⟩ γ subject =
        (denoted (go "orders.>") subject).toList := by
  have hall : Standard fun _ _ => true := fun _ _ h => by cases h
  constructor
  · exact (triggered_eq_iff _ hall _).mpr
      ⟨fun _ hmem => absurd hmem (by decide), fun hne => absurd rfl hne⟩
  · exact (triggered_eq_iff _ hall _).mpr
      ⟨fun h => absurd h (by decide), fun _ => Or.inr ⟨by decide, by decide⟩⟩

def quiet : Moment := ⟨fun _ => [], false, Env.basic, fun _ => false, fun _ => 0⟩

/-- **A tail is triggered by nothing at all, and a capture in a queue group by its braces.** -/
theorem tail_without_token :
    triggered (fun _ _ => true) ⟨go "a.>", [], none, none⟩ quiet (go "a") = [∅] ∧
      denoted (go "a.>") (go "a") = none ∧
      triggered (fun _ _ => true) ⟨go "orders.\x7bid\x7d", go "workers", none, none⟩ quiet
        (go "orders.7") = [] ∧
      denoted (go "orders.\x7bid\x7d") (go "orders.7") =
        some ((∅ : GoMap GoString).set (go "id") (go "7")) :=
  ⟨rfl, rfl, rfl, rfl⟩

end Mockly.Brokers.NATS
