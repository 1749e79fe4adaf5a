import Mockly.Engine.Diagnose
import Mockly.Lib.Ranking
import Mockly.Lib.Records

/-!
# What the near-miss report says

Each of the two visits maps in an order of its own, and reads the state store at its own times; the
store shows the same values throughout (`Shows`).

Main result: **`httpDiagnose_explains`**.
-/

namespace Mockly

open Ranking List

/-! ## The state store at a glance -/

/-- Reading a key gives the same value whenever it is done. There may be no store at all. -/
inductive Shows (now : ℕ → ℤ) : Option State.Store → Option (GoString → GoString) → Prop
  | absent : Shows now none none
  | present {s : State.Store} {content : GoString → GoString}
      (h : ∀ k i, (s.get k (now i)).1.1 = content k) : Shows now (some s) (some content)

/-- The state condition of a mock, for what the store shows. -/
def stateHolds (content : Option (GoString → GoString)) (cond : Option StateCondition) : Bool :=
  match cond, content with
  | some cond, some content => content cond.key == cond.value
  | _, _ => true

lemma Shows.matchState {now : ℕ → ℤ} {store : Option State.Store}
    {content : Option (GoString → GoString)} (h : Shows now store content)
    (cond : Option StateCondition) (i : ℕ) :
    (matchState cond store (now i)).1 = stateHolds content cond ∧
      Shows now (matchState cond store (now i)).2 content := by
  cases h with
  | absent => cases cond <;> exact ⟨rfl, .absent⟩
  | @present s content h =>
    cases cond with
    | none => exact ⟨rfl, .present h⟩
    | some cond =>
      have hafter : ∀ k j, ((s.get cond.key (now i)).2.get k (now j)).1.1 = content k := by
        intro k j
        rcases s.get_snd cond.key (now i) with hs | ⟨e, -, -, hs⟩
        · rw [hs]
          exact h k j
        · -- The key had expired: without it the store shows the empty value, as before.
          have hkey := h cond.key i
          rw [hs] at hkey ⊢
          rw [State.Store.get_delete]
          split_ifs with hk
          · rw [hk]
            exact hkey
          · exact h k j
      exact ⟨by simp [Mockly.matchState, stateHolds, h], .present hafter⟩

/-! ## The chain of checks -/

def authHolds (env : Env) (req : MatchInput) (auth : Option HTTPAuth) : Bool :=
  match auth with
  | none => true
  | some auth => matchAuth env auth req.headers (firstQueryValues req.query)

/-- The checks that decide about a mock, with the reason each gives. -/
def allChecks (env : Env) (content : Option (GoString → GoString)) (req : MatchInput)
    (m : HTTPMock) : List (Bool × GoString) :=
  diagnosedChecks env m.request req ++
    [(stateHolds content m.state, go "state condition not satisfied"),
      (authHolds env req m.request.auth, go "authentication failed")]

/-- How many checks a mock passes before the first that rejects it. -/
def passedChecks (env : Env) (content : Option (GoString → GoString)) (req : MatchInput)
    (m : HTTPMock) : ℕ :=
  ((allChecks env content req m).takeWhile Prod.fst).length

/-- The reason that is given for a mock that passes them all. -/
def matchesAllChecks : GoString := go "matches all checks (unexpected — check mock ordering/state)"

/-- The reason of the first check that rejects the mock. -/
def firstReason (checks : List (Bool × GoString)) : GoString :=
  ((checks.find? fun c => !c.1).map Prod.snd).getD matchesAllChecks

/-- What is reported of a mock, with the number of checks it is ranked by. -/
def candidate (env : Env) (content : Option (GoString → GoString)) (req : MatchInput)
    (m : HTTPMock) : NearMiss × ℕ :=
  (⟨m.id, firstReason (allChecks env content req m)⟩, passedChecks env content req m)

section Chain

variable (env : Env) (req : MatchInput) {now : ℕ → ℤ} {store : Option State.Store}
  {content : Option (GoString → GoString)}

lemma drop_length_takeWhile {α : Type*} (p : α → Bool) (l : List α) :
    l.drop (l.takeWhile p).length = l.dropWhile p := by
  have h := congrArg (List.drop (l.takeWhile p).length)
    (takeWhile_append_dropWhile (p := p) (l := l))
  rw [drop_left] at h
  exact h.symm

lemma isSome_ite_some {α : Type*} (b : Bool) (x : α) :
    (if b = true then some x else none).isSome = b := by
  cases b <;> rfl

lemma matchRequest_isSome (want : HTTPRequest) :
    (matchRequest env want req).isSome = (diagnosedChecks env want req).all Prod.fst := by
  simp only [matchRequest, diagnosedChecks, matchBodies, all_cons, all_nil, Bool.and_true]
  cases matchMethod env want.method req.method with
  | false => simp
  | true =>
    cases matchRequestPath env want req.path with
    | none => simp
    | some params =>
      simp only [Bool.not_true, Bool.false_eq_true, if_false, Option.isSome_some,
        Bool.true_and, ← Bool.and_assoc, isSome_ite_some]

lemma matchMock_isSome (h : Shows now store content) (m : HTTPMock) (i : ℕ) :
    (matchMock env req (now i) store m).1.isSome = (allChecks env content req m).all Prod.fst ∧
      Shows now (matchMock env req (now i) store m).2 content := by
  obtain ⟨hstate, hshows⟩ := h.matchState m.state i
  have hreq : (matchRequest env m.request req).isSome = _ := matchRequest_isSome env req m.request
  simp only [allChecks, all_append, all_cons, all_nil, Bool.and_true, ← hreq]
  cases hm : matchRequest env m.request req with
  | none => simp [matchMock, hm, h]
  | some params =>
    simp only [matchMock, hm, hstate, Option.isSome_some, Bool.true_and, isSome_ite_some]
    refine ⟨?_, hshows⟩
    cases m.request.auth <;> rfl

lemma diagnoseMock_eq (h : Shows now store content) (m : HTTPMock) (i : ℕ) :
    (diagnoseMock env req (now i) store m).1 = candidate env content req m ∧
      Shows now (diagnoseMock env req (now i) store m).2 content := by
  obtain ⟨hstate, hshows⟩ := h.matchState m.state i
  have hdrop := drop_length_takeWhile Prod.fst (diagnosedChecks env m.request req)
  have hfind : (diagnosedChecks env m.request req).find? (fun c => !c.1) =
      ((diagnosedChecks env m.request req).dropWhile Prod.fst).head? := by
    simpa using List.find?_eq_head?_dropWhile_not (fun c => !c.1)
      (diagnosedChecks env m.request req)
  simp only [diagnoseMock, hdrop]
  cases hd : (diagnosedChecks env m.request req).dropWhile Prod.fst with
  | cons c rest =>
    have hlen : ((diagnosedChecks env m.request req).takeWhile Prod.fst).length ≠
        (diagnosedChecks env m.request req).length := by
      intro hlen
      rw [hlen, drop_length] at hdrop
      rw [hd] at hdrop
      cases hdrop
    refine ⟨?_, h⟩
    simp [candidate, firstReason, passedChecks, allChecks, List.find?_append, hfind, hd,
      takeWhile_append, hlen]
  | nil =>
    have hall := dropWhile_eq_nil_iff.mp hd
    have hlen : (diagnosedChecks env m.request req).length = 9 := rfl
    have hpassed : passedChecks env content req m =
        9 + (([(stateHolds content m.state, go "state condition not satisfied"),
          (authHolds env req m.request.auth, go "authentication failed")] :
            List (Bool × GoString)).takeWhile Prod.fst).length := by
      rw [passedChecks, allChecks, takeWhile_append_of_pos hall, length_append, hlen]
    have hreason : firstReason (allChecks env content req m) =
        firstReason [(stateHolds content m.state, go "state condition not satisfied"),
          (authHolds env req m.request.auth, go "authentication failed")] := by
      simp [firstReason, allChecks, List.find?_append, hfind, hd]
    simp only [candidate, hpassed, hreason, hstate]
    cases hs : stateHolds content m.state with
    | false => exact ⟨rfl, hshows⟩
    | true =>
      cases ha : m.request.auth with
      | none => exact ⟨rfl, hshows⟩
      | some auth =>
        cases hauth : matchAuth env auth req.headers (firstQueryValues req.query) <;>
          simp [firstReason, authHolds, hauth, matchesAllChecks, hshows]

/-- **The loop of `HTTPMatch`** finds a mock exactly when one passes all checks. -/
lemma selectMock_isSome (h : Shows now store content) (mocks : List HTTPMock) (i : ℕ) :
    (selectMock env req now i store mocks).1.isSome =
      mocks.any fun m => (allChecks env content req m).all Prod.fst := by
  induction mocks generalizing i store with
  | nil => rfl
  | cons m ms ih =>
    obtain ⟨hsome, hshows⟩ := matchMock_isSome env req h m i
    simp only [selectMock, any_cons, ← hsome]
    rcases hm : matchMock env req (now i) store m with ⟨_ | params, store'⟩
    · rw [hm] at hshows
      simpa using ih hshows (i + 1)
    · simp

/-- **The loop of `HTTPDiagnose`** has one candidate for each mock. -/
lemma diagnoseAll_eq (h : Shows now store content) (mocks : List HTTPMock) (i : ℕ) :
    (diagnoseAll env req now i store mocks).1 = mocks.map (candidate env content req) := by
  induction mocks generalizing i store with
  | nil => rfl
  | cons m ms ih =>
    obtain ⟨hcand, hshows⟩ := diagnoseMock_eq env req h m i
    simp [diagnoseAll, hcand, ih hshows]

/-- The report: of the mocks that passed most checks, what is said of them. -/
lemma httpDiagnose_eq (h : Shows now store content) (mocks : List HTTPMock) :
    (httpDiagnose env req now store mocks).1 =
      (best (passedChecks env content req) httpDiagnoseTopN mocks).map fun m =>
        (candidate env content req m).1 := by
  have hbest : best Prod.snd httpDiagnoseTopN (mocks.map (candidate env content req)) = _ :=
    best_map (candidate env content req) httpDiagnoseTopN mocks
  simp only [httpDiagnose, diagnoseAll_eq env req h]
  exact (congrArg (List.map Prod.fst) hbest).trans (map_map ..)

end Chain

/-! ## True reasons -/

/-- That header is absent from the request or has a value that does not match. -/
def NamesFailingHeader (env : Env) (want got : GoMap GoString) (reason : GoString) : Prop :=
  ∃ k v, want.get? k = some v ∧
    (∀ actual, lookupHeader got k = some actual → matchPattern env v actual = false) ∧
    go "header " ++ env.quote k <+: reason

def NamesFailingQuery (env : Env) (want : GoMap GoString) (got : GoMap (List GoString))
    (reason : GoString) : Prop :=
  ∃ k v, want.get? k = some v ∧ matchQueryKey env v ((got.get? k).getD []) = false ∧
    go "query " ++ env.quote k <+: reason

lemma findSome?_seq_getD {V β : Type} (ord : RangeOrder V) (m : GoMap V)
    (f : GoString × V → Option β) (d : β) (P : β → Prop)
    (hex : ∃ k v, m.get? k = some v ∧ f (k, v) ≠ none)
    (hP : ∀ k v b, m.get? k = some v → f (k, v) = some b → P b) :
    P (((ord.seq m).findSome? f).getD d) := by
  obtain ⟨k, v, hkv, hf⟩ := hex
  have hsome : ((ord.seq m).findSome? f).isSome := by
    rw [isSome_findSome?, any_eq_true]
    exact ⟨(k, v), ord.mem_seq.mpr hkv, Option.isSome_iff_ne_none.mpr hf⟩
  obtain ⟨b, hb⟩ := Option.isSome_iff_exists.mp hsome
  obtain ⟨⟨k', v'⟩, hmem, hf'⟩ := exists_of_findSome?_eq_some hb
  rw [hb]
  exact hP k' v' b (ord.mem_seq.mp hmem) hf'

lemma firstFailingHeader_names (env : Env) {want got : GoMap GoString}
    (h : matchHeaders env want got = false) :
    NamesFailingHeader env want got (firstFailingHeader env want got) := by
  obtain ⟨⟨k, v⟩, hmem, hfail⟩ := all_eq_false.mp h
  simp only [firstFailingHeader]
  refine findSome?_seq_getD _ _ _ _ (NamesFailingHeader env want got)
    ⟨k, v, GoMap.mem_toList.mp hmem, ?_⟩ ?_
  · cases hl : lookupHeader got k with
    | none => simp
    | some actual =>
      simp only [hl] at hfail
      simp [hfail]
  · intro k v reason hkv hreason
    cases hl : lookupHeader got k with
    | none =>
      simp only [hl, Option.some.injEq] at hreason
      refine ⟨k, v, hkv, by simp [hl], ?_⟩
      simp [← hreason]
    | some actual =>
      simp only [hl] at hreason
      split_ifs at hreason with hmatch
      simp only [Option.some.injEq] at hreason
      refine ⟨k, v, hkv, by simpa [hl] using hmatch, ?_⟩
      simp [← hreason]

lemma firstFailingQuery_names (env : Env) {want : GoMap GoString} {got : GoMap (List GoString)}
    (h : matchQuery env want got = false) :
    NamesFailingQuery env want got (firstFailingQuery env want got) := by
  obtain ⟨⟨k, v⟩, hmem, hfail⟩ := all_eq_false.mp h
  simp only [firstFailingQuery]
  refine findSome?_seq_getD _ _ _ _ (NamesFailingQuery env want got)
    ⟨k, v, GoMap.mem_toList.mp hmem, ?_⟩ ?_
  · rw [if_neg hfail]
    split_ifs <;> simp
  · intro k v reason hkv hreason
    split_ifs at hreason with hmatch habsent hempty
    all_goals
      simp only [Option.some.injEq] at hreason
      refine ⟨k, v, hkv, by simpa using hmatch, ?_⟩
      simp [← hreason]

/-- What the report has to say of a mock that was rejected. -/
structure Explained (env : Env) (req : MatchInput) (m : HTTPMock) (n : NearMiss) : Prop where
  mockID : n.mockID = m.id
  rejected : n.reason ≠ matchesAllChecks
  header : go "header" <+: n.reason →
    NamesFailingHeader env m.request.headers req.headers n.reason
  query : go "query" <+: n.reason → NamesFailingQuery env m.request.query req.query n.reason

lemma not_prefix_of_word {w p r : GoString} (hw : w <+: r) (h : ¬ (p <+: w ∨ w <+: p)) :
    ¬ p <+: r :=
  fun hp => h (List.prefix_or_prefix_of_prefix hp hw)

lemma ne_matchesAllChecks_of_word {w r : GoString} (hw : w <+: r)
    (h : ¬ (go "matches" <+: w ∨ w <+: go "matches")) : r ≠ matchesAllChecks := by
  rintro rfl
  exact not_prefix_of_word hw h (by decide)

/-- A reason that starts with another word makes none of the claims in question. -/
lemma explained_of_word {env : Env} {req : MatchInput} {m : HTTPMock} {reason w : GoString}
    (hw : w <+: reason)
    (h : ∀ p ∈ [go "matches", go "header", go "query"], ¬ (p <+: w ∨ w <+: p)) :
    Explained env req m ⟨m.id, reason⟩ := by
  have hne : ∀ p ∈ [go "matches", go "header", go "query"], ¬ p <+: reason :=
    fun p hp => not_prefix_of_word hw (h p hp)
  exact ⟨rfl, ne_matchesAllChecks_of_word hw (h _ (by simp)),
    fun hp => absurd hp (hne _ (by simp)), fun hp => absurd hp (hne _ (by simp))⟩

lemma candidate_explained (env : Env) (content : Option (GoString → GoString)) (req : MatchInput)
    {m : HTTPMock} (h : (allChecks env content req m).all Prod.fst = false) :
    Explained env req m (candidate env content req m).1 := by
  obtain ⟨c, hc, hfail, hreason⟩ : ∃ c ∈ allChecks env content req m, c.1 = false ∧
      firstReason (allChecks env content req m) = c.2 := by
    obtain ⟨c₀, hmem₀, hfail₀⟩ := all_eq_false.mp h
    have hsome : ((allChecks env content req m).find? fun c => !c.1).isSome :=
      List.find?_isSome.mpr ⟨c₀, hmem₀, by simpa using hfail₀⟩
    obtain ⟨c, hc⟩ := Option.isSome_iff_exists.mp hsome
    refine ⟨c, mem_of_find?_eq_some hc, by simpa using List.find?_some hc, ?_⟩
    simp [firstReason, hc]
  simp only [candidate, hreason]
  simp only [allChecks, diagnosedChecks, mem_append, mem_cons, not_mem_nil, or_false] at hc
  -- One case for each check, in their order.
  rcases hc with (rfl | rfl | rfl | rfl | rfl | rfl | rfl | rfl | rfl) | rfl | rfl
  all_goals dsimp only at hfail ⊢
  · exact explained_of_word (w := go "method mismatch: mock requires ") (by simp) (by decide)
  · refine explained_of_word (w := go "path") ?_ (by decide)
    split_ifs
    · exact (show go "path" <+: go "path_regex " by decide).trans (by simp)
    · exact (show go "path" <+: go "path " by decide).trans (by simp)
  · have hnames := firstFailingHeader_names env hfail
    obtain ⟨k, v, -, -, hword⟩ := id hnames
    have hword' := (prefix_append _ _).trans hword
    exact ⟨rfl, ne_matchesAllChecks_of_word hword' (by decide), fun _ => hnames,
      fun hp => absurd hp (not_prefix_of_word hword' (by decide))⟩
  · have hnames := firstFailingQuery_names env hfail
    obtain ⟨k, v, -, -, hword⟩ := id hnames
    have hword' := (prefix_append _ _).trans hword
    exact ⟨rfl, ne_matchesAllChecks_of_word hword' (by decide),
      fun hp => absurd hp (not_prefix_of_word hword' (by decide)), fun _ => hnames⟩
  · exact explained_of_word (w := go "body did not match pattern ") (by simp) (by decide)
  -- the other checks have one text each
  all_goals exact explained_of_word (prefix_refl _) (by decide)

/-! ## Requests as they are received -/

/-- The same environment with maps visited in another order. -/
def Env.withLookupOrder (env : Env) (ord : RangeOrder GoString) : Env :=
  { env with lookupOrder := ord }

/-- `net/http` stores a header under its canonical name, so that no two are equal up to case. -/
structure ReceivedRequest (ct : CaseTable) extends MatchInput where
  oneName : ∀ k v k' v', headers.get? k = some v → headers.get? k' = some v' →
    equalFold ct k k' = true → k = k'

lemma ReceivedRequest.getHeader_withLookupOrder {env : Env} (ord : RangeOrder GoString)
    (req : ReceivedRequest env.caseTable) (name : GoString) :
    getHeader (env.withLookupOrder ord) req.headers name = getHeader env req.headers name := by
  have hfind : (ord.seq req.headers).find? (fun q => equalFold env.caseTable q.1 name) =
      (env.lookupOrder.seq req.headers).find? fun q => equalFold env.caseTable q.1 name := by
    refine Records.find?_eq_of_perm ((ord.perm _).trans (env.lookupOrder.perm _).symm) ?_
    rintro ⟨k, v⟩ hk ⟨k', v'⟩ hk' hname hname'
    rw [ord.mem_seq] at hk hk'
    have hfold : equalFold env.caseTable k k' = true := by
      simp only [equalFold, beq_iff_eq] at hname hname' ⊢
      rw [hname, hname']
    obtain rfl := req.oneName k v k' v' hk hk' hfold
    rw [hk] at hk'
    cases hk'
    rfl
  simp only [getHeader]
  rw [← hfind]
  rfl

lemma allChecks_withLookupOrder (env : Env) (ord : RangeOrder GoString)
    (content : Option (GoString → GoString)) (req : ReceivedRequest env.caseTable) (m : HTTPMock) :
    (allChecks (env.withLookupOrder ord) content req.toMatchInput m).all Prod.fst =
      (allChecks env content req.toMatchInput m).all Prod.fst := by
  have hform : matchBodyForm (env.withLookupOrder ord) m.request.bodyForm req.body req.headers =
      matchBodyForm env m.request.bodyForm req.body req.headers := by
    simp only [matchBodyForm, req.getHeader_withLookupOrder ord]
    rfl
  simp only [allChecks, diagnosedChecks, all_append, all_cons, hform]
  rfl

/-! ## The two functions compared -/

/-- It consists of as many mocks as there is room for, ranked by the number of checks they passed
and then by their place in the list; every mock left out ranks after them; and what is said of each
is true. -/
def Explains (env : Env) (content : Option (GoString → GoString)) (req : MatchInput)
    (mocks : List HTTPMock) (report : List NearMiss) : Prop :=
  ∃ ps : List (Fin mocks.length), ps.length = min httpDiagnoseTopN mocks.length ∧
    ps.Pairwise (Precedes (passedChecks env content req) mocks) ∧
    (∀ i ∉ ps, ∀ p ∈ ps, Precedes (passedChecks env content req) mocks p i) ∧
    List.Forall₂ (fun p n => Explained env req (mocks.get p) n) ps report

/-- **`HTTPMatch` and `HTTPDiagnose` agree**, on every request, for every list of mocks and whatever
the state store shows. -/
theorem httpDiagnose_explains (env : Env) (ord : RangeOrder GoString)
    (req : ReceivedRequest env.caseTable) {now now' : ℕ → ℤ} {store store' : Option State.Store}
    {content : Option (GoString → GoString)} (h : Shows now store content)
    (h' : Shows now' store' content) (mocks : List HTTPMock) :
    ((selectMock env req.toMatchInput now 0 store mocks).1.isSome ↔
      ∃ m ∈ mocks, ∀ c ∈ allChecks (env.withLookupOrder ord) content req.toMatchInput m,
        c.1 = true) ∧
    ((selectMock env req.toMatchInput now 0 store mocks).1 = none →
      Explains (env.withLookupOrder ord) content req.toMatchInput mocks
        (httpDiagnose (env.withLookupOrder ord) req.toMatchInput now' store' mocks).1) := by
  have hselect := selectMock_isSome env req.toMatchInput h mocks 0
  refine ⟨?_, fun hnone => ?_⟩
  · rw [hselect]
    simp [← allChecks_withLookupOrder env ord]
  · rw [hnone] at hselect
    obtain ⟨ps, hps, hlen, hpair, hrest⟩ :=
      best_eq (passedChecks (env.withLookupOrder ord) content req.toMatchInput) httpDiagnoseTopN
        mocks
    refine ⟨ps, hlen, hpair, hrest, ?_⟩
    rw [httpDiagnose_eq _ _ h', hps, map_map, forall₂_map_right_iff]
    refine forall₂_same.mpr fun p _ => candidate_explained _ _ _ ?_
    rw [allChecks_withLookupOrder]
    have hany := hselect.symm
    rw [Option.isSome_none, any_eq_false] at hany
    simpa using hany (mocks.get p) (get_mem _ _)

def bareRequest : ReceivedRequest Env.basic.caseTable where
  method := go "GET"
  path := go "/a"
  query := ∅
  headers := ∅
  body := []
  oneName := by simp

def strictMocks : List HTTPMock :=
  [{ id := go "post"
     request := { method := go "POST", path := go "/a" }
     response := { headers := ∅ } },
    { id := go "keyed"
      request :=
        { method := go "GET", path := go "/a", headers := GoMap.ofList [(go "X-Key", go "k")] }
      response := { headers := ∅ } }]

/-- Neither mock answers, and the report puts the second first. -/
theorem httpDiagnose_explains_missingHeader :
    Explains (Env.basic.withLookupOrder (.stored _)) none bareRequest.toMatchInput strictMocks
      (httpDiagnose (Env.basic.withLookupOrder (.stored _)) bareRequest.toMatchInput (fun _ => 0)
        none strictMocks).1 := by
  have hshows : Shows (fun _ => 0) none none := .absent
  exact (httpDiagnose_explains Env.basic (.stored _) bareRequest hshows hshows strictMocks).2
    (by decide)

end Mockly
