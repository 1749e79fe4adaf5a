import Mockly.Engine.Literal
import Mockly.HTTPServer.Recording

/-!
# Is a recording used for its own request only?

The matcher takes what was recorded for a pattern, an empty query for no condition at all, and a
missing query key for an empty value (`ToldApart`).

Main result: **`uses_own_recording_of_toldApart`**.
-/

namespace Mockly

open Transition Recording List Env

/-- The two requests agree in all that a recording keeps. -/
def SameRequest (r r' : Incoming) : Prop :=
  r.listener = r'.listener ∧ r.input.method = r'.input.method ∧ r.input.path = r'.input.path ∧
    ∀ k, r.query.get? k = r'.query.get? k

section Property

variable {ι : Type*} [DecidableEq ι] (env : Env) (reqs : ι → Incoming)

/-- If the step uses a recording, it is a recording of the request that takes the step. -/
def UsesOwnRecording (s : Recording ι) : RecordEvent ι → Prop
  | .arrive i store now => ∀ sel, s.answer env reqs i store now = some sel →
      ∀ j, (sel.mock, j) ∈ s.origins → SameRequest (reqs i) (reqs j)
  | .capture i _ => ∀ m, s.earlier reqs i = some m →
      ∀ j, (m, j) ∈ s.origins → SameRequest (reqs i) (reqs j)
  | .append i => ∀ m, s.phase i = .captured m → ∀ m', s.equivalent m = some m' →
      ∀ j, (m', j) ∈ s.origins → SameRequest (reqs i) (reqs j)
  | _ => True

/-! ## The condition -/

/-- The method, the path and the query values of a recording mean themselves. -/
def LiteralRecording (m : HTTPMock) : Prop :=
  m.request.method ≠ [] ∧ m.request.method ≠ go "*" ∧ LiteralPath m.request.path ∧
    LiteralQuery m.request.query

/-- A request for the path of a recording spells the method as the recording does if it is the same
but for case, repeats none of the recorded query keys, and has no others. -/
def Distinguishable (m : HTTPMock) (r : Incoming) : Prop :=
  m.request.path = r.input.path →
    (equalFold env.caseTable m.request.method r.input.method = true →
      m.request.method = r.input.method) ∧
    (∀ k v, m.request.query.get? k = some v →
      ((r.input.query.get? k).getD []).length ≤ 1) ∧
    ∀ k v, r.query.get? k = some v → m.request.query.get? k ≠ none

/-- Every key with an empty value in `a` is there in `b`. -/
def EmptyValuesPresent (a b : GoMap GoString) : Prop := ∀ k, a.get? k = some [] → b.get? k ≠ none

/-- The condition on a step.  It is about the recordings there are and the request that takes the
step. -/
def ToldApart (s : Recording ι) : RecordEvent ι → Prop
  | .arrive i _ _ => ∀ m ∈ s.live, m ∈ s.recorder.recorded → m.listener = (reqs i).listener →
      LiteralRecording m ∧ Distinguishable env m (reqs i)
  | .capture i _ => ∀ m ∈ s.recorder.recorded, m.request.path = (reqs i).input.path →
      EmptyValuesPresent m.request.query (reqs i).query
  | .append i => ∀ m, s.phase i = .captured m → ∀ m' ∈ s.live, m' ∈ s.recorder.recorded →
      m'.request.path = m.request.path →
      EmptyValuesPresent m'.request.query m.request.query
  | _ => True

end Property

/-! ## One recording and one request -/

/-- The recording `m` keeps the request `r`. -/
def Keeps (m : HTTPMock) (r : Incoming) : Prop :=
  m.listener = r.listener ∧ m.request.method = r.input.method ∧
    m.request.path = r.input.path ∧ ∀ k, m.request.query.get? k = r.query.get? k

variable {m : HTTPMock}

lemma Keeps.same {r r' : Incoming} (h : Keeps m r) (h' : Keeps m r') : SameRequest r r' :=
  ⟨h.1.symm.trans h'.1, h.2.1.symm.trans h'.2.1, h.2.2.1.symm.trans h'.2.2.1,
    fun k => (h.2.2.2 k).symm.trans (h'.2.2.2 k)⟩

/-- **`queryEqual` is equality of maps, but for empty values under keys the other map lacks.** -/
theorem queryEqual_iff {a b : GoMap GoString} (h : EmptyValuesPresent a b) :
    queryEqual a b = true ↔ ∀ k, a.get? k = b.get? k := by
  refine ⟨fun heq => ?_, queryEqual_of_get?_eq⟩
  simp only [queryEqual, Bool.and_eq_true, beq_iff_eq, all_eq_true, Prod.forall,
    GoMap.mem_toList] at heq
  refine GoMap.get?_eq_of_le_of_size_eq (fun k v hv => ?_) heq.1
  have hvalue : b.getD k = v := heq.2 k v hv
  cases hb : b.get? k with
  | some w => simpa [GoMap.getD, hb] using hvalue
  | none =>
    have hempty : v = [] := by simpa [GoMap.getD, hb] using hvalue.symm
    exact absurd hb (h k (hempty ▸ hv))

lemma recordsRequest_iff {listener method path : GoString} {query : GoMap GoString} :
    recordsRequest listener method path query m = true ↔
      m.listener = listener ∧ m.request.method = method ∧ m.request.path = path ∧
        queryEqual m.request.query query = true := by
  simp [recordsRequest, and_assoc]

/-- A literal recording that matches a request it can be told apart from keeps that request. -/
lemma keeps_of_matchRequest {env : Env} {r : Incoming} {params : GoMap GoString}
    (hregex : m.request.pathRegex = []) (hlistener : m.listener = r.listener)
    (hliteral : LiteralRecording m) (hdist : Distinguishable env m r)
    (h : matchRequest env m.request r.input = some params) : Keeps m r := by
  obtain ⟨hmethod, hpath, -, hquery, -⟩ := matchRequest_eq_some.mp h
  obtain ⟨hne, hstar, hlitPath, hlitQuery⟩ := hliteral
  have hpath : m.request.path = r.input.path := by
    rw [matchRequestPath, if_neg (by simp [hregex])] at hpath
    exact matchPath_of_literal hlitPath (Option.isSome_of_eq_some hpath)
  obtain ⟨hspelling, hsingle, hkeys⟩ := hdist hpath
  refine ⟨hlistener, hspelling (by simpa [matchMethod, hne, hstar] using hmethod), hpath, ?_⟩
  intro k
  cases hm : m.request.query.get? k with
  | some v =>
    -- the value is among those of the request, which has no more than one
    have hmem := (matchQuery_literal hlitQuery).mp hquery k v hm
    have hlen := hsingle k v hm
    rw [Incoming.query, get?_firstQueryValues]
    cases hr : r.input.query.get? k with
    | none => simp [hr] at hmem
    | some values =>
      rw [hr, Option.getD_some] at hmem hlen
      obtain ⟨w, rfl⟩ := length_eq_one_iff.mp
        (le_antisymm hlen (length_pos_of_mem hmem))
      simpa using mem_singleton.mp hmem
  | none =>
    cases hr : r.query.get? k with
    | none => rfl
    | some v => exact absurd hm (hkeys k v hr)

/-! ## Runs -/

/-- Every recording keeps the request it was made from, and a captured mock keeps the request it was
captured for. -/
structure Traced {ι : Type*} (reqs : ι → Incoming) (s : Recording ι) : Prop where
  origins : ∀ m j, (m, j) ∈ s.origins →
    m ∈ s.recorder.recorded ∧ m.request.pathRegex = [] ∧ Keeps m (reqs j)
  captured : ∀ i m, s.phase i = .captured m → Keeps m (reqs i)

section Run

variable {ι : Type*} [DecidableEq ι] {env : Env} {reqs : ι → Incoming} {s : Recording ι}

omit [DecidableEq ι] in
lemma keeps_of_earlier {i : ι} {m : HTTPMock} {u : UpstreamResponse}
    (hok : ToldApart env reqs s (.capture i u)) (hm : s.earlier reqs i = some m) :
    Keeps m (reqs i) := by
  obtain ⟨hl, hmethod, hp, hq⟩ := recordsRequest_iff.mp (List.find?_some hm)
  have hempty := hok m (mem_of_find?_eq_some hm) hp
  exact ⟨hl, hmethod, hp, (queryEqual_iff hempty).mp hq⟩

omit [DecidableEq ι] in
lemma usesOwnRecording_of_traced {e : RecordEvent ι} (hs : Traced reqs s)
    (hok : ToldApart env reqs s e) : UsesOwnRecording env reqs s e := by
  cases e with
  | arrive i store now =>
    intro sel hsel j hj
    obtain ⟨hrec, hregex, hkeeps⟩ := hs.origins _ j hj
    have hmem := selectMock_mem hsel
    rw [mocksForListener_eq_filter, mem_filter, decide_eq_true_iff] at hmem
    obtain ⟨hliteral, hdist⟩ := hok _ hmem.1 hrec hmem.2
    obtain ⟨-, -, -, hmatch⟩ := selectMock_eq_some hsel
    exact (keeps_of_matchRequest hregex hmem.2 hliteral hdist hmatch).same hkeeps
  | capture i u =>
    intro m hm j hj
    exact (keeps_of_earlier hok hm).same (hs.origins m j hj).2.2
  | append i =>
    intro m hm m' hm' j hj
    obtain ⟨hrec, -, hkeeps'⟩ := hs.origins m' j hj
    obtain ⟨hl, hmethod, hp, hq⟩ := recordsRequest_iff.mp (List.find?_some hm')
    have hempty := hok m hm m' (mem_of_find?_eq_some hm') hrec hp
    have hkeeps := hs.captured i m hm
    have hquery := (queryEqual_iff hempty).mp hq
    refine Keeps.same ⟨hl.trans hkeeps.1, hmethod.trans hkeeps.2.1, hp.trans hkeeps.2.2.1,
      fun k => (hquery k).trans (hkeeps.2.2.2 k)⟩ hkeeps'
  | fail i => trivial
  | setMocks mocks => trivial

lemma Traced.setPhase (hs : Traced reqs s) {i : ι} {p : RecordPhase}
    (hp : ∀ m, p = .captured m → Keeps m (reqs i)) : Traced reqs (s.setPhase i p) where
  origins := hs.origins
  captured := by
    intro j m hm
    by_cases hj : j = i
    · subst hj
      exact hp m (by simpa [Recording.setPhase] using hm)
    · exact hs.captured j m (by simpa [Recording.setPhase, hj] using hm)

lemma recordStep_traced {e : RecordEvent ι} {s' : Recording ι} (hs : Traced reqs s)
    (hok : ToldApart env reqs s e) (h : recordStep env reqs s e = some s') : Traced reqs s' := by
  rcases recordStep_cases h with ⟨i, p, hp, rfl⟩ | ⟨i, u, m, rfl, hm, rfl⟩ |
    ⟨i, u, rfl, -, rfl⟩ | ⟨i, m, rfl, -, rfl⟩ | ⟨mocks, rfl, rfl⟩
  · exact hs.setPhase fun m hm => absurd hm (hp m)
  · refine hs.setPhase fun m' hm' => ?_
    cases hm'
    exact keeps_of_earlier hok hm
  · have hfresh : Keeps (s.fresh reqs i u) (reqs i) := ⟨rfl, rfl, rfl, fun _ => rfl⟩
    have hphase := hs.setPhase (i := i) (p := .captured (s.fresh reqs i u)) fun m hm => by
      cases hm
      exact hfresh
    refine ⟨fun m j hj => ?_, hphase.captured⟩
    rcases mem_append.mp hj with hj | hj
    · obtain ⟨hrec, hrest⟩ := hs.origins m j hj
      exact ⟨mem_append_left _ hrec, hrest⟩
    · cases mem_singleton.mp hj
      exact ⟨mem_append_right _ mem_cons_self, rfl, hfresh⟩
  · have hphase := hs.setPhase (i := i) (p := .done) (by simp)
    exact ⟨hphase.origins, hphase.captured⟩
  · exact ⟨hs.origins, hs.captured⟩

/-- **A recording is used for its own request only, in every run whose steps meet the condition**: a
recording that answers a request, stands in for a new recording or keeps one out of the live list
was made from a request with the same listener, method, path and query. -/
theorem uses_own_recording_of_toldApart (env : Env) (reqs : ι → Incoming)
    (init : List HTTPMock) (events : List (RecordEvent ι))
    (hok : Along (recordStep env reqs) (ToldApart env reqs) (Recording.init init) events) :
    Along (recordStep env reqs) (UsesOwnRecording env reqs) (Recording.init init) events := by
  have hinit : Traced reqs (Recording.init init : Recording ι) :=
    ⟨by simp [Recording.init], by simp [Recording.init]⟩
  exact along_of_invariant (fun _ _ _ hs ht h => recordStep_traced hs ht h)
    (fun _ _ hs ht => usesOwnRecording_of_traced hs ht) hinit hok

end Run

def recordThenArrive : List (RecordEvent (Fin 2)) :=
  [.arrive 0 none (fun _ => 0), .capture 0 (plainResponse 200 (go "one")), .append 0,
    .arrive 1 none (fun _ => 0)]

/-- The same request twice: the run meets the condition, and the recording answers the second. -/
theorem recording_answers_same_request :
    let step := recordStep basic fun _ : Fin 2 => plainIncoming (go "/a")
    Along step (ToldApart basic fun _ => plainIncoming (go "/a")) (init [])
        recordThenArrive ∧
      Along step (UsesOwnRecording basic fun _ => plainIncoming (go "/a"))
        (init []) recordThenArrive ∧
      ∃ s, run step (init []) (recordThenArrive.take 3) = some s ∧
        (s.answer basic (fun _ => plainIncoming (go "/a")) 1 none fun _ => 0).isSome =
          true := by
  intro step
  have hok : Along step (ToldApart basic fun _ => plainIncoming (go "/a"))
      (init []) recordThenArrive := by
    refine (along_cons rfl).mpr ⟨?_, (along_cons rfl).mpr ⟨?_, (along_cons rfl).mpr ⟨?_,
      (along_cons rfl).mpr ⟨?_, trivial⟩⟩⟩⟩
    · rintro m ⟨⟩
    · rintro m ⟨⟩
    · rintro m - m' ⟨⟩
    · intro m hm _ _
      cases List.mem_singleton.mp hm
      refine ⟨⟨by decide, by decide, ⟨by decide, by decide, by decide, by decide⟩, ?_⟩, ?_⟩
      · rintro k v ⟨⟩
      · exact fun _ => ⟨fun _ => rfl, by rintro k v ⟨⟩, by rintro k v ⟨⟩⟩
  exact ⟨hok, uses_own_recording_of_toldApart basic _ [] recordThenArrive hok, _, rfl,
    by decide⟩

/-- **A recording without a query answers every query.**  `GET /a` is recorded, and `GET /a?x=1` is
answered with it. -/
theorem recording_answers_other_query :
    let reqs : Fin 2 → Incoming := fun i =>
      ⟨[], ⟨go "GET", go "/a", if i = 0 then ∅ else GoMap.ofList [(go "x", [go "1"])], ∅, []⟩⟩
    ∃ s, run (recordStep basic reqs) (init []) (recordThenArrive.take 3) = some s ∧
      ∃ sel, s.answer basic reqs 1 none (fun _ => 0) = some sel ∧
        (sel.mock, 0) ∈ s.origins ∧ ¬ SameRequest (reqs 1) (reqs 0) ∧
        ¬ UsesOwnRecording basic reqs s (.arrive 1 none fun _ => 0) := by
  intro reqs
  have hdiff : ¬ SameRequest (reqs 1) (reqs 0) := by
    rintro ⟨-, -, -, hquery⟩
    exact absurd (hquery (go "x")) (by decide)
  refine ⟨_, rfl, _, rfl, List.mem_singleton.mpr rfl, hdiff, fun h => hdiff ?_⟩
  exact h _ rfl 0 (List.mem_singleton.mpr rfl)

end Mockly
