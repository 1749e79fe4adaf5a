import Mockly.HTTPServer.Server

/-!
# Record mode under concurrent requests

Between the match, the upstream request, `capture` and the change of the live list other requests
take steps of their own, and the management API may replace the live list.

Main result: **`recordings_consistent`**.
-/

namespace Mockly

open Transition List

/-! ## The system -/

structure Incoming where
  listener : GoString
  input : MatchInput

def Incoming.query (r : Incoming) : GoMap GoString := firstQueryValues r.input.query

/-- How far a request has come. -/
inductive RecordPhase
  | idle
  /-- No mock has matched; the request is on its way to the upstream server and back. -/
  | forwarding
  /-- `capture` has returned `mock`. -/
  | captured (mock : HTTPMock)
  | done

/-- `origins` says which request each recording was made from; the code does not keep it. -/
structure Recording (ι : Type*) where
  live : List HTTPMock
  recorder : Recorder
  phase : ι → RecordPhase
  origins : List (HTTPMock × ι)

/-- Record mode starts with the configured mocks and an empty recorder. -/
def Recording.init {ι : Type*} (mocks : List HTTPMock) : Recording ι :=
  ⟨mocks, newRecorder, fun _ => .idle, []⟩

/-- What can happen in record mode. -/
inductive RecordEvent (ι : Type*)
  /-- The request is matched against the live list, with the state store as it happens to be. -/
  | arrive (i : ι) (store : Option State.Store) (now : ℕ → ℤ)
  /-- The upstream server has answered, and the answer is captured. -/
  | capture (i : ι) (u : UpstreamResponse)
  /-- The upstream server could not be reached. -/
  | fail (i : ι)
  | append (i : ι)
  /-- The management API replaces the live list. -/
  | setMocks (mocks : List HTTPMock)

def RecordEvent.isSetMocks {ι : Type*} : RecordEvent ι → Bool
  | .setMocks _ => true
  | _ => false

section Step

variable {ι : Type*} [DecidableEq ι] (env : Env) (reqs : ι → Incoming)

def Recording.setPhase (s : Recording ι) (i : ι) (p : RecordPhase) : Recording ι :=
  { s with phase := Function.update s.phase i p }

/-- The mock that answers the request `i`, if there is one. -/
def Recording.answer (s : Recording ι) (i : ι) (store : Option State.Store) (now : ℕ → ℤ) :
    Option Selection :=
  (selectMock env (reqs i).input now 0 store (mocksForListener s.live (reqs i).listener)).1

/-- The recording `capture` returns in place of a new one. -/
def Recording.earlier (s : Recording ι) (i : ι) : Option HTTPMock :=
  s.recorder.recorded.find? (recordsRequest (reqs i).listener (reqs i).input.method
    (reqs i).input.path (reqs i).query)

/-- The live mock that keeps `mock` from being appended. -/
def Recording.equivalent (s : Recording ι) (mock : HTTPMock) : Option HTTPMock :=
  s.live.find? (recordsRequest mock.listener mock.request.method mock.request.path
    mock.request.query)

/-- The mock that is recorded for the request `i` if there is no earlier one. -/
def Recording.fresh (s : Recording ι) (i : ι) (u : UpstreamResponse) : HTTPMock :=
  recordedMock (s.recorder.counter + 1) (reqs i).listener (reqs i).input.method
    (reqs i).input.path (reqs i).query u

/-- One step of record mode. -/
def recordStep (s : Recording ι) : RecordEvent ι → Option (Recording ι)
  | .arrive i store now =>
    match s.phase i, s.answer env reqs i store now with
    | .idle, some _ => some (s.setPhase i .done)
    | .idle, none => some (s.setPhase i .forwarding)
    | _, _ => none
  | .capture i u =>
    match s.phase i with
    | .forwarding =>
      let (mock, rec) := s.recorder.capture (reqs i).listener (reqs i).input.method
        (reqs i).input.path (reqs i).query u
      some
        { s.setPhase i (.captured mock) with
          recorder := rec
          origins := if (s.earlier reqs i).isSome then s.origins
            else s.origins ++ [(mock, i)] }
    | _ => none
  | .fail i =>
    match s.phase i with
    | .forwarding => some (s.setPhase i .done)
    | _ => none
  | .append i =>
    match s.phase i with
    | .captured mock =>
      some { s.setPhase i .done with live := appendRecorded s.live mock }
    | _ => none
  | .setMocks mocks => some { s with live := mocks }

variable {env reqs}

open Recording

omit [DecidableEq ι] in
lemma capture_of_earlier {s : Recording ι} {i : ι} {m : HTTPMock} (u : UpstreamResponse)
    (h : s.earlier reqs i = some m) :
    s.recorder.capture (reqs i).listener (reqs i).input.method (reqs i).input.path
      (reqs i).query u = (m, s.recorder) := by
  rw [earlier] at h
  simp [Recorder.capture, h]

omit [DecidableEq ι] in
lemma capture_of_no_earlier {s : Recording ι} {i : ι} (u : UpstreamResponse)
    (h : s.earlier reqs i = none) :
    s.recorder.capture (reqs i).listener (reqs i).input.method (reqs i).input.path
      (reqs i).query u =
      (s.fresh reqs i u, ⟨s.recorder.counter + 1, s.recorder.recorded ++ [s.fresh reqs i u]⟩) := by
  rw [earlier] at h
  simp [Recorder.capture, h, fresh]

/-- Only the phase of a request changes, a response is captured, a mock is appended, or the live
list is replaced. -/
theorem recordStep_cases {s s' : Recording ι} {e : RecordEvent ι}
    (h : recordStep env reqs s e = some s') :
    (∃ i p, (∀ m, p ≠ RecordPhase.captured m) ∧ s' = s.setPhase i p) ∨
      (∃ i u m, e = .capture i u ∧ s.earlier reqs i = some m ∧
        s' = s.setPhase i (.captured m)) ∨
      (∃ i u, e = .capture i u ∧ s.earlier reqs i = none ∧
        s' = { s.setPhase i (.captured (s.fresh reqs i u)) with
          recorder := ⟨s.recorder.counter + 1, s.recorder.recorded ++ [s.fresh reqs i u]⟩
          origins := s.origins ++ [(s.fresh reqs i u, i)] }) ∨
      (∃ i m, e = .append i ∧ s.phase i = .captured m ∧
        s' = { s.setPhase i .done with live := appendRecorded s.live m }) ∨
      (∃ mocks, e = .setMocks mocks ∧ s' = { s with live := mocks }) := by
  cases e with
  | arrive i store now =>
    left
    simp only [recordStep] at h
    split at h
    · exact ⟨i, .done, by simp, (Option.some.inj h).symm⟩
    · exact ⟨i, .forwarding, by simp, (Option.some.inj h).symm⟩
    · cases h
  | fail i =>
    left
    simp only [recordStep] at h
    split at h
    · exact ⟨i, .done, by simp, (Option.some.inj h).symm⟩
    · cases h
  | capture i u =>
    simp only [recordStep] at h
    split at h
    · cases hearlier : s.earlier reqs i with
      | some m =>
        rw [capture_of_earlier u hearlier, hearlier] at h
        exact .inr (.inl ⟨i, u, m, rfl, hearlier, (Option.some.inj h).symm⟩)
      | none =>
        rw [capture_of_no_earlier u hearlier, hearlier] at h
        exact .inr (.inr (.inl ⟨i, u, rfl, hearlier, (Option.some.inj h).symm⟩))
    · cases h
  | append i =>
    simp only [recordStep] at h
    split at h
    · rename_i m hm
      exact .inr (.inr (.inr (.inl ⟨i, m, rfl, hm, (Option.some.inj h).symm⟩)))
    · cases h
  | setMocks mocks => exact .inr (.inr (.inr (.inr ⟨mocks, rfl, (Option.some.inj h).symm⟩)))

omit [DecidableEq ι] in
lemma appendRecorded_eq (s : Recording ι) (m : HTTPMock) :
    appendRecorded s.live m =
      if (s.equivalent m).isSome then s.live else s.live ++ [m] := by
  simp [appendRecorded, equivalent]

/-- **A request that is alone with the server does in two steps what `recordAndServe` does in
one.** -/
theorem capture_append_eq (mo : Moment) (srv : Server) (s : Recording ι) (i : ι)
    (u : UpstreamResponse) (hphase : s.phase i = .forwarding) (hlive : srv.mocks = s.live) :
    ∃ s', run (recordStep env reqs) s [.capture i u, .append i] = some s' ∧
      (recordAndServe mo srv s.recorder (reqs i).listener (reqs i).input u).2.mocks = s'.live ∧
      (recordAndServe mo srv s.recorder (reqs i).listener (reqs i).input u).2.recorder =
        some s'.recorder := by
  simp [run, recordStep, hphase, setPhase, recordAndServe, hlive, Incoming.query]

end Step

/-! ## No duplicates -/

/-- Two recordings of one request: listener, method, path and query agree. -/
def SameRecording (m m' : HTTPMock) : Prop :=
  m.listener = m'.listener ∧ m.request.method = m'.request.method ∧
    m.request.path = m'.request.path ∧ ∀ k, m.request.query.get? k = m'.request.query.get? k

lemma queryEqual_of_get?_eq {a b : GoMap GoString} (h : ∀ k, a.get? k = b.get? k) :
    queryEqual a b = true := by
  simp only [queryEqual]
  rw [Bool.and_eq_true, beq_iff_eq, all_eq_true]
  refine ⟨GoMap.size_eq_of_get?_eq h, ?_⟩
  rintro ⟨k, v⟩ hp
  simp [GoMap.getD, ← h, GoMap.mem_toList.mp hp]

variable {m : HTTPMock}

lemma recordsRequest_of_same {m' : HTTPMock} (h : SameRecording m m') :
    recordsRequest m'.listener m'.request.method m'.request.path m'.request.query m = true := by
  obtain ⟨hl, hm, hp, hq⟩ := h
  simp [recordsRequest, hl, hm, hp, queryEqual_of_get?_eq hq]

lemma pairwise_append_of_find?_eq_none {ms : List HTTPMock}
    (hms : ms.Pairwise fun m m' => ¬ SameRecording m m') (hnone : ∀ x ∈ ms,
      recordsRequest m.listener m.request.method m.request.path m.request.query x = false) :
    (ms ++ [m]).Pairwise fun m m' => ¬ SameRecording m m' := by
  rw [pairwise_append]
  refine ⟨hms, pairwise_singleton _ _, fun x hx y hy hsame => ?_⟩
  rw [mem_singleton] at hy
  subst hy
  have htrue := recordsRequest_of_same hsame
  rw [hnone x hx] at htrue
  cases htrue

/-- The ID of the `n`-th recording. -/
def recordedID (n : ℕ) : GoString := go "recorded-" ++ formatNat n

lemma recordedID_injective : Function.Injective recordedID := fun _ _ h =>
  formatNat_injective (append_cancel_left h)

/-- `init` is the live list record mode has started with; what stands behind it has been recorded.
-/
structure Consistent {ι : Type*} (init : List HTTPMock) (s : Recording ι) : Prop where
  live : ∃ appended, s.live = init ++ appended ∧ (∀ m ∈ appended, m ∈ s.recorder.recorded) ∧
    appended.Pairwise fun m m' => ¬ SameRecording m m'
  captured : ∀ i m, s.phase i = .captured m → m ∈ s.recorder.recorded
  recorded : s.recorder.recorded.Pairwise fun m m' => ¬ SameRecording m m'
  ids : s.recorder.recorded.map (·.id) =
    (List.range s.recorder.counter).map fun n => recordedID (n + 1)

section Run

variable {ι : Type*} [DecidableEq ι] {env : Env} {reqs : ι → Incoming} {init : List HTTPMock}
  {s : Recording ι}

omit [DecidableEq ι] in
lemma consistent_init : Consistent init (Recording.init init : Recording ι) where
  live := ⟨[], by simp [Recording.init], by simp, .nil⟩
  captured := by simp [Recording.init]
  recorded := .nil
  ids := rfl

variable {i : ι}

lemma phase_setPhase {j : ι} {p : RecordPhase} (h : (s.setPhase i p).phase j = .captured m) :
    p = .captured m ∨ s.phase j = .captured m := by
  by_cases hj : j = i
  · subst hj
    left
    simpa [Recording.setPhase] using h
  · right
    simpa [Recording.setPhase, hj] using h

lemma Consistent.setPhase (hs : Consistent init s) {p : RecordPhase}
    (hp : ∀ m, p = .captured m → m ∈ s.recorder.recorded) : Consistent init (s.setPhase i p) where
  live := hs.live
  captured := fun _ _ h => (phase_setPhase h).elim (hp _) (hs.captured _ _)
  recorded := hs.recorded
  ids := hs.ids

lemma Consistent.capture (hs : Consistent init s) (u : UpstreamResponse)
    (hnone : s.earlier reqs i = none) :
    Consistent init
      { s.setPhase i (.captured (s.fresh reqs i u)) with
        recorder := ⟨s.recorder.counter + 1, s.recorder.recorded ++ [s.fresh reqs i u]⟩
        origins := s.origins ++ [(s.fresh reqs i u, i)] } where
  live := by
    obtain ⟨appended, hlive, hsub, hpair⟩ := hs.live
    exact ⟨appended, hlive, fun m hm => mem_append_left _ (hsub m hm), hpair⟩
  captured := by
    intro j m hm
    rcases phase_setPhase hm with heq | hold
    · cases heq
      exact mem_append_right _ mem_cons_self
    · exact mem_append_left _ (hs.captured j m hold)
  recorded := by
    refine pairwise_append_of_find?_eq_none hs.recorded fun x hx => ?_
    exact Bool.eq_false_iff.mpr (List.find?_eq_none.mp hnone x hx)
  ids := by
    rw [map_append, hs.ids, range_succ, map_append]
    rfl

lemma Consistent.append (hs : Consistent init s) (hm : s.phase i = .captured m) :
    Consistent init { s.setPhase i .done with live := appendRecorded s.live m } where
  live := by
    obtain ⟨appended, hlive, hsub, hpair⟩ := hs.live
    rw [appendRecorded_eq]
    split
    · exact ⟨appended, hlive, hsub, hpair⟩
    · rename_i hnone
      rw [Option.not_isSome_iff_eq_none] at hnone
      refine ⟨appended ++ [m], by simp [hlive], ?_, ?_⟩
      · intro x hx
        rcases mem_append.mp hx with hx | hx
        · exact hsub x hx
        · rw [mem_singleton.mp hx]
          exact hs.captured i m hm
      · refine pairwise_append_of_find?_eq_none hpair fun x hx => ?_
        exact Bool.eq_false_iff.mpr
          (List.find?_eq_none.mp hnone x (hlive ▸ mem_append_right _ hx))
  captured := fun _ _ h => (phase_setPhase h).elim (by simp) (hs.captured _ _)
  recorded := hs.recorded
  ids := hs.ids

lemma recordStep_consistent {e : RecordEvent ι} {s' : Recording ι} (hs : Consistent init s)
    (he : e.isSetMocks = false) (h : recordStep env reqs s e = some s') : Consistent init s' := by
  rcases recordStep_cases h with ⟨i, p, hp, rfl⟩ | ⟨i, u, m, rfl, hm, rfl⟩ |
    ⟨i, u, rfl, hnone, rfl⟩ | ⟨i, m, rfl, hm, rfl⟩ | ⟨mocks, rfl, rfl⟩
  · exact hs.setPhase fun m hm => absurd hm (hp m)
  · refine hs.setPhase fun m' hm' => ?_
    cases hm'
    exact mem_of_find?_eq_some hm
  · exact hs.capture u hnone
  · exact hs.append hm
  · cases he

/-- **Record mode never keeps two recordings of one request.** As long as the management API does
not replace the live list, what has been appended to it is known to the recorder, in neither list do
two recordings agree in listener, method, path and query, and each ID is assigned once. -/
theorem recordings_consistent (env : Env) (reqs : ι → Incoming) (init : List HTTPMock)
    (events : List (RecordEvent ι)) (s : Recording ι)
    (hevents : ∀ e ∈ events, e.isSetMocks = false)
    (hrun : run (recordStep env reqs) (Recording.init init) events = some s) :
    (∃ appended, s.live = init ++ appended ∧ (∀ m ∈ appended, m ∈ s.recorder.recorded) ∧
      appended.Pairwise fun m m' => ¬ SameRecording m m') ∧
    (s.recorder.recorded.Pairwise fun m m' => ¬ SameRecording m m') ∧
    (s.recorder.recorded.map (·.id) =
      (List.range s.recorder.counter).map fun n => recordedID (n + 1)) ∧
    (s.recorder.recorded.map (·.id)).Nodup := by
  have hstep : ∀ (t : Recording ι) e t', Consistent init t → e.isSetMocks = false →
      recordStep env reqs t e = some t' → Consistent init t' :=
    fun _ _ _ hInv he h => recordStep_consistent hInv he h
  have hs : Consistent init s :=
    run_invariant hstep consistent_init (along_of_forall_mem hevents) hrun
  refine ⟨hs.live, hs.recorded, hs.ids, ?_⟩
  rw [hs.ids]
  exact List.nodup_range.map fun _ _ h => by simpa using recordedID_injective h

end Run

def plainIncoming (path : GoString) : Incoming := ⟨[], ⟨go "GET", path, ∅, ∅, []⟩⟩

def plainResponse (status : ℤ) (body : GoString) : UpstreamResponse :=
  ⟨status, ∅, body, by simp⟩

/-- Two requests for one path are both forwarded before either is captured. -/
theorem concurrent_requests_recorded_once :
    ∃ s, run (recordStep Env.basic fun _ : Fin 2 => plainIncoming (go "/a")) (Recording.init [])
        [.arrive 0 none (fun _ => 0), .arrive 1 none (fun _ => 0),
          .capture 1 (plainResponse 200 (go "one")), .capture 0 (plainResponse 200 (go "two")),
          .append 0, .append 1] = some s ∧
      s.live.length = 1 ∧ s.recorder.recorded.length = 1 ∧
      (s.recorder.recorded.map (·.id)).Nodup := by
  refine ⟨_, rfl, by decide, by decide, ?_⟩
  exact (recordings_consistent Env.basic (fun _ : Fin 2 => plainIncoming (go "/a")) []
    [.arrive 0 none (fun _ => 0), .arrive 1 none (fun _ => 0),
      .capture 1 (plainResponse 200 (go "one")), .capture 0 (plainResponse 200 (go "two")),
      .append 0, .append 1] _ (by simp [RecordEvent.isSetMocks]) rfl).2.2.2

end Mockly
