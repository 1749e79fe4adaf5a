import Mockly.HTTPServer.Server

/-!
# Listener isolation

The listeners share the table of call counters; a request touches only the counter of a mock of its
listener (`SameOn`).

Main result: **`listener_isolation`**.
-/

namespace Mockly

/-- The servers have the same mocks on the listener, count the calls of these mocks alike, and
differ in nothing else but the mocks of other listeners; neither records. -/
structure SameOn (listener : GoString) (s t : Server) : Prop where
  mocks : mocksForListener s.mocks listener = mocksForListener t.mocks listener
  counts : ∀ m ∈ mocksForListener s.mocks listener, s.callCount m.id = t.callCount m.id
  maxBodyBytes : s.maxBodyBytes = t.maxBodyBytes
  store : s.store = t.store
  recorder : s.recorder = none ∧ t.recorder = none

variable {listener : GoString} {s t : Server}

lemma SameOn.setStore (h : SameOn listener s t) (store : Option State.Store) :
    SameOn listener { s with store := store } { t with store := store } where
  mocks := h.mocks
  counts := h.counts
  maxBodyBytes := h.maxBodyBytes
  store := rfl
  recorder := h.recorder

lemma SameOn.countCall (h : SameOn listener s t) {m : HTTPMock}
    (hm : m ∈ mocksForListener s.mocks listener) :
    SameOn listener (s.countCall m.id) (t.countCall m.id) where
  mocks := h.mocks
  counts := by
    intro m' hm'
    have hid := h.counts m hm
    by_cases heq : m'.id = m.id
    · simp [Server.countCall, Server.callCount, heq] at hid ⊢
      exact hid
    · simp only [Server.countCall, Server.callCount, GoMap.get?_set_ne _ _ heq]
      exact h.counts m' hm'
  maxBodyBytes := h.maxBodyBytes
  store := h.store
  recorder := h.recorder

/-- Of the server, a matched request reads the counter of the selected mock. -/
lemma respondMatched_sameOn (h : SameOn listener s t) (mo : Moment) (mocks : List HTTPMock)
    (req : MatchInput) {sel : Selection} (hsel : sel.mock ∈ mocksForListener s.mocks listener) :
    (respondMatched mo s mocks req sel).1 = (respondMatched mo t mocks req sel).1 ∧
      SameOn listener (respondMatched mo s mocks req sel).2
        (respondMatched mo t mocks req sel).2 := by
  have hcount : (s.countCall sel.mock.id).callCount sel.mock.id =
      (t.countCall sel.mock.id).callCount sel.mock.id :=
    (h.countCall hsel).counts sel.mock hsel
  refine ⟨?_, h.countCall hsel⟩
  simp [respondMatched, hcount]

lemma respondUnmatched_sameOn (h : SameOn listener s t) (mo : Moment) (mocks : List HTTPMock)
    (r : Inbound) (req : MatchInput) (forwarded : Bool) :
    (respondUnmatched mo s mocks r req forwarded).1 =
        (respondUnmatched mo t mocks r req forwarded).1 ∧
      SameOn listener (respondUnmatched mo s mocks r req forwarded).2
        (respondUnmatched mo t mocks r req forwarded).2 := by
  simp only [respondUnmatched, h.store]
  exact ⟨trivial, h.setStore _⟩

lemma dispatch_of_no_recorder (hrec : s.recorder = none) (mo : Moment) (mocks : List HTTPMock)
    (r : Inbound) (req : MatchInput) :
    dispatch mo s mocks r req =
      match selectMock mo.env req mo.now 0 s.store mocks with
      | (some sel, store) => respondMatched mo { s with store := store } mocks req sel
      | (none, store) => respondUnmatched mo { s with store := store } mocks r req false := by
  obtain ⟨found, store, hsel, hcase⟩ := dispatch_cases mo s mocks r req
  rw [hsel]
  rcases hcase with ⟨sel, rfl, heq⟩ | ⟨-, rec, u, hsome, -⟩ | ⟨rfl, -, -⟩
  · exact heq
  · rw [hrec] at hsome
    cases hsome
  · unfold dispatch
    rw [hsel]
    dsimp only
    split
    · rename_i hsome _
      rw [hrec] at hsome
      cases hsome
    · rename_i hsome _
      rw [hrec] at hsome
      cases hsome
    · rfl

lemma dispatch_sameOn {r : Inbound} (h : SameOn r.listener s t) (mo : Moment) (req : MatchInput) :
    (dispatch mo s (reachable s r) r req).1 = (dispatch mo t (reachable s r) r req).1 ∧
      SameOn r.listener (dispatch mo s (reachable s r) r req).2
        (dispatch mo t (reachable s r) r req).2 := by
  rw [dispatch_of_no_recorder h.recorder.1, dispatch_of_no_recorder h.recorder.2, ← h.store]
  cases hsel : selectMock mo.env req mo.now 0 s.store (reachable s r) with
  | mk found store =>
    cases found with
    | none => exact respondUnmatched_sameOn (h.setStore store) mo _ r req false
    | some sel =>
      have hmem : sel.mock ∈ reachable s r := selectMock_mem (congrArg Prod.fst hsel)
      exact respondMatched_sameOn (h.setStore store) mo _ req hmem

/-- **One request.**  The servers give the same outcome and remain alike. -/
theorem handleRequest_sameOn {r : Inbound} (h : SameOn r.listener s t) (mo : Moment) :
    (handleRequest mo s r).1 = (handleRequest mo t r).1 ∧
      SameOn r.listener (handleRequest mo s r).2 (handleRequest mo t r).2 := by
  have hread : s.readBody r = t.readBody r := by
    rw [Server.readBody, Server.readBody, h.maxBodyBytes]
  simp only [handleRequest, hread, ← h.mocks]
  cases t.readBody r with
  | none => exact ⟨rfl, h⟩
  | some body =>
    cases globalLimit mo with
    | some rl => exact ⟨rfl, h⟩
    | none =>
      dsimp only
      cases handleNTLM mo.env (mocksForListener s.mocks r.listener) r.method r.path r.hdrs with
      | some wire => exact ⟨rfl, h⟩
      | none => exact dispatch_sameOn h mo (r.matchInput body)

def serve (s : Server) : List (Moment × Inbound) → List Outcome × Server
  | [] => ([], s)
  | (mo, r) :: rest =>
    let out := handleRequest mo s r
    (out.1 :: (serve out.2 rest).1, (serve out.2 rest).2)

/-- **Mocks of other listeners never influence a listener.** For every two servers that have the
same mocks on it in the same order, agree on the calls of these mocks, share their state store and
do not record, and every sequence of requests: the responses are identical. -/
theorem listener_isolation (listener : GoString) (s t : Server)
    (hmocks : s.mocks.filter (fun m => m.listener = listener) =
      t.mocks.filter fun m => m.listener = listener)
    (hcounts : ∀ m ∈ s.mocks, m.listener = listener → s.callCount m.id = t.callCount m.id)
    (hbody : s.maxBodyBytes = t.maxBodyBytes) (hstore : s.store = t.store)
    (hrec : s.recorder = none ∧ t.recorder = none) (requests : List (Moment × Inbound))
    (hreq : ∀ p ∈ requests, p.2.listener = listener) :
    (serve s requests).1.map Outcome.wire = (serve t requests).1.map Outcome.wire := by
  have hsame : SameOn listener s t :=
    { mocks := by rw [mocksForListener_eq_filter, mocksForListener_eq_filter, hmocks]
      counts := by
        intro m hm
        rw [mocksForListener_eq_filter, List.mem_filter, decide_eq_true_eq] at hm
        exact hcounts m hm.1 hm.2
      maxBodyBytes := hbody
      store := hstore
      recorder := hrec }
  clear hmocks hcounts hbody hstore hrec
  induction requests generalizing s t with
  | nil => rfl
  | cons p rest ih =>
    obtain ⟨mo, r⟩ := p
    have hr : r.listener = listener := hreq (mo, r) List.mem_cons_self
    rw [← hr] at hsame
    obtain ⟨hout, hnext⟩ := handleRequest_sameOn hsame mo
    rw [hr] at hnext
    have hrest := ih (handleRequest mo s r).2 (handleRequest mo t r).2
      (fun q hq => hreq q (List.mem_cons_of_mem _ hq)) hnext
    show _ :: _ = _ :: _
    rw [hout, hrest]

/-- A mock on a second listener does not show on the first. -/
theorem other_listener_is_invisible :
    let m : HTTPMock :=
      { id := go "a", request := { path := go "/a" }, response := { headers := ∅ } }
    let n : HTTPMock := { m with id := go "b", listener := go "admin" }
    let mo : Moment := { env := Env.basic }
    let r : Inbound := ⟨[], go "GET", go "/a", ∅, ∅, some []⟩
    let requests := [(mo, r)]
    (serve { mocks := [m] } requests).1.map Outcome.wire =
      (serve { mocks := [n, m] } requests).1.map Outcome.wire := by
  intro m n mo r requests
  have hfilter : [m].filter (fun m => m.listener = []) =
      [n, m].filter (fun m => m.listener = []) := (List.filter_cons_of_neg (by decide)).symm
  -- apart from its mocks, a fresh server is always the same
  have hcounts : ∀ (a b : List HTTPMock) (id : GoString),
      ({ mocks := a } : Server).callCount id = ({ mocks := b } : Server).callCount id :=
    fun _ _ _ => rfl
  have hbody : ∀ a b : List HTTPMock,
      ({ mocks := a } : Server).maxBodyBytes = ({ mocks := b } : Server).maxBodyBytes :=
    fun _ _ => rfl
  have hstore : ∀ a b : List HTTPMock,
      ({ mocks := a } : Server).store = ({ mocks := b } : Server).store := fun _ _ => rfl
  refine listener_isolation [] { mocks := [m] } { mocks := [n, m] } hfilter
    (fun _ _ _ => hcounts _ _ _) (hbody _ _) (hstore _ _) ⟨rfl, rfl⟩ requests ?_
  intro p hp
  simp only [requests, List.mem_singleton] at hp
  subst hp
  rfl

end Mockly
