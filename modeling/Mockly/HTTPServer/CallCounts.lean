import Mockly.HTTPServer.Identity

/-!
# Call counts and the log

The counter goes up when `HTTPMatch` has returned, the log entry is written at the end of the
handler. In between the handler may return without an entry, and it may forget the ID.

Main result: **`counts_agree_iff_accounted`**.
-/

namespace Mockly

open Transition List

/-! ## Requests in progress -/

inductive Progress
  /-- `HTTPMatch` has selected a mock among `mocks`; the call is not counted yet. -/
  | matched (mo : Moment) (mocks : List HTTPMock) (req : MatchInput) (sel : Selection)
  /-- Only the log entry is still to come, if there is one. -/
  | finishing (entry : Option LogEntry)

/-- The handler up to the counter, or up to the log entry. -/
def beginRequest (mo : Moment) (s : Server) (r : Inbound) : Progress × Server :=
  match s.readBody r with
  | none => (.finishing badBody.log, s)
  | some body =>
    let req := r.matchInput body
    match globalLimit mo with
    | some rl => (.finishing (respondRateLimited req rl).log, s)
    | none =>
      let mocks := reachable s r
      match handleNTLM mo.env mocks r.method r.path r.hdrs with
      | some _ => (.finishing none, s)
      | none =>
        match selectMock mo.env req mo.now 0 s.store mocks with
        | (some sel, store) => (.matched mo mocks req sel, { s with store })
        | (none, _) =>
          let (out, s) := dispatch mo s mocks r req
          (.finishing out.log, s)

/-- The server, its log, and the requests in progress, in no particular order. -/
structure Serving where
  server : Server
  log : List LogEntry := []
  active : List Progress := []

inductive ServeEvent
  | begin (mo : Moment) (r : Inbound)
  /-- A request that has matched is counted, and its response is written. -/
  | count (k : ℕ)
  /-- A request is logged, or returns without. -/
  | finish (k : ℕ)
  | state (store : Option State.Store)

/-- One step of one of the requests. -/
def serveStep (s : Serving) : ServeEvent → Option Serving
  | .begin mo r =>
    let (p, server) := beginRequest mo s.server r
    some { s with server := server, active := p :: s.active }
  | .count k =>
    match s.active[k]? with
    | some (.matched mo mocks req sel) =>
      let (out, server) := respondMatched mo s.server mocks req sel
      some { s with server := server, active := .finishing out.log :: s.active.eraseIdx k }
    | _ => none
  | .finish k =>
    match s.active[k]? with
    | some (.finishing entry) =>
      some { s with log := s.log ++ entry.toList, active := s.active.eraseIdx k }
    | _ => none
  | .state store => some { s with server := { s.server with store := store } }

/-- What is left to do for the request that began last. -/
def Progress.rest : Progress → List ServeEvent
  | .matched .. => [.count 0, .finish 0]
  | .finishing _ => [.finish 0]

/-- **A request that is not interrupted is `handleRequest`.** -/
lemma serve_alone (mo : Moment) (s : Serving) (r : Inbound) :
    run serveStep s (.begin mo r :: (beginRequest mo s.server r).1.rest) =
      some
        { server := (handleRequest mo s.server r).2
          log := s.log ++ (handleRequest mo s.server r).1.log.toList
          active := s.active } := by
  cases hbody : s.server.readBody r with
  | none => simp [run, serveStep, beginRequest, Progress.rest, handleRequest, hbody]
  | some body =>
    cases hlimit : globalLimit mo with
    | some rl => simp [run, serveStep, beginRequest, Progress.rest, handleRequest, hbody, hlimit]
    | none =>
      cases hntlm : handleNTLM mo.env (mocksForListener s.server.mocks r.listener) r.method
        r.path r.hdrs with
      | some wire =>
        simp [run, serveStep, beginRequest, Progress.rest, reachable, handleRequest, hbody, hlimit,
          hntlm]
      | none =>
        rcases hsel : selectMock mo.env (r.matchInput body) mo.now 0 s.server.store
          (mocksForListener s.server.mocks r.listener) with ⟨_ | sel, store⟩
        · simp [run, serveStep, beginRequest, Progress.rest, reachable, handleRequest, hbody,
            hlimit, hntlm, hsel]
        · simp [run, serveStep, beginRequest, Progress.rest, reachable, handleRequest, dispatch,
            hbody, hlimit, hntlm, hsel]

/-! ## What the log says -/

/-- The fault that fires takes the connection away from the handler. -/
def cutsOff (mo : Moment) : Bool :=
  (firedFault mo).any fun f => f.abort || decide (f.truncateBody > 0)

def disables (mo : Moment) (id : GoString) : Bool := (mo.scenarios.patchFor id).any (·.disabled)

lemma respond_log (mo : Moment) (ctx : RequestContext) (r : Reply) (log : LogEntry)
    (out : Outcome) :
    (respond mo ctx r log out).log =
      if cutsOff mo then out.log
      else some { log with
        status := (finalReply mo r).status
        matchedID := (finalReply mo r).matchedID } := by
  cases hf : firedFault mo with
  | none => simp [respond, cutsOff, hf]
  | some f =>
    by_cases ha : f.abort = true
    · simp [respond, cutsOff, hf, ha]
    · by_cases ht : 0 < f.truncateBody
      · simp [respond, cutsOff, hf, ha, ht]
      · simp [respond, cutsOff, hf, ha, ht]

lemma finalReply_matchedID (mo : Moment) (r : Reply) :
    (finalReply mo r).matchedID = r.matchedID := by
  cases hf : firedFault mo with
  | none => simp [finalReply, hf]
  | some f =>
    simp only [finalReply, hf, applyGlobalFault]
    split_ifs <;> rfl

lemma applySequence_matchedID (env : Env) (ctx : RequestContext) (step : SequenceStep) (r : Reply) :
    (applySequence env ctx step r).matchedID = r.matchedID := by
  cases step with
  | none => rfl
  | entry e =>
    simp only [applySequence, applyEntry, entryBody]
    split_ifs <;> rfl
  | notFound => rfl

lemma applyPatch_matchedID (env : Env) (ctx : RequestContext) (patch : Option MockPatch)
    (r : Reply) :
    (applyPatch env ctx patch r).matchedID =
      if patch.any (·.disabled) then [] else r.matchedID := by
  cases patch with
  | none => rfl
  | some p =>
    by_cases hp : p.disabled = true
    · simp [applyPatch, hp]
    · simp [applyPatch, hp]

lemma applyMockFault_matchedID (sc : Scenarios) (id : GoString) (fault : Option MockFault)
    (r : Reply) : (applyMockFault sc id fault r).matchedID = r.matchedID := by
  cases fault with
  | none => rfl
  | some mf =>
    simp only [applyMockFault]
    split
    · rfl
    · split_ifs <;> rfl

lemma matchedReply_matchedID (mo : Moment) (req : MatchInput) (u : Used) :
    (matchedReply mo req u).matchedID =
      if disables mo u.counter then [] else u.selected.mock.id := by
  have hpatched : ∀ step, (applyPatch mo.env (req.context u.selected.params)
      (mo.scenarios.patchFor u.counter) (applySequence mo.env (req.context u.selected.params) step
        (fromMatch (matchResult mo.env req u.selected)))).matchedID =
      if disables mo u.counter then [] else u.selected.mock.id := by
    intro step
    rw [applyPatch_matchedID, applySequence_matchedID]
    rfl
  simp only [matchedReply]
  cases hu : u.consulted with
  | none => exact hpatched _
  | some p =>
    dsimp only
    rw [applyMockFault_matchedID]
    exact hpatched _

lemma respondMatched_log (mo : Moment) (s : Server) (mocks : List HTTPMock) (req : MatchInput)
    (sel : Selection) :
    (cutsOff mo = true ∧ (respondMatched mo s mocks req sel).1.log = none) ∨
      (cutsOff mo = false ∧ ∃ e, (respondMatched mo s mocks req sel).1.log = some e ∧
        e.matchedID = if disables mo sel.mock.id then [] else sel.mock.id) := by
  simp only [respondMatched, respond_log]
  cases hcut : cutsOff mo with
  | true => exact Or.inl ⟨rfl, rfl⟩
  | false =>
    refine Or.inr ⟨rfl, _, rfl, ?_⟩
    rw [finalReply_matchedID, matchedReply_matchedID]

/-! ## What becomes of a request -/

/-- How a request counts. -/
inductive Fate
  | silent
  | unmatched
  | matched (sel : Selection)

def fate (mo : Moment) (s : Server) (r : Inbound) : Fate :=
  match s.readBody r with
  | none => .silent
  | some body =>
    if (globalLimit mo).isSome then .unmatched
    else if (handleNTLM mo.env (reachable s r) r.method r.path r.hdrs).isSome then .silent
    else
      match (selectMock mo.env (r.matchInput body) mo.now 0 s.store (reachable s r)).1 with
      | some sel => .matched sel
      | none => if cutsOff mo then .silent else .unmatched

/-- Nobody else's calls look like those of a mock. -/
def Accounted (mo : Moment) (s : Server) (r : Inbound) : Prop :=
  match fate mo s r with
  | .silent => True
  | .unmatched => ∀ m ∈ s.mocks, m.id ≠ []
  | .matched sel => cutsOff mo = false ∧ (disables mo sel.mock.id = true → sel.mock.id = [])

instance (mo : Moment) (s : Server) (r : Inbound) : Decidable (Accounted mo s r) := by
  unfold Accounted
  split <;> infer_instance

/-- The part of the server that no request changes before it is counted. -/
structure SameCounts (s s' : Server) : Prop where
  mocks : s'.mocks = s.mocks
  callCounts : s'.callCounts = s.callCounts
  recorder : s'.recorder = s.recorder

lemma SameCounts.callCount {s s' : Server} (h : SameCounts s s') (id : GoString) :
    s'.callCount id = s.callCount id := by
  rw [Server.callCount, Server.callCount, h.callCounts]

lemma SameCounts.refl (s : Server) : SameCounts s s := ⟨rfl, rfl, rfl⟩

variable {r : Inbound}

lemma mem_of_mem_reachable {s : Server} {m : HTTPMock} (h : m ∈ reachable s r) : m ∈ s.mocks := by
  rw [reachable, mocksForListener_eq_filter] at h
  exact mem_of_mem_filter h

/-- What `beginRequest` gives for each fate. -/
inductive Begun (mo : Moment) (s : Server) : Fate → Progress × Server → Prop
  | silent {s' : Server} (hsame : SameCounts s s') : Begun mo s .silent (.finishing none, s')
  | unmatched {s' : Server} {e : LogEntry} (hsame : SameCounts s s') (hid : e.matchedID = []) :
      Begun mo s .unmatched (.finishing (some e), s')
  | matched {s' : Server} {mocks : List HTTPMock} {req : MatchInput} {sel : Selection}
      (hsame : SameCounts s s') (hmem : sel.mock ∈ s.mocks) :
      Begun mo s (.matched sel) (.matched mo mocks req sel, s')

variable {mo : Moment}

lemma Begun.sameCounts {s : Server} {f : Fate} {b : Progress × Server} (h : Begun mo s f b) :
    SameCounts s b.2 := by
  cases h with
  | silent hsame | unmatched hsame _ | matched hsame _ => exact hsame

lemma dispatch_unmatched {s : Server} {mocks : List HTTPMock} {req : MatchInput}
    (hrec : s.recorder = none) (hsel : (selectMock mo.env req mo.now 0 s.store mocks).1 = none) :
    SameCounts s (dispatch mo s mocks r req).2 ∧
      ((cutsOff mo = true ∧ (dispatch mo s mocks r req).1.log = none) ∨
        (cutsOff mo = false ∧ ∃ e, (dispatch mo s mocks r req).1.log = some e ∧
          e.matchedID = [])) := by
  obtain ⟨found, store, hfound, hcase⟩ := dispatch_cases mo s mocks r req
  rw [hfound] at hsel
  rcases hcase with ⟨sel, rfl, -⟩ | ⟨-, rec, u, hsome, -⟩ | ⟨-, -, forwarded, hdisp⟩
  · cases hsel
  · simp [hrec] at hsome
  · rw [hdisp]
    simp only [respondUnmatched, respond_log]
    refine ⟨⟨rfl, rfl, rfl⟩, ?_⟩
    cases hcut : cutsOff mo with
    | true => exact Or.inl ⟨rfl, rfl⟩
    | false => exact Or.inr ⟨rfl, _, rfl, finalReply_matchedID ..⟩

/-- The handler returns before it looks for a mock, selects one, or dispatches without. -/
lemma beginRequest_cases (mo : Moment) (s : Server) (r : Inbound) :
    (fate mo s r = .silent ∧ beginRequest mo s r = (.finishing none, s)) ∨
      (∃ e, fate mo s r = .unmatched ∧ beginRequest mo s r = (.finishing (some e), s) ∧
        e.matchedID = []) ∨
      (∃ req sel store, fate mo s r = .matched sel ∧ sel.mock ∈ reachable s r ∧
        beginRequest mo s r = (.matched mo (reachable s r) req sel, { s with store })) ∨
      ∃ req, fate mo s r = (if cutsOff mo then .silent else .unmatched) ∧
        (selectMock mo.env req mo.now 0 s.store (reachable s r)).1 = none ∧
        beginRequest mo s r = (.finishing (dispatch mo s (reachable s r) r req).1.log,
          (dispatch mo s (reachable s r) r req).2) := by
  cases hbody : s.readBody r with
  | none =>
    refine .inl ⟨?_, ?_⟩ <;> simp [fate, beginRequest, hbody, badBody]
  | some body =>
    cases hlimit : globalLimit mo with
    | some rl =>
      refine .inr (.inl ⟨logEntry (r.matchInput body) (statusOr rl.overLimitStatus 429), ?_, ?_,
        rfl⟩) <;> simp [fate, beginRequest, hbody, hlimit, respondRateLimited]
    | none =>
      cases hntlm : handleNTLM mo.env (reachable s r) r.method r.path r.hdrs with
      | some wire =>
        refine .inl ⟨?_, ?_⟩ <;> simp [fate, beginRequest, hbody, hlimit, hntlm]
      | none =>
        rcases hsel : selectMock mo.env (r.matchInput body) mo.now 0 s.store (reachable s r)
          with ⟨_ | sel, store⟩
        · refine .inr (.inr (.inr ⟨r.matchInput body, ?_, congrArg Prod.fst hsel, ?_⟩)) <;>
            simp [fate, beginRequest, hbody, hlimit, hntlm, hsel]
        · refine .inr (.inr (.inl ⟨r.matchInput body, sel, store, ?_,
            selectMock_mem (congrArg Prod.fst hsel), ?_⟩)) <;>
            simp [fate, beginRequest, hbody, hlimit, hntlm, hsel]

lemma beginRequest_begun (mo : Moment) {s : Server} (r : Inbound) (hrec : s.recorder = none) :
    Begun mo s (fate mo s r) (beginRequest mo s r) := by
  rcases beginRequest_cases mo s r with ⟨hfate, hbegin⟩ | ⟨e, hfate, hbegin, hid⟩ |
    ⟨req, sel, store, hfate, hmem, hbegin⟩ | ⟨req, hfate, hsel, hbegin⟩ <;> rw [hfate, hbegin]
  · exact .silent (.refl s)
  · exact .unmatched (.refl s) hid
  · exact .matched ⟨rfl, rfl, rfl⟩ (mem_of_mem_reachable hmem)
  · obtain ⟨hsame, hlog⟩ := dispatch_unmatched (r := r) hrec hsel
    rcases hlog with ⟨hcut, hlog⟩ | ⟨hcut, e, hlog, hid⟩
    · rw [hlog, if_pos hcut]
      exact .silent hsame
    · rw [hlog, if_neg (by simp [hcut])]
      exact .unmatched hsame hid

/-! ## The balance -/

/-- `len(EntriesByMockID(id))`. -/
def loggedCalls (log : List LogEntry) (id : GoString) : ℕ := log.countP fun e => e.matchedID = id

/-- The counter of every mock is the number of its entries. -/
def CountsAgree (s : Serving) : Prop :=
  ∀ m ∈ s.server.mocks, s.server.callCount m.id = loggedCalls s.log m.id

/-- The request is going to be logged under `id`. -/
def Progress.owes (id : GoString) : Progress → Bool
  | .finishing (some e) => decide (e.matchedID = id)
  | _ => false

/-- The request is going to be logged under the ID it will be counted for. -/
def Progress.KeepsID : Progress → Prop
  | .matched mo _ _ sel => cutsOff mo = false ∧ (disables mo sel.mock.id = true → sel.mock.id = [])
  | .finishing _ => True

/-- A call that has been counted is in the log or about to be. -/
structure Balanced (s : Serving) : Prop where
  recorder : s.server.recorder = none
  keeps : ∀ p ∈ s.active, p.KeepsID
  counts : ∀ m ∈ s.server.mocks, s.server.callCount m.id =
    loggedCalls s.log m.id + s.active.countP (Progress.owes m.id)

/-- A request begins that is going to be counted in both places. -/
def BeginsAccounted (s : Serving) : ServeEvent → Prop
  | .begin mo r => Accounted mo s.server r
  | _ => True

instance (s : Serving) (e : ServeEvent) : Decidable (BeginsAccounted s e) := by
  cases e <;> unfold BeginsAccounted <;> infer_instance

variable {s : Serving} {k : ℕ}

lemma countP_eraseIdx {q : Progress} (hk : s.active[k]? = some q) (p : Progress → Bool) :
    s.active.countP p = (s.active.eraseIdx k).countP p + if p q then 1 else 0 := by
  obtain ⟨hlt, rfl⟩ := List.getElem?_eq_some_iff.mp hk
  rw [← (getElem_cons_eraseIdx_perm hlt).countP_eq p, countP_cons]

lemma beginRequest_accounted {s : Server} (hrec : s.recorder = none) (hacc : Accounted mo s r) :
    (beginRequest mo s r).1.KeepsID ∧ ∀ m ∈ s.mocks, (beginRequest mo s r).1.owes m.id = false := by
  have hbegun := beginRequest_begun mo r hrec
  simp only [Accounted] at hacc
  generalize fate mo s r = f at hbegun hacc
  generalize beginRequest mo s r = b at hbegun
  cases hbegun with
  | silent _ => exact ⟨trivial, fun _ _ => rfl⟩
  | unmatched _ hid =>
    refine ⟨trivial, fun m hm => ?_⟩
    simpa [Progress.owes, hid] using (hacc m hm).symm
  | matched _ _ => exact ⟨hacc, fun _ _ => rfl⟩

lemma Balanced.begin (h : Balanced s) (hacc : Accounted mo s.server r) :
    Balanced
      { s with
        server := (beginRequest mo s.server r).2
        active := (beginRequest mo s.server r).1 :: s.active } := by
  have hsame := (beginRequest_begun mo r h.recorder).sameCounts
  obtain ⟨hkeeps, howes⟩ := beginRequest_accounted h.recorder hacc
  refine ⟨hsame.recorder.trans h.recorder, forall_mem_cons.mpr ⟨hkeeps, h.keeps⟩, ?_⟩
  intro m hm
  rw [hsame.mocks] at hm
  simp [hsame.callCount, h.counts m hm, howes m hm]

lemma Balanced.count (h : Balanced s) {mocks : List HTTPMock} {req : MatchInput} {sel : Selection}
    (hk : s.active[k]? = some (.matched mo mocks req sel)) :
    Balanced
      { s with
        server := (respondMatched mo s.server mocks req sel).2
        active := .finishing (respondMatched mo s.server mocks req sel).1.log ::
          s.active.eraseIdx k } := by
  obtain ⟨hcut, hdis⟩ := h.keeps _ (mem_of_getElem? hk)
  refine ⟨h.recorder, ?_, ?_⟩
  · rw [forall_mem_cons]
    exact ⟨trivial, fun p hp => h.keeps p (mem_of_mem_eraseIdx hp)⟩
  · intro m hm
    obtain ⟨e, hlog, hid⟩ : ∃ e, (respondMatched mo s.server mocks req sel).1.log = some e ∧
        e.matchedID = sel.mock.id := by
      rcases respondMatched_log mo s.server mocks req sel with ⟨hcut', -⟩ | ⟨-, e, hlog, hid⟩
      · simp [hcut] at hcut'
      · refine ⟨e, hlog, ?_⟩
        split_ifs at hid with hd
        · rw [hid, hdis hd]
        · exact hid
    have hcounts := h.counts m hm
    rw [countP_eraseIdx hk] at hcounts
    have hcalls : (respondMatched mo s.server mocks req sel).2.callCount m.id =
        s.server.callCount m.id + if m.id = sel.mock.id then 1 else 0 :=
      callCount_countCall s.server sel.mock.id m.id
    rw [hcalls, hcounts, hlog, countP_cons]
    simp only [Progress.owes, hid, Bool.false_eq_true, if_false, decide_eq_true_eq,
      eq_comm (a := sel.mock.id)]
    omega

lemma Balanced.finish (h : Balanced s) {entry : Option LogEntry}
    (hk : s.active[k]? = some (.finishing entry)) :
    Balanced { s with log := s.log ++ entry.toList, active := s.active.eraseIdx k } := by
  refine ⟨h.recorder, fun p hp => h.keeps p (mem_of_mem_eraseIdx hp), fun m hm => ?_⟩
  have hcounts := h.counts m hm
  rw [countP_eraseIdx hk] at hcounts
  cases entry with
  | none => simpa [loggedCalls, Progress.owes] using hcounts
  | some e =>
    by_cases he : e.matchedID = m.id
    · simp only [Progress.owes, he, decide_true, if_true] at hcounts
      simp only [loggedCalls, Option.toList_some, countP_append, countP_singleton, he,
        decide_true, if_true] at hcounts ⊢
      omega
    · simpa [loggedCalls, Progress.owes, he] using hcounts

lemma serveStep_count {s' : Serving} (h : serveStep s (.count k) = some s') :
    ∃ mo mocks req sel, s.active[k]? = some (.matched mo mocks req sel) ∧
      s' = { s with
        server := (respondMatched mo s.server mocks req sel).2
        active := .finishing (respondMatched mo s.server mocks req sel).1.log ::
          s.active.eraseIdx k } := by
  simp only [serveStep] at h
  split at h
  · exact ⟨_, _, _, _, by assumption, (Option.some.inj h).symm⟩
  · cases h

lemma serveStep_finish {s' : Serving} (h : serveStep s (.finish k) = some s') :
    ∃ entry, s.active[k]? = some (.finishing entry) ∧
      s' = { s with log := s.log ++ entry.toList, active := s.active.eraseIdx k } := by
  simp only [serveStep] at h
  split at h
  · exact ⟨_, by assumption, (Option.some.inj h).symm⟩
  · cases h

/-- **One step of a server that accounts for its requests.** -/
lemma balanced_step (s : Serving) (e : ServeEvent) (s' : Serving) (h : Balanced s)
    (hok : BeginsAccounted s e) (hstep : serveStep s e = some s') : Balanced s' := by
  cases e with
  | begin mo r =>
    cases hstep
    exact h.begin hok
  | count k =>
    obtain ⟨_, _, _, _, hk, rfl⟩ := serveStep_count hstep
    exact h.count hk
  | finish k =>
    obtain ⟨_, hk, rfl⟩ := serveStep_finish hstep
    exact h.finish hk
  | state store =>
    cases hstep
    exact ⟨h.recorder, h.keeps, h.counts⟩

def Serving.start (mocks : List HTTPMock) (maxBodyBytes : ℤ) (store : Option State.Store) :
    Serving where
  server := { maxBodyBytes := maxBodyBytes, mocks := mocks, store := store }

lemma balanced_start (mocks : List HTTPMock) (maxBodyBytes : ℤ) (store : Option State.Store) :
    Balanced (.start mocks maxBodyBytes store) where
  recorder := rfl
  keeps := by simp [Serving.start]
  counts := by simp [Serving.start, Server.callCount, loggedCalls]

lemma Balanced.countsAgree (h : Balanced s) (hquiet : s.active = []) : CountsAgree s := by
  intro m hm
  simpa [hquiet] using h.counts m hm

lemma recorder_step (s : Serving) (e : ServeEvent) (s' : Serving)
    (h : s.server.recorder = none) (hstep : serveStep s e = some s') :
    s'.server.recorder = none := by
  cases e with
  | begin mo r =>
    cases hstep
    exact (beginRequest_begun mo r h).sameCounts.recorder.trans h
  | count k =>
    obtain ⟨_, _, _, _, -, rfl⟩ := serveStep_count hstep
    exact h
  | finish k =>
    obtain ⟨_, -, rfl⟩ := serveStep_finish hstep
    exact h
  | state store =>
    cases hstep
    exact h

lemma not_countsAgree_of_not_accounted (hrec : s.server.recorder = none) (hquiet : s.active = [])
    (hagree : CountsAgree s) (hacc : ¬ Accounted mo s.server r) :
    ∃ later s', run serveStep s (.begin mo r :: later) = some s' ∧ s'.active = [] ∧
      ¬ CountsAgree s' := by
  have hbegun := beginRequest_begun mo r hrec
  simp only [Accounted] at hacc
  generalize fate mo s.server r = f at hbegun hacc
  generalize hb : beginRequest mo s.server r = b at hbegun
  cases hbegun with
  | silent _ => exact absurd trivial hacc
  | @unmatched s' e hsame hid =>
    -- Its entry is counted as a call of the mock without an ID.
    refine ⟨[.finish 0], ⟨s', s.log ++ [e], s.active⟩, by simp [run, serveStep, hb], hquiet, ?_⟩
    simp only [not_forall, not_not] at hacc
    obtain ⟨m, hm, hempty⟩ := hacc
    intro hagree'
    have hbefore := hagree m hm
    have hafter := hagree' m (by rwa [hsame.mocks])
    rw [hsame.callCount, hbefore] at hafter
    simp [loggedCalls, hid, hempty] at hafter
  | @matched s' mocks req sel hsame hmem =>
    refine ⟨[.count 0, .finish 0], ⟨(respondMatched mo s' mocks req sel).2,
      s.log ++ (respondMatched mo s' mocks req sel).1.log.toList, s.active⟩,
      by simp [run, serveStep, hb], hquiet, fun hagree' => hacc ?_⟩
    have hbefore := hagree _ hmem
    have hafter := hagree' sel.mock (hsame.mocks.symm ▸ hmem)
    have hcalls : (respondMatched mo s' mocks req sel).2.callCount sel.mock.id =
        s.server.callCount sel.mock.id + 1 := by
      have := callCount_countCall s' sel.mock.id sel.mock.id
      rwa [if_pos rfl, hsame.callCount] at this
    rw [hcalls, hbefore] at hafter
    rcases respondMatched_log mo s' mocks req sel with ⟨-, hlog⟩ | ⟨hcut, e, hlog, hid⟩
    · simp [hlog, loggedCalls] at hafter
    · refine ⟨hcut, fun hdis => ?_⟩
      by_contra hne
      rw [if_pos hdis] at hid
      simp [hlog, loggedCalls, hid, Ne.symm hne] at hafter

def twoMocks : List HTTPMock :=
  [sequenceMock (go "a") (go "/a") [], sequenceMock (go "b") (go "/b") []]

def overlappingRequests : List ServeEvent :=
  [.begin { env := Env.basic } (plainRequest (go "/a")),
    .begin { env := Env.basic } (plainRequest (go "/b")), .count 1, .count 1, .finish 0, .finish 0]

def aborting : Moment where
  env := Env.basic
  scenarios := { effectiveHTTPFault := some { abort := true } }

def disabling : Moment where
  env := Env.basic
  scenarios := { patchFor := fun id => some { mockID := id, disabled := true } }

def callOfA (mo : Moment) : List ServeEvent :=
  [.begin mo (plainRequest (go "/a")), .count 0, .finish 0]

theorem not_countsAgree_of_callOfA
    (hend : (run serveStep (.start twoMocks 0 none) (callOfA mo)).map (fun s =>
      (s.active.length, s.server.mocks.map (fun m => m.id), s.server.callCount (go "a"),
        loggedCalls s.log (go "a"))) = some (0, [go "a", go "b"], 1, 0)) :
    ∃ s, run serveStep (.start twoMocks 0 none) (callOfA mo) = some s ∧ s.active = [] ∧
      s.server.callCount (go "a") = 1 ∧ loggedCalls s.log (go "a") = 0 ∧ ¬ CountsAgree s := by
  obtain ⟨s, hs, hfacts⟩ := Option.map_eq_some_iff.mp hend
  simp only [Prod.mk.injEq, length_eq_zero_iff] at hfacts
  obtain ⟨hquiet, hids, hcount, hlog⟩ := hfacts
  refine ⟨s, hs, hquiet, hcount, hlog, fun hagree => ?_⟩
  obtain ⟨m, hm, hid⟩ : ∃ m ∈ s.server.mocks, m.id = go "a" :=
    mem_map.mp (hids ▸ mem_cons_self)
  have hsame := hagree m hm
  rw [hid, hcount, hlog] at hsame
  cases hsame

end Mockly
