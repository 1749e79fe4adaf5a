import Mockly.HTTPServer.Server

/-!
# Is request data escaped in HTML responses?

The handler renders a body at up to three places, and each judges by a different text whether the
response is going to be HTML. Headers of a later stage come too late for all of them.

Main result: **`escapesRequestData_iff`**.
-/

namespace Mockly

open Piece List

/-! ## The property -/

/-- The content type of a written response.  Its header names are canonical. -/
def Wire.contentType? : Wire → Option GoString
  | .response _ headers _ => some (headers.getD contentType)
  | .truncated _ _ ct _ _ => some ct
  | .noResponse => none

def Wire.pieces : Wire → List Piece
  | .response _ _ body => body
  | .truncated _ _ _ _ body => [body]
  | .noResponse => []

/-- If the response is HTML, all that depends on the request in it went through the escaping
engine. -/
def EscapesRequestData (env : Env) (w : Wire) : Prop :=
  ∀ ct, w.contentType? = some ct → isHTMLContentType env ct = true →
    ∀ p ∈ w.pieces, p.origin.requestDependent = true → p.origin = .html

/-- Request data went through without being escaped. -/
def Piece.unescaped (p : Piece) : Bool := p.origin == .plain || p.origin == .diagnosis

lemma unescaped_iff (p : Piece) :
    (p.origin.requestDependent = true → p.origin = .html) ↔ p.unescaped = false := by
  simp only [unescaped]
  cases p.origin <;> simp [Origin.requestDependent]

lemma unescaped_fixed (text : GoString) : (fixed text).unescaped = false := rfl

lemma unescaped_errorBody (msg : String) : (errorBody msg).unescaped = false := rfl

lemma unescaped_bodyOr (body : GoString) (p : Piece) :
    (bodyOr body p).unescaped = (body == [] && p.unescaped) := by
  simp only [bodyOr]
  by_cases h : body = []
  · simp [h]
  · simp [h, unescaped_fixed]

lemma unescaped_render (env : Env) (tmpl : GoString) (ctx : RequestContext) :
    (render env tmpl ctx).unescaped = executesPlain env tmpl ctx := by
  have h := render_origin env tmpl ctx
  cases he : executesPlain env tmpl ctx <;> simp [unescaped, h, he]

lemma unescaped_renderHTML (env : Env) (tmpl : GoString) (ctx : RequestContext) :
    (renderHTML env tmpl ctx).unescaped = false := by
  rcases renderHTML_origin env tmpl ctx with h | h <;> simp [unescaped, h]

lemma unescaped_renderHTTPBody (env : Env) (body : HTTPBody) (ctx : RequestContext)
    (declared : GoString) :
    (renderHTTPBody env body ctx declared).1.unescaped =
      bodyExecutesPlain env body ctx declared := by
  have h := renderHTTPBody_origin env body ctx declared
  rcases renderHTTPBody_origin_cases env body ctx declared with ho | ho | ho
  case inr.inl => simp [unescaped, ho, h.mp ho]
  all_goals
    rw [ho] at h
    simp [unescaped, ho, Bool.eq_false_iff.mpr fun hb => absurd (h.mpr hb) (by decide)]

/-!
## The configured stages
-/

/-- What each stage is given by the configuration. -/
structure Stages where
  ctx : RequestContext
  mock : HTTPMock
  step : SequenceStep
  patch : Option MockPatch
  faultID : GoString
  fault : Option MockFault

def mockFaultFires (sc : Scenarios) (mf : MockFault) : Bool :=
  mf.statusOverride != 0 && sc.shouldFault mf.errorRate

def mockLimited (sc : Scenarios) (id : GoString) (mf : MockFault) : Bool :=
  (mf.rateLimit.filter fun rl => sc.rateLimited (go "http:mock:" ++ id) rl.requestsPerSecond).isSome

def stagesOf (mo : Moment) (req : MatchInput) (u : Used) : Stages where
  ctx := req.context u.selected.params
  mock := u.selected.mock
  step := match u.consulted with
    | none => .none
    | some (_, m) => sequenceStep m u.callN
  patch := mo.scenarios.patchFor u.counter
  faultID := (u.consulted.map fun p => p.2.id).getD []
  fault := u.consulted.bind fun p => p.2.fault

namespace Stages

variable (env : Env) (sc : Scenarios) (st : Stages)

/-!
### The header layers

The mock's own headers, rendered, with the type of a file if they name none; then those of each
stage, later ones over earlier ones.
-/

def fileType (body : HTTPBody) : GoString :=
  match body.resolve env with
  | .error _ => []
  | .ok (_, ct) => ct

def mockHeaders : GoMap GoString :=
  inferContentType env (st.mock.response.headers.mapVals fun v => (render env v st.ctx).text)
    (fileType env st.mock.response.body)

def entryHeaders (h : GoMap GoString) : GoMap GoString :=
  match st.step with
  | .entry e =>
    let h := if !e.body.isEmpty ∧ fileType env e.body ≠ [] ∧ h.getD contentType = [] then
        h.set contentType (fileType env e.body) else h
    renderHeaders env st.ctx h e.headers
  | _ => h

def patchHeaders (h : GoMap GoString) : GoMap GoString :=
  match st.patch with
  | some p => if p.disabled then h else renderHeaders env st.ctx h p.headers
  | none => h

def faultHeaders (h : GoMap GoString) : GoMap GoString :=
  match st.fault with
  | some mf =>
    if !mockLimited sc st.faultID mf && mockFaultFires sc mf then h.setAll mf.headers.toList
    else h
  | none => h

/-- The headers after the patch, by which the body of a patch is judged. -/
def headersAfterPatch : GoMap GoString :=
  st.patchHeaders env (st.entryHeaders env (st.mockHeaders env))

/-- The headers after all the stages. -/
def layeredHeaders : GoMap GoString := st.faultHeaders sc (st.headersAfterPatch env)

/-!
### The body

A stage that supplies a text of its own has the last word; the fixed texts of faults are never run
through an engine.
-/

def mockRunsPlain : Bool :=
  bodyExecutesPlain env st.mock.response.body st.ctx
    (getHeader env st.mock.response.headers contentType)

def entryRunsPlain : Bool :=
  match st.step with
  | .none => st.mockRunsPlain env
  | .notFound => false
  | .entry e =>
    if e.body.isEmpty then st.mockRunsPlain env
    else bodyExecutesPlain env e.body st.ctx (e.headers.getD contentType)

def patchRunsPlain : Bool :=
  match st.patch with
  | none => st.entryRunsPlain env
  | some p =>
    if p.disabled then false
    else if p.body = [] then st.entryRunsPlain env
    else
      !isHTMLContentType env ((st.headersAfterPatch env).getD contentType) &&
        executesPlain env p.body st.ctx

/-- The fault of the mock puts a fixed text in place of the body. -/
def faultSetsBody : Bool :=
  match st.fault with
  | none => false
  | some mf => mockLimited sc st.faultID mf || (mockFaultFires sc mf && mf.body != [])

/-- The body left at the end comes from the plain engine. -/
def bodyRunsPlain : Bool := !st.faultSetsBody sc && st.patchRunsPlain env

/-- The response is still a stream when the protocol fault gets to see it. -/
def streams : Bool :=
  (st.mock.response.stream.any fun stream => !stream.events.isEmpty) &&
    (match st.step with | .none => true | _ => false) && st.patch.isNone &&
    (match st.fault with
      | none => true
      | some mf => !mockLimited sc st.faultID mf && !mockFaultFires sc mf)

end Stages

/-! ## The stages do what is configured -/

open Stages

lemma renderHTTPBody_snd (env : Env) (body : HTTPBody) (ctx : RequestContext)
    (declared : GoString) :
    (renderHTTPBody env body ctx declared).2 = fileType env body := by
  simp only [renderHTTPBody, fileType]
  cases body.resolve env with
  | error err => rfl
  | ok p =>
    dsimp only
    split
    · rfl
    · split <;> rfl

section Matched

variable {env : Env} {sc : Scenarios} {st : Stages} {r : Reply}

def Reply.streams (r : Reply) : Bool := r.stream.any fun stream => !stream.events.isEmpty

lemma applySequence_headers :
    (applySequence env st.ctx st.step r).headers = st.entryHeaders env r.headers := by
  simp only [applySequence, entryHeaders]
  cases st.step with
  | none => rfl
  | notFound => rfl
  | entry e =>
    simp only [applyEntry, entryBody, renderHTTPBody_snd]
    by_cases he : e.body.isEmpty = true <;> simp [he]

lemma applySequence_unescaped (h : r.body.unescaped = st.mockRunsPlain env) :
    (applySequence env st.ctx st.step r).body.unescaped = st.entryRunsPlain env := by
  simp only [applySequence, entryRunsPlain]
  cases st.step with
  | none => exact h
  | notFound => rfl
  | entry e =>
    by_cases he : e.body.isEmpty = true
    · simpa [applyEntry, entryBody, he] using h
    · simp [applyEntry, entryBody, he, unescaped_renderHTTPBody]

lemma applySequence_streams :
    (applySequence env st.ctx st.step r).streams =
      (r.streams && match st.step with | .none => true | _ => false) := by
  simp only [applySequence, Reply.streams]
  cases st.step with
  | none => simp
  | notFound => simp
  | entry e =>
    by_cases he : e.body.isEmpty = true <;> simp [applyEntry, entryBody, he]

lemma applyPatch_headers :
    (applyPatch env st.ctx st.patch r).headers = st.patchHeaders env r.headers := by
  simp only [applyPatch, patchHeaders]
  cases st.patch with
  | none => rfl
  | some p => by_cases hd : p.disabled = true <;> simp [hd]

lemma applyPatch_unescaped (h : r.body.unescaped = st.entryRunsPlain env)
    (hheaders : st.patchHeaders env r.headers = st.headersAfterPatch env) :
    (applyPatch env st.ctx st.patch r).body.unescaped = st.patchRunsPlain env := by
  rw [patchRunsPlain, ← hheaders]
  simp only [applyPatch, patchHeaders]
  cases st.patch with
  | none => exact h
  | some p =>
    by_cases hd : p.disabled = true
    · simp [hd, unescaped_errorBody]
    · by_cases hb : p.body = []
      · simpa [hd, hb, patchBody] using h
      · simp only [hd, hb, patchBody, if_false, Bool.false_eq_true]
        cases isHTMLContentType env ((renderHeaders env st.ctx r.headers p.headers).getD
          contentType) <;> simp [unescaped_render, unescaped_renderHTML]

lemma applyPatch_streams :
    (applyPatch env st.ctx st.patch r).streams = (r.streams && st.patch.isNone) := by
  simp only [applyPatch, Reply.streams]
  cases st.patch with
  | none => simp
  | some p => by_cases hd : p.disabled = true <;> simp [hd]

lemma applyMockFault_cases (sc : Scenarios) (id : GoString) (mf : MockFault) (r : Reply) :
    (mockLimited sc id mf = true ∧ ∃ rl : RateLimitFault,
        applyMockFault sc id (some mf) r =
          { r with
            delay := r.delay + sc.mockDelay mf.delay mf.delayRange
            stream := none
            status := statusOr rl.overLimitStatus 429
            body := bodyOr rl.body (errorBody "rate limit exceeded") }) ∨
      (mockLimited sc id mf = false ∧ mockFaultFires sc mf = true ∧
        applyMockFault sc id (some mf) r =
          { r with
            delay := r.delay + sc.mockDelay mf.delay mf.delayRange
            stream := none
            status := mf.statusOverride
            body := bodyOr mf.body r.body
            headers := r.headers.setAll mf.headers.toList }) ∨
      (mockLimited sc id mf = false ∧ mockFaultFires sc mf = false ∧
        applyMockFault sc id (some mf) r =
          { r with delay := r.delay + sc.mockDelay mf.delay mf.delayRange }) := by
  unfold applyMockFault mockLimited mockFaultFires
  dsimp only
  cases mf.rateLimit.filter fun rl =>
      sc.rateLimited (go "http:mock:" ++ id) rl.requestsPerSecond with
  | some rl => exact .inl ⟨rfl, rl, rfl⟩
  | none =>
    cases hf : mf.statusOverride != 0 && sc.shouldFault mf.errorRate with
    | true =>
      refine .inr (.inl ⟨rfl, rfl, ?_⟩)
      simp_all
    | false =>
      refine .inr (.inr ⟨rfl, rfl, ?_⟩)
      simp_all

lemma applyMockFault_headers :
    (applyMockFault sc st.faultID st.fault r).headers = st.faultHeaders sc r.headers := by
  simp only [faultHeaders]
  cases st.fault with
  | none => rfl
  | some mf =>
    rcases applyMockFault_cases sc st.faultID mf r with
      ⟨hl, rl, heq⟩ | ⟨hl, hf, heq⟩ | ⟨hl, hf, heq⟩ <;> simp [*]

lemma applyMockFault_unescaped (h : r.body.unescaped = st.patchRunsPlain env) :
    (applyMockFault sc st.faultID st.fault r).body.unescaped = st.bodyRunsPlain env sc := by
  simp only [bodyRunsPlain, faultSetsBody]
  cases st.fault with
  | none => simpa [applyMockFault] using h
  | some mf =>
    rcases applyMockFault_cases sc st.faultID mf r with
      ⟨hl, rl, heq⟩ | ⟨hl, hf, heq⟩ | ⟨hl, hf, heq⟩
    · simp [heq, hl, unescaped_bodyOr, unescaped_errorBody]
    · simp [heq, hl, hf, unescaped_bodyOr, h, bne]
    · simp [heq, hl, hf, h]

lemma applyMockFault_streams :
    (applyMockFault sc st.faultID st.fault r).streams =
      (r.streams && match st.fault with
        | none => true
        | some mf => !mockLimited sc st.faultID mf && !mockFaultFires sc mf) := by
  cases st.fault with
  | none => simp [applyMockFault]
  | some mf =>
    rcases applyMockFault_cases sc st.faultID mf r with
      ⟨hl, rl, heq⟩ | ⟨hl, hf, heq⟩ | ⟨hl, hf, heq⟩ <;> simp [*, Reply.streams]

end Matched

variable (mo : Moment) (req : MatchInput)

lemma matchedReply_eq (u : Used) :
    matchedReply mo req u =
      applyMockFault mo.scenarios (stagesOf mo req u).faultID (stagesOf mo req u).fault
        (applyPatch mo.env (stagesOf mo req u).ctx (stagesOf mo req u).patch
          (applySequence mo.env (stagesOf mo req u).ctx (stagesOf mo req u).step
            (fromMatch (matchResult mo.env req u.selected)))) := by
  simp only [matchedReply, stagesOf]
  cases u.consulted with
  | none => rfl
  | some p => rfl

/-- **The reply of a matched mock** has the layered headers, streams when its stages let it, and its
body went through the plain engine exactly when the stages say so. -/
theorem matchedReply_stages (u : Used) :
    (matchedReply mo req u).headers = (stagesOf mo req u).layeredHeaders mo.env mo.scenarios ∧
      (matchedReply mo req u).body.unescaped =
        (stagesOf mo req u).bodyRunsPlain mo.env mo.scenarios ∧
      (matchedReply mo req u).streams = (stagesOf mo req u).streams mo.scenarios := by
  have hheaders : (fromMatch (matchResult mo.env req u.selected)).headers =
      (stagesOf mo req u).mockHeaders mo.env := by
    simp [fromMatch, matchResult, renderHTTPBody_snd, mockHeaders, stagesOf]
  have hbody : (fromMatch (matchResult mo.env req u.selected)).body.unescaped =
      (stagesOf mo req u).mockRunsPlain mo.env := by
    simp [fromMatch, matchResult, unescaped_renderHTTPBody, mockRunsPlain, stagesOf, contentType]
  rw [matchedReply_eq]
  refine ⟨?_, ?_, ?_⟩
  · rw [applyMockFault_headers, applyPatch_headers, applySequence_headers, hheaders]
    rfl
  · refine applyMockFault_unescaped (applyPatch_unescaped (applySequence_unescaped hbody) ?_)
    rw [applySequence_headers, hheaders]
    rfl
  · rw [applyMockFault_streams, applyPatch_streams, applySequence_streams]
    rfl

/-! ## The protocol fault and the wire -/

/-- The protocol fault that fires puts a fixed text in place of the body. -/
def globalSetsBody (mo : Moment) : Bool :=
  match firedFault mo with
  | none => false
  | some f => !f.abort && (f.body != [] || decide (f.status ≥ 400))

/-- The headers of the protocol fault are the last layer. -/
def finalHeaders (mo : Moment) (h : GoMap GoString) : GoMap GoString :=
  match firedFault mo with
  | none => h
  | some f => if f.abort then h else h.setAll f.headers.toList

/-- The content type of a truncated response with these headers. -/
def cutOffType (env : Env) (hijack : Hijack) (h : GoMap GoString) : Option GoString :=
  match hijack with
  | .unavailable => some ((writtenHeaders env h).getD contentType)
  | .fails => none
  | .works => some (truncatedType h)

/-- The content type that is written for these headers, if anything is written at all. -/
def writtenType (mo : Moment) (h : GoMap GoString) : Option GoString :=
  match firedFault mo with
  | none => some ((writtenHeaders mo.env h).getD contentType)
  | some f =>
    if f.abort then none
    else if f.truncateBody > 0 then cutOffType mo.env mo.hijack h
    else some ((writtenHeaders mo.env h).getD contentType)

/-- A response written as HTML with these headers is a stream, has nothing of the request in its
body without escaping, or has its body replaced by the protocol fault. -/
def SafelyTyped (mo : Moment) (h : GoMap GoString) (streams unescaped : Bool) : Prop :=
  ∀ ct, writtenType mo (finalHeaders mo h) = some ct → isHTMLContentType mo.env ct = true →
    (streams = true ∧ firedFault mo = none) ∨ unescaped = false ∨ globalSetsBody mo = true

variable {env : Env} {ct : GoString}

lemma frameEvent_escaped {ev : HTTPStreamEvent} {data : Piece} (h : data.unescaped = false) :
    ∀ p ∈ frameEvent env ct ev data, p.unescaped = false := by
  have hline (line : GoString) :
      (⟨go "data: " ++ line ++ go "\n", data.origin⟩ : Piece).unescaped = false := h
  intro p hp
  simp only [frameEvent] at hp
  split at hp
  · simp only [mem_append, mem_map, mem_singleton] at hp
    rcases hp with ((hp | hp) | ⟨line, -, rfl⟩) | rfl
    · split at hp <;> simp_all [unescaped_fixed]
    · split at hp <;> simp_all [unescaped_fixed]
    · exact hline line
    · rfl
  · rw [mem_singleton] at hp
    rwa [hp]

lemma renderEvent_escaped (hct : isHTMLContentType env ct = true) (ctx : RequestContext)
    (data : GoString) : (renderEvent env ctx ct data).unescaped = false := by
  simp [renderEvent, hct, unescaped_renderHTML]

lemma keepOpenEvents_escaped (hct : isHTMLContentType env ct = true) (ctx : RequestContext)
    (events : List HTTPStreamEvent) (turns : List StreamTurn) :
    ∀ p ∈ keepOpenEvents env ctx ct events turns, p.unescaped = false := by
  intro p hp
  fun_induction keepOpenEvents env ctx ct events turns with
  | case1 => cases hp
  | case2 => cases hp
  | case3 => exact frameEvent_escaped rfl p hp
  | case4 => cases hp
  | case5 _ data _ ih => exact (mem_append.mp hp).elim (frameEvent_escaped rfl p) ih
  | case6 _ ih => exact ih hp
  | case7 ev _ _ ih =>
    exact (mem_append.mp hp).elim
      (frameEvent_escaped (renderEvent_escaped hct ctx ev.data) p) ih

lemma writeStream_escaped (hct : isHTMLContentType env ct = true) (ctx : RequestContext)
    (stream : HTTPStream) (turns : List StreamTurn) :
    ∀ p ∈ writeStream env ctx ct stream turns, p.unescaped = false := by
  intro p hp
  simp only [writeStream] at hp
  split at hp
  · exact keepOpenEvents_escaped hct ctx _ _ p hp
  · obtain ⟨ev, -, hp⟩ := mem_flatMap.mp hp
    exact frameEvent_escaped (renderEvent_escaped hct ctx ev.data) p hp

lemma escapes_response (env : Env) (status : ℤ) (h : GoMap GoString) (body : List Piece) :
    EscapesRequestData env (.response status h body) ↔
      (isHTMLContentType env (h.getD contentType) = true → ∀ p ∈ body, p.unescaped = false) := by
  simp [EscapesRequestData, Wire.contentType?, Wire.pieces, unescaped_iff]

lemma escapes_truncated (env : Env) (status : ℤ) (h : List (GoString × GoString))
    (ct : GoString) (n : ℕ) (p : Piece) :
    EscapesRequestData env (.truncated status h ct n p) ↔
      (isHTMLContentType env ct = true → p.unescaped = false) := by
  simp [EscapesRequestData, Wire.contentType?, Wire.pieces, unescaped_iff]

lemma escapes_noResponse (env : Env) : EscapesRequestData env .noResponse := by
  intro ct hct
  cases hct

lemma writeReply_escapes (env : Env) (ctx : RequestContext) (turns : List StreamTurn) (r : Reply) :
    EscapesRequestData env (writeReply env ctx turns r) ↔
      (isHTMLContentType env ((writtenHeaders env r.headers).getD contentType) = true →
        r.streams = true ∨ r.body.unescaped = false) := by
  simp only [writeReply, Reply.streams]
  cases r.stream with
  | none => simp [escapes_response]
  | some stream =>
    by_cases hev : stream.events = []
    · simp [escapes_response, hev]
    · simp only [hev, ne_eq, not_false_eq_true, if_true, escapes_response]
      refine iff_of_true (fun hct => writeStream_escaped hct ctx stream turns) fun _ => .inl ?_
      simpa using hev

lemma truncateResponse_escapes (env : Env) (hijack : Hijack) (r : Reply) (n : ℤ) :
    EscapesRequestData env (truncateResponse env hijack r n) ↔
      (∀ ct, cutOffType env hijack r.headers = some ct →
        isHTMLContentType env ct = true → r.body.unescaped = false) := by
  cases hijack with
  | unavailable => simp [truncateResponse, cutOffType, escapes_response]
  | fails => simp [truncateResponse, cutOffType, escapes_noResponse]
  | works =>
    simp only [truncateResponse, cutOffType, escapes_truncated, Option.some.injEq, forall_eq']
    rfl

section Global

variable {f : HTTPFault} {r : Reply}

lemma applyGlobalFault_headers :
    (applyGlobalFault f r).headers = r.headers.setAll f.headers.toList := by
  simp only [applyGlobalFault]
  by_cases h : f.status ≠ 0 ∨ f.body ≠ [] <;> simp [h]

lemma applyGlobalFault_streams : (applyGlobalFault f r).streams = false := by
  simp only [applyGlobalFault, Reply.streams]
  by_cases h : f.status ≠ 0 ∨ f.body ≠ [] <;> simp [h]

lemma applyGlobalFault_escaped :
    (applyGlobalFault f r).body.unescaped = false ↔
      r.body.unescaped = false ∨ (f.body != [] || decide (f.status ≥ 400)) = true := by
  simp only [applyGlobalFault]
  by_cases hb : f.body = []
  · by_cases hs : f.status = 0
    · simp [hb, hs]
    · by_cases h4 : f.status ≥ 400 <;>
        simp [hb, hs, h4, statusOr, unescaped_bodyOr, unescaped_errorBody]
  · simp [hb, bodyOr, bne, unescaped_fixed]

end Global

/-- **What is written escapes the request exactly when the reply before the protocol fault is
safely typed.** -/
theorem respond_escapes (ctx : RequestContext) (r : Reply) (log : LogEntry) (out : Outcome) :
    EscapesRequestData mo.env (respond mo ctx r log out).wire ↔
      SafelyTyped mo r.headers r.streams r.body.unescaped := by
  unfold respond SafelyTyped finalReply finalHeaders writtenType globalSetsBody
  dsimp only
  cases firedFault mo with
  | none => simp [writeReply_escapes]
  | some f =>
    dsimp only
    by_cases ha : f.abort = true
    · simp [ha, escapes_noResponse]
    · by_cases ht : f.truncateBody > 0
      · simp only [ha, ht, if_true, if_false, Bool.false_eq_true, truncateResponse_escapes,
          applyGlobalFault_headers, applyGlobalFault_escaped, reduceCtorEq, and_false, false_or]
        rfl
      · simp only [ha, ht, if_false, Bool.false_eq_true, writeReply_escapes,
          applyGlobalFault_headers, applyGlobalFault_escaped, applyGlobalFault_streams,
          reduceCtorEq, and_false, false_or, Option.some.injEq, forall_eq']
        rfl

/-! ## Every request -/

/-- The first reachable mock with the ID, and the number of its call. -/
def usedFor (s : Server) (r : Inbound) (sel : Selection) : Used where
  selected := sel
  consulted := consult sel.mock.id 0 (reachable s r)
  counter := sel.mock.id
  callN := s.callCount sel.mock.id + 1

def reportsNearMisses (mo : Moment) (store : Option State.Store) (s : Server) (r : Inbound)
    (req : MatchInput) : Bool :=
  debugRequested mo.env r &&
    !(httpDiagnose mo.env req mo.diagnoseNow store (reachable s r)).1.isEmpty

/-- A matched request goes by its stages, one that is recorded is relayed, and any other is answered
with 404 and perhaps a report. -/
def DispatchSafe (mo : Moment) (s : Server) (r : Inbound) (req : MatchInput) : Prop :=
  match selectMock mo.env req mo.now 0 s.store (reachable s r) with
  | (some sel, _) =>
    let st := stagesOf mo req (usedFor s r sel)
    SafelyTyped mo (st.layeredHeaders mo.env mo.scenarios) (st.streams mo.scenarios)
      (st.bodyRunsPlain mo.env mo.scenarios)
  | (none, store) =>
    (s.recorder.isSome = true ∧ mo.upstream.isSome = true) ∨
      SafelyTyped mo (GoMap.ofList [(contentType, go "application/json")]) false
        (reportsNearMisses mo store s r req)

def StagesAgree (mo : Moment) (s : Server) (r : Inbound) : Prop :=
  ∀ body, s.readBody r = some body → globalLimit mo = none →
    handleNTLM mo.env (reachable s r) r.method r.path r.hdrs = none →
    DispatchSafe mo s r (r.matchInput body)

lemma escapes_of_fixed {status : ℤ} {h : GoMap GoString} {p : Piece} (hp : p.unescaped = false) :
    EscapesRequestData env (.response status h [p]) := by
  simp [escapes_response, hp]

lemma handleNTLM_escapes {mocks : List HTTPMock} {method path : GoString} {hdrs : GoMap GoString}
    {wire : Wire} (h : handleNTLM env mocks method path hdrs = some wire) :
    EscapesRequestData env wire := by
  have hresponse (challenge : GoString) (msg : String) :
      EscapesRequestData env (ntlmResponse challenge msg) := escapes_of_fixed rfl
  unfold handleNTLM at h
  extract_lets auth authHdr at h
  split at h
  · cases h
  · split at h
    · cases h
    · split at h
      · exact Option.some.inj h ▸ hresponse _ _
      · cases h
      · exact Option.some.inj h ▸ hresponse _ _

lemma respondMatched_escapes (s : Server) (store : Option State.Store) (r : Inbound)
    (req : MatchInput) (sel : Selection) :
    EscapesRequestData mo.env
        (respondMatched mo { s with store } (reachable s r) req sel).1.wire ↔
      SafelyTyped mo
        ((stagesOf mo req (usedFor s r sel)).layeredHeaders mo.env mo.scenarios)
        ((stagesOf mo req (usedFor s r sel)).streams mo.scenarios)
        ((stagesOf mo req (usedFor s r sel)).bodyRunsPlain mo.env mo.scenarios) := by
  obtain ⟨hh, hb, hs⟩ := matchedReply_stages mo req (usedFor s r sel)
  have hcall : (({ s with store } : Server).countCall sel.mock.id).callCount sel.mock.id =
      s.callCount sel.mock.id + 1 := by
    simp [Server.countCall, Server.callCount]
  rw [← hh, ← hb, ← hs]
  simp only [respondMatched, respond_escapes, hcall]
  rfl

lemma respondUnmatched_escapes (s : Server) (store : Option State.Store) (r : Inbound)
    (req : MatchInput) (forwarded : Bool) :
    EscapesRequestData mo.env
        (respondUnmatched mo { s with store } (reachable s r) r req forwarded).1.wire ↔
      SafelyTyped mo (GoMap.ofList [(contentType, go "application/json")]) false
        (reportsNearMisses mo store s r req) := by
  simp only [respondUnmatched, reportsNearMisses]
  cases debugRequested mo.env r with
  | false => simp [respond_escapes, noMatch, Reply.streams, unescaped_errorBody]
  | true =>
    cases hd : (httpDiagnose mo.env req mo.diagnoseNow store (reachable s r)).1.isEmpty with
    | true => simp [respond_escapes, noMatch, Reply.streams, hd, unescaped_errorBody]
    | false => simp [respond_escapes, noMatch, Reply.streams, hd, Piece.unescaped]

/-- **Request data in an HTML response is escaped exactly when the stages of the request agree on
the content type.** -/
theorem escapesRequestData_iff (mo : Moment) (s : Server) (r : Inbound) :
    EscapesRequestData mo.env (handleRequest mo s r).1.wire ↔ StagesAgree mo s r := by
  simp only [StagesAgree]
  rcases handleRequest_cases mo s r with
    ⟨hbody, heq⟩ | ⟨body, hbody, ⟨rl, hrl, heq⟩ | ⟨wire, hwire, heq⟩ | ⟨hrl, hwire, heq⟩⟩
  · simp only [heq, hbody, badBody, reduceCtorEq, false_implies, implies_true, iff_true]
    exact escapes_of_fixed rfl
  · simp only [heq, hrl, respondRateLimited, reduceCtorEq, false_implies, implies_true, iff_true]
    exact escapes_of_fixed (by simp [unescaped_bodyOr, unescaped_errorBody])
  · simp only [heq, hwire, reduceCtorEq, false_implies, implies_true, iff_true]
    exact handleNTLM_escapes hwire
  · simp only [heq, hbody, hrl, hwire, Option.some.injEq, forall_eq', true_implies]
    obtain ⟨found, store, hsel, hcase⟩ :=
      dispatch_cases mo s (reachable s r) r (r.matchInput body)
    simp only [DispatchSafe]
    rw [hsel]
    rcases hcase with ⟨sel, rfl, hd⟩ | ⟨rfl, rec, up, hrec, hup, hd⟩ | ⟨rfl, hnot, fwd, hd⟩
    · rw [hd]
      exact respondMatched_escapes mo s store r _ sel
    · simp only [hd, hrec, hup, recordAndServe, Option.isSome_some, and_self, true_or, iff_true]
      exact escapes_of_fixed rfl
    · rw [hd, respondUnmatched_escapes]
      rcases hnot with hnot | hnot <;> simp [hnot]

def pageWithSequence : HTTPMock where
  id := go "page"
  request := { path := go "/page" }
  response := { headers := GoMap.ofList [(contentType, go "text/html")] }
  sequence := [{ headers := ∅, body := newHTTPBodyLiteral (go "\x7b\x7b.query.name\x7d\x7d") }]

/-- **The entry of a sequence is not escaped on an HTML mock.** It names no type of its own; the
response keeps the `text/html` of the mock. -/
theorem sequence_entry_is_not_escaped :
    let r : Inbound :=
      { plainRequest (go "/page") with query := GoMap.ofList [(go "name", [go "<script>"])] }
    let wire := (handleRequest { env := Env.basic } { mocks := [pageWithSequence] } r).1.wire
    wire.contentType? = some (go "text/html") ∧
      wire.pieces = [⟨go "<script>", .plain⟩] ∧ ¬ EscapesRequestData Env.basic wire := by
  intro r wire
  have htype : wire.contentType? = some (go "text/html") := by decide
  have hpieces : wire.pieces = [⟨go "<script>", .plain⟩] := by decide
  refine ⟨htype, hpieces, fun h => ?_⟩
  have horigin := h _ htype (by decide) ⟨go "<script>", .plain⟩ (by simp [hpieces]) rfl
  cases horigin

end Mockly
