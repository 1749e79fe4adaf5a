import Mockly.Go.Strconv
import Mockly.HTTPServer.Reply

/-!
# The HTTP mock server

`Moment` holds everything else that a request meets. `Used` keeps the mock that is found by ID
beside the one that was really selected. Left out are the reading of the request from the network,
TLS, and the file record mode may save its mocks to.
-/

namespace Mockly

/-! ## Requests -/

/-- `http.Request`, as far as the handler looks at it.  A `none` body fails to be read. -/
structure Inbound where
  listener : GoString
  method : GoString
  path : GoString
  query : GoMap (List GoString)
  header : GoMap (List GoString)
  body : Option GoString

def plainRequest (path : GoString) : Inbound :=
  ⟨[], go "GET", path, ∅, ∅, some []⟩

/-- `hdrs` of the handler. -/
def Inbound.hdrs (r : Inbound) : GoMap GoString := r.header.mapVals fun v => join v (go ", ")

/-- The fields that are matched, once the body has been read. -/
def Inbound.matchInput (r : Inbound) (body : GoString) : MatchInput :=
  ⟨r.method, r.path, r.query, r.hdrs, body⟩

/-- The first value under a key: `url.Values.Get`, and `http.Header.Get` for a canonical key. -/
def firstValue (m : GoMap (List GoString)) (key : GoString) : GoString :=
  ((m.get? key).bind List.head?).getD []

def debugRequested (env : Env) (r : Inbound) : Bool :=
  firstValue r.query (go "debug") == go "true" ||
    equalFold env.caseTable (firstValue r.header (go "X-Mockly-Debug")) (go "true")

/-- A response of the upstream server.  The client library has made its header names canonical. -/
structure UpstreamResponse where
  status : ℤ
  header : GoMap (List GoString)
  body : GoString
  canonical : ∀ k ∈ header.keys, canonicalHeaderKey k = k

/-- What a request meets besides the server. -/
structure Moment where
  env : Env
  scenarios : Scenarios := {}
  now : ℕ → ℤ := fun _ => 0
  diagnoseNow : ℕ → ℤ := fun _ => 0
  upstream : Option UpstreamResponse := none
  hijack : Hijack := .works
  turns : List StreamTurn := []

/-! ## The server -/

/-- The part of `recorder` that record mode changes. -/
structure Recorder where
  counter : ℕ
  recorded : List HTTPMock

def newRecorder : Recorder := ⟨0, []⟩

/-- The state that the requests share. -/
structure Server where
  maxBodyBytes : ℤ := 0
  mocks : List HTTPMock
  callCounts : GoMap ℕ := ∅
  store : Option State.Store := none
  recorder : Option Recorder := none

namespace Server

def callCount (s : Server) (mockID : GoString) : ℕ := (s.callCounts.get? mockID).getD 0

/-- `s.callCounts[id]++`. -/
def countCall (s : Server) (id : GoString) : Server :=
  { s with callCounts := s.callCounts.set id (s.callCount id + 1) }

def readBody (s : Server) (r : Inbound) : Option GoString :=
  r.body.map fun body => if s.maxBodyBytes > 0 then body.take s.maxBodyBytes.toNat else body

end Server

/-- `mocksForListener`, with its shortcut for a server that has no other listener. -/
def mocksForListener (mocks : List HTTPMock) (listenerName : GoString) : List HTTPMock :=
  if listenerName = [] ∧ mocks.all fun m => m.listener = [] then mocks
  else mocks.filter fun m => m.listener = listenerName

/-- The shortcut gives what the filter gives. -/
theorem mocksForListener_eq_filter (mocks : List HTTPMock) (listenerName : GoString) :
    mocksForListener mocks listenerName = mocks.filter fun m => m.listener = listenerName := by
  simp only [mocksForListener]
  split
  · rename_i h
    obtain ⟨rfl, hall⟩ := h
    rw [List.all_eq_true] at hall
    exact (List.filter_eq_self.mpr fun m hm => by simpa using hall m hm).symm
  · rfl

/-! ## NTLM -/

/-- The bytes of `ntlmChallengeToken`. -/
def ntlmChallenge : GoString :=
  ntlmSignature ++ [2, 0, 0, 0] ++ List.replicate 8 0 ++ List.replicate 4 0 ++
    [1, 2, 3, 4, 5, 6, 7, 8] ++ List.replicate 8 0

/-- The type of a token, or 0. -/
def ntlmTokenType (env : Env) (authHeader : GoString) : ℕ :=
  match ntlmToken env authHeader with
  | none => 0
  | some b =>
    if hasPrefix b (ntlmSignature ++ [1]) then 1
    else if hasPrefix b (ntlmSignature ++ [3]) then 3
    else 0

/-- A `path_regex` that does not compile leaves the judgement to the plain path. -/
def asksNTLM (env : Env) (method path : GoString) (m : HTTPMock) : Bool :=
  match m.request.auth with
  | none => false
  | some auth =>
    let plainOK := (matchPath env m.request.path path).isSome
    let pathOK :=
      if m.request.pathRegex ≠ [] then
        match env.regexp m.request.pathRegex with
        | some matchString => matchString path
        | none => plainOK
      else plainOK
    equalFold env.caseTable auth.type (go "ntlm") && pathOK &&
      matchMethod env m.request.method method

def ntlmResponse (challenge : GoString) (msg : String) : Wire :=
  .response 401
    ((noSniffHeaders.set (canonicalHeaderKey (go "WWW-Authenticate")) challenge).set contentType
      (go "application/json"))
    [errorBody msg]

/-- `handleNTLM`: the response of a handshake that is not complete. -/
def handleNTLM (env : Env) (mocks : List HTTPMock) (method path : GoString)
    (hdrs : GoMap GoString) : Option Wire :=
  if !mocks.any (asksNTLM env method path) then none
  else
    let auth := hdrs.getD (go "Authorization")
    let authHdr := if auth = [] then hdrs.getD (go "authorization") else auth
    if authHdr ≠ [] ∧ !hasPrefix authHdr (go "NTLM ") then none
    else
      match ntlmTokenType env authHdr with
      | 1 => some (ntlmResponse (go "NTLM " ++ env.base64Encode ntlmChallenge)
          "NTLM negotiation in progress")
      | 3 => none
      | _ => some (ntlmResponse (go "NTLM") "NTLM authentication required")

/-! ## Record mode -/

def hopByHopHeaders : List GoString :=
  [go "Connection", go "Keep-Alive", go "Proxy-Authenticate", go "Proxy-Authorization", go "Te",
    go "Trailers", go "Transfer-Encoding", go "Upgrade", go "Content-Length", go "Host"]

/-- The headers `forward` returns. -/
def UpstreamResponse.headers (u : UpstreamResponse) : GoMap GoString :=
  (u.header.filter fun k _ => !hopByHopHeaders.contains (canonicalHeaderKey k)).mapVals fun v =>
    join v (go ", ")

/-- `queryEqual`.  A key that is missing from `b` reads as an empty value. -/
def queryEqual (a b : GoMap GoString) : Bool :=
  a.size == b.size && a.toList.all fun p => b.getD p.1 == p.2

/-- The comparison of `findLocked` and `hasEquivalentMockLocked`. -/
def recordsRequest (listener method path : GoString) (query : GoMap GoString) (m : HTTPMock) :
    Bool :=
  m.listener == listener && m.request.method == method && m.request.path == path &&
    queryEqual m.request.query query

/-- The mock that `capture` makes of a request and its response. -/
def recordedMock (n : ℕ) (listener method path : GoString) (query : GoMap GoString)
    (u : UpstreamResponse) : HTTPMock where
  id := go "recorded-" ++ formatNat n
  listener := listener
  request := { method := method, path := path, query := query }
  response := { status := u.status, headers := u.headers, body := newHTTPBodyLiteral u.body }

/-- `capture`: the mock recorded earlier for an equal request, or else a new one. -/
def Recorder.capture (rec : Recorder) (listener method path : GoString)
    (query : GoMap GoString) (u : UpstreamResponse) : HTTPMock × Recorder :=
  match rec.recorded.find? (recordsRequest listener method path query) with
  | some existing => (existing, rec)
  | none =>
    let mock := recordedMock (rec.counter + 1) listener method path query u
    (mock, ⟨rec.counter + 1, rec.recorded ++ [mock]⟩)

/-- The append of `recordAndServe`, unless there is an equivalent mock by now. -/
def appendRecorded (mocks : List HTTPMock) (mock : HTTPMock) : List HTTPMock :=
  if mocks.any (recordsRequest mock.listener mock.request.method mock.request.path
      mock.request.query) then mocks
  else mocks ++ [mock]

/-! ## The handler -/

/-- `logger.Entry`, without the time it took. -/
structure LogEntry where
  method : GoString
  path : GoString
  status : ℤ
  headers : GoMap GoString
  body : GoString
  matchedID : GoString := []
  pathParams : GoMap GoString := ∅
  nearMisses : List NearMiss := []

structure Dispatch where
  mockID : GoString
  webhook : Webhook
  context : RequestContext

/-- The mock `HTTPMatch` selected, the one the handler looked up again, and the counter it used. -/
structure Used where
  selected : Selection
  consulted : Option (ℕ × HTTPMock)
  counter : GoString
  callN : ℕ

/-- What the handler leaves behind. -/
structure Outcome where
  wire : Wire
  forwarded : Bool := false
  webhooks : List Dispatch := []
  slept : ℤ := 0
  log : Option LogEntry := none
  used : Option Used := none

/-- The loop that finds the matched mock again: the first with this ID, and its position. -/
def consult (id : GoString) (i : ℕ) : List HTTPMock → Option (ℕ × HTTPMock)
  | [] => none
  | m :: ms => if m.id = id then some (i, m) else consult id (i + 1) ms

/-- The reply of a matched mock, through all stages up to its own fault. -/
def matchedReply (mo : Moment) (req : MatchInput) (u : Used) : Reply :=
  let ctx := req.context u.selected.params
  let r := fromMatch (matchResult mo.env req u.selected)
  let step := match u.consulted with
    | none => .none
    | some (_, m) => sequenceStep m u.callN
  let r := applySequence mo.env ctx step r
  let r := applyPatch mo.env ctx (mo.scenarios.patchFor u.counter) r
  match u.consulted with
  | none => r
  | some (_, m) => applyMockFault mo.scenarios m.id m.fault r

def firedFault (mo : Moment) : Option HTTPFault :=
  mo.scenarios.effectiveHTTPFault.filter (faultFires mo.scenarios)

/-- The delay the protocol fault adds before anything is matched. -/
def initialDelay (mo : Moment) : ℤ :=
  match mo.scenarios.effectiveHTTPFault with
  | none => 0
  | some f => max 0 (mo.scenarios.faultDelay f.delay f.delayRange)

def finalReply (mo : Moment) (r : Reply) : Reply :=
  match firedFault mo with
  | none => r
  | some f => if f.abort then r else applyGlobalFault f r

/-- From the reply to the wire; a connection-level fault is not logged. -/
def respond (mo : Moment) (ctx : RequestContext) (r : Reply) (log : LogEntry) (out : Outcome) :
    Outcome :=
  let r := finalReply mo r
  let out := { out with slept := initialDelay mo + max 0 r.delay }
  let normal :=
    { out with
      wire := writeReply mo.env ctx mo.turns r
      log := some { log with status := r.status, matchedID := r.matchedID } }
  match firedFault mo with
  | none => normal
  | some f =>
    if f.abort then { out with wire := .noResponse }
    else if f.truncateBody > 0 then
      { out with wire := truncateResponse mo.env mo.hijack r f.truncateBody }
    else normal

/-- The rate limit of the protocol fault that this request exceeds. -/
def globalLimit (mo : Moment) : Option RateLimitFault :=
  (mo.scenarios.effectiveHTTPFault.bind HTTPFault.rateLimit).filter fun rl =>
    mo.scenarios.rateLimited (go "http:global") rl.requestsPerSecond

/-- A log entry with the fields every path through the handler fills in. -/
def logEntry (req : MatchInput) (status : ℤ) : LogEntry where
  method := req.method
  path := req.path
  status := status
  headers := req.headers
  body := req.body

def respondRateLimited (req : MatchInput) (rl : RateLimitFault) : Outcome where
  wire := .response (statusOr rl.overLimitStatus 429)
    (noSniffHeaders.set contentType (go "application/json"))
    [bodyOr rl.body (errorBody "rate limit exceeded")]
  log := some (logEntry req (statusOr rl.overLimitStatus 429))

/-- `recordAndServe`, when the upstream server has answered. -/
def recordAndServe (mo : Moment) (s : Server) (rec : Recorder) (listener : GoString)
    (req : MatchInput) (u : UpstreamResponse) : Outcome × Server :=
  let (mock, rec) := rec.capture listener req.method req.path (firstQueryValues req.query) u
  ({ wire := .response u.status (writtenHeaders mo.env u.headers) [⟨u.body, .upstream⟩]
     forwarded := true
     slept := initialDelay mo
     log := some { logEntry req u.status with matchedID := mock.id } },
    { s with mocks := appendRecorded s.mocks mock, recorder := some rec })

def respondMatched (mo : Moment) (s : Server) (mocks : List HTTPMock) (req : MatchInput)
    (sel : Selection) : Outcome × Server :=
  let s := s.countCall sel.mock.id
  let u : Used :=
    { selected := sel
      consulted := consult sel.mock.id 0 mocks
      counter := sel.mock.id
      callN := s.callCount sel.mock.id }
  let ctx := req.context sel.params
  let webhooks := match u.consulted with
    | none => []
    | some (_, m) => m.webhooks.map fun wh => ⟨m.id, wh, ctx⟩
  let log := { logEntry req 0 with pathParams := sel.params }
  (respond mo ctx (matchedReply mo req u) log { wire := .noResponse, webhooks, used := some u }, s)

def respondUnmatched (mo : Moment) (s : Server) (mocks : List HTTPMock) (r : Inbound)
    (req : MatchInput) (forwarded : Bool) : Outcome × Server :=
  let (nearMisses, store) :=
    if debugRequested mo.env r then httpDiagnose mo.env req mo.diagnoseNow s.store mocks
    else ([], s.store)
  let log := { logEntry req 0 with nearMisses }
  (respond mo (req.context ∅) (noMatch mo.env nearMisses) log { wire := .noResponse, forwarded },
    { s with store })

def badBody : Outcome where
  wire := .response 400
    (noSniffHeaders.set contentType (go "text/plain; charset=utf-8"))
    [.fixed (go "failed to read request body\n")]

/-- To the mocks of its listener, to the upstream server in record mode, or to a 404. -/
def dispatch (mo : Moment) (s : Server) (mocks : List HTTPMock) (r : Inbound) (req : MatchInput) :
    Outcome × Server :=
  let (found, store) := selectMock mo.env req mo.now 0 s.store mocks
  let s := { s with store }
  match found with
  | some sel => respondMatched mo s mocks req sel
  | none =>
    match s.recorder, mo.upstream with
    | some rec, some u => recordAndServe mo s rec r.listener req u
    | some _, none => respondUnmatched mo s mocks r req true
    | none, _ => respondUnmatched mo s mocks r req false

/-- The handler, from the request to what is written. -/
def handleRequest (mo : Moment) (s : Server) (r : Inbound) : Outcome × Server :=
  match s.readBody r with
  | none => (badBody, s)
  | some body =>
    let req := r.matchInput body
    match globalLimit mo with
    | some rl => (respondRateLimited req rl, s)
    | none =>
      let mocks := mocksForListener s.mocks r.listener
      match handleNTLM mo.env mocks r.method r.path r.hdrs with
      | some wire => ({ wire, slept := initialDelay mo }, s)
      | none => dispatch mo s mocks r req

/-! ## The paths through the handler -/

def reachable (s : Server) (r : Inbound) : List HTTPMock := mocksForListener s.mocks r.listener

/-- A request is turned away early, or it is dispatched. -/
theorem handleRequest_cases (mo : Moment) (s : Server) (r : Inbound) :
    (s.readBody r = none ∧ handleRequest mo s r = (badBody, s)) ∨
      ∃ body, s.readBody r = some body ∧
        ((∃ rl, globalLimit mo = some rl ∧
            handleRequest mo s r = (respondRateLimited (r.matchInput body) rl, s)) ∨
          (∃ wire, handleNTLM mo.env (reachable s r) r.method r.path r.hdrs = some wire ∧
            handleRequest mo s r = ({ wire, slept := initialDelay mo }, s)) ∨
          (globalLimit mo = none ∧
            handleNTLM mo.env (reachable s r) r.method r.path r.hdrs = none ∧
            handleRequest mo s r = dispatch mo s (reachable s r) r (r.matchInput body))) := by
  simp only [handleRequest, reachable]
  cases hbody : s.readBody r with
  | none => exact .inl ⟨rfl, rfl⟩
  | some body =>
    refine .inr ⟨body, rfl, ?_⟩
    cases hlimit : globalLimit mo with
    | some rl => exact .inl ⟨rl, rfl, rfl⟩
    | none =>
      cases hntlm : handleNTLM mo.env (mocksForListener s.mocks r.listener) r.method r.path
        r.hdrs with
      | some wire => exact .inr (.inl ⟨wire, rfl, by simp⟩)
      | none => exact .inr (.inr ⟨rfl, rfl, by simp⟩)

/-- A dispatched request is answered by a mock, recorded, or answered with 404. -/
theorem dispatch_cases (mo : Moment) (s : Server) (mocks : List HTTPMock) (r : Inbound)
    (req : MatchInput) :
    ∃ found store, selectMock mo.env req mo.now 0 s.store mocks = (found, store) ∧
      ((∃ sel, found = some sel ∧
          dispatch mo s mocks r req = respondMatched mo { s with store } mocks req sel) ∨
        (found = none ∧ ∃ rec u, s.recorder = some rec ∧ mo.upstream = some u ∧
          dispatch mo s mocks r req =
            recordAndServe mo { s with store } rec r.listener req u) ∨
        (found = none ∧ (s.recorder = none ∨ mo.upstream = none) ∧ ∃ forwarded,
          dispatch mo s mocks r req =
            respondUnmatched mo { s with store } mocks r req forwarded)) := by
  simp only [dispatch]
  cases hsel : selectMock mo.env req mo.now 0 s.store mocks with
  | mk found store =>
    refine ⟨found, store, rfl, ?_⟩
    cases found with
    | some sel => exact .inl ⟨sel, rfl, rfl⟩
    | none =>
      cases hrec : s.recorder with
      | none => exact .inr (.inr ⟨rfl, .inl rfl, false, by simp⟩)
      | some rec =>
        cases hup : mo.upstream with
        | none => exact .inr (.inr ⟨rfl, .inr rfl, true, by simp⟩)
        | some u => exact .inr (.inl ⟨rfl, rec, u, rfl, rfl, by simp⟩)

@[simp] lemma respond_used (mo : Moment) (ctx : RequestContext) (r : Reply) (log : LogEntry)
    (out : Outcome) : (respond mo ctx r log out).used = out.used := by
  unfold respond
  dsimp only
  split
  · rfl
  · split
    · rfl
    · split <;> rfl

@[simp] lemma respond_forwarded (mo : Moment) (ctx : RequestContext) (r : Reply) (log : LogEntry)
    (out : Outcome) : (respond mo ctx r log out).forwarded = out.forwarded := by
  unfold respond
  dsimp only
  split
  · rfl
  · split
    · rfl
    · split <;> rfl

/-- **A request used a mock exactly when one was selected.** -/
theorem handleRequest_used {mo : Moment} {s : Server} {r : Inbound} {u : Used}
    (h : (handleRequest mo s r).1.used = some u) :
    ∃ body store, s.readBody r = some body ∧
      selectMock mo.env (r.matchInput body) mo.now 0 s.store (reachable s r) =
        (some u.selected, store) ∧
      u.counter = u.selected.mock.id ∧
      u.callN = s.callCount u.selected.mock.id + 1 ∧
      u.consulted = consult u.selected.mock.id 0 (reachable s r) ∧
      handleRequest mo s r = respondMatched mo { s with store } (reachable s r)
        (r.matchInput body) u.selected := by
  rcases handleRequest_cases mo s r with
    ⟨-, heq⟩ | ⟨body, hbody, ⟨rl, -, heq⟩ | ⟨wire, -, heq⟩ | ⟨-, -, heq⟩⟩
  · rw [heq] at h
    cases h
  · rw [heq] at h
    cases h
  · rw [heq] at h
    cases h
  · obtain ⟨found, store, hsel, hcase⟩ :=
      dispatch_cases mo s (reachable s r) r (r.matchInput body)
    rcases hcase with ⟨sel, rfl, hdisp⟩ | ⟨-, rec, up, -, -, hdisp⟩ | ⟨-, -, fwd, hdisp⟩
    · rw [heq, hdisp] at h
      simp only [respondMatched, respond_used, Option.some.injEq] at h
      subst h
      refine ⟨body, store, hbody, hsel, rfl, ?_, rfl, heq.trans hdisp⟩
      simp [Server.countCall, Server.callCount]
    · rw [heq, hdisp] at h
      simp [recordAndServe] at h
    · rw [heq, hdisp] at h
      simp [respondUnmatched] at h

end Mockly
