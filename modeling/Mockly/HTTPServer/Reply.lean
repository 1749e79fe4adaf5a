import Mockly.Engine.Diagnose

/-!
# From a matched mock to a written response

`handleRequest` builds its response in stages, functions on `Reply`. What is left at the end is
written: header names are made canonical on the way, so that two spellings of one name fall together
and the one set last remains.
-/

namespace Mockly

/-- What the scenario store answers in the course of one request.  The two rolls of the dice and
the two delays are separate draws. -/
structure Scenarios where
  effectiveHTTPFault : Option HTTPFault := none
  patchFor : GoString → Option MockPatch := fun _ => none
  rateLimited : GoString → ℤ → Bool := fun _ _ => false
  shouldFault : Float64 → Bool := fun _ => true
  rollFault : Float64 → Bool := fun _ => true
  mockDelay : ℤ → Option DelayRange → ℤ := fun fixed _ => fixed
  faultDelay : ℤ → Option DelayRange → ℤ := fun fixed _ => fixed

/-- `status`, `respBody`, `respHdrs`, `matchedID`, `delay` and `stream` of `handleRequest`. -/
structure Reply where
  status : ℤ
  body : Piece
  headers : GoMap GoString
  matchedID : GoString
  delay : ℤ
  stream : Option HTTPStream

def contentType : GoString := go "Content-Type"

/-- A JSON object with one field, `error`. -/
def errorBody (msg : String) : Piece := .fixed (go "\x7b\"error\":\"" ++ go msg ++ go "\"\x7d")

variable (env : Env)

/-! ## The stages -/

/-- No mock matched; `nearMisses` is the report that was asked for. -/
def noMatch (nearMisses : List NearMiss) : Reply where
  status := 404
  body := if nearMisses.isEmpty then errorBody "no mock matched"
    else ⟨nearMissBody env nearMisses, .diagnosis⟩
  headers := GoMap.ofList [(contentType, go "application/json")]
  matchedID := []
  delay := 0
  stream := none

def fromMatch (r : MatchResult) : Reply where
  status := r.status
  body := r.body
  headers := r.headers
  matchedID := r.mockID
  delay := r.delay
  stream := r.stream

/-- `for k, v := range from { respHdrs[k] = engine.Render(v, reqCtx) }`. -/
def renderHeaders (ctx : RequestContext) (into source : GoMap GoString) : GoMap GoString :=
  into.setAll (source.mapVals fun v => (render env v ctx).text).toList

/-- What the sequence of a mock says about its `callN`-th call. -/
inductive SequenceStep
  | none
  | entry (e : HTTPResponse)
  | notFound

def sequenceStep (m : HTTPMock) (callN : ℕ) : SequenceStep :=
  let idx := callN - 1
  match m.sequence with
  | [] => .none
  | e :: es =>
    let seq := e :: es
    if h : idx < seq.length then .entry seq[idx]
    else if m.sequenceExhausted = go "loop" then
      .entry (seq.get ⟨idx % seq.length, Nat.mod_lt _ (by simp [seq])⟩)
    else if m.sequenceExhausted = go "not_found" then .notFound
    else .entry (seq.getLast (by simp [seq]))

/-- The body of a sequence entry, and what a file says about its type. The entry's own type is
looked up under its canonical name, before it is rendered. -/
def entryBody (ctx : RequestContext) (e : HTTPResponse) (r : Reply) : Reply :=
  if e.body.isEmpty then r
  else
    let (body, bodyCT) := renderHTTPBody env e.body ctx (e.headers.getD contentType)
    { r with
      body := body
      headers := if bodyCT ≠ [] ∧ r.headers.getD contentType = [] then
          r.headers.set contentType bodyCT else r.headers }

def applyEntry (ctx : RequestContext) (e : HTTPResponse) (r : Reply) : Reply :=
  let r := entryBody env ctx e { r with status := if e.status ≠ 0 then e.status else r.status }
  { r with
    headers := renderHeaders env ctx r.headers e.headers
    delay := if e.delay > 0 then e.delay else r.delay }

/-- The entry of a sequence takes the place of the response. -/
def applySequence (ctx : RequestContext) (step : SequenceStep) (r : Reply) : Reply :=
  match step with
  | .none => r
  | .entry e => applyEntry env ctx e { r with stream := none }
  | .notFound => { r with stream := none, status := 404, body := errorBody "sequence exhausted" }

/-- The body of a patch is judged by the type that is in force once the patch's own headers are. -/
def patchBody (ctx : RequestContext) (p : MockPatch) (r : Reply) : Piece :=
  if p.body = [] then r.body
  else if isHTMLContentType env (r.headers.getD contentType) then renderHTML env p.body ctx
  else render env p.body ctx

/-- What an active scenario changes. -/
def applyPatch (ctx : RequestContext) (patch : Option MockPatch) (r : Reply) : Reply :=
  match patch with
  | none => r
  | some p =>
    let r := { r with stream := none }
    if p.disabled then
      { r with
        status := 404
        body := errorBody "mock disabled by active scenario"
        matchedID := []
        delay := 0 }
    else
      let r :=
        { r with
          status := if p.status ≠ 0 then p.status else r.status
          headers := renderHeaders env ctx r.headers p.headers
          delay := p.delay.getD r.delay }
      { r with body := patchBody env ctx p r }

/-- `status` unless it is zero. -/
def statusOr (status default : ℤ) : ℤ := if status = 0 then default else status

/-- `body` unless it is empty. -/
def bodyOr (body : GoString) (default : Piece) : Piece := if body = [] then default else .fixed body

/-- The fault of the mock with the ID `id`. -/
def applyMockFault (sc : Scenarios) (id : GoString) (fault : Option MockFault) (r : Reply) :
    Reply :=
  match fault with
  | none => r
  | some mf =>
    let r := { r with delay := r.delay + sc.mockDelay mf.delay mf.delayRange }
    let limited : Option RateLimitFault := mf.rateLimit.filter fun rl =>
      sc.rateLimited (go "http:mock:" ++ id) rl.requestsPerSecond
    match limited with
    | some rl =>
      { r with
        stream := none
        status := statusOr rl.overLimitStatus 429
        body := bodyOr rl.body (errorBody "rate limit exceeded") }
    | none =>
      if mf.statusOverride ≠ 0 && sc.shouldFault mf.errorRate then
        { r with
          stream := none
          status := mf.statusOverride
          body := bodyOr mf.body r.body
          headers := r.headers.setAll mf.headers.toList }
      else r

/-- The fault of the protocol fires: the dice say so, and it has something to say about more than
the delay. -/
def faultFires (sc : Scenarios) (f : HTTPFault) : Bool :=
  sc.rollFault f.errorRate &&
    (f.abort || decide (f.truncateBody > 0) || f.status != 0 || f.body != [])

/-- Status, body and headers of a protocol fault that fires and does not abort. -/
def applyGlobalFault (f : HTTPFault) (r : Reply) : Reply :=
  let r := { r with stream := none }
  let r :=
    if f.status ≠ 0 ∨ f.body ≠ [] then
      let status := statusOr f.status 503
      { r with
        status := status
        body := bodyOr f.body (if status ≥ 400 then errorBody "fault injected" else r.body) }
    else r
  { r with headers := r.headers.setAll f.headers.toList }

/-! ## Writing -/

/-- What is written to the connection. -/
inductive Wire
  | response (status : ℤ) (headers : GoMap GoString) (body : List Piece)
  /-- A response written to the connection by hand and cut off. -/
  | truncated (status : ℤ) (headers : List (GoString × GoString)) (contentType : GoString)
      (claimedLen : ℕ) (body : Piece)
  /-- The connection was reset, or could not be taken over. -/
  | noResponse

/-- The headers `noSniffMiddleware` has set before the handler runs. -/
def noSniffHeaders : GoMap GoString :=
  GoMap.ofList [(go "X-Content-Type-Options", go "nosniff")]

/-- `for k, v := range headers { w.Header().Set(k, v) }`. -/
def setHeaders (headers : GoMap GoString) (w : GoMap GoString) : GoMap GoString :=
  w.setAll ((env.writeOrder.seq headers).map fun p => (canonicalHeaderKey p.1, p.2))

/-- A response without a type gets one that no browser renders. -/
def guardContentType (w : GoMap GoString) : GoMap GoString :=
  if w.getD contentType = [] then w.set contentType (go "application/octet-stream") else w

def writtenHeaders (headers : GoMap GoString) : GoMap GoString :=
  guardContentType (setHeaders env headers noSniffHeaders)

/-- What happens to a stream that is kept open: the next event is due, somebody pushes data, or
the stream is closed. -/
inductive StreamTurn
  | timer
  | push (data : GoString)
  | close (errMsg : GoString)
  | done

/-- `renderEvent` of `writeStream`: by the type that is really on the wire. -/
def renderEvent (ctx : RequestContext) (wireType data : GoString) : Piece :=
  if isHTMLContentType env wireType then renderHTML env data ctx else render env data ctx

/-- `write` of `writeStream`: an event is framed if the response is an event stream. -/
def frameEvent (wireType : GoString) (ev : HTTPStreamEvent) (data : Piece) : List Piece :=
  if contains (toLower env.caseTable wireType) (go "text/event-stream") then
    (if ev.event ≠ [] then [Piece.fixed (go "event: " ++ ev.event ++ go "\n")] else []) ++
      (if ev.id ≠ [] then [Piece.fixed (go "id: " ++ ev.id ++ go "\n")] else []) ++
      (split data.text 0x0A).map (fun line => ⟨go "data: " ++ line ++ go "\n", data.origin⟩) ++
      [Piece.fixed (go "\n")]
  else [data]

/-- The loop of `writeStream` for a stream that is kept open. -/
def keepOpenEvents (ctx : RequestContext) (wireType : GoString) :
    List HTTPStreamEvent → List StreamTurn → List Piece
  | _, [] => []
  | _, .done :: _ => []
  | _, .close errMsg :: _ =>
    if errMsg ≠ [] then
      frameEvent env wireType { data := [], event := go "error" } (.fixed errMsg)
    else []
  | events, .push data :: turns =>
    frameEvent env wireType { data := [] } (.fixed data) ++
      keepOpenEvents ctx wireType events turns
  | [], .timer :: turns => keepOpenEvents ctx wireType [] turns
  | ev :: events, .timer :: turns =>
    frameEvent env wireType ev (renderEvent env ctx wireType ev.data) ++
      keepOpenEvents ctx wireType events turns

def writeStream (ctx : RequestContext) (wireType : GoString) (stream : HTTPStream)
    (turns : List StreamTurn) : List Piece :=
  if stream.keepOpen then keepOpenEvents env ctx wireType stream.events turns
  else stream.events.flatMap fun ev =>
    frameEvent env wireType ev (renderEvent env ctx wireType ev.data)

/-- The end of `handleRequest`: headers, status, and the stream or the body. -/
def writeReply (ctx : RequestContext) (turns : List StreamTurn) (r : Reply) : Wire :=
  let w := writtenHeaders env r.headers
  match r.stream with
  | some stream =>
    if stream.events ≠ [] then
      .response r.status w (writeStream env ctx (w.getD contentType) stream turns)
    else .response r.status w [r.body]
  | none => .response r.status w [r.body]

def sanitizeHeaderLine (s : GoString) : GoString :=
  s.map fun b => if b = 0x0D ∨ b = 0x0A then 0x20 else b

/-- The headers `truncateResponse` writes itself, or drops. -/
def ownHeader (k : GoString) : Bool :=
  [go "Content-Type", go "X-Content-Type-Options", go "Content-Length",
    go "Transfer-Encoding"].any fun name => equalFold env.caseTable k name

inductive Hijack
  | unavailable
  | fails
  | works

/-- The type `truncateResponse` writes: what is set under the canonical name. -/
def truncatedType (headers : GoMap GoString) : GoString :=
  let ct := headers.getD contentType
  sanitizeHeaderLine (if ct = [] then go "application/octet-stream" else ct)

/-- `truncateResponse`.  A connection that cannot be taken over gets a normal response. -/
def truncateResponse (hijack : Hijack) (r : Reply) (n : ℤ) : Wire :=
  match hijack with
  | .unavailable => .response r.status (writtenHeaders env r.headers) [r.body]
  | .fails => .noResponse
  | .works =>
    .truncated r.status
      (((env.writeOrder.seq r.headers).filter fun p => !ownHeader env p.1).map fun p =>
        (sanitizeHeaderLine p.1, sanitizeHeaderLine p.2))
      (truncatedType r.headers) (r.body.text.length + 128)
      ⟨r.body.text.take n.toNat, r.body.origin⟩

end Mockly
