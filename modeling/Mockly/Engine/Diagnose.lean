import Mockly.Engine.Match

/-!
# Near misses

`HTTPDiagnose`: for a request that nothing matched, the first check that rejected each mock, the
mocks that came furthest first.  The server writes the report into its 404 response when a client
asks for it.
-/

namespace Mockly

/-- The first check that rejected a mock. -/
structure NearMiss where
  mockID : GoString
  reason : GoString

def httpDiagnoseTopN : ℕ := 3

variable (env : Env)

def firstFailingHeader (want got : GoMap GoString) : GoString :=
  let reason : GoString × GoString → Option GoString := fun (k, v) =>
    match lookupHeader got k with
    | none => some (go "header " ++ env.quote k ++ go " was not present")
    | some actual =>
      if matchPattern env v actual then none
      else some (go "header " ++ env.quote k ++ go " value " ++ env.quote actual ++
        go " did not match " ++ env.quote v)
  ((env.lookupOrder.seq want).findSome? reason).getD (go "header mismatch")

/-- The reason of the first query parameter that does not match. -/
def firstFailingQuery (want : GoMap GoString) (got : GoMap (List GoString)) : GoString :=
  let reason : GoString × GoString → Option GoString := fun (k, v) =>
    let values := (got.get? k).getD []
    if matchQueryKey env v values then none
    else if v = queryAbsent then
      some (go "query " ++ env.quote k ++ go " must be absent but was present")
    else if values = [] then some (go "query " ++ env.quote k ++ go " was not present")
    else
      some (go "query " ++ env.quote k ++ go " value(s) [" ++ join values (go " ") ++
        go "] did not match " ++ env.quote v)
  ((env.lookupOrder.seq want).findSome? reason).getD (go "query mismatch")

/-- The checks before the state, in their order, with what a failure is reported as. -/
def diagnosedChecks (want : HTTPRequest) (req : MatchInput) : List (Bool × GoString) :=
  [(matchMethod env want.method req.method,
      go "method mismatch: mock requires " ++
        env.quote (if want.method = [] then go "*" else want.method) ++ go ", got " ++
        env.quote req.method),
    ((matchRequestPath env want req.path).isSome,
      (if want.pathRegex ≠ [] then go "path_regex " ++ env.quote want.pathRegex
        else go "path " ++ env.quote want.path) ++ go " did not match " ++ env.quote req.path),
    (matchHeaders env want.headers req.headers,
      firstFailingHeader env want.headers req.headers),
    (matchQuery env want.query req.query, firstFailingQuery env want.query req.query),
    (want.body == [] || matchBody env want.body req.body,
      go "body did not match pattern " ++ env.quote want.body),
    (want.bodyJSON.size == 0 || matchBodyJSON env want.bodyJSON req.body,
      go "body_json field(s) did not match"),
    (want.bodyForm.size == 0 || matchBodyForm env want.bodyForm req.body req.headers,
      go "body_form field(s) did not match"),
    (want.bodyMultipart.size == 0 || matchBodyMultipart env want.bodyMultipart req.body req.headers,
      go "body_multipart field(s) did not match"),
    (want.bodyXML.size == 0 || matchBodyXML env want.bodyXML req.body,
      go "body_xml field(s) did not match")]

/-- The reason a mock was rejected for, how many checks it had passed, and the store afterwards. -/
def diagnoseMock (req : MatchInput) (now : ℤ) (store : Option State.Store) (m : HTTPMock) :
    (NearMiss × ℕ) × Option State.Store :=
  let checks := diagnosedChecks env m.request req
  let passed := checks.takeWhile Prod.fst
  match checks.drop passed.length with
  | (_, reason) :: _ => ((⟨m.id, reason⟩, passed.length), store)
  | [] =>
    let (ok, store) := matchState m.state store now
    if !ok then ((⟨m.id, go "state condition not satisfied"⟩, 9), store)
    else
      match m.request.auth with
      | some auth =>
        if matchAuth env auth req.headers (firstQueryValues req.query) then
          ((⟨m.id, go "matches all checks (unexpected — check mock ordering/state)"⟩, 11), store)
        else ((⟨m.id, go "authentication failed"⟩, 10), store)
      | none =>
        ((⟨m.id, go "matches all checks (unexpected — check mock ordering/state)"⟩, 11), store)

def diagnoseAll (req : MatchInput) (now : ℕ → ℤ) (i : ℕ) (store : Option State.Store) :
    List HTTPMock → List (NearMiss × ℕ) × Option State.Store
  | [] => ([], store)
  | m :: ms =>
    let (c, store) := diagnoseMock env req (now i) store m
    let (cs, store) := diagnoseAll req now (i + 1) store ms
    (c :: cs, store)

/-- `HTTPDiagnose`: the candidates that passed most checks, at most three of them. -/
def httpDiagnose (req : MatchInput) (now : ℕ → ℤ) (store : Option State.Store)
    (mocks : List HTTPMock) : List NearMiss × Option State.Store :=
  let (candidates, store) := diagnoseAll env req now 0 store mocks
  let sorted := candidates.mergeSort fun c d => decide (d.2 ≤ c.2)
  ((sorted.take httpDiagnoseTopN).map Prod.fst, store)

def nearMissBody (nearMisses : List NearMiss) : GoString :=
  env.jsonMarshal (.obj
    [(go "error", .str (go "no mock matched")),
      (go "near_misses", .arr (nearMisses.map fun n =>
        .obj [(go "mock_id", .str n.mockID), (go "reason", .str n.reason)]))])

end Mockly
