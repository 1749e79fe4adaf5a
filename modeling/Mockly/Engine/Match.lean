import Mockly.Engine.Render
import Mockly.State.Store

/-!
# Matching a request

A check of the state store may delete an expired key, so the store is threaded through the loop;
`now i` is the clock at the `i`-th mock. The loop also keeps the position of the mock it has
selected (`Selection`).
-/

namespace Mockly

open List

structure MatchInput where
  method : GoString
  path : GoString
  query : GoMap (List GoString)
  headers : GoMap GoString
  body : GoString

variable (env : Env)

/-! ## Patterns -/

def isRegex (pattern : GoString) : Bool := hasPrefix pattern (go "re:")

/-- The regular expression behind the `re:`; one that does not compile matches nothing. -/
def matchRegex (pattern text : GoString) : Bool :=
  match env.regexp (trimPrefix pattern (go "re:")) with
  | none => false
  | some matchString => matchString text

def matchMethod (want got : GoString) : Bool :=
  want == [] || want == go "*" || equalFold env.caseTable want got

/-- The loop of `matchPathSegments`, with the parameters captured so far. -/
def matchSegments (params : GoMap GoString) :
    List GoString → List GoString → Option (GoMap GoString)
  | [], _ => some params
  | _ :: _, [] => none
  | seg :: pp, s :: sp =>
    if seg = go "*" then matchSegments params pp sp
    else if hasPrefix seg (go "\x7b") && hasSuffix seg (go "\x7d") then
      let name := (seg.drop 1).dropLast
      matchSegments (if name = [] then params else params.set name s) pp sp
    else if seg ≠ s then none
    else matchSegments params pp sp

def matchPathSegments (pattern path : GoString) : Option (GoMap GoString) :=
  let pp := split pattern 0x2F
  let sp := split path 0x2F
  if pp.length ≠ sp.length then none else matchSegments ∅ pp sp

/-- `matchPath`: the captured parameters if the path matches. -/
def matchPath (pattern path : GoString) : Option (GoMap GoString) :=
  let matched (b : Bool) : Option (GoMap GoString) := if b then some ∅ else none
  if pattern = [] ∨ pattern = go "*" then some ∅
  else if isRegex pattern then matched (matchRegex env pattern path)
  else if hasSuffix pattern (go "/*") then
    let pre := trimSuffix pattern (go "/*")
    matched (path == pre || hasPrefix path (pre ++ go "/"))
  else if contains pattern (go "*") ||
      (contains pattern (go "\x7b") && contains pattern (go "\x7d")) then
    matchPathSegments pattern path
  else matched (pattern == path)

def matchPattern (pattern text : GoString) : Bool :=
  if pattern = [] ∨ pattern = go "*" then true
  else if isRegex pattern then matchRegex env pattern text
  else contains text pattern

/-- `matchQueryValue` and `matchAuthValue`: a regular expression or the very text. -/
def matchValue (pattern actual : GoString) : Bool :=
  if isRegex pattern then matchRegex env pattern actual else pattern == actual

def matchQueryValue (pattern actual : GoString) : Bool := matchValue env pattern actual

def matchAuthValue (pattern actual : GoString) : Bool := matchValue env pattern actual

/-! ## Headers and query -/

/-- Some key equals `name` up to case. -/
def hasHeader (headers : GoMap GoString) (name : GoString) : Bool :=
  headers.toList.any fun p => equalFold env.caseTable p.1 name

/-- The value of the first key met that equals `name` up to case. -/
def getHeader (headers : GoMap GoString) (name : GoString) : GoString :=
  match (env.lookupOrder.seq headers).find? fun p => equalFold env.caseTable p.1 name with
  | none => []
  | some p => p.2

/-- A header by its name as written, or else by its canonical name. -/
def lookupHeader (got : GoMap GoString) (k : GoString) : Option GoString :=
  (got.get? k).or (got.get? (canonicalHeaderKey k))

def matchHeaders (want got : GoMap GoString) : Bool :=
  want.toList.all fun p =>
    match lookupHeader got p.1 with
    | none => false
    | some actual => matchPattern env p.2 actual

/-- `queryAbsent`: the parameter must not be there. -/
def queryAbsent : GoString := go "!present"

/-- One parameter of `matchQuery`, against all values the request has for it. -/
def matchQueryKey (v : GoString) (values : List GoString) : Bool :=
  if v = queryAbsent then values.isEmpty
  else values.any fun actual => v == go "*" || matchQueryValue env v actual

def matchQuery (want : GoMap GoString) (got : GoMap (List GoString)) : Bool :=
  want.toList.all fun p => matchQueryKey env p.2 ((got.get? p.1).getD [])

def firstQueryValues (query : GoMap (List GoString)) : GoMap GoString :=
  GoMap.ofList (query.toList.filterMap fun p => p.2.head?.map fun v => (p.1, v))

lemma get?_firstQueryValues (query : GoMap (List GoString)) (k : GoString) :
    (firstQueryValues query).get? k = (query.get? k).bind List.head? := by
  have hkeys : ((query.toList.filterMap fun p => p.2.head?.map fun v => (p.1, v)).map
      Prod.fst).Nodup := by
    refine (GoMap.nodup_toList query).sublist ?_
    induction query.toList with
    | nil => simp
    | cons p l ih =>
      rw [filterMap_cons, map_cons]
      cases p.2.head? with
      | none => exact ih.cons _
      | some v => exact ih.cons_cons _
  have hmem (v : GoString) :
      (k, v) ∈ (query.toList.filterMap fun p => p.2.head?.map fun v => (p.1, v)) ↔
        (query.get? k).bind List.head? = some v := by
    simp only [mem_filterMap, Option.map_eq_some_iff, Prod.mk.injEq, Prod.exists,
      GoMap.mem_toList, Option.bind_eq_some_iff]
    constructor
    · rintro ⟨k', vs, hget, v', hhead, rfl, rfl⟩
      exact ⟨vs, hget, hhead⟩
    · rintro ⟨vs, hget, hhead⟩
      exact ⟨k, vs, hget, v, hhead, rfl, rfl⟩
  cases hfirst : (query.get? k).bind List.head? with
  | some v => exact GoMap.get?_setAll_of_mem hkeys ((hmem v).mpr hfirst) _
  | none =>
    refine GoMap.get?_setAll_of_notMem (fun hk => ?_) _
    obtain ⟨⟨k', v⟩, hp, rfl⟩ := mem_map.mp hk
    rw [(hmem v).mp hp] at hfirst
    cases hfirst

/-! ## Bodies -/

def matchBody (pattern body : GoString) : Bool := matchPattern env pattern body

def jsonPathGet : Json → List GoString → Option Json
  | v, [] => some v
  | .obj fields, k :: ks =>
    match fields.lookup k with
    | none => none
    | some next => jsonPathGet next ks
  | _, _ :: _ => none

def jsonValueString : Json → GoString
  | .str s => s
  | .num text => text
  | .bool b => if b then go "true" else go "false"
  | .null => go "null"
  | v => env.jsonMarshal v

/-- How the JSON, multipart and XML matchers compare a field they have found. -/
def matchField (expected actual : GoString) : Bool := expected == go "*" || actual == expected

/-- Every path of the mock has its value in the body. -/
def matchBodyJSON (want : GoMap GoString) (body : GoString) : Bool :=
  if body = [] then false
  else
    match env.jsonUnmarshal body with
    | none => false
    | some root =>
      want.toList.all fun p =>
        match jsonPathGet root (split p.1 0x2E) with
        | none => false
        | some actual => matchField p.2 (jsonValueString env actual)

def matchBodyForm (want : GoMap GoString) (body : GoString) (headers : GoMap GoString) : Bool :=
  if body = [] then false
  else
    match env.parseMediaType (getHeader env headers (go "Content-Type")) with
    | none => false
    | some (mediaType, _) =>
      if !equalFold env.caseTable mediaType (go "application/x-www-form-urlencoded") then false
      else
        match env.parseQuery body with
        | none => false
        | some values =>
          want.toList.all fun p =>
            ((values.get? p.1).getD []).any fun actual =>
              p.2 == go "*" || matchQueryValue env p.2 actual

/-- A text part under its name, a file as two attributes. -/
def multipartFields : GoMap GoString → List Part → GoMap GoString
  | fields, [] => fields
  | fields, part :: parts =>
    if part.formName = [] then multipartFields fields parts
    else if part.filename ≠ [] then
      multipartFields
        ((fields.set (part.formName ++ go ".filename") part.filename).set
          (part.formName ++ go ".content_type") part.contentType) parts
    else multipartFields (fields.set part.formName part.data) parts

def matchBodyMultipart (want : GoMap GoString) (body : GoString) (headers : GoMap GoString) :
    Bool :=
  if body = [] then false
  else
    match headers.get? (go "Content-Type") with
    | none => false
    | some contentType =>
      match env.parseMediaType contentType with
      | none => false
      | some (_, params) =>
        match params.get? (go "boundary") with
        | none => false
        | some boundary =>
          match env.multipartParts body boundary with
          | none => false
          | some parts =>
            let fields := multipartFields ∅ parts
            want.toList.all fun p =>
              match fields.get? p.1 with
              | none => false
              | some actual => matchField p.2 actual

inductive XMLNode
  | mk (attrs : GoMap GoString) (text : GoString) (children : List (GoString × XMLNode))

namespace XMLNode

def attrs : XMLNode → GoMap GoString
  | mk attrs _ _ => attrs

def text : XMLNode → GoString
  | mk _ text _ => text

def children : XMLNode → List (GoString × XMLNode)
  | mk _ _ children => children

/-- A later child takes the place of an earlier one of the same name. -/
def addChild (node : XMLNode) (name : GoString) (child : XMLNode) : XMLNode :=
  mk node.attrs node.text ((name, child) :: node.children.filter fun c => c.1 != name)

def addText (node : XMLNode) (t : GoString) : XMLNode :=
  mk node.attrs (node.text ++ t) node.children

end XMLNode

/-- The elements that are open, innermost first, and the last root that was closed. -/
structure XMLState where
  stack : List (GoString × XMLNode)
  root : Option XMLNode

/-- The innermost element is complete: it goes to its parent, or becomes the root. -/
def XMLState.close (s : XMLState) : XMLState :=
  match s.stack with
  | [] => s
  | [(_, node)] => ⟨[], some node⟩
  | (name, node) :: (pname, parent) :: rest => ⟨(pname, parent.addChild name node) :: rest, s.root⟩

/-- One token of the decoder. -/
def XMLState.step (s : XMLState) : XMLToken → XMLState
  | .start name attrs => { s with stack := (name, .mk (GoMap.ofList attrs) [] []) :: s.stack }
  | .charData t =>
    match s.stack with
    | [] => s
    | (name, node) :: rest => { s with stack := (name, node.addText (trimSpace t)) :: rest }
  | .end => s.close

/-- The code hangs a node into its parent when it opens; closing what is left open at the end gives
the same tree. -/
def parseXMLBody (body : GoString) : Option XMLNode :=
  match env.xmlTokens body with
  | none => none
  | some tokens =>
    let s := tokens.foldl XMLState.step ⟨[], none⟩
    (s.stack.foldl (fun s _ => s.close) s).root

/-- The text or attribute at a path. -/
def xmlPathGet : XMLNode → List GoString → Option GoString
  | _, [] => none
  | node, seg :: rest =>
    if hasPrefix seg (go "@") then node.attrs.get? (trimPrefix seg (go "@"))
    else
      match node.children.lookup seg with
      | none => none
      | some child => if rest = [] then some child.text else xmlPathGet child rest

/-- Every path of the mock has its text in the body. -/
def matchBodyXML (want : GoMap GoString) (body : GoString) : Bool :=
  if body = [] then false
  else
    match parseXMLBody env body with
    | none => false
    | some root =>
      want.toList.all fun p =>
        match xmlPathGet root (split p.1 0x2E) with
        | none => false
        | some actual => matchField p.2 actual

/-! ## State and authentication -/

/-- `matchState`.  Reading the store may remove an expired key from it. -/
def matchState (cond : Option StateCondition) (store : Option State.Store) (now : ℤ) :
    Bool × Option State.Store :=
  match cond, store with
  | some cond, some store =>
    let (v, store) := store.get cond.key now
    (v.1 == cond.value, some store)
  | _, _ => (true, store)

def authorizationHeader (headers : GoMap GoString) : GoString :=
  match headers.get? (go "Authorization") with
  | some v => v
  | none => headers.getD (go "authorization")

def matchBearerAuth (wantToken : GoString) (headers : GoMap GoString) : Bool :=
  let authHdr := authorizationHeader headers
  if !hasPrefix authHdr (go "Bearer ") then false
  else
    let token := trimSpace (authHdr.drop (go "Bearer ").length)
    if wantToken = [] ∨ wantToken = go "*" then token != []
    else matchAuthValue env wantToken token

/-- A credential that is not asked for, or asked for in full. -/
def matchCredential (want got : GoString) : Bool := want == [] || want == go "*" || got == want

def matchBasicAuth (wantUser wantPass : GoString) (headers : GoMap GoString) : Bool :=
  let authHdr := authorizationHeader headers
  if !hasPrefix authHdr (go "Basic ") then false
  else
    match env.base64Decode (trimSpace (authHdr.drop (go "Basic ").length)) with
    | none => false
    | some decoded =>
      if !decoded.contains 0x3A then false
      else
        matchCredential wantUser (decoded.takeWhile (· != 0x3A)) &&
          matchCredential wantPass ((decoded.dropWhile (· != 0x3A)).drop 1)

def matchAPIKey (headerName queryName wantValue : GoString) (headers query : GoMap GoString) :
    Bool :=
  let key : Option GoString :=
    if headerName ≠ [] then
      let got := headers.getD headerName
      some (if got = [] then headers.getD (canonicalHeaderKey headerName) else got)
    else if queryName ≠ [] then some (query.getD queryName)
    else none
  match key with
  | none => false
  | some got =>
    if wantValue = [] ∨ wantValue = go "*" then got != []
    else matchAuthValue env wantValue got

def ntlmSignature : GoString := go "NTLMSSP" ++ [0]

def ntlmToken (authHdr : GoString) : Option GoString :=
  if !hasPrefix authHdr (go "NTLM ") then none
  else
    match env.base64Decode (trimSpace (authHdr.drop (go "NTLM ").length)) with
    | none => none
    | some b => if b.length < 12 then none else some b

/-- A message of type 3 of the handshake. -/
def isNTLMType3 (authHdr : GoString) : Bool :=
  match ntlmToken env authHdr with
  | none => false
  | some b => hasPrefix b (ntlmSignature ++ [3])

/-- The credentials that a mock asks for. -/
def matchAuth (auth : HTTPAuth) (headers query : GoMap GoString) : Bool :=
  let type := toLower env.caseTable auth.type
  if type = go "bearer" then matchBearerAuth env auth.token headers
  else if type = go "basic" then matchBasicAuth env auth.username auth.password headers
  else if type = go "api_key" ∨ type = go "apikey" then
    matchAPIKey env auth.header auth.query auth.value headers query
  else if type = go "digest" then
    hasPrefix (trimSpace (authorizationHeader headers)) (go "Digest ")
  else if type = go "ntlm" then isNTLMType3 env (authorizationHeader headers)
  else false

/-! ## The loop -/

/-- The path check of a mock, by regular expression if it has one. -/
def matchRequestPath (want : HTTPRequest) (path : GoString) : Option (GoMap GoString) :=
  if want.pathRegex ≠ [] then
    match env.regexp want.pathRegex with
    | none => none
    | some matchString => if matchString path then some ∅ else none
  else matchPath env want.path path

/-- The checks of the body, each made only if the mock asks for it. -/
def matchBodies (want : HTTPRequest) (req : MatchInput) : Bool :=
  (want.body == [] || matchBody env want.body req.body) &&
    (want.bodyJSON.size == 0 || matchBodyJSON env want.bodyJSON req.body) &&
    (want.bodyForm.size == 0 || matchBodyForm env want.bodyForm req.body req.headers) &&
    (want.bodyMultipart.size == 0 ||
      matchBodyMultipart env want.bodyMultipart req.body req.headers) &&
    (want.bodyXML.size == 0 || matchBodyXML env want.bodyXML req.body)

/-- What a mock asks of the request. -/
def matchRequest (want : HTTPRequest) (req : MatchInput) : Option (GoMap GoString) :=
  if !matchMethod env want.method req.method then none
  else
    match matchRequestPath env want req.path with
    | none => none
    | some params =>
      if matchHeaders env want.headers req.headers && matchQuery env want.query req.query &&
          matchBodies env want req then some params
      else none

/-- All checks of one mock, and the store they leave behind. -/
def matchMock (req : MatchInput) (now : ℤ) (store : Option State.Store) (m : HTTPMock) :
    Option (GoMap GoString) × Option State.Store :=
  match matchRequest env m.request req with
  | none => (none, store)
  | some params =>
    let (ok, store) := matchState m.state store now
    let authOK := match m.request.auth with
      | none => true
      | some auth => matchAuth env auth req.headers (firstQueryValues req.query)
    (if ok && authOK then some params else none, store)

/-- The mock that answers, its position in the list, and the path parameters. -/
structure Selection where
  index : ℕ
  mock : HTTPMock
  params : GoMap GoString

/-- `i` is the position of the first mock left. -/
def selectMock (req : MatchInput) (now : ℕ → ℤ) (i : ℕ) (store : Option State.Store) :
    List HTTPMock → Option Selection × Option State.Store
  | [] => (none, store)
  | m :: ms =>
    match matchMock env req (now i) store m with
    | (some params, store) => (some ⟨i, m, params⟩, store)
    | (none, store) => selectMock req now (i + 1) store ms

structure MatchResult where
  mockID : GoString
  body : Piece
  headers : GoMap GoString
  status : ℤ
  delay : ℤ
  fault : Option MockFault
  stream : Option HTTPStream
  pathParams : GoMap GoString

def MatchInput.context (req : MatchInput) (params : GoMap GoString) : RequestContext where
  method := req.method
  path := req.path
  query := firstQueryValues req.query
  headers := req.headers
  body := req.body
  pathParams := params

/-- What a file reference says about the type counts only if the mock does not. -/
def inferContentType (headers : GoMap GoString) (bodyContentType : GoString) : GoMap GoString :=
  if bodyContentType ≠ [] ∧ !hasHeader env headers (go "Content-Type") then
    headers.set (go "Content-Type") bodyContentType
  else headers

def matchResult (req : MatchInput) (sel : Selection) : MatchResult :=
  let m := sel.mock
  let ctx := req.context sel.params
  let declared := getHeader env m.response.headers (go "Content-Type")
  let (body, bodyContentType) := renderHTTPBody env m.response.body ctx declared
  let rendered := m.response.headers.mapVals fun v => (render env v ctx).text
  { mockID := m.id
    body := body
    headers := inferContentType env rendered bodyContentType
    status := if m.response.status = 0 then 200 else m.response.status
    delay := m.response.delay
    fault := m.fault
    stream := m.response.stream
    pathParams := sel.params }

/-! ## What the loop selects -/

section Select

variable {env} {req : MatchInput} {now : ℕ → ℤ}

lemma matchRequest_eq_some {want : HTTPRequest} {params : GoMap GoString} :
    matchRequest env want req = some params ↔
      matchMethod env want.method req.method = true ∧
      matchRequestPath env want req.path = some params ∧
      matchHeaders env want.headers req.headers = true ∧
      matchQuery env want.query req.query = true ∧ matchBodies env want req = true := by
  simp only [matchRequest]
  cases matchMethod env want.method req.method with
  | false => simp
  | true =>
    cases matchRequestPath env want req.path with
    | none => simp
    | some params' => simp [and_assoc, and_comm, and_left_comm]

theorem selectMock_eq_some {mocks : List HTTPMock} {i : ℕ} {store : Option State.Store}
    {sel : Selection} (h : (selectMock env req now i store mocks).1 = some sel) :
    ∃ j, sel.index = i + j ∧ mocks[j]? = some sel.mock ∧
      matchRequest env sel.mock.request req = some sel.params := by
  induction mocks generalizing i store with
  | nil => cases h
  | cons m ms ih =>
    simp only [selectMock] at h
    split at h
    · rename_i params store' hm
      cases h
      refine ⟨0, rfl, rfl, ?_⟩
      simp only [matchMock] at hm
      split at hm
      · cases hm
      · rename_i params' hreq
        simp only [Prod.mk.injEq, Option.ite_none_right_eq_some] at hm
        rw [hreq, hm.1.2]
    · obtain ⟨j, hj, hget, hreq⟩ := ih h
      exact ⟨j + 1, by omega, by simpa using hget, hreq⟩

/-- The mocks behind a list are looked at when the list has none that matches. -/
lemma selectMock_append (mocks rest : List HTTPMock) (i : ℕ) (store : Option State.Store) :
    selectMock env req now i store (mocks ++ rest) =
      match selectMock env req now i store mocks with
      | (some sel, store) => (some sel, store)
      | (none, store) => selectMock env req now (i + mocks.length) store rest := by
  induction mocks generalizing i store with
  | nil => simp [selectMock]
  | cons m ms ih =>
    simp only [cons_append, selectMock]
    cases matchMock env req (now i) store m with
    | mk found store' =>
      cases found with
      | some params => rfl
      | none =>
        dsimp only
        rw [ih, length_cons, show i + 1 + ms.length = i + (ms.length + 1) by omega]

lemma selectMock_mem {mocks : List HTTPMock} {i : ℕ} {store : Option State.Store}
    {sel : Selection} (h : (selectMock env req now i store mocks).1 = some sel) :
    sel.mock ∈ mocks := by
  obtain ⟨j, -, hget, -⟩ := selectMock_eq_some h
  exact mem_of_getElem? hget

end Select

end Mockly
