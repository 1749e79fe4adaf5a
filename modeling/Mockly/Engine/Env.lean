import Mockly.Config.HTTP

/-!
# What the engine is given

What is not modelled is collected in `Env`. A template engine is a function of the template and the
request context; its random and time functions make it a different function at every request, so an
`Env` belongs to a request and not to a server.
-/

namespace Mockly

/-- A decoded JSON value.  A number is kept as `jsonValueString` prints it. -/
inductive Json
  | null
  | bool (b : Bool)
  | num (text : GoString)
  | str (s : GoString)
  | arr (vs : List Json)
  | obj (fields : List (GoString × Json))

/-- The tokens of an XML document that `parseXMLBody` looks at, with local names. -/
inductive XMLToken
  | start (name : GoString) (attrs : List (GoString × GoString))
  | charData (text : GoString)
  | end

/-- A part of a multipart body; an empty `filename` means that it is not a file. -/
structure Part where
  formName : GoString
  filename : GoString
  contentType : GoString
  data : GoString

/-- `RequestContext`: what a response template can refer to. -/
structure RequestContext where
  method : GoString
  path : GoString
  query : GoMap GoString
  headers : GoMap GoString
  body : GoString
  pathParams : GoMap GoString

structure Env where
  caseTable : CaseTable
  /-- `regexp.Compile`, and `MatchString` of the result. -/
  regexp : GoString → Option (GoString → Bool)
  /-- `mime.ParseMediaType`. -/
  parseMediaType : GoString → Option (GoString × GoMap GoString)
  /-- `json.Unmarshal` into an `interface{}`. -/
  jsonUnmarshal : GoString → Option Json
  /-- `json.Marshal` of an array or an object. -/
  jsonMarshal : Json → GoString
  /-- `url.ParseQuery`. -/
  parseQuery : GoString → Option (GoMap (List GoString))
  /-- All parts of a multipart body with the given boundary, or the error on the way. -/
  multipartParts : GoString → GoString → Option (List Part)
  /-- All tokens of an XML document, or the error on the way. -/
  xmlTokens : GoString → Option (List XMLToken)
  /-- `base64.StdEncoding`. -/
  base64Decode : GoString → Option GoString
  base64Encode : GoString → GoString
  /-- `text/template`: parse and execute. -/
  textTemplate : GoString → RequestContext → Option GoString
  /-- `html/template`: parse and execute, escaping what is interpolated. -/
  htmlTemplate : GoString → RequestContext → Option GoString
  /-- `os.ReadFile`, or the text of its error. -/
  readFile : GoString → Except GoString GoString
  /-- `mime.TypeByExtension(filepath.Ext(path))`. -/
  typeByExtension : GoString → GoString
  /-- `strconv.Quote`. -/
  quote : GoString → GoString
  /-- The order in which `getHeader` ranges over a map. -/
  lookupOrder : RangeOrder GoString
  /-- The order in which the headers of a response are set. -/
  writeOrder : RangeOrder GoString

/-- An environment to run the servers in. Every template echoes the query parameter `name`, and the
escaping engine drops what could open a tag. -/
def Env.basic : Env where
  caseTable := asciiTable
  regexp := fun _ => none
  parseMediaType := fun ct =>
    let mt := trimSpace (toLower asciiTable (ct.takeWhile (· != 0x3B)))
    if mt = [] then none else some (mt, ∅)
  jsonUnmarshal := fun _ => none
  jsonMarshal := fun _ => []
  parseQuery := fun _ => none
  multipartParts := fun _ _ => none
  xmlTokens := fun _ => none
  base64Decode := fun _ => none
  base64Encode := id
  textTemplate := fun _ ctx => some (ctx.query.getD (go "name"))
  htmlTemplate := fun _ ctx => some ((ctx.query.getD (go "name")).filter (· != 0x3C))
  readFile := fun _ => .error (go "no such file")
  typeByExtension := fun _ => []
  quote := id
  lookupOrder := .stored _
  writeOrder := .stored _

end Mockly
