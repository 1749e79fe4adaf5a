import Mockly.Engine.Env

/-!
# Rendering

A rendered text remembers where it comes from (`Origin`): the safety of an HTML page depends on
request data having gone through the escaping engine.
-/

namespace Mockly

/-- Where a piece of a response body comes from. -/
inductive Origin
  /-- A text fixed by the configuration or the program. -/
  | fixed
  | plain
  | html
  /-- The report of why no mock matched the request. -/
  | diagnosis
  /-- Relayed from the upstream server in record mode. -/
  | upstream
  deriving DecidableEq

def Origin.requestDependent : Origin → Bool
  | .plain => true
  | .html => true
  | .diagnosis => true
  | .fixed => false
  | .upstream => false

structure Piece where
  text : GoString
  origin : Origin
  deriving DecidableEq

def Piece.fixed (text : GoString) : Piece := ⟨text, .fixed⟩

variable (env : Env)

/-! ## Templates -/

def templateOpen : GoString := go "\x7b\x7b"

/-- `renderTemplate` and `renderTemplateHTML`, which differ in the engine they call. -/
def renderWith (engine : GoString → RequestContext → Option GoString) (origin : Origin)
    (tmpl : GoString) (req : RequestContext) : Option Piece :=
  if !contains tmpl templateOpen then some (.fixed tmpl)
  else (engine tmpl req).map fun out => ⟨out, origin⟩

def renderTemplate (tmpl : GoString) (req : RequestContext) : Option Piece :=
  renderWith env.textTemplate .plain tmpl req

def renderTemplateHTML (tmpl : GoString) (req : RequestContext) : Option Piece :=
  renderWith env.htmlTemplate .html tmpl req

/-- `Render`: the original text when the template fails. -/
def render (tmpl : GoString) (req : RequestContext) : Piece :=
  (renderTemplate env tmpl req).getD (.fixed tmpl)

def renderHTML (tmpl : GoString) (req : RequestContext) : Piece :=
  (renderTemplateHTML env tmpl req).getD (.fixed tmpl)

/-- The text is made by the engine that does not escape. -/
def executesPlain (tmpl : GoString) (req : RequestContext) : Bool :=
  contains tmpl templateOpen && (env.textTemplate tmpl req).isSome

lemma render_eq_of_not_template {tmpl : GoString} (h : contains tmpl templateOpen = false)
    (req : RequestContext) : render env tmpl req = .fixed tmpl := by
  simp [render, renderTemplate, renderWith, h]

lemma renderHTML_eq_of_not_template {tmpl : GoString} (h : contains tmpl templateOpen = false)
    (req : RequestContext) : renderHTML env tmpl req = .fixed tmpl := by
  simp [renderHTML, renderTemplateHTML, renderWith, h]

lemma render_origin (tmpl : GoString) (req : RequestContext) :
    (render env tmpl req).origin = if executesPlain env tmpl req then .plain else .fixed := by
  unfold render renderTemplate renderWith executesPlain
  cases contains tmpl templateOpen with
  | false => simp [Piece.fixed]
  | true => cases h : env.textTemplate tmpl req <;> simp [Piece.fixed]

lemma renderHTML_origin (tmpl : GoString) (req : RequestContext) :
    (renderHTML env tmpl req).origin = .html ∨ (renderHTML env tmpl req).origin = .fixed := by
  simp only [renderHTML, renderTemplateHTML, renderWith]
  cases contains tmpl templateOpen with
  | false => simp [Piece.fixed]
  | true => cases h : env.htmlTemplate tmpl req <;> simp [Piece.fixed]

/-! ## Content types -/

def isHTMLContentType (ct : GoString) : Bool :=
  match env.parseMediaType ct with
  | none =>
    let lc := toLower env.caseTable ct
    contains lc (go "text/html") || contains lc (go "application/xhtml+xml")
  | some (mt, _) =>
    equalFold env.caseTable mt (go "text/html") ||
      equalFold env.caseTable mt (go "application/xhtml+xml")

/-- The types of `IsBinaryContentType` that are listed one by one. -/
def binaryTypes : List GoString :=
  [go "application/octet-stream", go "application/pdf", go "application/wasm",
    go "application/vnd.ms-fontobject", go "audio/mpeg", go "audio/wav", go "audio/ogg",
    go "video/mp4", go "video/webm", go "video/ogg"]

def isBinaryContentType (contentType : GoString) : Bool :=
  let ct := trimSpace ((toLower env.caseTable contentType).takeWhile (· != 0x3B))
  if ct = [] then false
  else hasPrefix ct (go "image/") || hasPrefix ct (go "font/") || binaryTypes.contains ct

/-! ## Bodies -/

/-- `HTTPBody.Resolve`: the content, and for a file its inferred content type. -/
def HTTPBody.resolve (b : HTTPBody) : Except GoString (GoString × GoString) :=
  if b.file = [] then .ok (b.literal, [])
  else
    let path := if b.resolvedFile = [] then b.file else b.resolvedFile
    match env.readFile path with
    | .error err => .error (go "reading body file " ++ env.quote b.file ++ go ": " ++ err)
    | .ok data => .ok (data, env.typeByExtension path)

/-- `RenderHTTPBody`: the rendered body and, for a file, its inferred content type. -/
def renderHTTPBody (body : HTTPBody) (req : RequestContext) (declared : GoString) :
    Piece × GoString :=
  match body.resolve env with
  | .error err => (.fixed (go "mockly: " ++ err), [])
  | .ok (content, ct) =>
    if isBinaryContentType env ct || isBinaryContentType env declared then (.fixed content, ct)
    else if isHTMLContentType env ct || isHTMLContentType env declared then
      (renderHTML env content req, ct)
    else (render env content req, ct)

/-- The text of the body is a template that executes, and neither the inferred nor the declared type
is binary or HTML. -/
def bodyExecutesPlain (body : HTTPBody) (req : RequestContext) (declared : GoString) : Bool :=
  match body.resolve env with
  | .error _ => false
  | .ok (content, ct) =>
    !isBinaryContentType env ct && !isBinaryContentType env declared &&
      !isHTMLContentType env ct && !isHTMLContentType env declared &&
      executesPlain env content req

/-- **A body that is not run through the plain engine is fixed or escaped.** -/
theorem renderHTTPBody_origin (body : HTTPBody) (req : RequestContext) (declared : GoString) :
    (renderHTTPBody env body req declared).1.origin = .plain ↔
      bodyExecutesPlain env body req declared = true := by
  simp only [renderHTTPBody, bodyExecutesPlain]
  cases body.resolve env with
  | error err => simp [Piece.fixed]
  | ok p =>
    obtain ⟨content, ct⟩ := p
    dsimp only
    by_cases hb : isBinaryContentType env ct = true ∨ isBinaryContentType env declared = true
    · rcases hb with hb | hb <;> simp [hb, Piece.fixed]
    · rw [not_or] at hb
      by_cases hh : isHTMLContentType env ct = true ∨ isHTMLContentType env declared = true
      · have hne := renderHTML_origin env content req
        rcases hh with hh | hh <;> rcases hne with hne | hne <;> simp [hb, hh, hne]
      · rw [not_or] at hh
        have ho := render_origin env content req
        cases he : executesPlain env content req <;> simp [hb, hh, ho, he]

lemma renderHTTPBody_origin_cases (body : HTTPBody) (req : RequestContext)
    (declared : GoString) :
    (renderHTTPBody env body req declared).1.origin = .fixed ∨
      (renderHTTPBody env body req declared).1.origin = .plain ∨
      (renderHTTPBody env body req declared).1.origin = .html := by
  simp only [renderHTTPBody]
  split
  · exact .inl rfl
  · split
    · exact .inl rfl
    · split
      · rcases renderHTML_origin env _ req with h | h
        · exact .inr (.inr h)
        · exact .inl h
      · rw [render_origin]
        split
        · exact .inr (.inl rfl)
        · exact .inl rfl

/-- A literal that is no template is its own rendering, whatever type is declared. -/
lemma renderHTTPBody_literal {text : GoString} (h : contains text templateOpen = false)
    (req : RequestContext) (declared : GoString) :
    renderHTTPBody env (newHTTPBodyLiteral text) req declared = (.fixed text, []) := by
  simp only [renderHTTPBody, HTTPBody.resolve, newHTTPBodyLiteral, if_true]
  split
  · rfl
  · split
    · rw [renderHTML_eq_of_not_template env h]
    · rw [render_eq_of_not_template env h]

end Mockly
