import Mockly.Engine.Match

/-!
# Documents and the paths of `body_xml`

The meaning of a path is said on the tree of the document (`Content`, `Resolves`). The code reads
tokens and keeps the open elements on a stack (`Filled`).
-/

namespace Mockly.XML

open GoMap List

/-! ## Documents -/

/-- What is between the tags of an element. -/
inductive Content
  | nil
  | text (chunk : GoString) (rest : Content)
  | element (name : GoString) (attrs : List (GoString × GoString)) (inside rest : Content)

structure Element where
  name : GoString
  attrs : List (GoString × GoString)
  inside : Content

namespace Content

def tokens : Content → List XMLToken
  | nil => []
  | text chunk rest => .charData chunk :: rest.tokens
  | element name attrs inside rest => .start name attrs :: (inside.tokens ++ .end :: rest.tokens)

/-- The texts directly inside, white space trimmed, one after the other. -/
def directText : Content → GoString
  | nil => []
  | text chunk rest => trimSpace chunk ++ rest.directText
  | element _ _ _ rest => rest.directText

def children : Content → List Element
  | nil => []
  | text _ rest => rest.children
  | element name attrs inside rest => ⟨name, attrs, inside⟩ :: rest.children

end Content

structure Document where
  before : List GoString
  root : Element
  after : List GoString

def Document.tokens (d : Document) : List XMLToken :=
  d.before.map .charData ++
    .start d.root.name d.root.attrs :: (d.root.inside.tokens ++ .end :: d.after.map .charData)

/-- The last child of that name, which counts. -/
def lastNamed (name : GoString) (es : List Element) : Option Element :=
  (es.filter fun e => e.name = name).getLast?

def lastAttr (name : GoString) (attrs : List (GoString × GoString)) : Option GoString :=
  ((attrs.filter fun a => a.1 = name).getLast?).map Prod.snd

/-- What a path stands for, from an element on. -/
inductive Resolves : Element → List GoString → GoString → Prop
  | attr {e : Element} {name value : GoString} (h : lastAttr name e.attrs = some value) :
      Resolves e [go "@" ++ name] value
  | text {e child : Element} {seg : GoString} (hseg : hasPrefix seg (go "@") = false)
      (h : lastNamed seg e.inside.children = some child) :
      Resolves e [seg] child.inside.directText
  | descend {e child : Element} {seg value : GoString} {rest : List GoString}
      (hseg : hasPrefix seg (go "@") = false)
      (h : lastNamed seg e.inside.children = some child) (hrest : rest ≠ [])
      (hvalue : Resolves child rest value) : Resolves e (seg :: rest) value

/-- An attribute is asked for at the end of a path only. -/
def AttrLast (path : List GoString) : Prop := ∀ seg ∈ path.dropLast, hasPrefix seg (go "@") = false

/-! ## Paths -/

variable {seg : GoString}

lemma AttrLast.tail {rest : List GoString} (h : AttrLast (seg :: rest)) (hrest : rest ≠ []) :
    hasPrefix seg (go "@") = false ∧ AttrLast rest := by
  rw [AttrLast, dropLast_cons_of_ne_nil hrest] at h
  exact forall_mem_cons.mp h

lemma hasPrefix_at_iff : hasPrefix seg (go "@") = true ↔ ∃ name, seg = go "@" ++ name := by
  rw [hasPrefix, List.isPrefixOf_iff_prefix]
  exact exists_congr fun name => eq_comm

variable (name : GoString)

lemma trimPrefix_at : trimPrefix (go "@" ++ name) (go "@") = name := by
  have hprefix : hasPrefix (go "@" ++ name) (go "@") = true := hasPrefix_at_iff.mpr ⟨name, rfl⟩
  rw [trimPrefix, if_pos hprefix]
  rfl

variable {e : Element}

lemma resolves_attr_iff {name value : GoString} :
    Resolves e [go "@" ++ name] value ↔ lastAttr name e.attrs = some value := by
  have hat : hasPrefix (go "@" ++ name) (go "@") = true := hasPrefix_at_iff.mpr ⟨name, rfl⟩
  constructor
  · intro h
    generalize hpath : [go "@" ++ name] = path at h
    cases h with
    | attr h =>
      obtain rfl : name = _ := append_cancel_left (singleton_inj.mp hpath)
      exact h
    | text hseg h =>
      rw [← singleton_inj.mp hpath, hat] at hseg
      cases hseg
    | descend hseg h hrest hvalue => exact absurd (List.cons.inj hpath).2.symm hrest
  · exact .attr

lemma resolves_cons_iff {value : GoString} {rest : List GoString}
    (hseg : hasPrefix seg (go "@") = false) :
    Resolves e (seg :: rest) value ↔ ∃ child, lastNamed seg e.inside.children = some child ∧
      (rest = [] ∧ child.inside.directText = value ∨ rest ≠ [] ∧ Resolves child rest value) := by
  constructor
  · intro h
    cases h with
    | attr h =>
      rw [hasPrefix_at_iff.mpr ⟨_, rfl⟩] at hseg
      cases hseg
    | text hseg h => exact ⟨_, h, Or.inl ⟨rfl, rfl⟩⟩
    | descend hseg h hrest hvalue => exact ⟨_, h, Or.inr ⟨hrest, hvalue⟩⟩
  · rintro ⟨child, h, ⟨rfl, rfl⟩ | ⟨hrest, hvalue⟩⟩
    · exact .text hseg h
    · exact .descend hseg h hrest hvalue

/-! ## Nodes -/

/-- The node answers every path as the element does. -/
structure Agree (node : XMLNode) (e : Element) : Prop where
  text : node.text = e.inside.directText
  get_iff : ∀ path, AttrLast path → ∀ value,
    xmlPathGet node path = some value ↔ Resolves e path value

/-- A node that holds attributes, a text and children. -/
structure Filled (node : XMLNode) (attrs : List (GoString × GoString)) (text : GoString)
    (children : List Element) : Prop where
  attr_eq : ∀ a, node.attrs.get? a = lastAttr a attrs
  text_eq : node.text = text
  child_none : ∀ name, lastNamed name children = none → node.children.lookup name = none
  child_some : ∀ name e, lastNamed name children = some e →
    ∃ c, node.children.lookup name = some c ∧ Agree c e

/-- **A node that holds all of an element answers as the element does**, along every path with an
attribute at the end only. -/
lemma Filled.agree {node : XMLNode}
    (h : Filled node e.attrs e.inside.directText e.inside.children) :
    Agree node e := by
  refine ⟨h.text_eq, fun path hpath value => ?_⟩
  cases path with
  | nil =>
    refine iff_of_false (by simp [xmlPathGet]) fun h => ?_
    cases h
  | cons seg rest =>
    rw [xmlPathGet]
    by_cases hat : hasPrefix seg (go "@") = true
    · obtain rfl : rest = [] := by
        by_contra hrest
        rw [(hpath.tail hrest).1] at hat
        cases hat
      obtain ⟨name, rfl⟩ := hasPrefix_at_iff.mp hat
      rw [if_pos hat, resolves_attr_iff, trimPrefix_at, h.attr_eq]
    · rw [if_neg hat, resolves_cons_iff (by simpa using hat)]
      cases hchild : lastNamed seg e.inside.children with
      | none => simp [h.child_none seg hchild]
      | some child =>
        obtain ⟨c, hc, hagree⟩ := h.child_some seg child hchild
        by_cases hrest : rest = []
        · simp [hc, hrest, hagree.text]
        · simp [hc, hrest, hagree.get_iff rest (hpath.tail hrest).2]

/-! ## Reading into nodes -/

lemma lastNamed_concat (es : List Element) (e : Element) :
    lastNamed name (es ++ [e]) = if e.name = name then some e else lastNamed name es := by
  rw [lastNamed, filter_append]
  split_ifs with h
  · simp [h]
  · simp [h, lastNamed]

lemma get?_ofList (attrs : List (GoString × GoString)) (name : GoString) :
    (ofList attrs).get? name = lastAttr name attrs := by
  have hall : ∀ m : GoMap GoString,
      (m.setAll attrs).get? name = (lastAttr name attrs).or (m.get? name) := by
    induction attrs with
    | nil => exact fun m => rfl
    | cons a attrs ih =>
      intro m
      rw [setAll_cons, ih, get?_set, lastAttr, lastAttr, filter_cons]
      by_cases ha : a.1 = name
      · cases hrest : (attrs.filter fun a => a.1 = name) with
        | nil => simp [ha]
        | cons b l =>
          rw [if_pos (decide_eq_true ha), List.getLast?_cons_cons,
            List.getLast?_eq_some_getLast (cons_ne_nil b l)]
          rfl
      · simp [ha, Ne.symm ha]
  rw [ofList, hall, get?_empty, Option.or_none]

section Values

variable {node : XMLNode} {attrs : List (GoString × GoString)} {text : GoString}
  {children : List Element}

lemma filled_open (attrs : List (GoString × GoString)) :
    Filled (.mk (ofList attrs) [] []) attrs [] [] where
  attr_eq := get?_ofList attrs
  text_eq := rfl
  child_none := fun _ _ => rfl
  child_some := fun name e h => by simp [lastNamed] at h

lemma Filled.addText (h : Filled node attrs text children) (t : GoString) :
    Filled (node.addText t) attrs (text ++ t) children where
  attr_eq := h.attr_eq
  text_eq := congrArg (· ++ t) h.text_eq
  child_none := h.child_none
  child_some := h.child_some

lemma lookup_filter_ne {name name' : GoString} (l : List (GoString × XMLNode)) (h : name' ≠ name) :
    (l.filter fun c => c.1 != name).lookup name' = l.lookup name' := by
  induction l with
  | nil => rfl
  | cons c l ih =>
    by_cases hc : c.1 = name
    · have hskip : (name' == c.1) = false := beq_eq_false_iff_ne.mpr (hc ▸ h)
      rw [filter_cons_of_neg (by simp [hc]), ih, lookup_cons, hskip]
    · rw [filter_cons_of_pos (by simpa using hc), lookup_cons, lookup_cons, ih]

lemma lookup_addChild (node child : XMLNode) (name name' : GoString) :
    (node.addChild name child).children.lookup name' =
      if name = name' then some child else node.children.lookup name' := by
  have hchildren : (node.addChild name child).children =
      (name, child) :: node.children.filter fun c => c.1 != name := rfl
  rw [hchildren, lookup_cons]
  split_ifs with h
  · simp [h]
  · have hne : (name' == name) = false := beq_eq_false_iff_ne.mpr (Ne.symm h)
    rw [hne]
    exact lookup_filter_ne node.children (Ne.symm h)

lemma Filled.addChild (h : Filled node attrs text children) {child : XMLNode}
    (hchild : Agree child e) :
    Filled (node.addChild e.name child) attrs text (children ++ [e]) where
  attr_eq := h.attr_eq
  text_eq := h.text_eq
  child_none := by
    intro name hnone
    rw [lastNamed_concat] at hnone
    split_ifs at hnone with hname
    rw [lookup_addChild, if_neg hname, h.child_none name hnone]
  child_some := by
    intro name e' hsome
    rw [lastNamed_concat] at hsome
    rw [lookup_addChild]
    split_ifs at hsome ⊢ with hname
    · obtain rfl := Option.some.inj hsome
      exact ⟨child, rfl, hchild⟩
    · exact h.child_some name e' hsome

/-- **Reading the content of an element fills its node.** -/
lemma foldl_step_tokens (c : Content) (h : Filled node attrs text children)
    (name : GoString) (rest : List (GoString × XMLNode)) (root : Option XMLNode) :
    ∃ node', c.tokens.foldl XMLState.step ⟨(name, node) :: rest, root⟩ =
        ⟨(name, node') :: rest, root⟩ ∧
      Filled node' attrs (text ++ c.directText) (children ++ c.children) := by
  induction c generalizing node attrs text children name rest with
  | nil => exact ⟨node, rfl, by simpa [Content.directText, Content.children] using h⟩
  | text chunk c ih =>
    obtain ⟨node', hrun, hfilled⟩ := ih (h.addText (trimSpace chunk)) name rest
    refine ⟨node', hrun, ?_⟩
    simpa [Content.directText, Content.children] using hfilled
  | element childName childAttrs inside c ihinside ihrest =>
    obtain ⟨child, hchild, hfilled⟩ :=
      ihinside (filled_open childAttrs) childName ((name, node) :: rest)
    have hagree : Agree child ⟨childName, childAttrs, inside⟩ :=
      Filled.agree (by simpa using hfilled)
    obtain ⟨node', hrun, hfilled'⟩ := ihrest (h.addChild hagree) name rest
    refine ⟨node', ?_, by simpa [Content.directText, Content.children] using hfilled'⟩
    rw [Content.tokens, foldl_cons, foldl_append, foldl_cons]
    have hopen : XMLState.step ⟨(name, node) :: rest, root⟩ (.start childName childAttrs) =
        ⟨(childName, .mk (ofList childAttrs) [] []) :: (name, node) :: rest, root⟩ := rfl
    rw [hopen, hchild]
    exact hrun

lemma foldl_step_charData (texts : List GoString) (root : Option XMLNode) :
    (texts.map XMLToken.charData).foldl XMLState.step ⟨[], root⟩ = ⟨[], root⟩ := by
  induction texts with
  | nil => rfl
  | cons t texts ih => exact ih

lemma parseXMLBody_document {env : Env} {body : GoString} {d : Document}
    (h : env.xmlTokens body = some d.tokens) :
    ∃ node, parseXMLBody env body = some node ∧ Agree node d.root := by
  obtain ⟨node, hrun, hfilled⟩ :=
    foldl_step_tokens d.root.inside (filled_open d.root.attrs) d.root.name [] none
  refine ⟨node, ?_, Filled.agree (by simpa using hfilled)⟩
  have hopen : XMLState.step ⟨[], none⟩ (.start d.root.name d.root.attrs) =
      ⟨[(d.root.name, .mk (ofList d.root.attrs) [] [])], none⟩ := rfl
  have hclose : XMLState.step ⟨[(d.root.name, node)], none⟩ .end = ⟨[], some node⟩ := rfl
  have htokens : d.tokens.foldl XMLState.step ⟨[], none⟩ = ⟨[], some node⟩ := by
    rw [Document.tokens, foldl_append, foldl_step_charData, foldl_cons, hopen,
      foldl_append, hrun, foldl_cons, hclose, foldl_step_charData]
  simp [parseXMLBody, h, htokens]

end Values

/-! ## The check of a body -/

/-- What is expected at the end of a path, and what is there. -/
def fieldFound (expected : GoString) : Option GoString → Bool
  | none => false
  | some actual => matchField expected actual

lemma fieldFound_iff {expected : GoString} {found : Option GoString} :
    fieldFound expected found = true ↔
      ∃ value, found = some value ∧ (expected = go "*" ∨ value = expected) := by
  cases found <;> simp [fieldFound, matchField]

lemma matchBodyXML_eq {env : Env} {body : GoString} (hne : body ≠ []) {node : XMLNode}
    (h : parseXMLBody env body = some node) (want : GoMap GoString) :
    matchBodyXML env want body =
      want.toList.all fun p => fieldFound p.2 (xmlPathGet node (split p.1 0x2E)) := by
  rw [matchBodyXML, if_neg hne, h]
  refine congrArg (want.toList.all ·) (funext fun p => ?_)
  cases xmlPathGet node (split p.1 0x2E) <;> rfl

/-- **What `body_xml` checks.**  For every document and every table of paths that ask for an
attribute at their end only, the body passes exactly if every path stands for the value that is
expected, or for any value where that is `*`. -/
theorem matchBodyXML_iff {env : Env} {body : GoString} {d : Document}
    (hbody : env.xmlTokens body = some d.tokens) (hne : body ≠ []) {want : GoMap GoString}
    (hwant : ∀ path expected, want.get? path = some expected → AttrLast (split path 0x2E)) :
    matchBodyXML env want body = true ↔ ∀ path expected, want.get? path = some expected →
      ∃ value, Resolves d.root (split path 0x2E) value ∧
        (expected = go "*" ∨ value = expected) := by
  obtain ⟨node, hnode, hagree⟩ := parseXMLBody_document hbody
  rw [matchBodyXML_eq hne hnode, List.all_eq_true]
  constructor
  · intro hall path expected hpath
    have hfound := fieldFound_iff.mp (hall (path, expected) (mem_toList.mpr hpath))
    simpa [hagree.get_iff _ (hwant path expected hpath)] using hfound
  · rintro hall ⟨path, expected⟩ hmem
    have hpath := mem_toList.mp hmem
    rw [fieldFound_iff]
    simpa [hagree.get_iff _ (hwant path expected hpath)] using hall path expected hpath

def order : Document where
  before := []
  root :=
    { name := go "order"
      attrs := []
      inside :=
        .element (go "item") [(go "id", go "1")] (.text (go "a") .nil)
          (.element (go "item") [(go "id", go "2")]
            (.text (go " b ") (.element (go "x") [] .nil (.text (go " c ") .nil))) .nil) }
  after := [go "\n"]

def orderText : GoString :=
  go "<order><item id=\"1\">a</item><item id=\"2\"> b <x/> c </item></order>\n"

def orderEnv : Env :=
  { Env.basic with xmlTokens := fun text => if text = orderText then some order.tokens else none }

/-- The last of the two items is asked for. -/
theorem matchBodyXML_order :
    matchBodyXML orderEnv ((∅ : GoMap GoString).set (go "item.@id") (go "2")) orderText = true ∧
      ∃ value, Resolves order.root [go "item", go "@id"] value ∧
        (go "2" = go "*" ∨ value = go "2") := by
  have hwant : ∀ path expected,
      ((∅ : GoMap GoString).set (go "item.@id") (go "2")).get? path = some expected →
        AttrLast (split path 0x2E) := by
    intro path expected hpath
    obtain rfl : path = go "item.@id" := by
      by_contra hne
      rw [get?_set_ne _ _ hne] at hpath
      cases hpath
    unfold AttrLast
    decide
  have hspec := @matchBodyXML_iff orderEnv orderText order (by simp [orderEnv]) (by decide) _ hwant
  have hmatch : matchBodyXML orderEnv ((∅ : GoMap GoString).set (go "item.@id") (go "2"))
      orderText = true := by decide +kernel
  exact ⟨hmatch, hspec.mp hmatch (go "item.@id") (go "2") (get?_set_self _ _ _)⟩

end Mockly.XML
