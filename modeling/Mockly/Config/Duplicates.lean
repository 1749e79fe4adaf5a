import Mockly.Config.Pages
import Mockly.Lib.Loops

/-!
# Expanding a list of mocks

The key of a request is its method and path in one text with a blank between them, so a page also
conflicts with a mock that has part of the page's path in its method (`MixedUp`).

Main result: **`expandHTTPMocks_error_iff`**.
-/

namespace Mockly.Config

open Loops List

variable (env : Env) (fs : FileSystem) (ut : UpperTable) (baseDir : GoString) (restrict : Bool)

/-! ## What mocks are replaced by -/

def ResolvedBody (b b' : HTTPBody) : Prop :=
  if b.file = [] then b' = b
  else ∃ path, resolveBodyPath env fs b.file baseDir restrict = .ok path ∧
    b' = { b with resolvedFile := path }

def ResolvedResponse (r r' : HTTPResponse) : Prop :=
  ∃ body, ResolvedBody env fs baseDir restrict r.body body ∧ r' = { r with body := body }

def ResolvedMock (m m' : HTTPMock) : Prop :=
  ∃ response sequence, ResolvedResponse env fs baseDir restrict m.response response ∧
    List.Forall₂ (ResolvedResponse env fs baseDir restrict) m.sequence sequence ∧
    m' = { m with response := response, sequence := sequence }

/-- What stands in the expanded list for a mock, each with whether it is a page. -/
def ReplacedBy (m : HTTPMock) (entries : List (HTTPMock × Bool)) : Prop :=
  if m.response.body.dir ≠ [] then
    ∃ children, expandDirMock env fs m baseDir restrict = .ok children ∧
      entries = children.map fun child => (child, true)
  else ∃ m', ResolvedMock env fs baseDir restrict m m' ∧ entries = [(m', false)]

variable {env fs ut baseDir restrict}

lemma resolvedBody_of_no_file {b : HTTPBody} (h : b.file = []) :
    ResolvedBody env fs baseDir restrict b b := by
  rw [ResolvedBody, if_pos h]

lemma resolvedBody_of_file {b : HTTPBody} {path : GoString} (h : b.file ≠ [])
    (hpath : resolveBodyPath env fs b.file baseDir restrict = .ok path) :
    ResolvedBody env fs baseDir restrict b { b with resolvedFile := path } := by
  rw [ResolvedBody, if_neg h]
  exact ⟨path, hpath, rfl⟩

lemma resolveSequenceBodies_ok {i : ℕ} {seq seq' : List HTTPResponse}
    (h : resolveSequenceBodies env fs baseDir restrict i seq = .ok seq') :
    List.Forall₂ (ResolvedResponse env fs baseDir restrict) seq seq' := by
  induction seq generalizing i seq' with
  | nil =>
    cases h
    exact .nil
  | cons r seq ih =>
    rw [resolveSequenceBodies] at h
    dsimp only at h
    split_ifs at h with hdir hfile
    · obtain ⟨rest, hrest, h⟩ := bind_eq_ok h
      cases h
      exact .cons ⟨r.body, resolvedBody_of_no_file hfile, rfl⟩ (ih hrest)
    · cases hpath : resolveBodyPath env fs r.body.file baseDir restrict with
      | error err => simp [hpath] at h
      | ok path =>
        simp only [hpath] at h
        cases hstat : fs.stat path with
        | error err => simp [hstat] at h
        | ok info =>
          simp only [hstat] at h
          obtain ⟨rest, hrest, h⟩ := bind_eq_ok h
          cases h
          exact .cons ⟨_, resolvedBody_of_file hfile hpath, rfl⟩ (ih hrest)

variable {m : HTTPMock} {entries : List (HTTPMock × Bool)}

lemma withSequence_ok (h : withSequence env fs m baseDir restrict = .ok entries) :
    ∃ sequence, List.Forall₂ (ResolvedResponse env fs baseDir restrict) m.sequence sequence ∧
      entries = [({ m with sequence := sequence }, false)] := by
  rw [withSequence] at h
  cases hseq : resolveSequenceBodies env fs baseDir restrict 0 m.sequence with
  | error err => simp [hseq] at h
  | ok sequence =>
    simp only [hseq, Except.ok.injEq] at h
    exact ⟨sequence, resolveSequenceBodies_ok hseq, h.symm⟩

lemma expandMock_ok (h : expandMock env fs m baseDir restrict = .ok entries) :
    ReplacedBy env fs baseDir restrict m entries := by
  rw [expandMock] at h
  rw [ReplacedBy]
  dsimp only at h
  split_ifs at h ⊢ with hdir hfile
  · obtain ⟨children, hchildren, h⟩ := bind_eq_ok h
    cases h
    exact ⟨children, hchildren, rfl⟩
  · cases hpath : resolveBodyPath env fs m.response.body.file baseDir restrict with
    | error err => simp [hpath] at h
    | ok path =>
      simp only [hpath] at h
      cases hstat : fs.stat path with
      | error err => simp [hstat] at h
      | ok info =>
        simp only [hstat] at h
        obtain ⟨sequence, hseq, rfl⟩ := withSequence_ok h
        exact ⟨_, ⟨_, sequence, ⟨_, resolvedBody_of_file hfile hpath, rfl⟩, hseq, rfl⟩, rfl⟩
  · obtain ⟨sequence, hseq, rfl⟩ := withSequence_ok h
    exact ⟨_, ⟨m.response, sequence,
      ⟨_, resolvedBody_of_no_file (not_not.mp hfile), rfl⟩, hseq, rfl⟩, rfl⟩

/-! ## Keys -/

/-- The two mocks are for the same method, in capital letters, and the same path. -/
def SameRequest (ut : UpperTable) (a b : HTTPMock) : Prop :=
  toUpper ut a.request.method = toUpper ut b.request.method ∧ a.request.path = b.request.path

instance (ut : UpperTable) (a b : HTTPMock) : Decidable (SameRequest ut a b) :=
  inferInstanceAs (Decidable (_ ∧ _))

lemma toUpper_get (ut : UpperTable) : toUpper ut (go "GET") = go "GET" := by
  have hrunes : runes (go "GET") = [0x47, 0x45, 0x54] := by decide
  have hletters : ∀ r ∈ runes (go "GET"), encodeRune (ut.upper r) = encodeRune r := by
    rw [hrunes]
    intro r hr
    have hcapital : r < 0x80 ∧ ¬(0x61 ≤ r ∧ r ≤ 0x7A) := by
      revert r
      decide
    rw [ut.upper_ascii r hcapital.1, if_neg hcapital.2]
  rw [toUpper, flatMap_congr hletters]
  decide

/-- The key of a page is that of a `GET` for its path, or of a method that goes on with the first
part of the path. -/
lemma eq_get_key_iff {method path path' : GoString} :
    method ++ (go " " ++ path) = go "GET" ++ (go " " ++ path') ↔
      (method = go "GET" ∧ path = path') ∨
        ∃ rest, method = go "GET " ++ rest ∧ path' = rest ++ (go " " ++ path) := by
  have hgo : go "GET" = [0x47, 0x45, 0x54] := by decide
  have hblank : go " " = [0x20] := by decide
  have hbytes : go "GET " = [0x47, 0x45, 0x54, 0x20] := by decide
  rw [hgo, hblank, hbytes]
  constructor
  · intro h
    rcases method with _ | ⟨a, _ | ⟨b, _ | ⟨c, _ | ⟨d, rest⟩⟩⟩⟩
    · simp at h
    · simp at h
    · simp at h
    · simp only [cons_append, nil_append, List.cons.injEq, true_and] at h
      obtain ⟨rfl, rfl, rfl, hpath⟩ := h
      exact Or.inl ⟨rfl, hpath⟩
    · simp only [cons_append, nil_append, List.cons.injEq] at h
      obtain ⟨rfl, rfl, rfl, rfl, hpath⟩ := h
      exact Or.inr ⟨rest, rfl, hpath.symm⟩
  · rintro (⟨rfl, rfl⟩ | ⟨rest, rfl, rfl⟩)
    · rfl
    · simp

lemma method_of_mem_expandDirMock {child : HTTPMock} {children : List HTTPMock}
    (h : expandDirMock env fs m baseDir restrict = .ok children) (hchild : child ∈ children) :
    child.request.method = go "GET" := by
  obtain ⟨w, -, h⟩ := bind_eq_ok h
  cases h
  obtain ⟨rel, -, hrel⟩ := mem_flatMap.mp hchild
  rw [(mem_fileMocks hrel).1]

/-- A mock written by hand has the key of a page for another request: its method, in capital
letters, is `GET`, a blank and the first part of the path of the page, up to a blank, and its path
is the rest. -/
def MixedUp (ut : UpperTable) (m page : HTTPMock × Bool) : Prop :=
  m.2 = false ∧ page.2 = true ∧ ∃ rest, toUpper ut m.1.request.method = go "GET " ++ rest ∧
    page.1.request.path = rest ++ (go " " ++ m.1.request.path)

/-- What is generated is for GET. -/
def PageGets (ut : UpperTable) (e : HTTPMock × Bool) : Prop :=
  e.2 = true → toUpper ut e.1.request.method = go "GET"

variable {expanded : List (List (HTTPMock × Bool))}

lemma pageGets_of_mem_flatten {mocks : List HTTPMock}
    (h : List.Forall₂ (ReplacedBy env fs baseDir restrict) mocks expanded) :
    ∀ e ∈ expanded.flatten, PageGets ut e := by
  induction h with
  | nil => simp
  | cons hm _ ih =>
    rw [flatten_cons, forall_mem_append]
    refine ⟨fun e he hpage => ?_, ih⟩
    rw [ReplacedBy] at hm
    split_ifs at hm
    · obtain ⟨children, hchildren, rfl⟩ := hm
      obtain ⟨child, hchild, rfl⟩ := mem_map.mp he
      rw [method_of_mem_expandDirMock hchildren hchild, toUpper_get]
    · obtain ⟨m', -, rfl⟩ := hm
      obtain rfl := mem_singleton.mp he
      cases hpage

variable {a b : HTTPMock × Bool}

lemma requestKey_eq_page_iff (ha : PageGets ut a) (hb : PageGets ut b) (hpage : b.2 = true) :
    requestKey ut a.1 = requestKey ut b.1 ↔ SameRequest ut a.1 b.1 ∨ MixedUp ut a b := by
  rw [requestKey, requestKey, SameRequest, hb hpage, eq_get_key_iff, MixedUp]
  refine or_congr_right ⟨fun hmixed => ⟨?_, hpage, hmixed⟩, fun hmixed => hmixed.2.2⟩
  obtain ⟨rest, hmethod, -⟩ := hmixed
  rw [← Bool.not_eq_true]
  intro hpage'
  rw [ha hpage'] at hmethod
  have hlen := congrArg List.length hmethod
  rw [length_append, show (go "GET").length = 3 by decide, show (go "GET ").length = 4 by decide]
    at hlen
  omega

lemma conflict_iff (ha : PageGets ut a) (hb : PageGets ut b) :
    Conflict ut a b ↔
      (SameRequest ut a.1 b.1 ∧ (a.2 = true ∨ b.2 = true)) ∨ MixedUp ut a b ∨ MixedUp ut b a := by
  rw [Conflict]
  by_cases hpage : b.2 = true
  · rw [requestKey_eq_page_iff ha hb hpage]
    simp [MixedUp, hpage]
  · by_cases hpage' : a.2 = true
    · rw [eq_comm, requestKey_eq_page_iff hb ha hpage']
      simp [MixedUp, hpage, hpage', SameRequest, eq_comm]
    · simp [MixedUp, hpage, hpage']

/-- Two entries for the same request, and one of them is a page. -/
def SharesRequest (ut : UpperTable) (entries : List (HTTPMock × Bool)) : Prop :=
  ∃ (i j : ℕ) (a b : HTTPMock × Bool), i < j ∧ entries[i]? = some a ∧ entries[j]? = some b ∧
    SameRequest ut a.1 b.1 ∧ (a.2 = true ∨ b.2 = true)

/-! ## The list -/

lemma expandHTTPMocks_eq {mocks : List HTTPMock}
    (h : mocks.mapM (fun m => expandMock env fs m baseDir restrict) = .ok expanded) :
    expandHTTPMocks env fs ut mocks baseDir restrict =
      (checkDuplicates env ut ∅ expanded.flatten).map fun _ => expanded.flatten.map Prod.fst := by
  rw [expandHTTPMocks, h]
  rfl

lemma not_pairwise_iff {α : Type} {R : α → α → Prop} {l : List α} :
    ¬l.Pairwise (fun a b => ¬R a b) ↔
      ∃ (i j : ℕ) (a b : α), i < j ∧ l[i]? = some a ∧ l[j]? = some b ∧ R a b := by
  rw [pairwise_iff_getElem]
  push Not
  constructor
  · rintro ⟨i, j, hi, hj, hij, h⟩
    exact ⟨i, j, l[i], l[j], hij, List.getElem?_eq_getElem hi, List.getElem?_eq_getElem hj, h⟩
  · rintro ⟨i, j, a, b, hij, ha, hb, h⟩
    obtain ⟨hi, rfl⟩ := List.getElem?_eq_some_iff.mp ha
    obtain ⟨hj, rfl⟩ := List.getElem?_eq_some_iff.mp hb
    exact ⟨i, j, hi, hj, hij, h⟩

lemma exists_conflict_iff {entries : List (HTTPMock × Bool)}
    (hget : ∀ e ∈ entries, PageGets ut e) :
    (∃ (i j : ℕ) (a b : HTTPMock × Bool), i < j ∧ entries[i]? = some a ∧ entries[j]? = some b ∧
        Conflict ut a b) ↔
      SharesRequest ut entries ∨ ∃ m ∈ entries, ∃ page ∈ entries, MixedUp ut m page := by
  have hiff {i j : ℕ} {a b : HTTPMock × Bool} (ha : entries[i]? = some a)
      (hb : entries[j]? = some b) :=
    conflict_iff (hget a (mem_of_getElem? ha)) (hget b (mem_of_getElem? hb))
  constructor
  · rintro ⟨i, j, a, b, hij, ha, hb, h⟩
    have hma := mem_of_getElem? ha
    have hmb := mem_of_getElem? hb
    rcases (hiff ha hb).mp h with h | h | h
    · exact Or.inl ⟨i, j, a, b, hij, ha, hb, h⟩
    · exact Or.inr ⟨a, hma, b, hmb, h⟩
    · exact Or.inr ⟨b, hmb, a, hma, h⟩
  · rintro (⟨i, j, a, b, hij, ha, hb, h⟩ | ⟨m, hm, page, hpage, h⟩)
    · exact ⟨i, j, a, b, hij, ha, hb, (hiff ha hb).mpr (Or.inl h)⟩
    · obtain ⟨i, hi⟩ := mem_iff_getElem?.mp hm
      obtain ⟨j, hj⟩ := mem_iff_getElem?.mp hpage
      rcases Nat.lt_trichotomy i j with hij | rfl | hij
      · exact ⟨i, j, m, page, hij, hi, hj, (hiff hi hj).mpr (Or.inr (Or.inl h))⟩
      · obtain rfl := Option.some.inj (hi.symm.trans hj)
        exact absurd (h.1.symm.trans h.2.1) Bool.false_ne_true
      · exact ⟨j, i, page, m, hij, hj, hi, (hiff hj hi).mpr (Or.inr (Or.inr h))⟩

/-- **`ExpandHTTPMocks` on mocks that can be expanded one by one.** It fails exactly if a page
shares its request with another entry, or its key with an entry for another request; so that the
first of the two decides if and only if nothing is mixed up, or some request is shared all the same.
Else it returns every mock replaced in its place. -/
theorem expandHTTPMocks_error_iff {mocks : List HTTPMock}
    {expanded : List (List (HTTPMock × Bool))}
    (h : mocks.mapM (fun m => expandMock env fs m baseDir restrict) = .ok expanded) :
    ((∃ err, expandHTTPMocks env fs ut mocks baseDir restrict = .error err) ↔
      SharesRequest ut expanded.flatten ∨
        ∃ m ∈ expanded.flatten, ∃ page ∈ expanded.flatten, MixedUp ut m page) ∧
    (((∃ err, expandHTTPMocks env fs ut mocks baseDir restrict = .error err) ↔
        SharesRequest ut expanded.flatten) ↔
      ((∃ m ∈ expanded.flatten, ∃ page ∈ expanded.flatten, MixedUp ut m page) →
        SharesRequest ut expanded.flatten)) ∧
    (∀ out, expandHTTPMocks env fs ut mocks baseDir restrict = .ok out →
      out = expanded.flatten.map Prod.fst) ∧
    List.Forall₂ (ReplacedBy env fs baseDir restrict) mocks expanded := by
  have hreplaced : List.Forall₂ (ReplacedBy env fs baseDir restrict) mocks expanded :=
    (mapM_ok h).imp fun _ _ => expandMock_ok
  have hfails : (∃ err, expandHTTPMocks env fs ut mocks baseDir restrict = .error err) ↔
      SharesRequest ut expanded.flatten ∨
        ∃ m ∈ expanded.flatten, ∃ page ∈ expanded.flatten, MixedUp ut m page := by
    rw [← exists_conflict_iff (pageGets_of_mem_flatten hreplaced), ← not_pairwise_iff,
      ← checkDuplicates_eq_ok_iff, expandHTTPMocks_eq h]
    cases checkDuplicates env ut ∅ expanded.flatten <;> simp [Except.map]
  refine ⟨hfails, by rw [hfails]; exact or_iff_left_iff_imp, fun out hout => ?_, hreplaced⟩
  rw [expandHTTPMocks_eq h] at hout
  cases hdup : checkDuplicates env ut ∅ expanded.flatten with
  | error err => simp [hdup, Except.map] at hout
  | ok _ => simpa [hdup, Except.map, eq_comm] using hout

def postDocs : HTTPMock where
  id := go "x"
  request := { method := go "post", path := go "/docs" }
  response := { headers := ∅ }

theorem expandHTTPMocks_beside_site :
    ∃ expanded out,
      [postDocs, docs].mapM (fun m => expandMock .basic (siteFS flatSite) m (go "/srv") true) =
        .ok expanded ∧
      List.Forall₂ (ReplacedBy .basic (siteFS flatSite) (go "/srv") true) [postDocs, docs]
        expanded ∧ ¬SharesRequest asciiUpperTable expanded.flatten ∧
      expandHTTPMocks .basic (siteFS flatSite) asciiUpperTable [postDocs, docs] (go "/srv") true =
        .ok out ∧ out = expanded.flatten.map Prod.fst := by
  obtain ⟨expanded, hexpanded⟩ : ∃ expanded, [postDocs, docs].mapM
      (fun m => expandMock .basic (siteFS flatSite) m (go "/srv") true) = .ok expanded := ⟨_, rfl⟩
  obtain ⟨out, hout⟩ : ∃ out, expandHTTPMocks .basic (siteFS flatSite) asciiUpperTable
      [postDocs, docs] (go "/srv") true = .ok out := ⟨_, rfl⟩
  obtain ⟨hfails, -, hok, hreplaced⟩ := expandHTTPMocks_error_iff hexpanded
  refine ⟨expanded, out, hexpanded, hreplaced, fun hshares => ?_, hout, hok out hout⟩
  obtain ⟨err, herr⟩ := hfails.mpr (Or.inl hshares)
  rw [hout] at herr
  cases herr

def blankMethod : HTTPMock where
  id := go "x"
  request := { method := go "GET /A", path := go "b" }
  response := { headers := ∅ }

def blankPath : HTTPMock := { docs with request := { path := go "/A b" } }

/-- They conflict, though no two entries of the expanded list have the same method and path. -/
theorem page_conflicts_with_other_request :
    ∃ expanded,
      [blankMethod, blankPath].mapM
        (fun m => expandMock .basic (siteFS flatSite) m (go "/srv") true) = .ok expanded ∧
      expanded.flatten.Pairwise (fun a b => ¬SameRequest asciiUpperTable a.1 b.1) ∧
      ∃ err, expandHTTPMocks .basic (siteFS flatSite) asciiUpperTable [blankMethod, blankPath]
        (go "/srv") true = .error err :=
  ⟨_, rfl, by decide +kernel, _, rfl⟩

end Mockly.Config
