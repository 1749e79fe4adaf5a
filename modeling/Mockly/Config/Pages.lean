import Mockly.Config.Expand
import Mockly.Engine.Literal

/-!
# The pages of a directory

An `index.html` is also to be the page of its directory; the code registers every one at the path of
the mock. And the paths of the pages are read as patterns.

Main result: **`served_iff`**.
-/

namespace Mockly.Config

open List

/-! ## One element more for some -/

section Alias

variable {α β : Type*}

lemma nodup_flatMap_alias {l : List α} {f : α → β} {c : β} (p : α → Prop) [DecidablePred p]
    (hc : ∀ x ∈ l, f x ≠ c) :
    (l.flatMap fun x => f x :: if p x then [c] else []).Nodup ↔
      (l.map f).Nodup ∧ l.countP (p ·) ≤ 1 := by
  have hperm : (l.flatMap fun x => f x :: if p x then [c] else []).Perm
      (l.map f ++ List.replicate (l.countP (p ·)) c) := by
    have happend := flatMap_append_perm l (fun x => [f x]) fun x => if p x then [c] else []
    have halias : (l.flatMap fun x => if p x then [c] else []) =
        List.replicate (l.countP (p ·)) c := by
      clear hc happend
      induction l with
      | nil => rfl
      | cons x l ih =>
        rw [flatMap_cons, ih]
        by_cases hx : p x
        · simp [hx, replicate_succ]
        · simp [hx]
    rw [← flatMap_pure_eq_map, ← halias]
    exact happend.symm
  rw [hperm.nodup_iff, nodup_append', nodup_replicate]
  refine and_congr_right fun _ => and_iff_left ?_
  intro b hb hb'
  obtain ⟨x, hx, rfl⟩ := mem_map.mp hb
  exact hc x hx (eq_of_mem_replicate hb')

lemma pairwise_iff_split {R : α → α → Prop} {l : List α} :
    l.Pairwise R ↔ ∀ pre x post, l = pre ++ x :: post → ∀ a ∈ pre, R a x := by
  constructor
  · rintro h pre x post rfl a ha
    exact (pairwise_append.mp h).2.2 a ha x mem_cons_self
  · intro h
    induction l with
    | nil => exact List.Pairwise.nil
    | cons y l ih =>
      refine pairwise_cons.mpr ⟨fun x hx => ?_, ih ?_⟩
      · obtain ⟨pre, post, rfl⟩ := append_of_mem hx
        exact h (y :: pre) x post rfl y mem_cons_self
      · rintro pre x post rfl a ha
        exact h (y :: pre) x post rfl a (mem_cons_of_mem y ha)

lemma find?_flatMap_iff {pre post : List α} {x : α} (g : α → List β) (p : β → Bool) {q : β → Prop}
    (hx : ∀ b ∈ g x, q b) (hother : ∀ a ∈ pre ++ post, ∀ b ∈ g a, ¬q b) :
    (∃ b, ((pre ++ x :: post).flatMap g).find? p = some b ∧ q b) ↔
      (∀ a ∈ pre, ∀ b ∈ g a, p b = false) ∧ ∃ b ∈ g x, p b = true := by
  rw [flatMap_append, flatMap_cons, List.find?_append, List.find?_append]
  cases hpre : (pre.flatMap g).find? p with
  | some b =>
    obtain ⟨a, ha, hb⟩ := mem_flatMap.mp (mem_of_find?_eq_some hpre)
    have hp := List.find?_some hpre
    refine iff_of_false ?_ ?_
    · rintro ⟨b', hb', hq⟩
      obtain rfl := Option.some.inj hb'
      exact hother a (mem_append_left _ ha) b hb hq
    · rintro ⟨hnone, -⟩
      rw [hnone a ha b hb] at hp
      cases hp
  | none =>
    have hnone : ∀ a ∈ pre, ∀ b ∈ g a, p b = false := by
      intro a ha b hb
      simpa using List.find?_eq_none.mp hpre b (mem_flatMap.mpr ⟨a, ha, hb⟩)
    rw [Option.none_or, and_iff_right hnone]
    cases hhere : (g x).find? p with
    | some b =>
      have hb := mem_of_find?_eq_some hhere
      exact iff_of_true ⟨b, rfl, hx b hb⟩ ⟨b, hb, List.find?_some hhere⟩
    | none =>
      refine iff_of_false ?_ ?_
      · rintro ⟨b, hb, hq⟩
        rw [Option.none_or] at hb
        obtain ⟨a, ha, hba⟩ := mem_flatMap.mp (mem_of_find?_eq_some hb)
        exact hother a (mem_append_right _ ha) b hba hq
      · rintro ⟨b, hb, hp⟩
        exact List.find?_eq_none.mp hhere b hb hp

end Alias

/-! ## Paths -/

lemma join_index : join [go "index.html"] (go "/") = go "index.html" := by simp [join]

lemma joinURLPath_names {P : GoString} (hP : P ≠ []) {names : List GoString} (hne : names ≠ [])
    (h : ∀ n ∈ names, LegalName n) :
    joinURLPath P (join names (go "/")) = joinBase P ++ join names (go "/") := by
  rw [joinURLPath]
  split_ifs with hroot
  · have hslash : P = go "/" := hroot.resolve_right hP
    rw [hslash]
    rfl
  · exact pathJoin_names hne h P

lemma trimPath_isPre (path : GoString) : trimPath path <+: path ∨ trimPath path = go "/" := by
  rw [trimPath]
  split_ifs
  · exact Or.inr rfl
  · rw [trimSuffix]
    split_ifs
    · exact Or.inl (List.take_prefix _ path)
    · exact Or.inl prefix_rfl

lemma literalPath_trimPath {path : GoString} (h : IsStatic path) : LiteralPath (trimPath path) := by
  obtain ⟨hstar, hbrace, hre⟩ := h
  obtain hpre | hslash := trimPath_isPre path
  · refine ⟨trimPath_ne_nil path, ?_, ?_, ?_⟩
    · by_contra hregex
      rw [Bool.not_eq_false, isRegex, hasPrefix, isPrefixOf_iff_prefix] at hregex
      rw [hasPrefix, isPrefixOf_iff_prefix.mpr (hregex.trans hpre)] at hre
      cases hre
    · rw [show go "*" = [0x2A] from rfl, contains_singleton, decide_eq_false_iff_not]
      exact fun hmem => hstar (hpre.subset hmem)
    · have hopen : contains (trimPath path) (go "\x7b") = false := by
        rw [show go "\x7b" = [0x7B] from rfl, contains_singleton, decide_eq_false_iff_not]
        exact fun hmem => hbrace (hpre.subset hmem)
      rw [hopen, Bool.false_and]
  · rw [hslash]
    exact ⟨by decide, by decide, by decide, by decide⟩

lemma matchPath_index {env : Env} {q : GoString} (h : isRegex (q ++ go "/index.html") = false) :
    matchPath env (q ++ go "/index.html") q = none := by
  have hlast : (q ++ go "/index.html").getLast? = some 0x6C := by
    rw [List.getLast?_append]
    rfl
  have hsuffix : hasSuffix (q ++ go "/index.html") (go "/*") = false := by
    by_contra hne
    obtain ⟨t, ht⟩ := isSuffixOf_iff_suffix.mp (Bool.eq_true_of_not_eq_false hne)
    have hend : (go "/*").getLast? = some 0x2A := rfl
    rw [← ht, List.getLast?_append, hend, Option.some_or] at hlast
    exact absurd hlast (by decide)
  have hstar : q ++ go "/index.html" ≠ go "*" := by
    intro heq
    rw [heq] at hlast
    exact absurd hlast (by decide)
  have hne : ¬q ++ go "/index.html" = q := by
    intro heq
    have hnil := append_right_eq_self.mp heq
    exact absurd hnil (by decide)
  have hsegments : matchPathSegments (q ++ go "/index.html") q = none := by
    have hsplit : split (q ++ go "/index.html") 0x2F = split q 0x2F ++ [go "index.html"] :=
      split_append_cons q (go "index.html") 0x2F
    rw [matchPathSegments, hsplit]
    simp
  have hempty : q ++ go "/index.html" ≠ [] := by
    intro heq
    rw [heq] at hlast
    cases hlast
  rw [matchPath]
  simp [hempty, hstar, h, hsuffix, hsegments, hne]

/-! ## The expansion -/

variable {rel : GoString}

section Expansion

variable {env : Env} {fs : FileSystem} {m : HTTPMock} {baseDir : GoString} {restrict : Bool}
  {w : Walk} {d : Directory}

/-- The mocks that are generated for a file. -/
def pagesOf (m : HTTPMock) (w : Walk) (rel : GoString) : List HTTPMock :=
  fileMocks m w m.response.headers (fileBody (pathJoin w.dirRoot rel)) rel

def pages (m : HTTPMock) (w : Walk) : List HTTPMock := w.relFiles.flatMap (pagesOf m w)

lemma paths_fileMocks (m : HTTPMock) (w : Walk) (headers : GoMap GoString) (body : HTTPBody)
    (rel : GoString) :
    (fileMocks m w headers body rel).map (·.request.path) =
      joinURLPath w.parentPath rel ::
        if pathBase rel = go "index.html" then [w.parentPath] else [] := by
  rw [fileMocks]
  dsimp only
  rw [map_cons]
  split_ifs <;> rfl

lemma mem_fileMocks {headers : GoMap GoString} {body : HTTPBody} {c : HTTPMock}
    (h : c ∈ fileMocks m w headers body rel) :
    c.request = { method := go "GET", path := c.request.path } ∧ c.state = m.state ∧
      c.response.body = body := by
  rw [fileMocks, mem_cons] at h
  obtain rfl | h := h
  · exact ⟨rfl, rfl, rfl⟩
  · split_ifs at h
    · rw [mem_singleton] at h
      subst h
      exact ⟨rfl, rfl, rfl⟩
    · exact absurd h not_mem_nil

lemma mem_pages {c : HTTPMock} (h : c ∈ pages m w) :
    c.request = { method := go "GET", path := c.request.path } ∧ c.state = m.state := by
  obtain ⟨rel, -, hc⟩ := mem_flatMap.mp h
  exact ⟨(mem_fileMocks hc).1, (mem_fileMocks hc).2.1⟩

lemma paths_pages (m : HTTPMock) (w : Walk) :
    (pages m w).map (·.request.path) =
      w.relFiles.flatMap fun rel => joinURLPath w.parentPath rel ::
        if pathBase rel = go "index.html" then [w.parentPath] else [] := by
  rw [pages, map_flatMap]
  exact flatMap_congr fun rel _ => paths_fileMocks m w _ _ rel

lemma checkDuplicates_pages (env : Env) (ut : UpperTable) :
    checkDuplicates env ut ∅ ((pages m w).map fun c => (c, true)) = .ok () ↔
      ((pages m w).map (·.request.path)).Nodup := by
  rw [checkDuplicates_eq_ok_iff, pairwise_map, List.Nodup, pairwise_map]
  have hconflict : ∀ a ∈ pages m w, ∀ b ∈ pages m w,
      ¬Conflict ut (a, true) (b, true) ↔ a.request.path ≠ b.request.path := by
    intro a ha b hb
    rw [Conflict, requestKey, requestKey, (mem_pages ha).1, (mem_pages hb).1]
    simp
  exact List.Pairwise.iff_of_mem fun ha hb => hconflict _ ha _ hb

lemma expandHTTPMocks_singleton (hdir : m.response.body.dir ≠ [])
    (hwalk : walkDirMock env fs m baseDir restrict = .ok w) (ut : UpperTable)
    (mocks : List HTTPMock) :
    expandHTTPMocks env fs ut [m] baseDir restrict = .ok mocks ↔
      mocks = pages m w ∧ ((pages m w).map (·.request.path)).Nodup := by
  have hexpand : expandMock env fs m baseDir restrict =
      .ok ((pages m w).map fun c => (c, true)) := by
    rw [expandMock]
    dsimp only
    rw [if_pos hdir, expandDirMock_eq hwalk]
    rfl
  have hmap : [m].mapM (fun m => expandMock env fs m baseDir restrict) =
      .ok [(pages m w).map fun c => (c, true)] := by
    rw [mapM_cons, hexpand]
    rfl
  have hfst : ((pages m w).map fun c => (c, true)).map Prod.fst = pages m w := by
    rw [map_map]
    exact map_id _
  rw [← checkDuplicates_pages env ut, expandHTTPMocks, hmap]
  simp only [Bind.bind, Except.bind, pure, Except.pure, flatten_singleton, hfst]
  cases checkDuplicates env ut ∅ ((pages m w).map fun c => (c, true)) with
  | error err => simp
  | ok _ => simp [eq_comm]

def indexes (w : Walk) : ℕ := w.relFiles.countP fun rel => pathBase rel = go "index.html"

section Paths

variable (hwalk : walkDirMock env fs m baseDir restrict = .ok w)

include hwalk

lemma literalPath_parentPath : LiteralPath w.parentPath := by
  rw [(walkDirMock_ok hwalk).2.1]
  exact literalPath_trimPath (walkDirMock_ok hwalk).1

variable (hstat : fs.stat w.dirRoot = .ok (.dir d))

include hstat

lemma relFiles_eq : w.relFiles = d.relFiles := by
  obtain ⟨-, -, -, d', hstat', hfiles⟩ := walkDirMock_ok hwalk
  rw [hstat] at hstat'
  cases hstat'
  exact hfiles

lemma mem_relFiles : rel ∈ w.relFiles ↔ ∃ names ∈ d.files, join names (go "/") = rel := by
  rw [relFiles_eq hwalk hstat, Directory.mem_relFiles]

lemma nodup_relFiles : w.relFiles.Nodup := by
  rw [relFiles_eq hwalk hstat]
  exact d.nodup_relFiles

lemma exists_names (hrel : rel ∈ w.relFiles) :
    ∃ names, names ≠ [] ∧ (∀ n ∈ names, LegalName n) ∧ names ∈ d.files ∧
      join names (go "/") = rel := by
  obtain ⟨names, hnames, hjoin⟩ := (mem_relFiles hwalk hstat).mp hrel
  obtain ⟨hne, hlegal⟩ := Dir.walk_legal d.legal hnames
  exact ⟨names, hne, hlegal, hnames, hjoin⟩

lemma joinURLPath_file (hrel : rel ∈ w.relFiles) :
    joinURLPath w.parentPath rel = joinBase w.parentPath ++ rel := by
  obtain ⟨names, hne, hlegal, -, rfl⟩ := exists_names hwalk hstat hrel
  exact joinURLPath_names (literalPath_parentPath hwalk).nonempty hne hlegal

lemma joinURLPath_file_ne (hrel : rel ∈ w.relFiles) :
    joinURLPath w.parentPath rel ≠ w.parentPath := by
  rw [joinURLPath_file hwalk hstat hrel]
  obtain ⟨names, hne, hlegal, -, rfl⟩ := exists_names hwalk hstat hrel
  exact (ne_joinBase_append hne hlegal _).symm

lemma nodup_paths_pages : ((pages m w).map (·.request.path)).Nodup ↔ indexes w ≤ 1 := by
  rw [paths_pages, nodup_flatMap_alias _ fun rel hrel => joinURLPath_file_ne hwalk hstat hrel]
  refine and_iff_right ?_
  refine (nodup_relFiles hwalk hstat).map_on fun rel hrel rel' hrel' heq => ?_
  rw [joinURLPath_file hwalk hstat hrel, joinURLPath_file hwalk hstat hrel'] at heq
  exact append_cancel_left heq

lemma expandHTTPMocks_eq_ok_iff (hdir : m.response.body.dir ≠ []) (ut : UpperTable)
    (mocks : List HTTPMock) :
    expandHTTPMocks env fs ut [m] baseDir restrict = .ok mocks ↔
      mocks = pages m w ∧ indexes w ≤ 1 := by
  rw [expandHTTPMocks_singleton hdir hwalk, nodup_paths_pages hwalk hstat]

end Paths

end Expansion

/-! ## Requests -/

/-- A `GET` for a path; what else there is of the request is left open. -/
def getRequest (req : MatchInput) (path : GoString) : MatchInput :=
  { req with method := go "GET", path := path }

section Requests

variable {env : Env} {req : MatchInput} {store : Option State.Store} {now : ℕ → ℤ}

lemma matchRequest_page (pattern path : GoString) :
    matchRequest env { method := go "GET", path := pattern } (getRequest req path) =
      matchPath env pattern path := by
  have hmethod : matchMethod env (go "GET") (go "GET") = true := by
    simp [matchMethod]
  have hheaders : matchHeaders env ∅ req.headers = true := rfl
  have hquery : matchQuery env ∅ req.query = true := rfl
  have hbodies : matchBodies env { method := go "GET", path := pattern } (getRequest req path) =
      true := rfl
  unfold getRequest at hbodies
  simp only [matchRequest, getRequest, hmethod, matchRequestPath, hheaders, hquery, hbodies,
    Bool.not_true, Bool.false_eq_true, if_false, ne_eq, not_true_eq_false, Bool.and_self, if_true]
  cases matchPath env pattern path <;> rfl

/-- **The page that answers** is the first one whose path, as a pattern, matches. -/
lemma selectMock_pages (req : MatchInput) {mocks : List HTTPMock} {state : Option StateCondition}
    (hmocks : ∀ c ∈ mocks,
      c.request = { method := go "GET", path := c.request.path } ∧ c.state = state)
    (hstate : ∀ i, (matchState state store (now i)).1 = true) (path : GoString) (i : ℕ) :
    (selectMock env (getRequest req path) now i store mocks).1.map (·.mock) =
      mocks.find? fun c => (matchPath env c.request.path path).isSome := by
  induction mocks generalizing i with
  | nil => rfl
  | cons c mocks ih =>
    rw [forall_mem_cons] at hmocks
    obtain ⟨⟨hrequest, hcstate⟩, hmocks⟩ := hmocks
    have hmatch : matchRequest env c.request (getRequest req path) =
        matchPath env c.request.path path := by
      rw [hrequest, matchRequest_page]
    have hauth : c.request.auth = none := by rw [hrequest]
    rw [selectMock, matchMock, hmatch, List.find?_cons]
    cases hpath : matchPath env c.request.path path with
    | none => exact ih hmocks (i + 1)
    | some params =>
      rw [hcstate, hauth]
      simp only [hstate i, Bool.and_self, if_true, Option.isSome_some]
      rfl

end Requests

/-! ## Pages that are served -/

section Served

variable (env : Env) (fs : FileSystem) (ut : UpperTable) (m : HTTPMock) (baseDir : GoString)
  (restrict : Bool) (w : Walk) (d : Directory) (req : MatchInput) (store : Option State.Store)
  (now : ℕ → ℤ)

/-- A `GET` for the path is answered with the file at `rel`. -/
def Answered (mocks : List HTTPMock) (path rel : GoString) : Prop :=
  ∃ sel, (selectMock env (getRequest req path) now 0 store mocks).1 = some sel ∧
    sel.mock.response.body = fileBody (pathJoin w.dirRoot rel)

def directoryPath (names : List GoString) : GoString :=
  if names = [] then w.parentPath else joinURLPath w.parentPath (join names (go "/"))

/-- Every file is the page at its path, and an `index.html` is also that of its directory. -/
def Served : Prop :=
  ∃ mocks, expandHTTPMocks env fs ut [m] baseDir restrict = .ok mocks ∧
    (∀ names ∈ d.files,
      Answered env w req store now mocks (joinURLPath w.parentPath (join names (go "/")))
        (join names (go "/"))) ∧
    ∀ names, names ++ [go "index.html"] ∈ d.files →
      Answered env w req store now mocks (directoryPath w names)
        (join (names ++ [go "index.html"]) (go "/"))

/-- No request for a page is caught by the pattern of a page before it. -/
def Unshadowed : Prop :=
  w.relFiles.Pairwise (fun rel rel' =>
    matchPath env (joinURLPath w.parentPath rel) (joinURLPath w.parentPath rel') = none) ∧
  (go "index.html" ∈ w.relFiles → ∀ rel ∈ w.relFiles, rel < go "index.html" →
    matchPath env (joinURLPath w.parentPath rel) w.parentPath = none)

variable {env fs ut m baseDir restrict w d req store now}

lemma answered_iff_find? {mocks : List HTTPMock}
    (hmocks : ∀ c ∈ mocks,
      c.request = { method := go "GET", path := c.request.path } ∧ c.state = m.state)
    (hstate : ∀ i, (matchState m.state store (now i)).1 = true) (path rel : GoString) :
    Answered env w req store now mocks path rel ↔
      ∃ c, mocks.find? (fun c => (matchPath env c.request.path path).isSome) = some c ∧
        c.response.body = fileBody (pathJoin w.dirRoot rel) := by
  rw [← selectMock_pages req hmocks hstate path 0, Answered]
  simp only [Option.map_eq_some_iff]
  constructor
  · rintro ⟨sel, hsel, hbody⟩
    exact ⟨sel.mock, ⟨sel, hsel, rfl⟩, hbody⟩
  · rintro ⟨-, ⟨sel, hsel, rfl⟩, hbody⟩
    exact ⟨sel, hsel, hbody⟩

lemma exists_pagesOf_iff (m : HTTPMock) (w : Walk) (rel : GoString) (P : GoString → Prop) :
    (∃ c ∈ pagesOf m w rel, P c.request.path) ↔
      P (joinURLPath w.parentPath rel) ∨ pathBase rel = go "index.html" ∧ P w.parentPath := by
  have hmap : (∃ c ∈ pagesOf m w rel, P c.request.path) ↔
      ∃ q ∈ (pagesOf m w rel).map (·.request.path), P q := by simp
  rw [hmap, pagesOf, paths_fileMocks]
  split_ifs with hindex <;> simp [hindex]

section Blocks

variable (hwalk : walkDirMock env fs m baseDir restrict = .ok w)
  (hstat : fs.stat w.dirRoot = .ok (.dir d))
  (hstate : ∀ i, (matchState m.state store (now i)).1 = true)

include hwalk

lemma matchPath_parentPath (path : GoString) :
    (matchPath env w.parentPath path).isSome = true ↔ w.parentPath = path := by
  have hliteral := literalPath_parentPath hwalk
  constructor
  · exact matchPath_of_literal hliteral
  · rintro rfl
    exact matchPath_self hliteral.notRegex

include hstat

lemma fileBody_inj {rel' : GoString} (hrel : rel ∈ w.relFiles) (hrel' : rel' ∈ w.relFiles)
    (h : fileBody (pathJoin w.dirRoot rel) = fileBody (pathJoin w.dirRoot rel')) : rel = rel' := by
  obtain ⟨names, hne, hlegal, -, rfl⟩ := exists_names hwalk hstat hrel
  obtain ⟨names', hne', hlegal', -, rfl⟩ := exists_names hwalk hstat hrel'
  have hfile : pathJoin w.dirRoot (join names (go "/")) =
      pathJoin w.dirRoot (join names' (go "/")) :=
    congrArg HTTPBody.file h
  rw [pathJoin_names hne hlegal, pathJoin_names hne' hlegal'] at hfile
  exact append_cancel_left hfile

include hstate

lemma answered_iff {pre post : List GoString} (hfiles : w.relFiles = pre ++ rel :: post)
    (path : GoString) :
    Answered env w req store now (pages m w) path rel ↔
      (∀ rel' ∈ pre, matchPath env (joinURLPath w.parentPath rel') path = none ∧
        (pathBase rel' = go "index.html" → w.parentPath ≠ path)) ∧
      ((matchPath env (joinURLPath w.parentPath rel) path).isSome = true ∨
        pathBase rel = go "index.html" ∧ w.parentPath = path) := by
  have hnodup : (pre ++ rel :: post).Nodup := hfiles ▸ nodup_relFiles hwalk hstat
  have hself (rel' : GoString) :
      ∀ c ∈ pagesOf m w rel', c.response.body = fileBody (pathJoin w.dirRoot rel') :=
    fun c hc => (mem_fileMocks hc).2.2
  have hother : ∀ rel' ∈ pre ++ post, ∀ c ∈ pagesOf m w rel',
      ¬c.response.body = fileBody (pathJoin w.dirRoot rel) := by
    intro rel' hrel' c hc hbody
    rw [hself rel' c hc] at hbody
    have hmem : rel' ∈ w.relFiles := by
      rw [hfiles]
      simp only [mem_append, mem_cons] at hrel' ⊢
      exact hrel'.imp_right Or.inr
    obtain rfl := fileBody_inj hwalk hstat hmem (by simp [hfiles]) hbody
    rw [nodup_middle, nodup_cons] at hnodup
    exact hnodup.1 hrel'
  have hblock (rel' : GoString) :
      (∃ c ∈ pagesOf m w rel', (matchPath env c.request.path path).isSome = true) ↔
        (matchPath env (joinURLPath w.parentPath rel') path).isSome = true ∨
          pathBase rel' = go "index.html" ∧ w.parentPath = path := by
    rw [← matchPath_parentPath hwalk]
    exact exists_pagesOf_iff m w rel' fun q => (matchPath env q path).isSome = true
  rw [answered_iff_find? (fun c hc => mem_pages hc) hstate, pages, hfiles,
    find?_flatMap_iff _ _ (hself rel) hother, hblock]
  refine and_congr_left fun _ => forall₂_congr fun rel' _ => ?_
  have hnone := (hblock rel').not
  push Not at hnone
  simpa using hnone

lemma answered_file_iff {pre post : List GoString} (hfiles : w.relFiles = pre ++ rel :: post)
    (hregex : isRegex (joinURLPath w.parentPath rel) = false) :
    Answered env w req store now (pages m w) (joinURLPath w.parentPath rel) rel ↔
      ∀ rel' ∈ pre,
        matchPath env (joinURLPath w.parentPath rel') (joinURLPath w.parentPath rel) = none := by
  have hne : w.parentPath ≠ joinURLPath w.parentPath rel :=
    (joinURLPath_file_ne hwalk hstat (by simp [hfiles])).symm
  rw [answered_iff hwalk hstat hstate hfiles, and_iff_left (Or.inl (matchPath_self hregex))]
  simp [hne]

lemma answered_files_iff
    (hregex : ∀ rel ∈ w.relFiles, isRegex (joinURLPath w.parentPath rel) = false) :
    (∀ rel ∈ w.relFiles,
        Answered env w req store now (pages m w) (joinURLPath w.parentPath rel) rel) ↔
      w.relFiles.Pairwise fun rel rel' =>
        matchPath env (joinURLPath w.parentPath rel) (joinURLPath w.parentPath rel') = none := by
  rw [pairwise_iff_split]
  constructor
  · intro h pre rel post hfiles
    have hrel : rel ∈ w.relFiles := by simp [hfiles]
    exact (answered_file_iff hwalk hstat hstate hfiles (hregex rel hrel)).mp (h rel hrel)
  · intro h rel hrel
    obtain ⟨pre, post, hfiles⟩ := append_of_mem hrel
    exact (answered_file_iff hwalk hstat hstate hfiles (hregex rel hrel)).mpr
      (h pre rel post hfiles)

lemma answered_index_iff (hindex : go "index.html" ∈ w.relFiles)
    (honly : ∀ rel ∈ w.relFiles, pathBase rel = go "index.html" → rel = go "index.html") :
    Answered env w req store now (pages m w) w.parentPath (go "index.html") ↔
      ∀ rel ∈ w.relFiles, rel < go "index.html" →
        matchPath env (joinURLPath w.parentPath rel) w.parentPath = none := by
  obtain ⟨pre, post, hfiles⟩ := append_of_mem hindex
  have hsorted := d.sorted_relFiles
  rw [← relFiles_eq hwalk hstat, hfiles, pairwise_append, pairwise_cons] at hsorted
  obtain ⟨-, ⟨hafter, -⟩, hbefore⟩ := hsorted
  have hpre (rel : GoString) : rel ∈ pre ↔ rel ∈ w.relFiles ∧ rel < go "index.html" := by
    constructor
    · intro hrel
      exact ⟨by simp [hfiles, hrel], hbefore rel hrel _ mem_cons_self⟩
    · rintro ⟨hrel, hlt⟩
      rw [hfiles, mem_append, mem_cons] at hrel
      obtain hrel | rfl | hrel := hrel
      · exact hrel
      · exact absurd hlt (List.lt_irrefl _)
      · exact absurd hlt (List.lt_asymm (hafter rel hrel))
  rw [answered_iff hwalk hstat hstate hfiles, and_iff_left (Or.inr ⟨by decide, rfl⟩)]
  constructor
  · intro h rel hrel hlt
    exact (h rel ((hpre rel).mpr ⟨hrel, hlt⟩)).1
  · intro h rel hrel
    obtain ⟨hmem, hlt⟩ := (hpre rel).mp hrel
    refine ⟨h rel hmem hlt, fun hbase => ?_⟩
    rw [honly rel hmem hbase] at hlt
    exact absurd hlt (List.lt_irrefl _)

lemma not_answered_below {names : List GoString} (hne : names ≠ [])
    (hnames : names ++ [go "index.html"] ∈ d.files)
    (hregex : ∀ rel ∈ w.relFiles, isRegex (joinURLPath w.parentPath rel) = false) :
    ¬Answered env w req store now (pages m w) (directoryPath w names)
      (join (names ++ [go "index.html"]) (go "/")) := by
  have hrel : join (names ++ [go "index.html"]) (go "/") ∈ w.relFiles :=
    (mem_relFiles hwalk hstat).mpr ⟨_, hnames, rfl⟩
  have hlegal : ∀ n ∈ names, LegalName n := fun n hn =>
    (Dir.walk_legal d.legal hnames).2 n (mem_append_left _ hn)
  have hdirectory : directoryPath w names = joinBase w.parentPath ++ join names (go "/") := by
    rw [directoryPath, if_neg hne, joinURLPath_names (literalPath_parentPath hwalk).nonempty hne
      hlegal]
  have hfile : joinURLPath w.parentPath (join (names ++ [go "index.html"]) (go "/")) =
      directoryPath w names ++ go "/index.html" := by
    rw [joinURLPath_file hwalk hstat hrel, hdirectory, join_append hne (by simp), join_index,
      append_assoc]
    rfl
  obtain ⟨pre, post, hfiles⟩ := append_of_mem hrel
  rw [answered_iff hwalk hstat hstate hfiles]
  rintro ⟨-, hsome | ⟨-, hparent⟩⟩
  · have hnot := hregex _ hrel
    rw [hfile] at hsome hnot
    rw [matchPath_index hnot] at hsome
    cases hsome
  · rw [hdirectory] at hparent
    exact ne_joinBase_append hne hlegal _ hparent

end Blocks

section Indexes

variable (hwalk : walkDirMock env fs m baseDir restrict = .ok w)
  (hstat : fs.stat w.dirRoot = .ok (.dir d))

include hwalk hstat

lemma index_mem_relFiles : go "index.html" ∈ w.relFiles ↔ [go "index.html"] ∈ d.files := by
  constructor
  · intro hrel
    obtain ⟨names, hne, hlegal, hnames, heq⟩ := exists_names hwalk hstat hrel
    rw [← names_inj hne (by simp) hlegal (by decide) (heq.trans join_index.symm)]
    exact hnames
  · exact fun hmem => (mem_relFiles hwalk hstat).mpr ⟨_, hmem, join_index⟩

lemma eq_index_of_root (hroot : ∀ names, names ++ [go "index.html"] ∈ d.files → names = [])
    (hrel : rel ∈ w.relFiles) (hbase : pathBase rel = go "index.html") : rel = go "index.html" := by
  obtain ⟨names, hne, hlegal, hnames, rfl⟩ := exists_names hwalk hstat hrel
  obtain ⟨init, last, rfl⟩ := (eq_nil_or_concat names).resolve_left hne
  rw [concat_eq_append] at hnames hbase hlegal ⊢
  rw [pathBase_names (hlegal last (by simp))] at hbase
  subst hbase
  rw [hroot init hnames]
  exact join_index

lemma indexes_le_one (hroot : ∀ names, names ++ [go "index.html"] ∈ d.files → names = []) :
    indexes w ≤ 1 := by
  refine le_trans (countP_mono_left fun rel hrel hbase => ?_)
    (nodup_iff_count_le_one.mp (nodup_relFiles hwalk hstat) (go "index.html"))
  rw [decide_eq_true_iff] at hbase
  simpa using eq_index_of_root hwalk hstat hroot hrel hbase

end Indexes

/-- **Pages that are served.**  All pages of a directory are served just if none of the directories
below has an `index.html` and no page is shadowed. -/
theorem served_iff (hdir : m.response.body.dir ≠ [])
    (hwalk : walkDirMock env fs m baseDir restrict = .ok w)
    (hstat : fs.stat w.dirRoot = .ok (.dir d))
    (hstate : ∀ i, (matchState m.state store (now i)).1 = true)
    (hregex : ∀ rel ∈ w.relFiles, isRegex (joinURLPath w.parentPath rel) = false) :
    Served env fs ut m baseDir restrict w d req store now ↔
      (∀ names, names ++ [go "index.html"] ∈ d.files → names = []) ∧ Unshadowed env w := by
  constructor
  · rintro ⟨mocks, hok, hfiles, hindexes⟩
    obtain ⟨rfl, -⟩ := (expandHTTPMocks_eq_ok_iff hwalk hstat hdir ut mocks).mp hok
    have hroot : ∀ names, names ++ [go "index.html"] ∈ d.files → names = [] := by
      intro names hnames
      by_contra hne
      exact not_answered_below hwalk hstat hstate hne hnames hregex (hindexes names hnames)
    have hrels : ∀ rel ∈ w.relFiles,
        Answered env w req store now (pages m w) (joinURLPath w.parentPath rel) rel := by
      intro rel hrel
      obtain ⟨names, hnames, rfl⟩ := (mem_relFiles hwalk hstat).mp hrel
      exact hfiles names hnames
    refine ⟨hroot, (answered_files_iff hwalk hstat hstate hregex).mp hrels, fun hindex => ?_⟩
    · have hmem := (index_mem_relFiles hwalk hstat).mp hindex
      have hanswered := hindexes [] hmem
      rw [nil_append, join_index] at hanswered
      exact (answered_index_iff hwalk hstat hstate hindex fun rel hrel hbase =>
        eq_index_of_root hwalk hstat hroot hrel hbase).mp hanswered
  · rintro ⟨hroot, hpairs, halias⟩
    refine ⟨pages m w, (expandHTTPMocks_eq_ok_iff hwalk hstat hdir ut _).mpr
      ⟨rfl, indexes_le_one hwalk hstat hroot⟩, fun names hnames => ?_, fun names hnames => ?_⟩
    · exact (answered_files_iff hwalk hstat hstate hregex).mpr hpairs _
        ((mem_relFiles hwalk hstat).mpr ⟨names, hnames, rfl⟩)
    · obtain rfl := hroot names hnames
      have hindex := (index_mem_relFiles hwalk hstat).mpr hnames
      rw [nil_append, join_index]
      exact (answered_index_iff hwalk hstat hstate hindex fun rel hrel hbase =>
        eq_index_of_root hwalk hstat hroot hrel hbase).mpr (halias hindex)

end Served

/-! ## Sites -/

def siteFS (d : Directory) : FileSystem where
  getwd := .ok (go "/srv")
  stat := fun p => if p = go "/srv/site" then .ok (.dir d) else .error (go "no such file")

def docs : HTTPMock where
  id := []
  request := { path := go "/docs" }
  response := { headers := ∅, body := { dir := go "site" } }

def anyRequest : MatchInput where
  method := []
  path := []
  headers := ∅
  query := ∅
  body := []

def flatSite : Directory where
  entries := .file (go "index.html") (.file (go "a.css") .nil)
  legal := by decide

def flatWalk : Walk where
  dirRoot := go "/srv/site"
  parentPath := go "/docs"
  baseID := go "docs"
  relFiles := [go "a.css", go "index.html"]

theorem served_flat_site :
    Served .basic (siteFS flatSite) asciiUpperTable docs (go "/srv") true flatWalk flatSite
      anyRequest none fun _ => 0 := by
  refine (served_iff (by decide) (by rfl) (by rfl) (fun _ => rfl) (by decide)).mpr ⟨?_, ?_⟩
  · intro names hnames
    have hshort : ∀ file ∈ flatSite.files, file.length = 1 := by decide
    have hlength := hshort _ hnames
    rw [length_append, length_singleton, Nat.add_eq_right] at hlength
    exact length_eq_zero_iff.mp hlength
  · unfold Unshadowed
    decide +kernel

def twoIndexes : Directory where
  entries := .file (go "index.html") (.dir (go "a") (.file (go "index.html") .nil) .nil)
  legal := by decide

def indexBelow : Directory where
  entries := .dir (go "a") (.file (go "index.html") .nil) .nil
  legal := by decide

/-- With two indexes the directory is refused; with one below, its page is that of the mock. -/
theorem index_below_not_served :
    (∃ err, expandHTTPMocks .basic (siteFS twoIndexes) asciiUpperTable [docs] (go "/srv") true =
      .error err) ∧
    ∃ mocks, expandHTTPMocks .basic (siteFS indexBelow) asciiUpperTable [docs] (go "/srv") true =
        .ok mocks ∧
      (selectMock .basic (getRequest anyRequest (go "/docs/a")) (fun _ => 0) 0 none mocks).1 =
        none ∧
      (selectMock .basic (getRequest anyRequest (go "/docs")) (fun _ => 0) 0 none mocks).1.map
        (·.mock.response.body.file) = some (go "/srv/site/a/index.html") := by
  exact ⟨⟨_, rfl⟩, _, rfl, rfl, rfl⟩

end Mockly.Config
