import Mockly.Engine.Env
import Mockly.Go.Files
import Mockly.Go.Sort
import Mockly.Go.Strconv

/-!
# Directories as mocks

`ExpandHTTPMocks` puts one mock for every file below a directory in the place of the mock that has
it for a body; `mockly add page` does so with `ExpandDirToLiteralMocks`.
-/

namespace Mockly

open List

/-! ## The files of a directory -/

def Dir.walk : Dir → List (List GoString)
  | nil => []
  | file name rest => (if hasPrefix name (go ".") then [] else [[name]]) ++ rest.walk
  | dir name entries rest =>
    (if hasPrefix name (go ".") then [] else entries.walk.map (name :: ·)) ++ rest.walk

lemma Dir.walk_legal {d : Dir} (h : d.Legal) {names : List GoString} (hnames : names ∈ d.walk) :
    names ≠ [] ∧ ∀ n ∈ names, LegalName n := by
  induction d generalizing names with
  | nil => exact absurd hnames not_mem_nil
  | file name rest ih =>
    obtain ⟨hname, -, hrest⟩ := h
    rw [walk, mem_append] at hnames
    obtain hhere | hthere := hnames
    · split_ifs at hhere
      · exact absurd hhere not_mem_nil
      · rw [mem_singleton.mp hhere]
        exact ⟨by simp, by simpa using hname⟩
    · exact ih hrest hthere
  | dir name entries rest ihentries ihrest =>
    obtain ⟨hname, -, hentries, hrest⟩ := h
    rw [walk, mem_append] at hnames
    obtain hhere | hthere := hnames
    · split_ifs at hhere
      · exact absurd hhere not_mem_nil
      · obtain ⟨below, hbelow, rfl⟩ := mem_map.mp hhere
        have hlegal := (ihentries hentries hbelow).2
        exact ⟨by simp, forall_mem_cons.mpr ⟨hname, hlegal⟩⟩
    · exact ihrest hrest hthere

lemma Dir.head_mem_names {d : Dir} {n : GoString} {names : List GoString}
    (h : n :: names ∈ d.walk) : n ∈ d.names := by
  induction d with
  | nil => exact absurd h not_mem_nil
  | file name rest ih =>
    rw [walk, mem_append] at h
    obtain hhere | hthere := h
    · split_ifs at hhere
      · exact absurd hhere not_mem_nil
      · obtain ⟨rfl, -⟩ := cons_eq_cons.mp (mem_singleton.mp hhere)
        exact mem_cons_self
    · exact mem_cons_of_mem _ (ih hthere)
  | dir name entries rest _ ihrest =>
    rw [walk, mem_append] at h
    obtain hhere | hthere := h
    · split_ifs at hhere
      · exact absurd hhere not_mem_nil
      · obtain ⟨below, -, heq⟩ := mem_map.mp hhere
        obtain ⟨rfl, -⟩ := cons_eq_cons.mp heq
        exact mem_cons_self
    · exact mem_cons_of_mem _ (ihrest hthere)

lemma Dir.nodup_walk {d : Dir} (h : d.Legal) : d.walk.Nodup := by
  induction d with
  | nil => exact nodup_nil
  | file name rest ih =>
    obtain ⟨-, hfresh, hrest⟩ := h
    rw [walk]
    split_ifs
    · exact ih hrest
    · refine nodup_cons.mpr ⟨fun hmem => hfresh (head_mem_names hmem), ih hrest⟩
  | dir name entries rest ihentries ihrest =>
    obtain ⟨-, hfresh, hentries, hrest⟩ := h
    rw [walk]
    split_ifs
    · exact ihrest hrest
    · refine nodup_append'.mpr ⟨?_, ihrest hrest, ?_⟩
      · exact (ihentries hentries).map (cons_injective)
      · intro names hhere hthere
        obtain ⟨below, -, rfl⟩ := mem_map.mp hhere
        exact hfresh (head_mem_names hthere)

def Directory.files (d : Directory) : List (List GoString) := d.entries.walk

def Directory.relFiles (d : Directory) : List GoString :=
  sortStrings (d.files.map (join · (go "/")))

lemma Directory.mem_relFiles {d : Directory} {rel : GoString} :
    rel ∈ d.relFiles ↔ ∃ names ∈ d.files, join names (go "/") = rel := by
  rw [relFiles, mem_sortStrings, mem_map]

lemma Directory.nodup_relFiles (d : Directory) : d.relFiles.Nodup := by
  rw [relFiles, nodup_sortStrings]
  refine (Dir.nodup_walk d.legal).map_on fun names hnames names' hnames' heq => ?_
  obtain ⟨hne, hlegal⟩ := Dir.walk_legal d.legal hnames
  obtain ⟨hne', hlegal'⟩ := Dir.walk_legal d.legal hnames'
  exact names_inj hne hne' hlegal hlegal' heq

lemma Directory.sorted_relFiles (d : Directory) : d.relFiles.Pairwise (· < ·) := by
  have hsorted := pairwise_sortStrings (d.files.map (join · (go "/")))
  refine (hsorted.and d.nodup_relFiles).imp fun hle => ?_
  exact Std.lt_of_le_of_ne hle.1 hle.2

namespace Config

/-! ## Paths -/

section Expand

variable (env : Env) (fs : FileSystem)

def resolveBodyPath (raw baseDir : GoString) (restrict : Bool) : Except GoString GoString :=
  let wasAbs := isAbs raw
  let p := if wasAbs then raw else pathJoin baseDir raw
  match filepathAbs fs.getwd p with
  | .error err => .error (go "resolving path " ++ env.quote raw ++ go ": " ++ err)
  | .ok abs =>
    if !wasAbs || restrict then
      match filepathAbs fs.getwd baseDir with
      | .error err =>
        .error (go "resolving base directory " ++ env.quote baseDir ++ go ": " ++ err)
      | .ok baseAbs =>
        let escapes : Bool := match filepathRel baseAbs abs with
          | none => true
          | some rel => rel == go ".." || hasPrefix rel (go "../")
        if escapes then
          .error (go "path " ++ env.quote raw ++ go " escapes config directory " ++
            env.quote baseDir)
        else .ok abs
    else .ok abs

def joinURLPath (base rel : GoString) : GoString :=
  if base = go "/" ∨ base = [] then go "/" ++ rel else pathJoin base rel

def valueOr (v fallback : ℤ) : ℤ := if v ≠ 0 then v else fallback

/-! ## A directory -/

/-- What `walkDirMock` returns. -/
structure Walk where
  dirRoot : GoString
  parentPath : GoString
  baseID : GoString
  relFiles : List GoString

/-- `fmt.Errorf("mock %q: …", id, …)`. -/
def mockError (id msg : GoString) : GoString := go "mock " ++ env.quote id ++ go ": " ++ msg

def trimPath (path : GoString) : GoString :=
  let parentPath := trimSuffix path (go "/")
  if parentPath = [] then go "/" else parentPath

def baseIDOf (id parentPath : GoString) : GoString :=
  if id = [] then
    let baseID := trim (replaceAll parentPath (go "/") (go "-")) (go "-")
    if baseID = [] then go "page" else baseID
  else id

def IsStatic (path : GoString) : Prop :=
  0x2A ∉ path ∧ 0x7B ∉ path ∧ hasPrefix path (go "re:") = false

instance (path : GoString) : Decidable (IsStatic path) := by unfold IsStatic; infer_instance

/-- One mock for every file below the directory. -/
def walkDirMock (m : HTTPMock) (baseDir : GoString) (restrict : Bool) : Except GoString Walk :=
  if m.request.pathRegex ≠ [] then
    .error (mockError env m.id (go "body.dir requires a static request.path, not path_regex"))
  else if ¬IsStatic m.request.path then
    .error (mockError env m.id (go "body.dir requires a static, literal request.path " ++
      go "(no wildcards, named params, or templating)"))
  else if m.sequence ≠ [] then
    .error (mockError env m.id (go "body.dir cannot be combined with sequence"))
  else
    match resolveBodyPath env fs m.response.body.dir baseDir restrict with
    | .error err => .error (mockError env m.id (go "body.dir: " ++ err))
    | .ok dirRoot =>
      let named := go "body.dir " ++ env.quote m.response.body.dir
      match fs.stat dirRoot with
      | .error err => .error (mockError env m.id (named ++ go ": " ++ err))
      | .ok .file => .error (mockError env m.id (named ++ go " is not a directory"))
      | .ok (.dir d) =>
        let parentPath := trimPath m.request.path
        if d.relFiles = [] then .error (mockError env m.id (named ++ go " contains no files"))
        else .ok ⟨dirRoot, parentPath, baseIDOf m.id parentPath, d.relFiles⟩

/-- The mocks for one file: its own, and one more for an index. -/
def fileMocks (m : HTTPMock) (w : Walk) (headers : GoMap GoString) (body : HTTPBody)
    (rel : GoString) : List HTTPMock :=
  let fileChild : HTTPMock :=
    { m with
      id := w.baseID ++ (go "__" ++ replaceAll rel (go "/") (go "__"))
      request := { method := go "GET", path := joinURLPath w.parentPath rel }
      response :=
        { status := valueOr m.response.status 200
          headers := headers
          body := body
          delay := m.response.delay }
      sequence := [] }
  let indexChild : HTTPMock :=
    { fileChild with
      id := w.baseID
      request := { method := go "GET", path := w.parentPath } }
  fileChild :: if pathBase rel = go "index.html" then [indexChild] else []

def fileBody (absFile : GoString) : HTTPBody := { file := absFile, resolvedFile := absFile }

def expandDirMock (m : HTTPMock) (baseDir : GoString) (restrict : Bool) :
    Except GoString (List HTTPMock) := do
  let w ← walkDirMock env fs m baseDir restrict
  return w.relFiles.flatMap fun rel =>
    fileMocks m w m.response.headers (fileBody (pathJoin w.dirRoot rel)) rel

def literalHeaders (headers : GoMap GoString) (ct : GoString) : GoMap GoString :=
  if ct ≠ [] ∧ headers.get? (go "Content-Type") = none then headers.set (go "Content-Type") ct
  else headers

def literalMocks (m : HTTPMock) (w : Walk) (rel : GoString) : Except GoString (List HTTPMock) :=
  let absFile := pathJoin w.dirRoot rel
  match env.readFile absFile with
  | .error err =>
    .error (mockError env m.id (go "reading " ++ env.quote absFile ++ go ": " ++ err))
  | .ok data =>
    .ok (fileMocks m w (literalHeaders m.response.headers (env.typeByExtension absFile))
      (newHTTPBodyLiteral data) rel)

def expandDirToLiteralMocks (m : HTTPMock) (baseDir : GoString) : Except GoString (List HTTPMock) :=
  do
    let w ← walkDirMock env fs m baseDir false
    let children ← w.relFiles.mapM (literalMocks env m w)
    return children.flatten

/-! ## A list of mocks -/

/-- `resolveSequenceBodies`, from entry `i` on. -/
def resolveSequenceBodies (baseDir : GoString) (restrict : Bool) (i : ℕ) :
    List HTTPResponse → Except GoString (List HTTPResponse)
  | [] => .ok []
  | r :: seq =>
    let entry := go "sequence[" ++ formatNat i ++ go "]"
    if r.body.dir ≠ [] then
      .error (entry ++ go ".body: \"dir\" is not supported inside sequence entries, only on a " ++
        go "mock's top-level response")
    else if r.body.file = [] then do
      let seq ← resolveSequenceBodies baseDir restrict (i + 1) seq
      return r :: seq
    else
      match resolveBodyPath env fs r.body.file baseDir restrict with
      | .error err => .error (entry ++ go ".body.file: " ++ err)
      | .ok resolved =>
        match fs.stat resolved with
        | .error err =>
          .error (entry ++ go ".body.file " ++ env.quote r.body.file ++ go ": " ++ err)
        | .ok _ => do
            let seq ← resolveSequenceBodies baseDir restrict (i + 1) seq
            return { r with body := { r.body with resolvedFile := resolved } } :: seq

def withSequence (m : HTTPMock) (baseDir : GoString) (restrict : Bool) :
    Except GoString (List (HTTPMock × Bool)) :=
  match resolveSequenceBodies env fs baseDir restrict 0 m.sequence with
  | .error err => .error (mockError env m.id err)
  | .ok sequence => .ok [({ m with sequence := sequence }, false)]

/-- What a mock is replaced by, and whether that is generated. -/
def expandMock (m : HTTPMock) (baseDir : GoString) (restrict : Bool) :
    Except GoString (List (HTTPMock × Bool)) :=
  let body := m.response.body
  if body.dir ≠ [] then do
    let children ← expandDirMock env fs m baseDir restrict
    return children.map fun child => (child, true)
  else if body.file ≠ [] then
    match resolveBodyPath env fs body.file baseDir restrict with
    | .error err => .error (mockError env m.id (go "body.file: " ++ err))
    | .ok resolved =>
      match fs.stat resolved with
      | .error err =>
        .error (mockError env m.id (go "body.file " ++ env.quote body.file ++ go ": " ++ err))
      | .ok _ =>
        let body := { body with resolvedFile := resolved }
        withSequence env fs { m with response := { m.response with body := body } } baseDir
          restrict
  else withSequence env fs m baseDir restrict

/-- The mock that has a key. -/
structure Owner where
  id : GoString
  generated : Bool

/-- Method and path in one text. -/
def requestKey (ut : UpperTable) (m : HTTPMock) : GoString :=
  toUpper ut m.request.method ++ (go " " ++ m.request.path)

/-- The second loop of `ExpandHTTPMocks`. -/
def checkDuplicates (ut : UpperTable) (seen : GoMap Owner) :
    List (HTTPMock × Bool) → Except GoString Unit
  | [] => .ok ()
  | (m, generated) :: out =>
    let key := requestKey ut m
    match seen.get? key with
    | some prev =>
      if prev.generated || generated then
        .error (mockError env m.id (go "request " ++ key ++ go " conflicts with mock " ++
          env.quote prev.id ++
          go " (duplicate method+path, likely from a body.dir expansion)"))
      else checkDuplicates ut seen out
    | none => checkDuplicates ut (seen.set key ⟨m.id, generated⟩) out

def expandHTTPMocks (ut : UpperTable) (mocks : List HTTPMock) (baseDir : GoString)
    (restrict : Bool) : Except GoString (List HTTPMock) := do
  let expanded ← mocks.mapM fun m => expandMock env fs m baseDir restrict
  let out := expanded.flatten
  checkDuplicates env ut ∅ out
  return out.map Prod.fst

end Expand

/-! ## What a walk finds -/

variable {env : Env} {fs : FileSystem} {m : HTTPMock} {baseDir : GoString} {restrict : Bool}

/-- **A walk that succeeds.** -/
lemma walkDirMock_ok {w : Walk} (h : walkDirMock env fs m baseDir restrict = .ok w) :
    IsStatic m.request.path ∧ w.parentPath = trimPath m.request.path ∧
      w.baseID = baseIDOf m.id w.parentPath ∧
      ∃ d, fs.stat w.dirRoot = .ok (.dir d) ∧ w.relFiles = d.relFiles := by
  rw [walkDirMock] at h
  split_ifs at h with hregex hstatic hsequence
  split at h
  · cases h
  · rename_i dirRoot hroot
    dsimp only at h
    split at h
    · cases h
    · cases h
    · rename_i d hstat
      split_ifs at h
      cases h
      exact ⟨hstatic, rfl, rfl, d, hstat, rfl⟩

lemma expandDirMock_eq {w : Walk} (h : walkDirMock env fs m baseDir restrict = .ok w) :
    expandDirMock env fs m baseDir restrict =
      .ok (w.relFiles.flatMap fun rel =>
        fileMocks m w m.response.headers (fileBody (pathJoin w.dirRoot rel)) rel) := by
  rw [expandDirMock, h]
  rfl

lemma trimPath_ne_nil (path : GoString) : trimPath path ≠ [] := by
  rw [trimPath]
  split_ifs with h
  · decide
  · exact h

lemma baseIDOf_ne_nil (id parentPath : GoString) : baseIDOf id parentPath ≠ [] := by
  rw [baseIDOf]
  split_ifs with hid
  · dsimp only
    split_ifs with hbase
    · decide
    · exact hbase
  · exact hid

/-! ## Duplicates -/

/-- Two mocks that must not stand in the same list. -/
def Conflict (ut : UpperTable) (a b : HTTPMock × Bool) : Prop :=
  requestKey ut a.1 = requestKey ut b.1 ∧ (a.2 = true ∨ b.2 = true)

/-- The owners that have been seen conflict with none of the mocks to come. -/
def Owned (ut : UpperTable) (seen : GoMap Owner) (b : HTTPMock × Bool) : Prop :=
  ∀ o, seen.get? (requestKey ut b.1) = some o → o.generated = false ∧ b.2 = false

lemma owned_set_iff (ut : UpperTable) {seen : GoMap Owner} {m : HTTPMock} (generated : Bool)
    (hseen : seen.get? (requestKey ut m) = none) (b : HTTPMock × Bool) :
    Owned ut (seen.set (requestKey ut m) ⟨m.id, generated⟩) b ↔
      Owned ut seen b ∧ ¬Conflict ut (m, generated) b := by
  by_cases hkey : requestKey ut b.1 = requestKey ut m
  · simp [Owned, Conflict, hkey, hseen]
  · simp [Owned, Conflict, GoMap.get?_set_ne _ _ hkey, Ne.symm hkey]

/-- A mock whose key has an owner already conflicts with none that the owner does not. -/
lemma not_conflict_of_owned {ut : UpperTable} {seen : GoMap Owner} {a b : HTTPMock × Bool}
    {prev : Owner} (hseen : seen.get? (requestKey ut a.1) = some prev) (ha : Owned ut seen a)
    (hb : Owned ut seen b) : ¬Conflict ut a b := by
  rintro ⟨hkey, hgenerated⟩
  rw [(ha prev hseen).2, (hb prev (hkey ▸ hseen)).2] at hgenerated
  simp at hgenerated

lemma checkDuplicates_iff (ut : UpperTable) (seen : GoMap Owner) (out : List (HTTPMock × Bool)) :
    checkDuplicates env ut seen out = .ok () ↔
      (∀ b ∈ out, Owned ut seen b) ∧ out.Pairwise (fun a b => ¬Conflict ut a b) := by
  induction out generalizing seen with
  | nil => simp [checkDuplicates]
  | cons a out ih =>
    obtain ⟨m, generated⟩ := a
    rw [checkDuplicates, forall_mem_cons, pairwise_cons]
    cases hseen : seen.get? (requestKey ut m) with
    | some prev =>
      have howned : Owned ut seen (m, generated) ↔ prev.generated = false ∧ generated = false := by
        simp [Owned, hseen]
      simp only
      split_ifs with hconflict
      · refine iff_of_false (by simp) fun hall => ?_
        obtain ⟨hprev, hgenerated⟩ := howned.mp hall.1.1
        simp [hprev, hgenerated] at hconflict
      · rw [Bool.or_eq_true, not_or, Bool.not_eq_true, Bool.not_eq_true] at hconflict
        have hfirst := howned.mpr hconflict
        rw [ih]
        constructor
        · rintro ⟨hrest, hpairs⟩
          exact ⟨⟨hfirst, hrest⟩,
            fun b hb => not_conflict_of_owned hseen hfirst (hrest b hb), hpairs⟩
        · rintro ⟨⟨-, hrest⟩, -, hpairs⟩
          exact ⟨hrest, hpairs⟩
    | none =>
      have hfirst : Owned ut seen (m, generated) := by
        intro o ho
        rw [hseen] at ho
        cases ho
      simp only
      rw [ih]
      simp only [owned_set_iff ut generated hseen]
      constructor
      · rintro ⟨hrest, hpairs⟩
        exact ⟨⟨hfirst, fun b hb => (hrest b hb).1⟩, fun b hb => (hrest b hb).2, hpairs⟩
      · rintro ⟨⟨-, hrest⟩, hconflict, hpairs⟩
        exact ⟨fun b hb => ⟨hrest b hb, hconflict b hb⟩, hpairs⟩

/-- **The check passes if there are no conflicts.** -/
lemma checkDuplicates_eq_ok_iff (ut : UpperTable) (out : List (HTTPMock × Bool)) :
    checkDuplicates env ut ∅ out = .ok () ↔ out.Pairwise (fun a b => ¬Conflict ut a b) := by
  rw [checkDuplicates_iff]
  refine and_iff_right fun b _ o ho => ?_
  rw [GoMap.get?_empty] at ho
  cases ho

end Config

end Mockly
