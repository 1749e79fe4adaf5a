import Mockly.API.Bodies
import Mockly.Config.Pages
import Mockly.Lib.Loops

/-!
# The IDs of pages

Pages get IDs from the ID of the mock and the path of the file, with `__` for every slash. The
management API replaces a mock that has the same ID.

Main result: **`page_ids_distinct_iff`**.
-/

namespace Mockly.API

open Config Loops List

/-! ## IDs -/

/-- The IDs that the mocks for the files get are distinct. -/
def DistinctIDs (w : Walk) : Prop :=
  (w.relFiles.map fun rel => replaceAll rel (go "/") (go "__")).Nodup ∧ indexes w ≤ 1

lemma ids_fileMocks (m : HTTPMock) (w : Walk) (headers : GoMap GoString) (body : HTTPBody)
    (rel : GoString) :
    (fileMocks m w headers body rel).map (·.id) =
      (w.baseID ++ (go "__" ++ replaceAll rel (go "/") (go "__"))) ::
        if pathBase rel = go "index.html" then [w.baseID] else [] := by
  rw [fileMocks]
  dsimp only
  rw [map_cons]
  split_ifs <;> rfl

/-- **When the IDs are distinct.**  The ID of the mock itself is none of those of files, which are
longer. -/
lemma nodup_ids_iff (m : HTTPMock) (w : Walk) (headers : GoString → GoMap GoString)
    (body : GoString → HTTPBody) :
    ((w.relFiles.flatMap fun rel => fileMocks m w (headers rel) (body rel) rel).map (·.id)).Nodup ↔
      DistinctIDs w := by
  have hids :
      (w.relFiles.flatMap fun rel => fileMocks m w (headers rel) (body rel) rel).map (·.id) =
        w.relFiles.flatMap fun rel =>
          (w.baseID ++ (go "__" ++ replaceAll rel (go "/") (go "__"))) ::
            if pathBase rel = go "index.html" then [w.baseID] else [] := by
    rw [map_flatMap]
    exact flatMap_congr fun rel _ => ids_fileMocks m w _ _ rel
  have hlonger : ∀ rel ∈ w.relFiles,
      w.baseID ++ (go "__" ++ replaceAll rel (go "/") (go "__")) ≠ w.baseID := by
    intro rel _ heq
    have hnil := append_right_eq_self.mp heq
    cases hnil
  have hmap : (w.relFiles.map fun rel =>
        w.baseID ++ (go "__" ++ replaceAll rel (go "/") (go "__"))).Nodup ↔
      (w.relFiles.map fun rel => replaceAll rel (go "/") (go "__")).Nodup := by
    have hcomp : (w.relFiles.map fun rel =>
          w.baseID ++ (go "__" ++ replaceAll rel (go "/") (go "__"))) =
        (w.relFiles.map fun rel => replaceAll rel (go "/") (go "__")).map
          fun s => w.baseID ++ (go "__" ++ s) := by
      rw [map_map]
      rfl
    rw [hcomp]
    refine nodup_map_iff fun s s' heq => ?_
    exact append_cancel_left (append_cancel_left heq)
  rw [hids, nodup_flatMap_alias _ hlonger, hmap]
  rfl

/-! ## Adding mocks -/

section Upsert

variable {M : Type} {idOf : M → GoString} {m x : M} {l : List M}

lemma mem_upsert_self (idOf : M → GoString) (m : M) (l : List M) : m ∈ upsert idOf m l := by
  induction l with
  | nil => exact mem_singleton_self m
  | cons y l ih =>
    rw [upsert]
    split_ifs
    · exact mem_cons_self
    · exact mem_cons_of_mem y ih

lemma mem_upsert_of_ne (hx : x ∈ l) (hne : idOf x ≠ idOf m) : x ∈ upsert idOf m l := by
  induction l with
  | nil => exact absurd hx not_mem_nil
  | cons y l ih =>
    rw [upsert]
    obtain rfl | hx := mem_cons.mp hx
    · rw [if_neg hne]
      exact mem_cons_self
    · split_ifs
      · exact mem_cons_of_mem m hx
      · exact mem_cons_of_mem y (ih hx)

end Upsert

def Accepted (m : HTTPMock) : Prop := resolveAddedMockBody m = none ∧ m.id ≠ []

lemma handleAll_add_cons {c : HTTPMock} (hc : Accepted c) (live cs : List HTTPMock)
    (now : HTTPMock → ℤ) :
    handleAll live ((c :: cs).map fun c => .add c (now c)) =
      handleAll (upsert HTTPMockOf.id c live) (cs.map fun c => .add c (now c)) := by
  have hid : withID c (now c) = c := by rw [withID, if_neg hc.2]
  rw [handleAll, map_cons, foldl_cons, derived_add hc.1, Option.getD_some, hid, handleAll]

lemma mem_handleAll_of_notMem {cs live : List HTTPMock} {x : HTTPMock}
    (hcs : ∀ c ∈ cs, Accepted c) (hid : x.id ∉ cs.map (·.id)) (hx : x ∈ live)
    (now : HTTPMock → ℤ) : x ∈ handleAll live (cs.map fun c => .add c (now c)) := by
  induction cs generalizing live with
  | nil => exact hx
  | cons c cs ih =>
    rw [forall_mem_cons] at hcs
    rw [map_cons, mem_cons, not_or] at hid
    rw [handleAll_add_cons hcs.1]
    exact ih hcs.2 hid.2 (mem_upsert_of_ne hx hid.1)

/-- **Mocks with distinct IDs are all there in the end.** -/
lemma mem_handleAll_add {cs : List HTTPMock} (hcs : ∀ c ∈ cs, Accepted c)
    (hids : (cs.map (·.id)).Nodup) (live : List HTTPMock) (now : HTTPMock → ℤ) :
    ∀ c ∈ cs, c ∈ handleAll live (cs.map fun c => .add c (now c)) := by
  induction cs generalizing live with
  | nil => exact fun c hc => absurd hc not_mem_nil
  | cons c cs ih =>
    rw [forall_mem_cons] at hcs
    rw [map_cons, nodup_cons] at hids
    rw [handleAll_add_cons hcs.1]
    intro x hx
    obtain rfl | hx := mem_cons.mp hx
    · exact mem_handleAll_of_notMem hcs.2 hids.1 (mem_upsert_self _ _ _) now
    · exact ih hcs.2 hids.2 _ x hx

/-! ## Pages with their content -/

section Literal

variable {env : Env} {fs : FileSystem} {m : HTTPMock} {baseDir : GoString} {w : Walk}

/-- The headers and the body of the page for a file that could be read. -/
def literalHeadersOf (env : Env) (m : HTTPMock) (w : Walk) (rel : GoString) : GoMap GoString :=
  literalHeaders m.response.headers (env.typeByExtension (pathJoin w.dirRoot rel))

def literalBodyOf (env : Env) (w : Walk) (rel : GoString) : HTTPBody :=
  newHTTPBodyLiteral ((env.readFile (pathJoin w.dirRoot rel)).toOption.getD [])

lemma mapM_literalMocks {rels : List GoString} {parts : List (List HTTPMock)}
    (h : rels.mapM (literalMocks env m w) = .ok parts) :
    parts = rels.map fun rel =>
      fileMocks m w (literalHeadersOf env m w rel) (literalBodyOf env w rel) rel := by
  induction rels generalizing parts with
  | nil =>
    cases h
    rfl
  | cons rel rels ih =>
    rw [mapM_cons] at h
    obtain ⟨part, hpart, h⟩ := bind_eq_ok h
    obtain ⟨rest, hrest, h⟩ := bind_eq_ok h
    cases h
    cases hread : env.readFile (pathJoin w.dirRoot rel) with
    | error err => simp [literalMocks, hread] at hpart
    | ok data =>
      simp only [literalMocks, hread, Except.ok.injEq] at hpart
      rw [map_cons, ← ih hrest, literalBodyOf, hread, ← hpart]
      rfl

lemma expandDirToLiteralMocks_ok {children : List HTTPMock}
    (hwalk : walkDirMock env fs m baseDir false = .ok w)
    (h : expandDirToLiteralMocks env fs m baseDir = .ok children) :
    children = w.relFiles.flatMap fun rel =>
      fileMocks m w (literalHeadersOf env m w rel) (literalBodyOf env w rel) rel := by
  rw [expandDirToLiteralMocks, hwalk] at h
  obtain ⟨_, hw, h⟩ := bind_eq_ok h
  cases hw
  obtain ⟨parts, hparts, h⟩ := bind_eq_ok h
  cases h
  rw [mapM_literalMocks hparts, flatMap_def]

lemma accepted_fileMocks (hwalk : walkDirMock env fs m baseDir false = .ok w)
    {headers : GoMap GoString} {data rel : GoString} {c : HTTPMock}
    (h : c ∈ fileMocks m w headers (newHTTPBodyLiteral data) rel) : Accepted c := by
  have hbase : w.baseID ≠ [] := by
    rw [(walkDirMock_ok hwalk).2.2.1]
    exact baseIDOf_ne_nil _ _
  rw [fileMocks, mem_cons] at h
  obtain rfl | h := h
  · exact ⟨rfl, by simp [hbase]⟩
  · split_ifs at h
    · rw [mem_singleton] at h
      subst h
      exact ⟨rfl, hbase⟩
    · exact absurd h not_mem_nil

end Literal

/-- **When the pages have distinct IDs.**  Then pages that are sent to the API are all there. -/
theorem page_ids_distinct_iff (env : Env) (fs : FileSystem) (m : HTTPMock) (baseDir : GoString) :
    (∀ restrict w children, walkDirMock env fs m baseDir restrict = .ok w →
      expandDirMock env fs m baseDir restrict = .ok children →
        ((children.map (·.id)).Nodup ↔ DistinctIDs w)) ∧
    ∀ w children, walkDirMock env fs m baseDir false = .ok w →
      expandDirToLiteralMocks env fs m baseDir = .ok children →
        ((children.map (·.id)).Nodup ↔ DistinctIDs w) ∧
        (DistinctIDs w → ∀ (live : List HTTPMock) (now : HTTPMock → ℤ), ∀ c ∈ children,
          c ∈ handleAll live (children.map fun c => .add c (now c))) := by
  constructor
  · intro restrict w children hwalk hexpand
    rw [expandDirMock_eq hwalk] at hexpand
    cases hexpand
    exact nodup_ids_iff m w (fun _ => m.response.headers) fun rel =>
      fileBody (pathJoin w.dirRoot rel)
  · intro w children hwalk hexpand
    have hchildren := expandDirToLiteralMocks_ok hwalk hexpand
    have hids : (children.map (·.id)).Nodup ↔ DistinctIDs w := by
      rw [hchildren]
      exact nodup_ids_iff m w _ _
    refine ⟨hids, fun hdistinct live now => mem_handleAll_add ?_ (hids.mpr hdistinct) live now⟩
    intro c hc
    rw [hchildren] at hc
    obtain ⟨rel, -, hrel⟩ := mem_flatMap.mp hc
    exact accepted_fileMocks hwalk hrel

def underscores : Directory where
  entries := .file (go "a__b") (.dir (go "a") (.file (go "b") .nil) .nil)
  legal := by decide

def readable : Env := { Env.basic with readFile := fun p => .ok p }

/-- Of the two pages, one replaces the other. -/
theorem page_replaced :
    ∃ children, expandDirToLiteralMocks readable (siteFS underscores) docs (go "/srv") =
        .ok children ∧
      children.map (·.request.path) = [go "/docs/a/b", go "/docs/a__b"] ∧
      children.map (·.id) = [go "docs__a__b", go "docs__a__b"] ∧
      (handleAll [] (children.map fun c => .add c 0)).map (·.request.path) =
        [go "/docs/a__b"] :=
  ⟨_, rfl, rfl, rfl, rfl⟩

end Mockly.API
