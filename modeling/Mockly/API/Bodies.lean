import Mockly.API.Handlers
import Mockly.Engine.Render

/-!
# Mocks added through the API read no files

The handlers refuse a mock with a file or a directory. A `Tracked` mock has a mark that says whether
its current version came with a request.

Main result: **`tracked_read_no_file`**.
-/

namespace Mockly

open List

def HTTPMockOf.bodies (m : HTTPMock) : List HTTPBody := m.response.body :: m.sequence.map (·.body)

lemma HTTPBody.resolve_of_file_eq_nil {b : HTTPBody} (h : b.file = []) (env : Env) :
    b.resolve env = .ok (b.literal, []) := by
  rw [HTTPBody.resolve, if_pos h]

lemma renderHTTPBody_readFile {b : HTTPBody} (h : b.file = []) (env : Env)
    (readFile : GoString → Except GoString GoString) (req : RequestContext) (declared : GoString) :
    renderHTTPBody { env with readFile := readFile } b req declared =
      renderHTTPBody env b req declared := by
  rw [renderHTTPBody, renderHTTPBody, HTTPBody.resolve_of_file_eq_nil h,
    HTTPBody.resolve_of_file_eq_nil h]
  rfl

namespace API

/-! ## Editing under a map -/

section Lists

variable {M N : Type} {idOf : M → GoString} {idOf' : N → GoString} {f : M → N}

lemma upsert_map (hf : ∀ x, idOf' (f x) = idOf x) (m : M) (l : List M) :
    upsert idOf' (f m) (l.map f) = (upsert idOf m l).map f := by
  induction l with
  | nil => rfl
  | cons x l ih =>
    rw [map_cons, upsert, upsert, hf, hf, ih]
    split <;> rfl

lemma deleteByID_map (hf : ∀ x, idOf' (f x) = idOf x) (id : GoString) (l : List M) :
    deleteByID idOf' id (l.map f) = (deleteByID idOf id l).map (List.map f) := by
  simp only [deleteByID, any_map, filter_map, Function.comp_def, hf]
  split <;> rfl

lemma changeFirst_append {id : GoString} {g : M → M} {pre post : List M} {m : M}
    (hpre : ∀ x ∈ pre, idOf x ≠ id) (hm : idOf m = id) :
    changeFirst idOf id g (pre ++ m :: post) = some (pre ++ g m :: post) := by
  induction pre with
  | nil => simp [changeFirst, hm]
  | cons x pre ih =>
    rw [forall_mem_cons] at hpre
    rw [cons_append, changeFirst, if_neg hpre.1, ih hpre.2]
    rfl

lemma changeFirst_eq_none {id : GoString} {g : M → M} {l : List M} (h : ∀ x ∈ l, idOf x ≠ id) :
    changeFirst idOf id g l = none := by
  induction l with
  | nil => rfl
  | cons x l ih =>
    rw [forall_mem_cons] at h
    rw [changeFirst, if_neg h.1, ih h.2]
    rfl

lemma exists_first (idOf : M → GoString) (id : GoString) (l : List M) :
    (∀ x ∈ l, idOf x ≠ id) ∨
      ∃ pre m post, l = pre ++ m :: post ∧ idOf m = id ∧ ∀ x ∈ pre, idOf x ≠ id := by
  induction l with
  | nil => exact .inl (by simp)
  | cons x l ih =>
    by_cases hx : idOf x = id
    · exact .inr ⟨[], x, l, rfl, hx, by simp⟩
    · rcases ih with hnone | ⟨pre, m, post, rfl, hm, hpre⟩
      · exact .inl (forall_mem_cons.mpr ⟨hx, hnone⟩)
      · exact .inr ⟨x :: pre, m, post, rfl, hm, forall_mem_cons.mpr ⟨hx, hpre⟩⟩

lemma find?_append_of_first {id : GoString} {pre post : List M} {m : M}
    (hpre : ∀ x ∈ pre, idOf x ≠ id) (hm : idOf m = id) :
    ((pre ++ m :: post).find? fun x => idOf x = id) = some m := by
  rw [List.find?_append, List.find?_eq_none.mpr (by simpa using hpre)]
  simp [hm]

lemma map_changeFirst {f' : M → N} {id : GoString} {g : M → M} {g' : N → N} {l : List M}
    (hf : ∀ x, idOf' (f x) = idOf x)
    (hchange : ∀ pre m post, l = pre ++ m :: post → (l.find? fun x => idOf x = id) = some m →
      f' (g m) = g' (f m) ∧ ∀ x ∈ pre ++ post, f' x = f x) :
    (changeFirst idOf id g l).map (List.map f') = changeFirst idOf' id g' (l.map f) := by
  rcases exists_first idOf id l with hnone | ⟨pre, m, post, rfl, hm, hpre⟩
  · rw [changeFirst_eq_none hnone, changeFirst_eq_none]
    · rfl
    · simpa [hf] using hnone
  · obtain ⟨hseen, hothers⟩ := hchange pre m post rfl (find?_append_of_first hpre hm)
    rw [forall_mem_append] at hothers
    rw [changeFirst_append hpre hm, map_append, map_cons,
      changeFirst_append (by simpa [hf] using hpre) ((hf m).trans hm), Option.map_some, map_append,
      map_cons, hseen, map_congr_left hothers.1, map_congr_left hothers.2]

lemma exists_upsert (idOf : M → GoString) (m : M) (l : List M) :
    ∃ pre post, upsert idOf m l = pre ++ m :: post ∧ (pre ++ post).Sublist l := by
  induction l with
  | nil => exact ⟨[], [], rfl, .slnil⟩
  | cons x l ih =>
    by_cases hx : idOf x = idOf m
    · exact ⟨[], l, by rw [upsert, if_pos hx]; rfl, sublist_cons_self x l⟩
    · obtain ⟨pre, post, heq, hsub⟩ := ih
      exact ⟨x :: pre, post, by rw [upsert, if_neg hx, heq]; rfl, hsub.cons_cons x⟩

end Lists

/-! ## Mocks with a mark -/

/-- A live mock, and whether its current version was added or replaced through the API. -/
structure Tracked where
  mock : HTTPMock
  viaAPI : Bool

def Tracked.present (m : HTTPMock) : Tracked := ⟨m, false⟩

def Tracked.id (t : Tracked) : GoString := t.mock.id

/-- What a request makes of the live mocks and their marks. -/
def track (live : List Tracked) : ManageRequest → List Tracked
  | .add m now =>
    if (resolveAddedMockBody m).isSome then live
    else upsert Tracked.id ⟨withID m now, true⟩ live
  | .update id m =>
    if (resolveAddedMockBody m).isSome then live
    else (changeFirst Tracked.id id (fun _ => ⟨{ m with id := id }, true⟩) live).getD live
  | .patch id p =>
    (changeFirst Tracked.id id (fun t => { t with mock := p.apply t.mock }) live).getD live
  | .delete id => (deleteByID Tracked.id id live).getD live

/-- One request after the other. -/
def trackAll (live : List Tracked) (reqs : List ManageRequest) : List Tracked :=
  reqs.foldl track live

/-! ### The marks change nothing -/

open Tracked

lemma map_getD_mock (live : List Tracked) (r : Option (List Tracked)) :
    (r.getD live).map mock = (r.map (List.map mock)).getD (live.map mock) := by
  cases r <;> rfl

lemma derived_refused {m : HTTPMock} (h : (resolveAddedMockBody m).isSome) (mocks : List HTTPMock)
    (id : GoString) (now : ℤ) :
    derived (.add m now) mocks = none ∧ derived (.update id m) mocks = none := by
  obtain ⟨err, herr⟩ := Option.isSome_iff_exists.mp h
  simp only [derived, handle, herr]
  exact ⟨rfl, rfl⟩

lemma derived_update {m : HTTPMock} (hm : resolveAddedMockBody m = none) (id : GoString)
    (mocks : List HTTPMock) :
    derived (.update id m) mocks =
      changeFirst HTTPMockOf.id id (fun _ => { m with id := id }) mocks := by
  simp only [derived, handle, hm]
  cases changeFirst HTTPMockOf.id id (fun _ => { m with id := id }) mocks <;> rfl

lemma derived_delete (id : GoString) (mocks : List HTTPMock) :
    derived (.delete id) mocks = deleteByID HTTPMockOf.id id mocks := by
  simp only [derived, handle]
  cases deleteByID HTTPMockOf.id id mocks <;> rfl

lemma derived_patch (id : GoString) (p : HTTPResponsePatch) (mocks : List HTTPMock) :
    derived (.patch id p) mocks = changeFirst HTTPMockOf.id id p.apply mocks := by
  simp only [derived, handle]
  rcases exists_first HTTPMockOf.id id mocks with hnone | ⟨pre, m, post, rfl, hm, hpre⟩
  · rw [changeFirst_eq_none hnone, List.find?_eq_none.mpr (by simpa using hnone)]
    rfl
  · rw [changeFirst_append hpre hm, find?_append_of_first hpre hm]
    rfl

lemma derived_add {m : HTTPMock} (hm : resolveAddedMockBody m = none) (now : ℤ)
    (mocks : List HTTPMock) :
    derived (.add m now) mocks = some (upsert HTTPMockOf.id (withID m now) mocks) := by
  simp only [derived, handle, hm]
  rfl

lemma changeFirst_mock {id : GoString} {g : Tracked → Tracked} {g' : HTTPMock → HTTPMock}
    (h : ∀ t, (g t).mock = g' t.mock) (live : List Tracked) :
    (changeFirst Tracked.id id g live).map (List.map Tracked.mock) =
      changeFirst HTTPMockOf.id id g' (live.map Tracked.mock) :=
  map_changeFirst (fun _ => rfl) fun _ m _ _ _ => ⟨h m, fun _ _ => rfl⟩

lemma upsert_mock (t : Tracked) (live : List Tracked) :
    (upsert Tracked.id t live).map Tracked.mock =
      upsert HTTPMockOf.id t.mock (live.map Tracked.mock) :=
  (upsert_map (fun _ => rfl) t live).symm

lemma deleteByID_mock (id : GoString) (live : List Tracked) :
    (deleteByID Tracked.id id live).map (List.map Tracked.mock) =
      deleteByID HTTPMockOf.id id (live.map Tracked.mock) :=
  (deleteByID_map (fun _ => rfl) id live).symm

lemma track_mock (live : List Tracked) (r : ManageRequest) :
    (track live r).map mock = (derived r (live.map mock)).getD (live.map mock) := by
  cases r with
  | add m now =>
    rw [track]
    split_ifs with hrefused
    · rw [(derived_refused hrefused _ [] now).1, Option.getD_none]
    · rw [derived_add (by simpa using hrefused), Option.getD_some, upsert_mock]
  | update id m =>
    rw [track]
    split_ifs with hrefused
    · rw [(derived_refused hrefused _ id 0).2, Option.getD_none]
    · rw [derived_update (by simpa using hrefused), map_getD_mock]
      exact congrArg (Option.getD · _) (changeFirst_mock (fun _ => rfl) live)
  | patch id p =>
    rw [track, derived_patch, map_getD_mock]
    exact congrArg (Option.getD · _) (changeFirst_mock (fun _ => rfl) live)
  | delete id => rw [track, derived_delete, map_getD_mock, deleteByID_mock]

/-- **The marks change nothing**: what is tracked are the live mocks. -/
lemma trackAll_mock (live : List Tracked) (reqs : List ManageRequest) :
    (trackAll live reqs).map mock = handleAll (live.map mock) reqs := by
  induction reqs generalizing live with
  | nil => rfl
  | cons r reqs ih =>
    rw [trackAll, foldl_cons, handleAll, foldl_cons, ← track_mock]
    exact ih (track live r)

/-! ## Bodies without files -/

/-- If the mock came with a request, no body of it is a file. -/
def Clean (t : Tracked) : Prop := t.viaAPI = true → ∀ b ∈ t.mock.bodies, b.file = []

lemma sequenceFileError_eq_none_iff (i : ℕ) (seq : List HTTPResponse) :
    sequenceFileError i seq = none ↔ ∀ r ∈ seq, r.body.file = [] := by
  induction seq generalizing i with
  | nil => simp [sequenceFileError]
  | cons r seq ih =>
    rw [sequenceFileError, forall_mem_cons]
    split_ifs with hfile
    · simp [hfile]
    · rw [ih, not_not.mp hfile]
      simp

lemma files_of_accepted {m : HTTPMock} (h : resolveAddedMockBody m = none) :
    ∀ b ∈ m.bodies, b.file = [] := by
  rw [resolveAddedMockBody] at h
  split_ifs at h with hdir hfile
  rw [sequenceFileError_eq_none_iff] at h
  rw [HTTPMockOf.bodies, forall_mem_cons]
  exact ⟨not_not.mp hfile, by simpa using h⟩

lemma bodies_withID (m : HTTPMock) (now : ℤ) : (withID m now).bodies = m.bodies := by
  rw [withID]
  split_ifs <;> rfl

lemma clean_apply {t : Tracked} (h : Clean t) (p : HTTPResponsePatch) :
    Clean { t with mock := p.apply t.mock } := by
  intro hmark b hb
  have hbefore := h hmark
  rw [HTTPMockOf.bodies, forall_mem_cons] at hbefore
  rcases mem_cons.mp hb with rfl | hb
  · cases hbody : p.body with
    | none => simpa [HTTPResponsePatch.apply, hbody] using hbefore.1
    | some s => simp [HTTPResponsePatch.apply, hbody, newHTTPBodyLiteral]
  · exact hbefore.2 b hb

/-! ### Editing keeps what holds of every mock -/

section Lists

variable {M : Type} {idOf : M → GoString} {P : M → Prop} {l : List M}

lemma forall_mem_upsert {m : M} (hm : P m) (h : ∀ x ∈ l, P x) : ∀ x ∈ upsert idOf m l, P x := by
  obtain ⟨pre, post, heq, hsub⟩ := exists_upsert idOf m l
  intro x hx
  rw [heq, mem_append, mem_cons] at hx
  rcases hx with hx | rfl | hx
  · exact h x (hsub.subset (mem_append_left _ hx))
  · exact hm
  · exact h x (hsub.subset (mem_append_right _ hx))

lemma forall_mem_changeFirst {id : GoString} {g : M → M} (hg : ∀ x, P x → P (g x))
    (h : ∀ x ∈ l, P x) : ∀ x ∈ (changeFirst idOf id g l).getD l, P x := by
  rcases exists_first idOf id l with hnone | ⟨pre, m, post, rfl, hm, hpre⟩
  · rwa [changeFirst_eq_none hnone]
  · rw [changeFirst_append hpre hm]
    rw [forall_mem_append, forall_mem_cons] at h
    exact forall_mem_append.mpr ⟨h.1, forall_mem_cons.mpr ⟨hg m h.2.1, h.2.2⟩⟩

lemma forall_mem_deleteByID {id : GoString} (h : ∀ x ∈ l, P x) :
    ∀ x ∈ (deleteByID idOf id l).getD l, P x := by
  rw [deleteByID]
  split_ifs with hfound
  · exact fun x hx => h x (mem_of_mem_filter hx)
  · exact h

end Lists

/-- **One request keeps the marked mocks free of files.** -/
lemma clean_track {live : List Tracked} (h : ∀ t ∈ live, Clean t) (r : ManageRequest) :
    ∀ t ∈ track live r, Clean t := by
  cases r with
  | add m now =>
    rw [track]
    split_ifs with hrefused
    · exact h
    · refine forall_mem_upsert (fun _ => ?_) h
      rw [bodies_withID]
      exact files_of_accepted (by simpa using hrefused)
  | update id m =>
    rw [track]
    split_ifs with hrefused
    · exact h
    · refine forall_mem_changeFirst (fun _ _ _ => ?_) h
      exact files_of_accepted (m := m) (by simpa using hrefused)
  | patch id p => exact forall_mem_changeFirst (fun t ht => clean_apply ht p) h
  | delete id => exact forall_mem_deleteByID h

lemma clean_trackAll {live : List Tracked} (h : ∀ t ∈ live, Clean t) (reqs : List ManageRequest) :
    ∀ t ∈ trackAll live reqs, Clean t := by
  induction reqs generalizing live with
  | nil => exact h
  | cons r reqs ih => exact ih (clean_track h r)

/-- **What comes through the API is served without the file system.** Whatever body a marked mock is
served with, `Resolve` returns its literal and the rendered body does not depend on what
`os.ReadFile` returns. -/
theorem tracked_read_no_file (mocks : List HTTPMock) (reqs : List ManageRequest) :
    (trackAll (mocks.map .present) reqs).map Tracked.mock = handleAll mocks reqs ∧
    ∀ t ∈ trackAll (mocks.map .present) reqs, t.viaAPI = true → ∀ b ∈ t.mock.bodies,
      (∀ env, b.resolve env = .ok (b.literal, [])) ∧
      ∀ env readFile req declared,
        renderHTTPBody { env with readFile := readFile } b req declared =
          renderHTTPBody env b req declared := by
  have hstart : ∀ t ∈ mocks.map Tracked.present, Clean t := by
    intro t ht hmark
    obtain ⟨m, -, rfl⟩ := mem_map.mp ht
    cases hmark
  refine ⟨?_, fun t ht hmark b hb => ?_⟩
  · have hmocks : (mocks.map Tracked.present).map Tracked.mock = mocks := by
      rw [map_map]
      exact map_id mocks
    rw [trackAll_mock, hmocks]
  · have hfile := clean_trackAll hstart reqs t ht hmark b hb
    exact ⟨HTTPBody.resolve_of_file_eq_nil hfile, renderHTTPBody_readFile hfile⟩

end API

end Mockly
