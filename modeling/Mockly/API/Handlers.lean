import Mockly.Config.HTTP
import Mockly.Go.Strconv
import Mockly.Lib.ReadModifyWrite

/-!
# Managing HTTP mocks

A handler takes a copy of the live list, derives a new list from it (`handle`) and installs it.
Nothing locks the list in between.

Main result: **`serial_outcome_of_undisturbed`**.
-/

namespace Mockly.API

open Transition ReadModifyWrite List

/-! ## Editing a list of mocks

Every protocol's handlers edit their list in one of these ways; `idOf` is the protocol's `ID`
field. -/

section Lists

variable {M : Type}

/-- Replace the first mock with the ID of `m`, or append `m`. -/
def upsert (idOf : M → GoString) (m : M) : List M → List M
  | [] => [m]
  | x :: xs => if idOf x = idOf m then m :: xs else x :: upsert idOf m xs

/-- Change the first mock with this ID; `none` if there is none. -/
def changeFirst (idOf : M → GoString) (id : GoString) (f : M → M) : List M → Option (List M)
  | [] => none
  | x :: xs => if idOf x = id then some (f x :: xs) else (changeFirst idOf id f xs).map (x :: ·)

/-- Drop every mock with this ID; `none` if there is none. -/
def deleteByID (idOf : M → GoString) (id : GoString) (mocks : List M) : Option (List M) :=
  if mocks.any fun m => idOf m = id then some (mocks.filter fun m => idOf m ≠ id) else none

end Lists

/-! ## The handlers -/

/-- `httpResponsePatch`: only what is set changes. -/
structure HTTPResponsePatch where
  status : Option ℤ := none
  headers : Option (GoMap GoString) := none
  body : Option GoString := none
  delay : Option ℤ := none
  deriving DecidableEq

/-- A decoded management request. `add` carries the instant from which an ID is made up if the mock
has none. -/
inductive ManageRequest
  | add (m : HTTPMock) (now : ℤ)
  | update (id : GoString) (m : HTTPMock)
  | patch (id : GoString) (p : HTTPResponsePatch)
  | delete (id : GoString)
  deriving DecidableEq

/-- What a handler writes: a mock, the ID it deleted, or an error. -/
inductive Answer
  | created (m : HTTPMock)
  | ok (m : HTTPMock)
  | deleted (id : GoString)
  | badRequest (err : GoString)
  | notFound (err : GoString)

/-- The first entry of the sequence whose body is a file, if there is one. -/
def sequenceFileError (i : ℕ) : List HTTPResponse → Option GoString
  | [] => none
  | seq :: rest =>
    if seq.body.file ≠ [] then
      some (go "sequence[" ++ formatNat i ++
        go "].body.file isn't supported via this endpoint — provide literal body content " ++
        go "instead")
    else sequenceFileError (i + 1) rest

/-- `resolveAddedMockBody`: bodies that name a path of the server are refused. -/
def resolveAddedMockBody {H : Type} (m : HTTPMockOf H) : Option GoString :=
  if m.response.body.dir ≠ [] then
    some (go "body.dir isn't supported via this endpoint — use \"mockly add page --dir\", which " ++
      go "expands a folder into one mock per file and adds each individually")
  else if m.response.body.file ≠ [] then
    some (go "body.file isn't supported via this endpoint (it would require resolving a " ++
      go "caller-supplied path against the server's filesystem) — use \"mockly add page " ++
      go "--file\", " ++
      go "which reads the file client-side and sends its content instead")
  else sequenceFileError 0 m.sequence

/-- The mock `addHTTPMock` stores. -/
def withID {H : Type} (m : HTTPMockOf H) (now : ℤ) : HTTPMockOf H :=
  if m.id = [] then { m with id := go "http-" ++ formatInt now } else m

/-- The changes of `patchHTTPMock` to the mock it found. -/
def HTTPResponsePatch.apply (p : HTTPResponsePatch) (m : HTTPMock) : HTTPMock :=
  { m with
    response :=
      { m.response with
        status := p.status.getD m.response.status
        body := (p.body.map newHTTPBodyLiteral).getD m.response.body
        headers := (p.headers.map fun h => m.response.headers.setAll h.toList).getD
          m.response.headers
        delay := p.delay.getD m.response.delay } }

/-- The answer and the list that `SetMocks` is called with, given the list `GetMocks` returned; or
the answer of a handler that changes nothing. -/
def handle (mocks : List HTTPMock) : ManageRequest → Except Answer (Answer × List HTTPMock)
  | .add m now =>
    match resolveAddedMockBody m with
    | some err => .error (.badRequest err)
    | none =>
      let m := withID m now
      .ok (.created m, upsert HTTPMockOf.id m mocks)
  | .update id m =>
    match resolveAddedMockBody m with
    | some err => .error (.badRequest err)
    | none =>
      let m := { m with id := id }
      match changeFirst HTTPMockOf.id id (fun _ => m) mocks with
      | none => .error (.notFound (go "mock not found"))
      | some mocks => .ok (.ok m, mocks)
  | .patch id p =>
    match mocks.find? fun m => m.id = id, changeFirst HTTPMockOf.id id p.apply mocks with
    | some m, some mocks => .ok (.ok (p.apply m), mocks)
    | _, _ => .error (.notFound (go "mock not found"))
  | .delete id =>
    match deleteByID HTTPMockOf.id id mocks with
    | none => .error (.notFound (go "mock not found"))
    | some mocks => .ok (.deleted id, mocks)

/-- The list a handler installs, if it answers with success. -/
def derived (r : ManageRequest) (mocks : List HTTPMock) : Option (List HTTPMock) :=
  (handle mocks r).toOption.map Prod.snd

/-! ## Requests that overlap -/

/-- The live list while the requests of `reqs` are being handled: request `i` reads it with
`GetMocks` and replaces it with `SetMocks`. -/
def manageStep (reqs : List ManageRequest) : System (List HTTPMock) (Fin reqs.length) →
    Event (Fin reqs.length) → Option (System (List HTTPMock) (Fin reqs.length)) :=
  step fun i => derived (reqs.get i)

/-- The requests one after the other, each on the list the one before it has left. -/
def handleAll (mocks : List HTTPMock) (order : List ManageRequest) : List HTTPMock :=
  order.foldl (fun mocks r => (derived r mocks).getD mocks) mocks

/-- The live list is what some sequential order of the requests would produce. -/
def SerialOutcome (reqs : List ManageRequest) (mocks live : List HTTPMock) : Prop :=
  ∃ order : List ManageRequest, order.Perm reqs ∧ live = handleAll mocks order

lemma serialOutcome_of_serializable {reqs : List ManageRequest} {mocks live : List HTTPMock}
    (h : Serializable (fun i : Fin reqs.length => derived (reqs.get i)) mocks live) :
    SerialOutcome reqs mocks live := by
  obtain ⟨order, hnd, hall, hlive⟩ := h
  have hperm : order.Perm (List.finRange reqs.length) := by
    refine (perm_ext_iff_of_nodup hnd (nodup_finRange _)).mpr fun i => ?_
    simp [hall i]
  refine ⟨order.map reqs.get, ?_, ?_⟩
  · have := hperm.map reqs.get
    rwa [← ofFn_eq_map, ofFn_get] at this
  · rw [hlive, handleAll, foldl_map, serial]

/-- **Undisturbed handlers are serial.** In every interleaving: if each `SetMocks` replaces the very
list its handler had read, then once all requests have answered with success the live list is what
some sequential order produces. -/
theorem serial_outcome_of_undisturbed (reqs : List ManageRequest) (mocks : List HTTPMock)
    (as : List (Event (Fin reqs.length))) (s : System (List HTTPMock) (Fin reqs.length))
    (hok : Along (manageStep reqs) Fresh (System.init mocks) as)
    (hrun : run (manageStep reqs) (System.init mocks) as = some s)
    (hdone : ∀ i, s.phase i = .succeeded) : SerialOutcome reqs mocks s.shared :=
  serialOutcome_of_serializable (serializable_of_fresh hok hrun hdone)

def bareMock (id : GoString) : HTTPMock := { id := id, response := { headers := ∅ } }

/-- Two mocks added one after the other. -/
theorem adds_in_turn :
    let reqs := [ManageRequest.add (bareMock (go "a")) 0, .add (bareMock (go "b")) 0]
    ∃ s, run (manageStep reqs) (System.init []) [.read 0, .write 0, .read 1, .write 1] = some s ∧
      SerialOutcome reqs [] s.shared := by
  intro reqs
  refine ⟨_, rfl, serial_outcome_of_undisturbed reqs [] [.read 0, .write 0, .read 1, .write 1] _
    ?_ rfl ?_⟩
  · refine ⟨trivial, fun s hs => ⟨?_, fun s' hs' =>
      ⟨trivial, fun t ht => ⟨?_, fun _ _ => trivial⟩⟩⟩⟩
    · cases hs
      intro seen h
      cases h
      rfl
    · cases hs
      cases hs'
      cases ht
      intro seen h
      cases h
      rfl
  · intro i
    fin_cases i <;> rfl

/-- **An acknowledged mock is lost.**  Both handlers read the empty list; each installs the list
that holds only its own mock. -/
theorem concurrent_add_is_lost :
    let reqs := [ManageRequest.add (bareMock (go "a")) 0, .add (bareMock (go "b")) 0]
    ∃ s, run (manageStep reqs) (System.init []) [.read 0, .read 1, .write 0, .write 1] = some s ∧
      (∀ i, s.phase i = .succeeded) ∧ ¬ SerialOutcome reqs [] s.shared := by
  intro reqs
  refine ⟨_, rfl, fun i => by fin_cases i <;> rfl, ?_⟩
  rintro ⟨order, hperm, hlive⟩
  have hlen : order.length = 2 := hperm.length_eq
  obtain ⟨p, q, rfl⟩ := List.length_eq_two.mp hlen
  have hp : p ∈ reqs := hperm.subset (by simp)
  have hq : q ∈ reqs := hperm.subset (by simp)
  have hne : p ≠ q := by
    have hnd : [p, q].Nodup := hperm.nodup_iff.mpr (by decide)
    simpa using hnd
  simp only [reqs, List.mem_cons, List.not_mem_nil, or_false] at hp hq
  -- whichever comes first, it is still there when the other has been added
  have hone := congrArg List.length hlive
  rcases hp with rfl | rfl <;> rcases hq with rfl | rfl
  · exact hne rfl
  · exact absurd hone (by decide)
  · exact absurd hone (by decide)
  · exact hne rfl

end Mockly.API
