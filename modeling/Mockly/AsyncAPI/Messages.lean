import Mockly.AsyncAPI.Refs

/-!
# The example of a message

A message may be a reference to another one, or a choice, of which the first is taken; nothing
counts these calls of `extractMessage`. `schemaExample` stands for `schemaexample.Generate` of what
`toSchemaRef` makes of a schema.

Main result: **`extractMessage_terminates_iff`**.
-/

namespace Mockly.AsyncAPI

open Chains

/-- The first element of a list that is a member of a message. -/
def firstOf (msgObj : List (GoString × Json)) (key : GoString) : Option Json :=
  match msgObj.lookup key with
  | some (.arr (first :: _)) => some first
  | _ => none

def firstExample (msgObj : List (GoString × Json)) : Option Json :=
  match firstOf msgObj (go "examples") with
  | some (.obj ex) => ex.lookup (go "payload")
  | _ => none

section Extract

variable (quote : GoString → GoString) (schemaExample : Json → Json)
  (root : List (GoString × Json))

/-- What `inlineRefs` is called with at depth 0. -/
def inlineAll (node : Json) : Json × List GoString :=
  inlineRefs quote root (maxInlineDepth + 1) node

/-- The end of `extractMessage`, for a message that is neither a reference nor a choice. -/
def messageExample (msgObj : List (GoString × Json)) : Option Json × List GoString :=
  match firstExample msgObj with
  | some p =>
    let (value, warnings) := inlineAll quote root p
    (some value, warnings)
  | none =>
    match msgObj.lookup (go "payload") with
    | some payloadRaw =>
      let (resolved, warnings) := inlineAll quote root payloadRaw
      (some (schemaExample resolved), warnings)
    | none => (none, [])

/-- `extractMessage`: the example, if there is one, and the warnings. -/
def extractMessage : ℕ → Json → Option (Option Json × List GoString)
  | 0, _ => none
  | fuel + 1, .obj msgObj =>
    match refOf msgObj with
    | some ref =>
      match resolvePointer quote root ref with
      | .error err => some (none, [err])
      | .ok target => extractMessage fuel target
    | none =>
      match firstOf msgObj (go "oneOf") with
      | some first => extractMessage fuel first
      | none => some (messageExample quote schemaExample root msgObj)
  | _ + 1, _ => some (none, [])

/-- What `extractMessage` calls itself with. -/
def nextMessage : Json → Option Json
  | .obj msgObj =>
    match refOf msgObj with
    | some ref => (resolvePointer quote root ref).toOption
    | none => firstOf msgObj (go "oneOf")
  | _ => none

end Extract

variable {quote : GoString → GoString} {schemaExample : Json → Json}
  {root : List (GoString × Json)}

variable {raw next : Json}

lemma nextMessage_cases (h : nextMessage quote root raw = some next) :
    ∃ msgObj, raw = .obj msgObj ∧
      ((∃ ref, refOf msgObj = some ref ∧ resolvePointer quote root ref = .ok next) ∨
        refOf msgObj = none ∧ firstOf msgObj (go "oneOf") = some next) := by
  cases raw with
  | obj msgObj =>
    refine ⟨msgObj, rfl, ?_⟩
    rw [nextMessage] at h
    cases href : refOf msgObj with
    | some ref =>
      rw [href] at h
      cases hresolve : resolvePointer quote root ref with
      | error err => simp [hresolve, Except.toOption] at h
      | ok target =>
        simp only [hresolve, Except.toOption, Option.some.injEq] at h
        exact Or.inl ⟨ref, rfl, by rw [hresolve, h]⟩
    | none =>
      rw [href] at h
      exact Or.inr ⟨rfl, h⟩
  | _ => cases h

lemma extractMessage_of_next (h : nextMessage quote root raw = some next) (fuel : ℕ) :
    extractMessage quote schemaExample root (fuel + 1) raw =
      extractMessage quote schemaExample root fuel next := by
  obtain ⟨msgObj, rfl, ⟨ref, href, hresolve⟩ | ⟨href, hfirst⟩⟩ := nextMessage_cases h
  · simp [extractMessage, href, hresolve]
  · simp [extractMessage, href, hfirst]

lemma extractMessage_of_last (h : nextMessage quote root raw = none) (fuel : ℕ) :
    ∃ result, extractMessage quote schemaExample root (fuel + 1) raw = some result := by
  cases raw with
  | obj msgObj =>
    rw [nextMessage] at h
    rw [extractMessage]
    cases href : refOf msgObj with
    | some ref =>
      rw [href] at h
      cases hresolve : resolvePointer quote root ref with
      | error err =>
        simp only [hresolve]
        exact ⟨_, rfl⟩
      | ok target => simp [hresolve, Except.toOption] at h
    | none =>
      rw [href] at h
      simp only [h]
      exact ⟨_, rfl⟩
  | _ => exact ⟨_, rfl⟩

lemma extractMessage_isSome_iff (fuel : ℕ) (raw : Json) :
    (∃ result, extractMessage quote schemaExample root fuel raw = some result) ↔
      follow (nextMessage quote root) fuel raw = none := by
  induction fuel generalizing raw with
  | zero => simp [extractMessage, follow]
  | succ fuel ih =>
    cases hnext : nextMessage quote root raw with
    | none =>
      rw [follow, hnext]
      exact iff_of_true (extractMessage_of_last hnext fuel) rfl
    | some next =>
      rw [follow, hnext, extractMessage_of_next hnext, ih next]
      rfl

lemma mem_within_of_firstOf {msgObj : List (GoString × Json)} {key : GoString} {first : Json}
    (h : firstOf msgObj key = some first) : first ∈ within (.obj msgObj) := by
  unfold firstOf at h
  split at h
  · rename_i rest hlookup
    cases h
    exact mem_within_child (mem_within_child (mem_within_self _) (mem_children_of_lookup hlookup))
      List.mem_cons_self
  · cases h

lemma mem_of_nextMessage {u : Json} (hraw : raw ∈ within u ∪ within (.obj root))
    (h : nextMessage quote root raw = some next) : next ∈ within u ∪ within (.obj root) := by
  obtain ⟨msgObj, rfl, ⟨ref, -, hresolve⟩ | ⟨-, hfirst⟩⟩ := nextMessage_cases h
  · exact Or.inr (mem_of_resolvePointer hresolve)
  · have hmem := mem_within_of_firstOf hfirst
    exact hraw.imp (fun hu => descendants_subset hu hmem) fun hroot =>
      descendants_subset hroot hmem

/-- **The calls of `extractMessage` come to an end** unless some message leads back to itself. -/
theorem extractMessage_terminates_iff (quote : GoString → GoString) (schemaExample : Json → Json)
    (root : List (GoString × Json)) (raw : Json) :
    (∃ fuel result, extractMessage quote schemaExample root fuel raw = some result) ↔
      ¬Recurs (nextMessage quote root) raw := by
  have hfinite := (finite_within raw).union (finite_within (.obj root))
  rw [← ends_iff_of_finite hfinite (fun v hv w => mem_of_nextMessage hv)
    (Or.inl (mem_within_self raw))]
  exact exists_congr fun fuel => extractMessage_isSome_iff fuel raw

def selfReference : List (GoString × Json) :=
  [(go "components", .obj [(go "messages", .obj
    [(go "Ping", .obj [(go "$ref", .str (go "#/components/messages/Ping"))])])])]

/-- **A message that refers to itself is never done with.** -/
theorem selfReference_never_ends :
    ¬∃ fuel result, extractMessage id id selfReference fuel
      (.obj [(go "$ref", .str (go "#/components/messages/Ping"))]) = some result := by
  rintro ⟨fuel, hresult⟩
  have hnext : nextMessage id selfReference
      (.obj [(go "$ref", .str (go "#/components/messages/Ping"))]) =
      some (.obj [(go "$ref", .str (go "#/components/messages/Ping"))]) := rfl
  have hrecurs : Recurs (nextMessage id selfReference)
      (.obj [(go "$ref", .str (go "#/components/messages/Ping"))]) :=
    ⟨0, _, 0, rfl, by rw [follow, hnext]; rfl⟩
  exact hrecurs.not_ends ⟨fuel, (extractMessage_isSome_iff fuel _).mp hresult⟩

end Mockly.AsyncAPI
