import Mockly.Engine.Env
import Mockly.Go.Strconv
import Mockly.Go.Text
import Mockly.Lib.Chains

/-!
# References within an AsyncAPI document

An object with a member `$ref` stands for the node that `resolvePointer` finds; `inlineRefs` puts
nodes in the place of references, through a bounded number of levels.
-/

namespace Mockly.AsyncAPI

open Chains List

/-- `v["$ref"].(string)`. -/
def refOf (fields : List (GoString × Json)) : Option GoString :=
  match fields.lookup (go "$ref") with
  | some (.str ref) => some ref
  | _ => none

section Pointer

variable (quote : GoString → GoString)

/-- Where the tokens of a pointer lead. -/
def descend (ref : GoString) : Json → List GoString → Except GoString Json
  | cur, [] => .ok cur
  | cur, tok :: toks =>
    let tok := replaceAll (replaceAll tok (go "~1") (go "/")) (go "~0") (go "~")
    match cur with
    | .obj fields =>
      match fields.lookup tok with
      | none => .error (go "$ref " ++ quote ref ++ go ": no such key " ++ quote tok)
      | some next => descend ref next toks
    | .arr vs =>
      let invalid := go "$ref " ++ quote ref ++ go ": invalid array index " ++ quote tok
      match parseInt tok with
      | .error _ => .error invalid
      | .ok idx =>
        if idx < 0 then .error invalid
        else
          match vs[idx.toNat]? with
          | none => .error invalid
          | some next => descend ref next toks
    | _ =>
      .error (go "$ref " ++ quote ref ++ go ": cannot descend into non-container at " ++
        quote tok)

/-- `resolvePointer`, in the document with the given members. -/
def resolvePointer (root : List (GoString × Json)) (ref : GoString) : Except GoString Json :=
  if hasPrefix ref (go "#/") then descend quote ref (.obj root) (split (ref.drop 2) 0x2F)
  else
    .error (go "external $ref " ++ quote ref ++ go " is not allowed (spec may be untrusted)")

def maxInlineDepth : ℕ := 12

/-- `inlineRefs`, with the number of levels that are left until `depth > maxInlineDepth`: the value,
and the warnings on the way. -/
def inlineRefs (root : List (GoString × Json)) : ℕ → Json → Json × List GoString
  | 0, _ => (.obj [], [])
  | levels + 1, node =>
    match node with
    | .obj fields =>
      match refOf fields with
      | some ref =>
        match resolvePointer quote root ref with
        | .error err => (.obj [], [err])
        | .ok target => inlineRefs root levels target
      | none =>
        let out := fields.map fun p => (p.1, inlineRefs root levels p.2)
        (.obj (out.map fun p => (p.1, p.2.1)), out.flatMap fun p => p.2.2)
    | .arr vs =>
      let out := vs.map (inlineRefs root levels)
      (.arr (out.map Prod.fst), out.flatMap Prod.snd)
    | v => (v, [])

end Pointer

/-! ## Nodes -/

/-- The members or elements of a node. -/
def children : Json → List Json
  | .obj fields => fields.map Prod.snd
  | .arr vs => vs
  | _ => []

/-- The node and all that is in it. -/
abbrev within : Json → Set Json := descendants children

lemma sizeOf_lt_of_mem_children {v w : Json} (h : w ∈ children v) : sizeOf w < sizeOf v := by
  cases v with
  | obj fields =>
    obtain ⟨p, hp, rfl⟩ := mem_map.mp h
    have hlt := sizeOf_lt_of_mem hp
    have hsnd : sizeOf p.2 < sizeOf p := by
      cases p
      simp
    simp only [Json.obj.sizeOf_spec]
    omega
  | arr vs =>
    have hlt : sizeOf w < sizeOf vs := sizeOf_lt_of_mem h
    simp only [Json.arr.sizeOf_spec]
    omega
  | _ => cases h

lemma finite_within (v : Json) : (within v).Finite :=
  finite_descendants sizeOf (fun _ _ => sizeOf_lt_of_mem_children) v

lemma mem_within_self (v : Json) : v ∈ within v := Relation.ReflTransGen.refl

lemma mem_within_child {v w u : Json} (h : w ∈ within u) (hv : v ∈ children w) : v ∈ within u :=
  Relation.ReflTransGen.tail h hv

lemma mem_children_of_lookup {fields : List (GoString × Json)} {k : GoString} {v : Json}
    (h : fields.lookup k = some v) : v ∈ children (.obj fields) := by
  obtain ⟨before, behind, rfl, -⟩ := lookup_eq_some_iff.mp h
  exact mem_map.mpr ⟨(k, v), mem_append_right _ mem_cons_self, rfl⟩

lemma mem_of_descend {quote : GoString → GoString} {ref : GoString} {u v w : Json}
    {toks : List GoString} (hv : v ∈ within u) (h : descend quote ref v toks = .ok w) :
    w ∈ within u := by
  induction toks generalizing v with
  | nil =>
    cases h
    exact hv
  | cons tok toks ih =>
    cases v with
    | obj fields =>
      rw [descend] at h
      split at h
      · cases h
      · rename_i next hnext
        exact ih (mem_within_child hv (mem_children_of_lookup hnext)) h
    | arr vs =>
      rw [descend] at h
      split at h
      · cases h
      · split_ifs at h
        split at h
        · cases h
        · rename_i next hnext
          exact ih (mem_within_child hv (mem_of_getElem? hnext)) h
    | _ => cases h

/-- **A reference leads to a node of the document.** -/
theorem mem_of_resolvePointer {quote : GoString → GoString} {root : List (GoString × Json)}
    {ref : GoString} {v : Json} (h : resolvePointer quote root ref = .ok v) :
    v ∈ within (.obj root) := by
  rw [resolvePointer] at h
  split_ifs at h
  · exact mem_of_descend (mem_within_self _) h

end Mockly.AsyncAPI
