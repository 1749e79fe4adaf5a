import Mockly.AsyncAPI.Messages

/-!
# Plain data under `inlineRefs`

The depth that `inlineRefs` counts also grows with every member and element on the way: what lies
beyond it is replaced by an empty object, without a warning.

Main result: **`inlineAll_eq_iff`**.
-/

namespace Mockly.AsyncAPI

open List

/-! ## Data without references -/

/-- There is no member `$ref` in the value. -/
inductive RefFree : Json → Prop
  | null : RefFree .null
  | bool (b : Bool) : RefFree (.bool b)
  | num (text : GoString) : RefFree (.num text)
  | str (s : GoString) : RefFree (.str s)
  | arr {vs : List Json} (h : ∀ v ∈ vs, RefFree v) : RefFree (.arr vs)
  | obj {fields : List (GoString × Json)} (hown : ∀ p ∈ fields, p.1 ≠ go "$ref")
      (h : ∀ p ∈ fields, RefFree p.2) : RefFree (.obj fields)

/-- The values that lie `depth` members or elements inside a value. -/
def nodesAt : ℕ → Json → List Json
  | 0, v => [v]
  | depth + 1, v => (children v).flatMap (nodesAt depth)

lemma refOf_of_refFree {fields : List (GoString × Json)} (h : RefFree (.obj fields)) :
    refOf fields = none := by
  cases h with
  | obj hown _ =>
    have hlookup : fields.lookup (go "$ref") = none := by
      rw [lookup_eq_none_iff]
      intro p hp
      exact bne_iff_ne.mpr (hown p hp).symm
    rw [refOf, hlookup]

lemma RefFree.child {v w : Json} (h : RefFree v) (hw : w ∈ children v) : RefFree w := by
  cases h with
  | obj _ h =>
    obtain ⟨p, hp, rfl⟩ := mem_map.mp hw
    exact h p hp
  | arr h => exact h w hw
  | _ => cases hw

lemma forall_mem_nodesAt_succ {depth : ℕ} {v : Json} {P : Json → Prop} :
    (∀ w ∈ nodesAt (depth + 1) v, P w) ↔ ∀ u ∈ children v, ∀ w ∈ nodesAt depth u, P w := by
  rw [nodesAt, forall_mem_flatMap]

/-! ## What comes back -/

section Inline

variable {quote : GoString → GoString} {root : List (GoString × Json)}

lemma map_eq_self_iff {α : Type} {f : α → α} {l : List α} : l.map f = l ↔ ∀ a ∈ l, f a = a := by
  conv_lhs => rw [← map_id l, map_map]
  exact map_inj_left

/-- By induction on the levels that are left: at each of them data comes back just if all of its
children do. -/
lemma inlineRefs_eq_self_iff (levels : ℕ) {v : Json} (h : RefFree v) :
    (inlineRefs quote root levels v).1 = v ↔ ∀ w ∈ nodesAt levels v, w = .obj [] := by
  induction levels generalizing v with
  | zero => simp [inlineRefs, nodesAt, eq_comm]
  | succ levels ih =>
    have hchildren : (∀ w ∈ nodesAt (levels + 1) v, w = .obj []) ↔
        ∀ u ∈ children v, (inlineRefs quote root levels u).1 = u := by
      rw [forall_mem_nodesAt_succ]
      exact forall₂_congr fun u hu => (ih (h.child hu)).symm
    rw [hchildren]
    cases v with
    | obj fields =>
      simp only [inlineRefs, refOf_of_refFree h, map_map, Json.obj.injEq, children, forall_mem_map]
      rw [map_eq_self_iff]
      exact forall₂_congr fun p _ => by simp [Prod.ext_iff]
    | arr vs =>
      simp only [inlineRefs, map_map, Json.arr.injEq, children]
      exact map_eq_self_iff
    | _ => simp [inlineRefs, children]

end Inline

/-- **When data without references comes back as it is**: what lies thirteen levels inside it is
nothing but empty objects, which is what it would be replaced by. -/
theorem inlineAll_eq_iff (quote : GoString → GoString) (root : List (GoString × Json)) {node : Json}
    (h : RefFree node) :
    (inlineAll quote root node).1 = node ↔
      ∀ w ∈ nodesAt (maxInlineDepth + 1) node, w = .obj [] :=
  inlineRefs_eq_self_iff (maxInlineDepth + 1) h

/-! ## Nested lists -/

/-- A value in so many lists of one element. -/
def nested : ℕ → Json → Json
  | 0, v => v
  | n + 1, v => .arr [nested n v]

lemma refFree_nested (n : ℕ) {v : Json} (h : RefFree v) : RefFree (nested n v) := by
  induction n with
  | zero => exact h
  | succ n ih => exact .arr (by simpa using ih)

lemma nodesAt_nested (n k : ℕ) (v : Json) : nodesAt (n + k) (nested n v) = nodesAt k v := by
  induction n with
  | zero => rw [Nat.zero_add, nested]
  | succ n ih =>
    rw [Nat.succ_add, nodesAt, nested, children, flatMap_cons, flatMap_nil, append_nil, ih]

/-- A matrix of twelve dimensions is the deepest that comes back. -/
theorem inlineAll_eq_iff_twelve :
    (inlineAll id [(go "payload", nested 12 (.num (go "1")))] (nested 12 (.num (go "1")))).1 =
      nested 12 (.num (go "1")) := by
  refine (inlineAll_eq_iff id _ (refFree_nested 12 (.num _))).mpr ?_
  rw [maxInlineDepth, nodesAt_nested 12 1]
  simp [nodesAt, children]

/-- **With one dimension more the number is lost**, although the data is plain and part of the
document. -/
theorem inlineAll_drops_thirteenth :
    nested 13 (.num (go "1")) ∈ within (.obj [(go "payload", nested 13 (.num (go "1")))]) ∧
      RefFree (nested 13 (.num (go "1"))) ∧
      inlineAll id [(go "payload", nested 13 (.num (go "1")))] (nested 13 (.num (go "1"))) =
        (nested 13 (.obj []), []) ∧
      (inlineAll id [(go "payload", nested 13 (.num (go "1")))]
        (nested 13 (.num (go "1")))).1 ≠ nested 13 (.num (go "1")) := by
  have hresult : inlineAll id [(go "payload", nested 13 (.num (go "1")))]
      (nested 13 (.num (go "1"))) = (nested 13 (.obj []), []) := rfl
  refine ⟨mem_within_child (mem_within_self _) (by simp [children]), refFree_nested 13 (.num _),
    hresult, ?_⟩
  rw [hresult]
  simp [nested]

end Mockly.AsyncAPI
