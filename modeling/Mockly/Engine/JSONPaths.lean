import Mockly.Engine.Match
import Mockly.Go.Strconv

/-!
# Dotted paths into a JSON body

The documentation of `body_json` has the path `items.0.sku`: a segment is a member of an object, or
the position of an element of an array (`resolve`). `jsonPathGet` knows about objects only.

Main result: **`matchBodyJSON_iff_resolve`**.
-/

namespace Mockly

def decimalIndex (seg : GoString) : Option ℕ :=
  if seg ≠ [] ∧ seg.all (fun c => 0x30 ≤ c && c ≤ 0x39) then some (readNat seg) else none

/-- What a path means, arrays included. -/
def resolve : Json → List GoString → Option Json
  | v, [] => some v
  | .obj fields, seg :: segs => (fields.lookup seg).bind fun v => resolve v segs
  | .arr vs, seg :: segs => (decimalIndex seg).bind fun i => vs[i]?.bind fun v => resolve v segs
  | _, _ :: _ => none

/-- The path goes through an array. -/
def throughArray : Json → List GoString → Bool
  | _, [] => false
  | .arr _, _ :: _ => true
  | .obj fields, seg :: segs => (fields.lookup seg).any fun v => throughArray v segs
  | _, _ :: _ => false

lemma jsonPathGet_eq (v : Json) (segs : List GoString) :
    jsonPathGet v segs = if throughArray v segs then none else resolve v segs := by
  induction segs generalizing v with
  | nil => cases v <;> rfl
  | cons seg segs ih =>
    cases v with
    | obj fields =>
      rw [jsonPathGet, throughArray, resolve]
      cases fields.lookup seg with
      | none => rfl
      | some next => exact ih next
    | _ => rfl

section Body

variable {env : Env} {body : GoString} {root : Json}

lemma matchBodyJSON_single (hbody : body ≠ []) (hroot : env.jsonUnmarshal body = some root)
    (path expected : GoString) :
    matchBodyJSON env ((∅ : GoMap GoString).set path expected) body = true ↔
      ∃ v, jsonPathGet root (split path 0x2E) = some v ∧
        (expected = go "*" ∨ jsonValueString env v = expected) := by
  have hentries : ((∅ : GoMap GoString).set path expected).toList = [(path, expected)] := rfl
  rw [matchBodyJSON, if_neg hbody, hroot]
  dsimp only
  rw [hentries, List.all_cons, List.all_nil, Bool.and_true]
  cases jsonPathGet root (split path 0x2E) with
  | none => simp
  | some v => simp [matchField]

end Body

/-- **A path is matched as documented** unless it leads somewhere through an array. -/
theorem matchBodyJSON_iff_resolve (env : Env) (body : GoString) (root : Json) (hbody : body ≠ [])
    (hroot : env.jsonUnmarshal body = some root) (path : GoString) :
    (∀ expected, matchBodyJSON env ((∅ : GoMap GoString).set path expected) body = true ↔
      ∃ v, resolve root (split path 0x2E) = some v ∧
        (expected = go "*" ∨ jsonValueString env v = expected)) ↔
      (throughArray root (split path 0x2E) = true → resolve root (split path 0x2E) = none) := by
  simp only [matchBodyJSON_single hbody hroot, jsonPathGet_eq]
  cases throughArray root (split path 0x2E) with
  | false => simp
  | true =>
    simp only [if_true, reduceCtorEq, false_and, exists_false, false_iff, true_implies]
    constructor
    · intro h
      by_contra hsome
      obtain ⟨v, hv⟩ := Option.ne_none_iff_exists'.mp hsome
      exact h (go "*") ⟨v, hv, Or.inl rfl⟩
    · rintro hnone expected ⟨v, hv, -⟩
      rw [hnone] at hv
      cases hv

def Env.reading (root : Json) : Env := { Env.basic with jsonUnmarshal := fun _ => some root }

/-- A path through objects. -/
theorem matchBodyJSON_user_tier :
    matchBodyJSON (Env.reading (.obj [(go "user", .obj [(go "tier", .str (go "premium"))])]))
        ((∅ : GoMap GoString).set (go "user.tier") (go "premium"))
        (go "\x7b\"user\":\x7b\"tier\":\"premium\"\x7d\x7d") = true :=
  ((matchBodyJSON_iff_resolve _ _ _ (by decide) rfl _).mpr (fun h => absurd h (by decide)) _).mpr
    ⟨.str (go "premium"), rfl, Or.inr rfl⟩

/-- **The path of the documentation** leads to the article number, and the body does not match. -/
theorem items_sku_not_matched :
    matchBodyJSON
        (Env.reading (.obj [(go "items", .arr [.obj [(go "sku", .str (go "A-1"))]])]))
        ((∅ : GoMap GoString).set (go "items.0.sku") (go "*"))
        (go "\x7b\"items\":[\x7b\"sku\":\"A-1\"\x7d]\x7d") = false ∧
      ∃ v, resolve (.obj [(go "items", .arr [.obj [(go "sku", .str (go "A-1"))]])])
        (split (go "items.0.sku") 0x2E) = some v :=
  ⟨rfl, .str (go "A-1"), rfl⟩

end Mockly
