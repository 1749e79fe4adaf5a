import Mockly.Go.Maps
import Mockly.Go.Strconv
import Mockly.Lib.Naming

/-!
# The IDs of generated mocks

The OpenAPI and the AsyncAPI generator count: the second operation with a slug gets `-2` appended,
whatever IDs there are. The Protobuf generator looks for one that is not given out.

Main result: **`mockIDs_nodup_iff`**.
-/

namespace Mockly

open Naming List Option

/-! ## Slugs -/

def dash : UInt8 := 0x2D

def isSlugRune (r : ℕ) : Bool := (0x61 ≤ r && r ≤ 0x7A) || (0x30 ≤ r && r ≤ 0x39)

/-- One turn of the loop over the runes: what is written, and whether its end is a dash that was
written for other runes. -/
def slugStep (st : GoString × Bool) (r : ℕ) : GoString × Bool :=
  if isSlugRune r then (st.1 ++ encodeRune r, false)
  else if !st.2 && decide (0 < st.1.length) then (st.1 ++ [dash], true)
  else st

/-- `slugify` of the packages `openapi` and `asyncapi`. -/
def slugify (ct : CaseTable) (s : GoString) : GoString :=
  let out := trim ((runes (toLower ct s)).foldl slugStep ([], false)).1 [dash]
  if out = [] then go "mock" else out

/-- `slugRE.ReplaceAllString(s, "-")`: one dash for as many runes as do not stay. -/
def replaceOthers : Bool → List ℕ → GoString
  | _, [] => []
  | inside, r :: rs =>
    if isSlugRune r then encodeRune r ++ replaceOthers false rs
    else if inside then replaceOthers true rs
    else dash :: replaceOthers true rs

/-- `slugify` of the package `protoidl`. -/
def ProtoIDL.slugify (ct : CaseTable) (s : GoString) : GoString :=
  trim (replaceOthers false (runes (toLower ct s))) [dash]

/-- `fmt.Sprintf("%s-%d", id, n)`. -/
def withNumber (id : GoString) (n : ℕ) : GoString := id ++ (dash :: formatNat n)

lemma withNumber_inj {s t : GoString} {m n : ℕ} (h : withNumber s m = withNumber t n) :
    s = t ∧ m = n := by
  have hdash : ∀ n, dash ∉ formatNat n := fun n hmem =>
    absurd (digit_of_mem_formatNat hmem) (by decide)
  have hmiddle : ∀ {c a b : GoString}, dash ∉ a → dash :: a = c ++ (dash :: b) → c = [] := by
    intro c a b ha heq
    cases c with
    | nil => rfl
    | cons x c =>
      rw [cons_append, List.cons.injEq] at heq
      exact absurd (heq.2 ▸ mem_append_right c mem_cons_self) ha
  have hst : s = t := by
    obtain ⟨c, hc, hrest⟩ | ⟨c, hc, hrest⟩ := append_eq_append_iff.mp h
    · rw [hc, hmiddle (hdash m) hrest, append_nil]
    · rw [hc, hmiddle (hdash n) hrest, append_nil]
  subst hst
  have hnumber := append_cancel_left h
  rw [List.cons.injEq] at hnumber
  exact ⟨rfl, formatNat_injective hnumber.2⟩

lemma withNumber_ne_self (s : GoString) (n : ℕ) : withNumber s n ≠ s := by
  intro h
  have hlen := congrArg List.length h
  rw [withNumber, length_append, length_cons] at hlen
  omega

/-! ## Counting -/

/-- `uniqueID` of the packages `openapi` and `asyncapi`: the ID, and the counters afterwards. -/
def uniqueID (used : GoMap ℕ) (id : GoString) : GoString × GoMap ℕ :=
  let n := (used.get? id).getD 0
  (if n = 0 then id else withNumber id (n + 1), used.set id (n + 1))

/-- One ID after the other, with the counts so far. -/
def uniqueIDs : GoMap ℕ → List GoString → List GoString
  | _, [] => []
  | used, id :: ids =>
    let (unique, used) := uniqueID used id
    unique :: uniqueIDs used ids

/-- An operation of an OpenAPI document that has a response. -/
structure OpenAPI.Operation where
  method : GoString
  path : GoString
  operationID : GoString

def OpenAPI.slugify : CaseTable → GoString → GoString := Mockly.slugify

def OpenAPI.mockID (ct : CaseTable) (op : OpenAPI.Operation) : GoString :=
  OpenAPI.slugify ct
    (if op.operationID = [] then op.method ++ go " " ++ op.path else op.operationID)

def OpenAPI.mockIDs (ct : CaseTable) (ops : List OpenAPI.Operation) : List GoString :=
  uniqueIDs ∅ (ops.map (OpenAPI.mockID ct))

def AsyncAPI.slugify : CaseTable → GoString → GoString := Mockly.slugify

/-- The IDs that `buildMocks` gives out, for the names of the operations that it makes a mock
for. -/
def AsyncAPI.mockIDs (ct : CaseTable) (names : List GoString) : List GoString :=
  uniqueIDs ∅ (names.map (AsyncAPI.slugify ct))

/-- The ID for a slug that came before `p.2` times. -/
def countedID (p : GoString × ℕ) : GoString := if p.2 = 0 then p.1 else withNumber p.1 (p.2 + 1)

lemma uniqueIDs_eq (used : GoMap ℕ) (ids : List GoString) :
    uniqueIDs used ids = countNames countedID (fun id => (used.get? id).getD 0) ids := by
  induction ids generalizing used with
  | nil => rfl
  | cons id ids ih =>
    have hused : (fun id' => ((used.set id ((used.get? id).getD 0 + 1)).get? id').getD 0) =
        Function.update (fun id' => (used.get? id').getD 0) id ((used.get? id).getD 0 + 1) := by
      funext id'
      by_cases hid : id' = id
      · rw [hid, GoMap.get?_set_self, Function.update_self, getD_some]
      · rw [GoMap.get?_set_ne _ _ hid, Function.update_of_ne hid]
    rw [uniqueIDs, uniqueID, countNames, ← hused]
    dsimp only
    rw [ih]
    rfl

/-- No slug is the ID for another slug that occurs more than once. -/
def NumbersApart (slugs : List GoString) : Prop :=
  ∀ slug n, 2 ≤ n → n ≤ slugs.count slug → withNumber slug n ∉ slugs

/-- **Counting keeps the IDs apart** if the numbers make no slug. -/
theorem nodup_uniqueIDs_iff (slugs : List GoString) :
    (uniqueIDs ∅ slugs).Nodup ↔ NumbersApart slugs := by
  rw [uniqueIDs_eq, nodup_countNames_iff]
  have hmem : ∀ slug n, (slug, n) ∈ numbered (fun id => ((∅ : GoMap ℕ).get? id).getD 0) slugs ↔
      n < slugs.count slug := by
    intro slug n
    simp only [numbered, Set.mem_ofPred_eq, GoMap.get?_empty, getD_none, Nat.zero_le,
      Nat.zero_add, true_and]
    convert Iff.rfl
  constructor
  · intro hinj slug n hn hcount hslug
    have hfirst := (hmem (withNumber slug n) 0).mpr (count_pos_iff.mpr hslug)
    have hlater := (hmem slug (n - 1)).mpr (by omega)
    have heq : countedID (withNumber slug n, 0) = countedID (slug, n - 1) := by
      rw [countedID, countedID, if_pos rfl, if_neg (by omega), Nat.sub_add_cancel (by omega)]
    exact withNumber_ne_self slug n (Prod.ext_iff.mp (hinj hfirst hlater heq)).1
  · rintro hapart ⟨s, m⟩ hs ⟨t, n⟩ ht heq
    rw [hmem] at hs ht
    cases m with
    | zero =>
      cases n with
      | zero => exact Prod.ext heq rfl
      | succ n =>
        have hslug : s = withNumber t (n + 2) := heq
        exact absurd (hslug ▸ count_pos_iff.mp hs) (hapart t (n + 2) (by omega) (by omega))
    | succ m =>
      cases n with
      | zero =>
        have hslug : withNumber s (m + 2) = t := heq
        exact absurd (hslug ▸ count_pos_iff.mp ht) (hapart s (m + 2) (by omega) (by omega))
      | succ n =>
        have hids : withNumber s (m + 2) = withNumber t (n + 2) := heq
        obtain ⟨hst, hmn⟩ := withNumber_inj hids
        exact Prod.ext hst (by omega)

/-! ## Searching -/

namespace ProtoIDL

/-- The loop of `uniqueID`, with a turn for every ID it asks about. -/
def nextUnused (usedIDs : GoMap Bool) (base : GoString) : ℕ → GoString → ℕ → Option GoString
  | 0, _, _ => none
  | fuel + 1, id, n =>
    if (usedIDs.get? id).getD false then nextUnused usedIDs base fuel (withNumber base n) (n + 1)
    else some id

/-- `uniqueID`: the ID, and the IDs used afterwards. -/
def uniqueID (fuel : ℕ) (usedIDs : GoMap Bool) (base : GoString) :
    Option (GoString × GoMap Bool) :=
  (nextUnused usedIDs base fuel (if base = [] then go "mock" else base) 2).map fun id =>
    (id, usedIDs.set id true)

def uniqueIDs (fuel : ℕ) : GoMap Bool → List GoString → Option (List GoString)
  | _, [] => some []
  | usedIDs, base :: bases =>
    (uniqueID fuel usedIDs base).bind fun p => (uniqueIDs fuel p.2 bases).map (p.1 :: ·)

/-- A method, under the name of its service. -/
structure Method where
  service : GoString
  name : GoString

def mockIDs (ct : CaseTable) (fuel : ℕ) (methods : List Method) : Option (List GoString) :=
  uniqueIDs fuel ∅ (methods.map fun m => ProtoIDL.slugify ct (m.service ++ go "-" ++ m.name))

def candidate (base : GoString) : ℕ → GoString
  | 0 => if base = [] then go "mock" else base
  | n + 1 => withNumber base (n + 2)

lemma candidate_injective (base : GoString) : Function.Injective (candidate base) := by
  have hfirst : ∀ n, candidate base 0 ≠ candidate base (n + 1) := by
    intro n h
    rw [candidate, candidate] at h
    split_ifs at h with hbase
    · rw [hbase] at h
      exact absurd (List.cons.inj h).1 (by decide)
    · exact withNumber_ne_self base (n + 2) h.symm
  intro m n h
  cases m with
  | zero =>
    cases n with
    | zero => rfl
    | succ n => exact absurd h (hfirst n)
  | succ m =>
    cases n with
    | zero => exact absurd h.symm (hfirst m)
    | succ n =>
      have hids : withNumber base (m + 2) = withNumber base (n + 2) := h
      have hmn := (withNumber_inj hids).2
      omega

def Marks (usedIDs : GoMap Bool) (taken : List GoString) : Prop :=
  ∀ id, (usedIDs.get? id).getD false = true ↔ id ∈ taken

variable {usedIDs : GoMap Bool} {taken : List GoString}

lemma Marks.set (h : Marks usedIDs taken) (id : GoString) :
    Marks (usedIDs.set id true) (id :: taken) := by
  intro id'
  by_cases hid : id' = id
  · simp [hid]
  · rw [GoMap.get?_set_ne _ _ hid, h id']
    simp [hid]

lemma nextUnused_eq (h : Marks usedIDs taken) (base : GoString) (fuel i : ℕ)
    {used : GoString → Bool} (hused : ∀ id, used id = true ↔ id ∈ taken) :
    nextUnused usedIDs base fuel (candidate base i) (i + 2) =
      firstUnused used (candidate base) fuel i := by
  induction fuel generalizing i with
  | zero => rfl
  | succ fuel ih =>
    rw [nextUnused, firstUnused]
    exact if_congr ((h _).trans (hused _).symm) (ih (i + 1)) rfl

lemma uniqueIDs_eq (h : Marks usedIDs taken) (fuel : ℕ) (bases : List GoString) :
    uniqueIDs fuel usedIDs bases = searchNames candidate fuel taken bases := by
  induction bases generalizing usedIDs taken with
  | nil => rfl
  | cons base bases ih =>
    rw [uniqueIDs, uniqueID, searchNames, ← nextUnused_eq h base fuel 0]
    · change ((nextUnused usedIDs base fuel (candidate base 0) 2).map _).bind _ = _
      cases nextUnused usedIDs base fuel (candidate base 0) 2 with
      | none => rfl
      | some id => rw [map_some, bind_some, bind_some, ih (h.set id)]
    · simp

end ProtoIDL

/-! ## The three generators -/

/-- **The generators that count give no ID twice unless a number makes a slug**, and the one that
searches finds an ID for every method and gives none twice. -/
theorem mockIDs_nodup_iff (ct : CaseTable) :
    (∀ ops, (OpenAPI.mockIDs ct ops).Nodup ↔ NumbersApart (ops.map (OpenAPI.mockID ct))) ∧
      (∀ names, (AsyncAPI.mockIDs ct names).Nodup ↔
        NumbersApart (names.map (AsyncAPI.slugify ct))) ∧
      ∀ methods fuel, methods.length ≤ fuel → ∃ ids,
        ProtoIDL.mockIDs ct fuel methods = some ids ∧ ids.length = methods.length ∧
          ids.Nodup := by
  refine ⟨fun ops => nodup_uniqueIDs_iff _, fun names => nodup_uniqueIDs_iff _,
    fun methods fuel hfuel => ?_⟩
  have hmarks : ProtoIDL.Marks ∅ [] := fun id => by simp
  obtain ⟨ids, hids, hlen, hnodup, -⟩ :=
    exists_searchNames ProtoIDL.candidate_injective (show ([] : List GoString).length +
      (methods.map fun m => ProtoIDL.slugify ct (m.service ++ go "-" ++ m.name)).length ≤ fuel by
        simpa using hfuel)
  rw [← ProtoIDL.uniqueIDs_eq hmarks] at hids
  exact ⟨ids, hids, by simpa using hlen, hnodup⟩

/-- **Two operations with a slug, and a third one with the number in its name.** -/
theorem three_users :
    OpenAPI.mockIDs asciiTable [⟨go "GET", go "/users", go "get user"⟩,
        ⟨go "GET", go "/user", go "get-user"⟩, ⟨go "GET", go "/v2/user", go "get-user-2"⟩] =
      [go "get-user", go "get-user-2", go "get-user-2"] ∧
    AsyncAPI.mockIDs asciiTable [go "get user", go "get-user", go "get-user-2"] =
      [go "get-user", go "get-user-2", go "get-user-2"] := by
  decide

end Mockly
