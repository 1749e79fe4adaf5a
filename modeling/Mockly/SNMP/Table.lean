import Mockly.SNMP.OID
import Mockly.Lib.SortedBy

/-!
# The table of an agent

`sort.Slice` is not stable, so what it leaves of a list is a relation, `SortsTo`. `Conditions` is
what one callback finds; the callbacks of a server are numbered as they run.

Main results: **`findOID_spec`**, **`findOID_after_sort`**.
-/

namespace Mockly.SNMP

open List

/-! ## Building the table -/

/-- `config.SNMPFault`, without the delay and the error rate: what a callback waits for and how the
dice fall is left open. -/
structure SNMPFault where
  message : GoString := []

/-- What a callback finds. -/
structure Conditions where
  /-- `EffectiveSNMPFault`. -/
  fault : Option SNMPFault := none
  /-- `RollFault` for the error rate of the fault. -/
  roll : Bool := false
  /-- `store.Get`. -/
  stateGet : GoString → GoString := fun _ => []

/-- The message of the fault that is injected, if one is. -/
def Conditions.injected (c : Conditions) : Option GoString :=
  match c.fault with
  | none => none
  | some fault =>
    if c.roll then some (if fault.message = [] then go "fault injected" else fault.message)
    else none

structure Runtime where
  caseTable : CaseTable
  /-- What each callback finds, in the order in which they run. -/
  conditions : ℕ → Conditions
  /-- `wrapValue`, which never returns an error. -/
  wrapValue : Asn1BER → Value → Value

/-- The state of the callbacks: the values of the variables, and how many have run. -/
structure Stored where
  values : GoMap Value
  calls : ℕ := 0

def snmpType (ct : CaseTable) (t : GoString) : Asn1BER :=
  let t := toLower ct t
  if t = go "integer" ∨ t = go "int" then .integer
  else if t = go "gauge32" ∨ t = go "gauge" then .gauge32
  else if t = go "counter32" then .counter32
  else if t = go "counter64" then .counter64
  else if t = go "timeticks" then .timeTicks
  else if t = go "ipaddress" ∨ t = go "ip" then .ipAddress
  else if t = go "objectidentifier" ∨ t = go "oid" then .objectIdentifier
  else .octetString

def storeValue (rt : Runtime) (oid : GoString) (value : Value) (w : Stored) :
    CallResult Unit × Stored :=
  let c := rt.conditions w.calls
  let w := { w with calls := w.calls + 1 }
  match c.injected with
  | some msg => (.error msg, w)
  | none => (.ok (), { w with values := w.values.set oid value })

/-- The item `buildOIDs` makes of a mock. -/
def buildItem (rt : Runtime) (m : SNMPMock) : PduItem Stored where
  oid := m.oid
  typ := snmpType rt.caseTable m.type
  document := m.id
  onGet := fun w =>
    let c := rt.conditions w.calls
    let w := { w with calls := w.calls + 1 }
    if m.state.any fun cond => c.stateGet cond.key ≠ cond.value then
      (.error (go "state condition not met"), w)
    else
      match c.injected with
      | some msg => (.error msg, w)
      | none =>
        (.ok (rt.wrapValue (snmpType rt.caseTable m.type) ((w.values.get? m.oid).getD .nil)), w)
  onSet := some (storeValue rt m.oid)

/-- `buildOIDs`, apart from the values it stores. -/
def buildOIDs (rt : Runtime) (mocks : List SNMPMock) : List (PduItem Stored) :=
  mocks.map (buildItem rt)

/-- The numbers of an OID; one that cannot be parsed counts as the empty one. -/
def oidKey (oid : GoString) : List ℕ := (oidToByteString oid).getD []

lemma snmpType_ne_endOfMibView (ct : CaseTable) (t : GoString) :
    snmpType ct t ≠ .endOfMibView := by
  unfold snmpType
  simp only
  repeat' split
  all_goals exact Asn1BER.noConfusion

/-! ## The order -/

lemma compareByteString_spec (a b : List ℕ) :
    (compareByteString a b = .lt ↔ a < b) ∧ (compareByteString a b = .eq ↔ a = b) := by
  induction a generalizing b with
  | nil => cases b <;> simp [compareByteString]
  | cons a as ih =>
    cases b with
    | nil => simp [compareByteString]
    | cons b bs =>
      rw [cons_lt_cons_iff, cons_eq_cons, compareByteString]
      rcases lt_trichotomy a b with h | h | h
      · simp [h, h.ne]
      · simp [h, ih]
      · simp [h, h.ne', h.not_gt]

lemma compareByteString_swap (a b : List ℕ) :
    compareByteString b a = (compareByteString a b).swap := by
  induction a generalizing b with
  | nil => cases b <;> rfl
  | cons a as ih =>
    cases b with
    | nil => rfl
    | cons b bs =>
      rw [compareByteString, compareByteString]
      rcases lt_trichotomy a b with h | h | h
      · simp [h, h.not_gt]
      · simp [h, ih]
      · simp [h, h.not_gt]

lemma compareByteString_ne_lt {a b : List ℕ} : (compareByteString a b != .lt) = true ↔ b ≤ a := by
  rw [bne_iff_ne, ne_eq, (compareByteString_spec a b).1, not_lt]

/-! ## The search -/

lemma searchBetween_spec {f : ℕ → Bool} {n : ℕ} (hmono : ∀ i j, i ≤ j → j < n → f i → f j) :
    ∀ {fuel i j : ℕ}, i ≤ j → j ≤ n → j - i ≤ fuel → (∀ k < i, f k = false) →
      (∀ k, j ≤ k → k < n → f k = true) →
      searchBetween f fuel i j ≤ n ∧ (∀ k < searchBetween f fuel i j, f k = false) ∧
        ∀ k, searchBetween f fuel i j ≤ k → k < n → f k = true
  | 0, i, j, hij, hjn, hfuel, hlow, hhigh => by
      obtain rfl : i = j := by omega
      exact ⟨hjn, hlow, hhigh⟩
  | fuel + 1, i, j, hij, hjn, hfuel, hlow, hhigh => by
      simp only [searchBetween]
      split
      · rename_i hlt
        have hmid : i ≤ (i + j) / 2 ∧ (i + j) / 2 < j := by omega
        split
        · rename_i hf
          exact searchBetween_spec hmono hmid.1 (by omega) (by omega) hlow
            fun k hk hkn => hmono _ k hk hkn hf
        · rename_i hf
          refine searchBetween_spec hmono (by omega) hjn (by omega) (fun k hk => ?_) hhigh
          by_contra hfk
          exact hf (hmono k _ (by omega) (by omega) (by simpa using hfk))
      · obtain rfl : i = j := by omega
        exact ⟨hjn, hlow, hhigh⟩

lemma search_spec {f : ℕ → Bool} {n : ℕ} (hmono : ∀ i j, i ≤ j → j < n → f i → f j) :
    search n f ≤ n ∧ (∀ k < search n f, f k = false) ∧
      ∀ k, search n f ≤ k → k < n → f k = true :=
  searchBetween_spec hmono (Nat.zero_le n) le_rfl (by omega) (by omega) (by omega)

/-! ## Looking up -/

section

variable {W : Type}

/-- A table in ascending order of OIDs, equal ones in any order. -/
def SortedTable (oids : List (PduItem W)) : Prop :=
  oids.Pairwise fun a b => a.key ≤ b.key

/-- What `sortOIDs` may leave of `items`. -/
structure SortsTo (items oids : List (PduItem W)) : Prop where
  perm : oids.Perm items
  sorted : SortedTable oids

variable {oids : List (PduItem W)} {name : GoString} {q : List ℕ}

/-- The test of the search in `findOID`. -/
def notBelow (oids : List (PduItem W)) (q : List ℕ) (i : ℕ) : Bool :=
  match oids[i]? with
  | some item => compareByteString item.key q != .lt
  | none => true

lemma notBelow_of_getElem? {i : ℕ} {item : PduItem W} (h : oids[i]? = some item) :
    notBelow oids q i = true ↔ q ≤ item.key := by
  rw [notBelow, h]
  exact compareByteString_ne_lt

lemma notBelow_mono (hsorted : SortedTable oids) (i j : ℕ) (hij : i ≤ j) (hj : j < oids.length)
    (hi : notBelow oids q i = true) : notBelow oids q j = true := by
  have hi' : i < oids.length := by omega
  rw [notBelow_of_getElem? (List.getElem?_eq_getElem hi')] at hi
  rw [notBelow_of_getElem? (List.getElem?_eq_getElem hj)]
  rcases hij.lt_or_eq with hlt | rfl
  · exact hi.trans (pairwise_iff_getElem.mp hsorted i j hi' hj hlt)
  · exact hi

lemma findOID_eq (hq : oidToByteString name = some q) :
    findOID oids name =
      ((oids[search oids.length (notBelow oids q)]?).filter fun item => item.key = q,
        search oids.length (notBelow oids q)) := by
  simp only [findOID, hq]
  change (match oids[search oids.length (notBelow oids q)]? with
    | some item => if compareByteString item.key q = Ordering.eq then
        (some item, search oids.length (notBelow oids q))
        else (none, search oids.length (notBelow oids q))
    | none => (none, search oids.length (notBelow oids q))) = _
  cases oids[search oids.length (notBelow oids q)]? with
  | none => rfl
  | some item =>
    by_cases hk : item.key = q
    · simp [hk, (compareByteString_spec _ _).2, Option.filter]
    · simp [hk, (compareByteString_spec _ _).2, Option.filter]

/-- **The index of an OID**: the smaller OIDs are before it, no smaller one is behind it, and the
item there is returned if it has that OID. -/
theorem findOID_spec (hsorted : SortedTable oids) (hq : oidToByteString name = some q) :
    (∀ item ∈ oids.take (findOID oids name).2, item.key < q) ∧
      (∀ item ∈ oids.drop (findOID oids name).2, q ≤ item.key) ∧
      (findOID oids name).1 = (oids[(findOID oids name).2]?).filter fun item => item.key = q := by
  obtain ⟨-, hlow, hhigh⟩ := search_spec (notBelow_mono (q := q) hsorted)
  rw [findOID_eq hq]
  refine ⟨fun item hitem => ?_, fun item hitem => ?_, rfl⟩
  · obtain ⟨i, hi, hget⟩ := mem_take_iff_getElem.mp hitem
    have hlt : i < oids.length := by omega
    have hfalse := hlow i (by omega)
    rw [← not_le, ← notBelow_of_getElem? (List.getElem?_eq_some_iff.mpr ⟨hlt, hget⟩), hfalse]
    exact Bool.false_ne_true
  · obtain ⟨i, hi, hget⟩ := mem_drop_iff_getElem.mp hitem
    exact (notBelow_of_getElem? (List.getElem?_eq_some_iff.mpr ⟨by omega, hget⟩)).mp
      (hhigh _ (by omega) (by omega))

lemma findOID_le_length (hsorted : SortedTable oids) (hq : oidToByteString name = some q) :
    (findOID oids name).2 ≤ oids.length := by
  rw [findOID_eq hq]
  exact (search_spec (notBelow_mono hsorted)).1

lemma key_eq_iff {item : PduItem W} (h : (oidToByteString item.oid).isSome = true) :
    item.key = q ↔ oidToByteString item.oid = some q := by
  obtain ⟨k, hk⟩ := Option.isSome_iff_exists.mp h
  rw [PduItem.key, hk, Option.getD_some, Option.some.injEq]

lemma lt_key_of_findOID_none (hsorted : SortedTable oids) (hq : oidToByteString name = some q)
    (hnone : (findOID oids name).1 = none) :
    ∀ other ∈ oids.drop (findOID oids name).2, q < other.key := by
  obtain ⟨-, hbehind, hitem⟩ := findOID_spec hsorted hq
  have hdropped := hsorted.sublist (drop_sublist (findOID oids name).2 oids)
  rw [hnone, ← List.head?_drop] at hitem
  generalize oids.drop (findOID oids name).2 = behind at hbehind hdropped hitem
  cases behind with
  | nil => simp
  | cons first rest =>
    have hne : first.key ≠ q := by simpa [Option.filter] using hitem
    have hlt : q < first.key := lt_of_le_of_ne (hbehind first mem_cons_self) hne.symm
    rw [pairwise_cons] at hdropped
    exact forall_mem_cons.mpr ⟨hlt, fun other hother => hlt.trans_le (hdropped.1 other hother)⟩

/-- **The order of OIDs is total, and a sorted table is searched correctly**: an item with the OID
is found at the least index, and if there is none, the index of the first greater item is. -/
theorem findOID_after_sort (items oids : List (PduItem W)) (name : GoString) (q : List ℕ)
    (hparse : ∀ item ∈ items, (oidToByteString item.oid).isSome = true)
    (hsort : SortsTo items oids) (hq : oidToByteString name = some q) :
    (∀ a b, (compareByteString a b = .eq ↔ a = b) ∧
      compareByteString b a = (compareByteString a b).swap) ∧
    (∀ a b c, compareByteString a b = .lt → compareByteString b c = .lt →
      compareByteString a c = .lt) ∧
    ((∃ item i, findOID oids name = (some item, i) ∧ oids[i]? = some item ∧
        oidToByteString item.oid = some q ∧
        ∀ j < i, ∀ other, oids[j]? = some other → oidToByteString other.oid ≠ some q) ∨
      (∀ item ∈ oids, oidToByteString item.oid ≠ some q) ∧
        ∃ i ≤ oids.length, findOID oids name = (none, i) ∧
          (∀ j < i, ∀ other, oids[j]? = some other → compareByteString other.key q = .lt) ∧
          ∀ other, oids[i]? = some other → compareByteString other.key q = .gt) := by
  have hkey (item : PduItem W) (h : item ∈ oids) :=
    key_eq_iff (q := q) (hparse item (hsort.perm.subset h))
  obtain ⟨hbefore, hbehind, hitem⟩ := findOID_spec hsort.sorted hq
  have hlow : ∀ j < (findOID oids name).2, ∀ other, oids[j]? = some other → other.key < q :=
    fun j hj other hother => hbefore other (mem_of_getElem? (i := j) (by
      rw [List.getElem?_take_of_lt hj, hother]))
  refine ⟨fun a b => ⟨(compareByteString_spec a b).2, compareByteString_swap a b⟩,
    fun a b c hab hbc => ?_, ?_⟩
  · rw [(compareByteString_spec _ _).1] at hab hbc ⊢
    exact hab.trans hbc
  cases hat : (findOID oids name).1 with
  | some item =>
    rw [hat, eq_comm, Option.filter_eq_some_iff, decide_eq_true_eq] at hitem
    refine .inl ⟨item, _, Prod.ext hat rfl, hitem.1,
      (hkey item (mem_of_getElem? hitem.1)).mp hitem.2, fun j hj other hother heq => ?_⟩
    exact (hlow j hj other hother).ne ((hkey other (mem_of_getElem? hother)).mpr heq)
  | none =>
    have hgreater := lt_key_of_findOID_none hsort.sorted hq hat
    refine .inr ⟨fun item hmem heq => ?_, _, findOID_le_length hsort.sorted hq, Prod.ext hat rfl,
      fun j hj other hother => (compareByteString_spec _ _).1.mpr (hlow j hj other hother),
      fun other hother => ?_⟩
    · have hcase := hmem
      rw [← take_append_drop (findOID oids name).2 oids, mem_append] at hcase
      rcases hcase with hmem' | hmem'
      · exact (hbefore item hmem').ne ((hkey item hmem).mpr heq)
      · exact (hgreater item hmem').ne' ((hkey item hmem).mpr heq)
    · rw [← Ordering.swap_eq_lt, ← compareByteString_swap, (compareByteString_spec _ _).1]
      refine hgreater other (mem_of_getElem? (i := 0) ?_)
      rw [List.getElem?_drop, Nat.add_zero, hother]

end

def twoOIDs : List (PduItem Unit) :=
  [go "1.2", go "1.10"].map fun oid => { oid, typ := .null, onGet := fun w => (.ok .nil, w) }

theorem findOID_after_sort_two :
    ∃ item i, findOID twoOIDs (go ".1.10") = (some item, i) ∧
      oidToByteString item.oid = some [1, 10] := by
  have hsorted : SortedTable twoOIDs := pairwise_pair.mpr (by decide)
  obtain ⟨-, -, hfound | ⟨hnone, -⟩⟩ := findOID_after_sort twoOIDs twoOIDs
    (go ".1.10") [1, 10] (by decide) ⟨.refl _, hsorted⟩ (by decide)
  · obtain ⟨item, i, hfind, -, hoid, -⟩ := hfound
    exact ⟨item, i, hfind, hoid⟩
  · exact absurd (by decide) (hnone _ (mem_cons_of_mem _ mem_cons_self))

end Mockly.SNMP
