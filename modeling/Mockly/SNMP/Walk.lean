import Mockly.SNMP.Agent
import Mockly.SNMP.Table

/-!
# Walking the table

A client feeds the name of each answer to a GetNext back. With several items for one OID a walk does
not get away from it.

Main result: **`getNext_iff_not_repeated`**.
-/

namespace Mockly.SNMP

open SortedBy PduItem List

variable {k : List ℕ}

section

variable {W : Type} {oids : List (PduItem W)} {name : GoString} {q : List ℕ}

def nextItem (oids : List (PduItem W)) (name : GoString) : Option (PduItem W) :=
  oids[walkFrom oids name]?

/-- Not more than one item has the OID `k`. -/
def AtMostOne (oids : List (PduItem W)) (k : List ℕ) : Prop :=
  (matching key k oids).length ≤ 1

lemma AtMostOne.tail_eq_nil (h : AtMostOne oids q) :
    (matching key q oids).tail = [] := by
  rcases hm : matching key q oids with _ | ⟨a, _ | ⟨b, rest⟩⟩
  · rfl
  · rfl
  · simp [AtMostOne, hm] at h

section Lookup

variable (hsorted : SortedTable oids) (hq : oidToByteString name = some q)
include hsorted hq

lemma drop_findOID :
    oids.drop (findOID oids name).2 = matching key q oids ++ above key q oids := by
  obtain ⟨hbefore, hbehind, -⟩ := findOID_spec hsorted hq
  exact drop_eq hsorted hbefore hbehind

lemma findOID_fst :
    (findOID oids name).1 = (matching key q oids).head? := by
  obtain ⟨-, -, hitem⟩ := findOID_spec hsorted hq
  rw [← List.head?_drop, drop_findOID hsorted hq] at hitem
  rw [hitem]
  cases hm : matching key q oids with
  | nil =>
    cases ha : above key q oids with
    | nil => rfl
    | cons a rest =>
      have hlt := (mem_above.mp (ha ▸ mem_cons_self)).2
      simp [Option.filter, hlt.ne']
  | cons m rest =>
    have hkey : m.key = q := (mem_matching.mp (hm ▸ mem_cons_self)).2
    simp [Option.filter, hkey]

/-- At the second item for the OID if there are several, and else at the first greater one. -/
lemma drop_walkFrom :
    oids.drop (walkFrom oids name) = (matching key q oids).tail ++ above key q oids := by
  have hdrop := drop_findOID hsorted hq
  have hfst := findOID_fst hsorted hq
  unfold walkFrom
  rcases hfind : findOID oids name with ⟨_ | m, idx⟩ <;> rw [hfind] at hdrop hfst
  · rw [List.head?_eq_none_iff.mp hfst.symm] at hdrop ⊢
    exact hdrop
  · obtain ⟨rest, hm⟩ := List.head?_eq_some_iff.mp hfst.symm
    rw [hm] at hdrop ⊢
    rw [← tail_drop, hdrop]
    rfl

lemma nextItem_eq :
    nextItem oids name = ((matching key q oids).tail ++ above key q oids).head? := by
  rw [nextItem, ← List.head?_drop, drop_walkFrom hsorted hq]

/-- For an OID that is repeated the item that is returned has the same OID. -/
lemma nextItem_of_repeated (h : ¬ AtMostOne oids q) :
    ∃ item, nextItem oids name = some item ∧ item.key = q := by
  rw [nextItem_eq hsorted hq]
  have hmem : ∀ item ∈ matching key q oids, item.key = q :=
    fun item hitem => (mem_matching.mp hitem).2
  rcases hm : matching key q oids with _ | ⟨a, _ | ⟨b, rest⟩⟩
  · simp [AtMostOne, hm] at h
  · simp [AtMostOne, hm] at h
  · exact ⟨b, rfl, hmem b (by simp [hm])⟩

lemma nextItem_of_atMostOne (h : AtMostOne oids q) :
    nextItem oids name = (above key q oids).head? := by
  rw [nextItem_eq hsorted hq, h.tail_eq_nil, nil_append]

end Lookup

/-! ## GetNext -/

/-- A GetNext request of version 2c for one variable. -/
structure IsGetNext (req : SnmpPacket) (name : GoString) : Prop where
  version : req.version = .version2c
  pduType : req.pduType = .getNextRequest
  maxRepetitions : req.maxRepetitions = 0
  vars : req.vars.map SnmpPDU.name = [name]

/-- The response with the variable of an item, or with the end of the view. -/
def answerWith (req : SnmpPacket) (name : GoString) (next : Option (PduItem W)) (w : World W) :
    Option SnmpPacket × World W :=
  match next with
  | none => (some { responseFor req with vars := [endOfMibView name] }, w)
  | some item => (some { responseFor req with vars := [(get item w).1] }, (get item w).2)

lemma get_name (item : PduItem W) (w : World W) : (get item w).1.name = item.oid := by
  cases h : (item.onGet w.state).1.recovered <;>
    simp [get, safeGet, bind, StateT.bind, pure, StateT.pure, h, octetStringPDU]

lemma get_type (item : PduItem W) (w : World W) :
    (get item w).1.type = .octetString ∨ (get item w).1.type = item.typ := by
  cases h : (item.onGet w.state).1.recovered <;>
    simp [get, safeGet, bind, StateT.bind, pure, StateT.pure, h, octetStringPDU]

lemma serve_getNext {req : SnmpPacket} (h : IsGetNext req name) (w : World W) :
    serve oids req w = answerWith req name (nextItem oids name) w := by
  obtain ⟨v, hv, hname⟩ : ∃ v, req.vars = [v] ∧ v.name = name := by
    obtain ⟨v, hv, hn⟩ := map_eq_singleton_iff.mp h.vars
    exact ⟨v, hv, hn⟩
  subst hname
  have hversion : req.version ≠ .version1 := by simp [h.version]
  cases hnext : oids[walkFrom oids v.name]? with
  | none =>
    have hend : oids.length ≤ walkFrom oids v.name := by simpa using hnext
    simp only [serve, h.pduType, serveGetNext, hv, List.getLast?_singleton, if_pos hend,
      endOfWalk, if_neg hversion, nextItem, hnext, answerWith]
    simp [bind, StateT.bind, pure, StateT.pure, hversion, SnmpPacket.append, responseFor]
  | some item =>
    have hlt : walkFrom oids v.name < oids.length := (List.getElem?_eq_some_iff.mp hnext).1
    have hone : (if oids.length < walkFrom oids v.name + 1 then
        oids.length - walkFrom oids v.name else 1) = 1 := if_neg (by omega)
    have htake : (oids.drop (walkFrom oids v.name)).take 1 = [item] := by
      rw [take_one, List.head?_drop, hnext]
      rfl
    simp only [serve, h.pduType, serveGetNext, hv, List.getLast?_singleton,
      if_neg (not_le.mpr hlt), h.maxRepetitions, if_true, hone, htake, foldlM_cons,
      foldlM_nil, nextItem, hnext, answerWith, bind, StateT.bind, pure, StateT.pure]
    rcases get item w with ⟨a, w'⟩
    simp [StateT.pure, hversion, SnmpPacket.append, responseFor]
    rfl

/-- What follows the OID `q` in the table. -/
inductive Successor (oids : List (PduItem W)) (q : List ℕ) : Option (PduItem W) → Prop
  | item {item : PduItem W} (hmem : item ∈ oids) (hlt : q < item.key)
      (hleast : ∀ other ∈ oids, q < other.key → item.key ≤ other.key) :
      Successor oids q (some item)
  | endOfMib (h : ∀ other ∈ oids, ¬ q < other.key) : Successor oids q none

lemma successor_head?_above (hsorted : SortedTable oids) (q : List ℕ) :
    Successor oids q (above key q oids).head? := by
  cases ha : above key q oids with
  | nil =>
    refine .endOfMib fun other hmem hlt => ?_
    have hmem' := mem_above.mpr ⟨hmem, hlt⟩
    simp [ha] at hmem'
  | cons item rest =>
    obtain ⟨hmem, hlt⟩ := mem_above.mp (ha ▸ mem_cons_self)
    refine .item hmem hlt fun other hother hgt => ?_
    have hin := mem_above.mpr ⟨hother, hgt⟩
    have hpair : (above key q oids).Pairwise fun a b => a.key ≤ b.key :=
      hsorted.sublist filter_sublist
    rw [ha] at hin hpair
    rcases mem_cons.mp hin with rfl | hin
    · exact le_rfl
    · exact (pairwise_cons.mp hpair).1 other hin

variable {item : PduItem W}

lemma mem_of_nextItem (h : nextItem oids name = some item) : item ∈ oids :=
  mem_of_getElem? h

lemma get_type_ne (htyp : item.typ ≠ .endOfMibView) (w : World W) :
    (get item w).1.type ≠ .endOfMibView := by
  rcases get_type item w with h | h
  · simp [h]
  · exact h ▸ htyp

lemma serve_getNext_iff (hsorted : SortedTable oids)
    (htyp : ∀ item ∈ oids, item.typ ≠ .endOfMibView) (hq : oidToByteString name = some q)
    {req : SnmpPacket} (hreq : IsGetNext req name) (w : World W) :
    (∃ next, Successor oids q next ∧ serve oids req w = answerWith req name next w) ↔
      AtMostOne oids q := by
  rw [serve_getNext hreq]
  constructor
  · rintro ⟨next, hnext, heq⟩
    by_contra hrep
    obtain ⟨item, hitem, hkey⟩ := nextItem_of_repeated hsorted hq hrep
    rw [hitem] at heq
    have hvars := congrArg (fun out => out.1.map SnmpPacket.vars) heq
    cases hnext with
    | @item other hmem hlt hleast =>
      simp only [answerWith, Option.map_some, Option.some.injEq, List.cons.injEq, and_true] at hvars
      have hoid : item.oid = other.oid := by rw [← get_name item w, hvars, get_name]
      have hother : other.key = q := by rw [← hkey, key, key, hoid]
      exact hlt.ne hother.symm
    | endOfMib h =>
      simp only [answerWith, Option.map_some, Option.some.injEq, List.cons.injEq, and_true] at hvars
      refine get_type_ne (htyp item (mem_of_nextItem hitem)) w ?_
      rw [hvars]
      rfl
  · intro hone
    exact ⟨_, successor_head?_above hsorted q, by rw [nextItem_of_atMostOne hsorted hq hone]⟩

/-! ## Walks -/

/-- The names of the answers up to the end of the view; absent if there is none within `fuel`
requests. -/
def walk (oids : List (PduItem W)) (request : GoString → SnmpPacket) :
    ℕ → GoString → World W → Option (List GoString)
  | 0, _, _ => none
  | fuel + 1, name, w =>
    match serve oids (request name) w with
    | (some resp, w') =>
      match resp.vars with
      | [v] =>
        if v.type = .endOfMibView then some []
        else (walk oids request fuel v.name w').map (v.name :: ·)
      | _ => none
    | _ => none

variable {request : GoString → SnmpPacket}

variable {fuel : ℕ}

variable {w : World W}

lemma walk_succ_none (hreq : IsGetNext (request name) name) (hnext : nextItem oids name = none) :
    walk oids request (fuel + 1) name w = some [] := by
  simp [walk, serve_getNext hreq, hnext, answerWith, endOfMibView]

lemma walk_succ_some (hreq : IsGetNext (request name) name) (htyp : item.typ ≠ .endOfMibView)
    (hnext : nextItem oids name = some item) :
    walk oids request (fuel + 1) name w =
      (walk oids request fuel item.oid (get item w).2).map (item.oid :: ·) := by
  simp [walk, serve_getNext hreq, hnext, answerWith, get_type_ne htyp w, get_name]

lemma oidToByteString_of_lt {oid : GoString} (h : q < oidKey oid) :
    oidToByteString oid = some (oidKey oid) := by
  unfold oidKey at h ⊢
  cases hp : oidToByteString oid with
  | none => simp [hp] at h
  | some k => rfl

variable (hsorted : SortedTable oids) (htyp : ∀ item ∈ oids, item.typ ≠ .endOfMibView)
  (hreq : ∀ n, IsGetNext (request n) n)
include hsorted htyp hreq

lemma walk_above {l : List (PduItem W)} (hq : oidToByteString name = some q)
    (hone : ∀ k, q ≤ k → AtMostOne oids k) (hl : above key q oids = l) :
    walk oids request (l.length + 1) name w = some (l.map oid) := by
  induction l generalizing name q w with
  | nil =>
    refine walk_succ_none (hreq name) ?_
    rw [nextItem_of_atMostOne hsorted hq (hone q le_rfl), hl]
    rfl
  | cons item rest ih =>
    obtain ⟨hmem, hlt⟩ := mem_above.mp (hl ▸ mem_cons_self)
    have hnext : nextItem oids name = some item := by
      rw [nextItem_of_atMostOne hsorted hq (hone q le_rfl), hl]
      rfl
    have hrest := (above_cons hsorted hl (hone item.key hlt.le)).2
    rw [length_cons, walk_succ_some (hreq name) (htyp item hmem) hnext,
      ih (oidToByteString_of_lt hlt) (fun k hk => hone k (hlt.le.trans hk)) hrest]
    rfl

lemma exists_cons_of_walk {names : List GoString}
    (hwalk : walk oids request fuel name w = some names) (hq : oidToByteString name = some q)
    (hrep : ¬ AtMostOne oids q) : ∃ n rest, names = n :: rest ∧ oidKey n = q := by
  obtain ⟨item, hnext, hkey⟩ := nextItem_of_repeated hsorted hq hrep
  cases fuel with
  | zero => simp [walk] at hwalk
  | succ fuel =>
    rw [walk_succ_some (hreq name) (htyp item (mem_of_nextItem hnext)) hnext,
      Option.map_eq_some_iff] at hwalk
    obtain ⟨rest, -, rfl⟩ := hwalk
    exact ⟨item.oid, rest, rfl, hkey⟩

lemma walk_repeated {names : List GoString} (hwalk : walk oids request fuel name w = some names)
    (hk : q < k) (hrep : ¬ AtMostOne oids k) (hmem : k ∈ names.map oidKey) :
    ¬ (names.map oidKey).Pairwise (· < ·) := by
  induction fuel generalizing name w names with
  | zero => simp [walk] at hwalk
  | succ fuel ih =>
    cases hnext : nextItem oids name with
    | none =>
      rw [walk_succ_none (hreq name) hnext] at hwalk
      cases hwalk
      simp at hmem
    | some item =>
      rw [walk_succ_some (hreq name) (htyp item (mem_of_nextItem hnext)) hnext,
        Option.map_eq_some_iff] at hwalk
      obtain ⟨rest, hrest, rfl⟩ := hwalk
      rw [map_cons, pairwise_cons]
      rintro ⟨hhead, htail⟩
      rcases mem_cons.mp hmem with rfl | hmem
      · obtain ⟨n, rest, rfl, hn⟩ :=
          exists_cons_of_walk hsorted htyp hreq hrest (oidToByteString_of_lt hk) hrep
        exact (hhead (oidKey n) mem_cons_self).ne hn.symm
      · exact ih hrest hmem htail

end

/-! ## Mocks -/

/-- Every greater OID of the mocks, in ascending order. -/
def VisitsGreater (mocks : List SNMPMock) (q : List ℕ) (names : List GoString) : Prop :=
  (names.map oidKey).Pairwise (· < ·) ∧
    ∀ k, k ∈ names.map oidKey ↔ q < k ∧ ∃ m ∈ mocks, oidKey m.oid = k

section

variable {rt : Runtime} {mocks : List SNMPMock} {oids : List (PduItem Stored)}
  (hsort : SortsTo (buildOIDs rt mocks) oids)
include hsort

lemma typ_of_sortsTo : ∀ item ∈ oids, item.typ ≠ .endOfMibView := by
  intro item hitem
  obtain ⟨m, -, rfl⟩ := mem_map.mp (hsort.perm.mem_iff.mp hitem)
  exact snmpType_ne_endOfMibView rt.caseTable m.type

lemma exists_mock_iff : (∃ item ∈ oids, item.key = k) ↔ ∃ m ∈ mocks, oidKey m.oid = k := by
  constructor
  · rintro ⟨item, hitem, rfl⟩
    obtain ⟨m, hm, rfl⟩ := mem_map.mp (hsort.perm.mem_iff.mp hitem)
    exact ⟨m, hm, rfl⟩
  · rintro ⟨m, hm, rfl⟩
    exact ⟨buildItem rt m, hsort.perm.mem_iff.mpr (mem_map_of_mem hm), rfl⟩

lemma atMostOne_iff : AtMostOne oids k ↔ (mocks.countP fun m => oidKey m.oid = k) ≤ 1 := by
  have hcount : (matching key k oids).length =
      mocks.countP fun m => oidKey m.oid = k := by
    rw [matching, ← countP_eq_length_filter, hsort.perm.countP_eq, buildOIDs, countP_map]
    refine countP_congr fun m _ => ?_
    exact (@decide_eq_true_iff _ (_)).trans (@decide_eq_true_iff _ (_)).symm
  rw [AtMostOne, hcount]

lemma walk_iff {name : GoString} {q : List ℕ} (hq : oidToByteString name = some q)
    {request : GoString → SnmpPacket}
    (hreq : ∀ n, IsGetNext (request n) n) (w : World Stored) :
    (∃ fuel names, walk oids request fuel name w = some names ∧ VisitsGreater mocks q names) ↔
      ∀ k, q ≤ k → AtMostOne oids k := by
  have htyp := typ_of_sortsTo hsort
  constructor
  · rintro ⟨fuel, names, hwalk, hasc, hall⟩ k hk
    by_contra hrep
    rcases hk.lt_or_eq with hlt | rfl
    · have hne : matching key k oids ≠ [] := by
        intro hnil
        simp [AtMostOne, hnil] at hrep
      obtain ⟨item, hitem⟩ := exists_mem_of_ne_nil _ hne
      have hmock := (exists_mock_iff hsort).mp ⟨item, mem_matching.mp hitem⟩
      exact walk_repeated hsort.sorted htyp hreq hwalk hlt hrep ((hall k).mpr ⟨hlt, hmock⟩) hasc
    · obtain ⟨n, rest, rfl, hn⟩ := exists_cons_of_walk hsort.sorted htyp hreq hwalk hq hrep
      have hmem : q ∈ (n :: rest).map oidKey := by simp [hn]
      exact lt_irrefl q ((hall q).mp hmem).1
  · intro hone
    refine ⟨_, _, walk_above hsort.sorted htyp hreq hq hone rfl, ?_, fun k => ?_⟩
    · rw [map_map, pairwise_map]
      exact pairwise_above hsort.sorted fun k hk => hone k hk.le
    · rw [← exists_mock_iff hsort, map_map, mem_map]
      constructor
      · rintro ⟨item, hitem, rfl⟩
        obtain ⟨hmem, hlt⟩ := mem_above.mp hitem
        exact ⟨hlt, item, hmem, rfl⟩
      · rintro ⟨hlt, item, hmem, rfl⟩
        exact ⟨item, mem_above.mpr ⟨hmem, hlt⟩, rfl⟩

end

/-- **GetNext returns what follows, and a walk visits everything**, exactly as far as no two mocks
have the OID in question. -/
theorem getNext_iff_not_repeated {rt : Runtime} {mocks : List SNMPMock}
    {oids : List (PduItem Stored)} (hsort : SortsTo (buildOIDs rt mocks) oids) {name : GoString}
    {q : List ℕ} (hq : oidToByteString name = some q) :
    (∀ req, IsGetNext req name → ∀ w,
      ((∃ next, Successor oids q next ∧ serve oids req w = answerWith req name next w) ↔
        (mocks.countP fun m => oidKey m.oid = q) ≤ 1)) ∧
    ∀ request : GoString → SnmpPacket, (∀ n, IsGetNext (request n) n) → ∀ w,
      ((∃ fuel names, walk oids request fuel name w = some names ∧
          VisitsGreater mocks q names) ↔
        ∀ k, q ≤ k → (mocks.countP fun m => oidKey m.oid = k) ≤ 1) := by
  refine ⟨fun req hreq w => ?_, fun request hreq w => ?_⟩
  · rw [serve_getNext_iff hsort.sorted (typ_of_sortsTo hsort) hq hreq w, atMostOne_iff hsort]
  · rw [walk_iff hsort hq hreq w]
    exact forall_congr' fun k => imp_congr_right fun _ => atMostOne_iff hsort

/-! ## Two mocks -/

def getNextRequest (name : GoString) : SnmpPacket where
  version := .version2c
  pduType := .getNextRequest
  vars := [⟨name, .null, .nil⟩]

lemma isGetNext_getNextRequest (name : GoString) : IsGetNext (getNextRequest name) name :=
  ⟨rfl, rfl, rfl, rfl⟩

def plainRuntime : Runtime where
  caseTable := asciiTable
  conditions := fun _ => {}
  wrapValue := fun _ v => v

def mocksFor (names : List GoString) : List SNMPMock :=
  names.map fun n => { oid := n, value := .nil }

lemma sortsTo_of_pairwise {items : List (PduItem Stored)}
    (h : items.Pairwise fun a b => a.key ≤ b.key) : SortsTo items items := ⟨.refl _, h⟩

/-- The numbers of an OID are compared, not their digits. -/
theorem getNext_iff_not_repeated_numeric :
    ∃ fuel names,
      walk (buildOIDs plainRuntime (mocksFor [go "1.2", go ".1.10"])) getNextRequest fuel (go "1")
        ⟨⟨∅, 0⟩, []⟩ = some names ∧
      VisitsGreater (mocksFor [go "1.2", go ".1.10"]) [1] names := by
  have hsort : SortsTo (buildOIDs plainRuntime (mocksFor [go "1.2", go ".1.10"]))
      (buildOIDs plainRuntime (mocksFor [go "1.2", go ".1.10"])) :=
    sortsTo_of_pairwise (by decide)
  refine ((getNext_iff_not_repeated hsort (q := [1]) (by decide)).2 getNextRequest
    isGetNext_getNextRequest _).mpr fun k _ => (atMostOne_iff hsort).mp ?_
  exact length_matching_le_one (by decide) k

/-- **With two mocks for one OID, GetNext returns the OID it was asked about.** -/
theorem getNext_returns_same_oid :
    SortsTo (buildOIDs plainRuntime (mocksFor [go "1.3", go ".1.3"]))
      (buildOIDs plainRuntime (mocksFor [go "1.3", go ".1.3"])) ∧
    ((serve (buildOIDs plainRuntime (mocksFor [go "1.3", go ".1.3"])) (getNextRequest (go "1.3"))
      ⟨⟨∅, 0⟩, []⟩).1.map fun resp => resp.vars.map fun v => (v.name, v.type)) =
        some [(go ".1.3", .octetString)] := by
  exact ⟨sortsTo_of_pairwise (by decide), by decide⟩

end Mockly.SNMP
