import Mockly.SNMP.Bulk
import Mockly.Lib.Loops

/-!
# Set

The agent goes through the variables one by one: what it has stored before it comes to one that
cannot be set stays stored. And a callback that fails is not an error of the request.

Main result: **`set_atomic_iff`**.
-/

namespace Mockly.SNMP

open List Option Function SnmpPDU GoMap

/-- The items of the table are set as `buildOIDs` has it, or cannot be set. -/
def StoresValues (rt : Runtime) (oids : List (PduItem Stored)) : Prop :=
  ∀ item ∈ oids, ∀ onSet, item.onSet = some onSet → onSet = storeValue rt item.oid

lemma storesValues_of_sortsTo {rt : Runtime} {mocks : List SNMPMock} {oids : List (PduItem Stored)}
    (hsort : SortsTo (buildOIDs rt mocks) oids) : StoresValues rt oids := by
  intro item hitem onSet honSet
  obtain ⟨m, -, rfl⟩ := mem_map.mp (hsort.perm.mem_iff.mp hitem)
  exact (some_injective _ honSet).symm

def settable (oids : List (PduItem Stored)) (name : GoString) : Option GoString :=
  (findOID oids name).1.bind fun item => item.onSet.map fun _ => item.oid

def callbacks (oids : List (PduItem Stored)) (names : List GoString) : ℕ :=
  names.countP fun n => (settable oids n).isSome

def applySet (rt : Runtime) (oids : List (PduItem Stored)) (w : Stored) (v : SnmpPDU) : Stored :=
  match settable oids v.name with
  | none => w
  | some oid => (storeValue rt oid v.value w).2

def applySets (rt : Runtime) (oids : List (PduItem Stored)) (vars : List SnmpPDU) (w : Stored) :
    Stored :=
  vars.foldl (applySet rt oids) w

variable {req : SnmpPacket}

section

variable {rt : Runtime} {oids : List (PduItem Stored)}

lemma mem_of_findOID {name : GoString} {item : PduItem Stored}
    (h : (findOID oids name).1 = some item) : item ∈ oids := by
  cases hq : oidToByteString name with
  | none => simp [findOID, hq] at h
  | some q =>
    rw [findOID_eq hq] at h
    exact mem_of_getElem? (filter_eq_some_iff.mp h).1

open SnmpPacket

lemma error_fail (resp : SnmpPacket) {err : SNMPError} (herr : err ≠ .noError) (idx : ℕ)
    (v : SnmpPDU) : ((resp.fail err idx).append v).error ≠ .noError := by
  by_cases h : resp.error = .noError
  · simp [fail, append, h, herr]
  · simp [fail, append, h]

/-- What `serveSet` has done after some of the variables. -/
structure SetSoFar (rt : Runtime) (oids : List (PduItem Stored)) (w : World Stored)
    (done : List (SnmpPDU × ℕ)) (resp : SnmpPacket) (w' : World Stored) : Prop where
  state : w'.state = applySets rt oids (done.map Prod.fst) w.state
  error : resp.error = .noError ↔ ∀ p ∈ done, (settable oids p.1.name).isSome

lemma SetSoFar.snoc {w w' w'' : World Stored} {done : List (SnmpPDU × ℕ)} {resp resp' : SnmpPacket}
    (h : SetSoFar rt oids w done resp w') {p : SnmpPDU × ℕ}
    (hstate : w''.state = applySet rt oids w'.state p.1)
    (herror : resp'.error = .noError ↔ resp.error = .noError ∧ (settable oids p.1.name).isSome) :
    SetSoFar rt oids w (done ++ [p]) resp' w'' := by
  refine ⟨?_, ?_⟩
  · rw [hstate, h.state, map_append, applySets, applySets, foldl_append]
    rfl
  · rw [herror, h.error, forall_mem_append, forall_mem_singleton]

lemma SetSoFar.refused {w w' : World Stored} {done : List (SnmpPDU × ℕ)} {resp : SnmpPacket}
    (h : SetSoFar rt oids w done resp w') {p : SnmpPDU × ℕ} (hnone : settable oids p.1.name = none)
    {err : SNMPError} (herr : err ≠ .noError) (idx : ℕ) (v : SnmpPDU) :
    SetSoFar rt oids w (done ++ [p]) ((resp.fail err idx).append v) w' := by
  refine h.snoc ?_ (iff_of_false (error_fail resp herr idx v) (by simp [hnone]))
  rw [applySet, hnone]

lemma serveSet_spec (hset : StoresValues rt oids) (req : SnmpPacket) (w : World Stored) :
    SetSoFar rt oids w req.vars.zipIdx (serveSet oids req w).1 (serveSet oids req w).2 := by
  unfold serveSet
  refine Loops.foldlM_invariant ⟨rfl, by simp [responseFor]⟩ ?_
  rintro done ⟨v, idx⟩ rest resp w' - h
  cases hitem : (findOID oids v.name).1 with
  | none =>
    have hnone : settable oids v.name = none := by rw [settable, hitem, bind_none]
    simp only [hitem]
    exact h.refused hnone (by split <;> exact SNMPError.noConfusion) _ _
  | some item =>
    cases honSet : item.onSet with
    | none =>
      have hnone : settable oids v.name = none := by
        rw [settable, hitem, bind_some, honSet, map_none]
      simp only [hitem, honSet]
      exact h.refused hnone (by split <;> exact SNMPError.noConfusion) _ _
    | some onSet =>
      have hsome : settable oids v.name = some item.oid := by
        rw [settable, hitem, bind_some, honSet, map_some]
      obtain rfl := hset item (mem_of_findOID hitem) onSet honSet
      simp only [hitem, honSet]
      cases hinj : (rt.conditions w'.state.calls).injected <;> exact h.snoc
          (by simp [bind, StateT.bind, pure, StateT.pure, safeSet, storeValue, hinj,
            CallResult.recovered, applySet, hsome])
          (by simp [bind, StateT.bind, pure, StateT.pure, safeSet, storeValue, hinj,
            CallResult.recovered, append, hsome])

lemma serve_set (hset : StoresValues rt oids) (htype : req.pduType = .setRequest)
    (w : World Stored) :
    ∃ resp w', serve oids req w = (some resp, w') ∧
      w'.state = applySets rt oids req.vars w.state ∧
      (resp.error = .noError ↔ ∀ v ∈ req.vars, (settable oids v.name).isSome) := by
  have hspec := serveSet_spec hset req w
  generalize hout : serveSet oids req w = out at hspec
  obtain ⟨resp, w'⟩ := out
  obtain ⟨hstate, herror⟩ := hspec
  rw [zipIdx_map_fst] at hstate
  have hmem : (∀ p ∈ req.vars.zipIdx, (settable oids p.1.name).isSome) ↔
      ∀ v ∈ req.vars, (settable oids v.name).isSome := by
    conv_rhs => rw [← List.zipIdx_map_fst 0 req.vars, List.forall_mem_map]
  refine ⟨if req.version = .version1 ∧ resp.error ≠ .noError then
    { resp with vars := req.vars } else resp, w', ?_, hstate, ?_⟩
  · simp only [serve, htype, bind, StateT.bind, hout]
    rfl
  · rw [← hmem, ← herror]
    split <;> rfl

/-! ## What is stored -/

lemma applySets_invariant {P : Stored → Prop} {vars : List SnmpPDU} {w : Stored} (hw : P w)
    (hstep : ∀ done v rest, vars = done ++ v :: rest → P (applySets rt oids done w) →
      P (applySet rt oids (applySets rt oids done w) v)) : P (applySets rt oids vars w) :=
  Loops.foldl_invariant (I := fun _ => P) hw hstep

lemma applySets_append_cons (before : List SnmpPDU) (v : SnmpPDU) (behind : List SnmpPDU)
    (w : Stored) :
    applySets rt oids (before ++ v :: behind) w =
      applySets rt oids behind (applySet rt oids (applySets rt oids before w) v) := by
  rw [applySets, foldl_append, foldl_cons]
  rfl

lemma applySet_calls (w : Stored) (v : SnmpPDU) :
    (applySet rt oids w v).calls = w.calls + callbacks oids [v.name] := by
  unfold applySet storeValue callbacks
  cases hs : settable oids v.name with
  | none => simp [hs]
  | some oid => cases hinj : (rt.conditions w.calls).injected <;> simp [hs, hinj]

lemma callbacks_append (a b : List GoString) :
    callbacks oids (a ++ b) = callbacks oids a + callbacks oids b :=
  countP_append

lemma applySets_calls (vars : List SnmpPDU) (w : Stored) :
    (applySets rt oids vars w).calls = w.calls + callbacks oids (vars.map name) := by
  refine Loops.foldl_invariant
    (I := fun done (w' : Stored) => w'.calls = w.calls + callbacks oids (done.map name))
    rfl ?_
  intro done v rest _ h
  rw [applySet_calls, h, map_append, callbacks_append, add_assoc]
  rfl

/-- A fault is injected into the callback that comes after those for the names. -/
def FaultAfter (rt : Runtime) (oids : List (PduItem Stored)) (calls : ℕ) (names : List GoString) :
    Prop :=
  (rt.conditions (calls + callbacks oids names)).injected.isSome

variable {w : Stored} {v : SnmpPDU}

lemma applySet_of_none (h : settable oids v.name = none) :
    applySet rt oids w v = w := by
  rw [applySet, h]

section Settable

variable {done : List SnmpPDU} {oid : GoString} (h : settable oids v.name = some oid)
include h

lemma applySet_values :
    (applySet rt oids w v).values =
      if (rt.conditions w.calls).injected.isSome then w.values else w.values.set oid v.value := by
  simp only [applySet, h, storeValue]
  cases (rt.conditions w.calls).injected <;> rfl

lemma applySet_stores (hfault : ¬ FaultAfter rt oids w.calls (done.map name)) :
    (applySet rt oids (applySets rt oids done w) v).values =
      (applySets rt oids done w).values.set oid v.value := by
  rw [applySet_values h, applySets_calls]
  exact if_neg hfault

lemma applySet_faulted (hfault : FaultAfter rt oids w.calls (done.map name)) :
    (applySet rt oids (applySets rt oids done w) v).values = (applySets rt oids done w).values := by
  rw [applySet_values h, applySets_calls]
  exact if_pos hfault

end Settable

lemma applySet_values_cases (w : Stored) (v : SnmpPDU) :
    (applySet rt oids w v).values = w.values ∨
      ∃ oid, settable oids v.name = some oid ∧ ¬ (rt.conditions w.calls).injected.isSome ∧
        (applySet rt oids w v).values = w.values.set oid v.value := by
  cases hv : settable oids v.name with
  | none => exact .inl (by rw [applySet_of_none hv])
  | some oid =>
    rw [applySet_values hv]
    split
    · exact .inl rfl
    · rename_i hfree
      exact .inr ⟨oid, rfl, hfree, rfl⟩

end

/-! ## All or nothing -/

/-- The last one where several have the same OID. -/
def EachStored (oids : List (PduItem Stored)) (vars : List SnmpPDU) (values : GoMap Value) : Prop :=
  ∀ before v behind, vars = before ++ v :: behind →
    ∃ oid, settable oids v.name = some oid ∧
      ((∀ u ∈ behind, settable oids u.name ≠ some oid) → values.get? oid = some v.value)

/-- With an error nothing is stored, without one everything is. -/
def Atomic (oids : List (PduItem Stored)) (req : SnmpPacket) (w : World Stored) : Prop :=
  ∃ resp w', serve oids req w = (some resp, w') ∧
    (resp.error ≠ .noError → ∀ oid, w'.state.values.get? oid = w.state.values.get? oid) ∧
    (resp.error = .noError → EachStored oids req.vars w'.state.values)

/-- All of the names can be set and no fault comes between the last one for an OID and its value, or
one of them cannot and a fault comes between every other one and its value. -/
inductive AllOrNothing (rt : Runtime) (oids : List (PduItem Stored)) (calls : ℕ)
    (names : List GoString) : Prop
  | all (hsettable : ∀ n ∈ names, (settable oids n).isSome)
      (hstored : ∀ before n behind, names = before ++ n :: behind →
        (∀ u ∈ behind, settable oids u ≠ settable oids n) → ¬ FaultAfter rt oids calls before)
  | nothing (hrefused : ∃ n ∈ names, settable oids n = none)
      (hfaults : ∀ before n behind, names = before ++ n :: behind →
        (settable oids n).isSome → FaultAfter rt oids calls before)

section

variable {rt : Runtime} {oids : List (PduItem Stored)} {vars : List SnmpPDU} {w : Stored}

lemma eachStored_of_noFault (hsettable : ∀ v ∈ vars, (settable oids v.name).isSome)
    (hstored : ∀ before n behind, vars.map name = before ++ n :: behind →
      (∀ u ∈ behind, settable oids u ≠ settable oids n) → ¬ FaultAfter rt oids w.calls before) :
    EachStored oids vars (applySets rt oids vars w).values := by
  rintro before v behind rfl
  obtain ⟨oid, hoid⟩ := isSome_iff_exists.mp (hsettable v (by simp))
  refine ⟨oid, hoid, fun hlast => ?_⟩
  have hfault : ¬ FaultAfter rt oids w.calls (before.map name) := by
    refine hstored _ v.name (behind.map name) (by simp) fun u hu => ?_
    obtain ⟨u', hu', rfl⟩ := mem_map.mp hu
    exact hoid ▸ hlast u' hu'
  rw [applySets_append_cons]
  refine applySets_invariant (P := fun w' => w'.values.get? oid = some v.value) ?_ ?_
  · rw [applySet_stores hoid hfault, get?_set_self]
  · intro done u rest hsplit h
    have hne := hlast u (by simp [hsplit])
    rcases applySet_values_cases (applySets rt oids done _) u with hsame | ⟨oid', hu, -, hset⟩
    · rw [hsame]
      exact h
    · rw [hset, get?_set_ne]
      · exact h
      · rintro rfl
        exact hne hu

lemma values_applySets_of_faults
    (hfaults : ∀ before n behind, vars.map name = before ++ n :: behind →
      (settable oids n).isSome → FaultAfter rt oids w.calls before) :
    (applySets rt oids vars w).values = w.values := by
  refine applySets_invariant (P := fun w' => w'.values = w.values) rfl ?_
  rintro done v rest rfl h
  cases hv : settable oids v.name with
  | none => rw [applySet_of_none hv, h]
  | some oid =>
    have hfault := hfaults (done.map name) v.name (rest.map name) (by simp)
      (by rw [hv]; rfl)
    rw [applySet_faulted hv hfault, h]

/-- Whatever is stored by a Set is the value of a variable no fault has come to. -/
lemma get?_applySets_ne {value : Value}
    (hvalue : ∀ before v behind, vars = before ++ v :: behind → v.value = value →
      FaultAfter rt oids w.calls (before.map name))
    (hw : ∀ oid, w.values.get? oid ≠ some value) (oid : GoString) :
    (applySets rt oids vars w).values.get? oid ≠ some value := by
  refine applySets_invariant (P := fun w' => w'.values.get? oid ≠ some value) (hw oid) ?_
  intro done v rest hsplit h
  rcases applySet_values_cases (applySets rt oids done w) v with hsame | ⟨oid', hv, hfree, hset⟩
  · rw [hsame]
    exact h
  · have hne : v.value ≠ value := fun heq => hfree <| by
      rw [applySets_calls]
      exact hvalue done v rest hsplit heq
    rw [hset, get?_set]
    split
    · exact fun heq => hne (some_injective _ heq)
    · exact h

lemma isSome_applySets {oid : GoString}
    (hw : (w.values.get? oid).isSome) : ((applySets rt oids vars w).values.get? oid).isSome := by
  refine applySets_invariant (P := fun w' => (w'.values.get? oid).isSome) hw ?_
  intro done v rest _ h
  rcases applySet_values_cases (applySets rt oids done w) v with hsame | ⟨oid', -, -, hset⟩
  · rw [hsame]
    exact h
  · rw [hset, get?_set]
    split
    · rfl
    · exact h

def setRequest (vars : List (GoString × Value)) : SnmpPacket where
  version := .version2c
  pduType := .setRequest
  vars := vars.map fun p => ⟨p.1, .octetString, p.2⟩

lemma atomic_iff (hset : StoresValues rt oids) (htype : req.pduType = .setRequest)
    {w : World Stored} :
    Atomic oids req w ↔
      ((∃ v ∈ req.vars, settable oids v.name = none) → ∀ oid,
        (applySets rt oids req.vars w.state).values.get? oid = w.state.values.get? oid) ∧
      ((∀ v ∈ req.vars, (settable oids v.name).isSome) →
        EachStored oids req.vars (applySets rt oids req.vars w.state).values) := by
  obtain ⟨resp, w', hserve, hstate, herror⟩ := serve_set hset htype w
  have hrefused : resp.error ≠ .noError ↔ ∃ v ∈ req.vars, settable oids v.name = none := by
    rw [ne_eq, herror]
    simp
  rw [← hrefused, ← herror, ← hstate]
  constructor
  · rintro ⟨resp₁, w₁, h₁, hatomic⟩
    have heq : (some resp, w') = (some resp₁, w₁) := hserve.symm.trans h₁
    cases heq
    exact hatomic
  · exact fun h => ⟨resp, w', hserve, h⟩

lemma atomic_of_allOrNothing (hset : StoresValues rt oids) (htype : req.pduType = .setRequest)
    {w : World Stored} (h : AllOrNothing rt oids w.state.calls (req.vars.map name)) :
    Atomic oids req w := by
  rw [atomic_iff hset htype]
  rcases h with ⟨hsettable, hstored⟩ | ⟨hrefused, hfaults⟩
  · have hall := forall_mem_map.mp hsettable
    refine ⟨fun ⟨v, hv, hnone⟩ => ?_, fun _ => eachStored_of_noFault hall hstored⟩
    simpa [hnone] using hall v hv
  · refine ⟨fun _ oid => by rw [values_applySets_of_faults hfaults], fun hall => ?_⟩
    obtain ⟨n, hn, hnone⟩ := hrefused
    obtain ⟨v, hv, rfl⟩ := mem_map.mp hn
    simpa [hnone] using hall v hv

/-- If a fault came to the last variable for an OID, its value would be missed. -/
lemma not_faultAfter_of_atomic (hset : StoresValues rt oids) {calls : ℕ}
    {before behind : List GoString} {n : GoString}
    (hsettable : ∀ u ∈ before ++ n :: behind, (settable oids u).isSome)
    (hlast : ∀ u ∈ behind, settable oids u ≠ settable oids n)
    (h : Atomic oids
      (setRequest (before.map (·, .string []) ++ (n, .nil) :: behind.map (·, .string [])))
      ⟨⟨∅, calls⟩, []⟩) : ¬ FaultAfter rt oids calls before := by
  intro hfault
  have hvars : (setRequest (before.map (·, .string []) ++ (n, .nil) ::
      behind.map (·, .string []))).vars = before.map (⟨·, .octetString, .string []⟩) ++
        ⟨n, .octetString, .nil⟩ :: behind.map (⟨·, .octetString, .string []⟩) := by
    simp [setRequest, comp_def]
  have hstored := ((atomic_iff hset rfl).mp h).2
  rw [hvars] at hstored
  obtain ⟨oid, hoid, hget⟩ := hstored (by simpa [or_imp, forall_and] using hsettable) _ _ _ rfl
  refine get?_applySets_ne (fun before' v behind' hsplit hv => ?_) (by simp) oid
    (hget fun u hu => ?_)
  · have hother : ∀ l : List GoString,
        v ∉ l.map fun m => (⟨m, .octetString, .string []⟩ : SnmpPDU) := by
      rintro l hmem
      obtain ⟨m, -, rfl⟩ := mem_map.mp hmem
      exact Value.noConfusion hv
    obtain ⟨rfl, -, -⟩ := (append_cons_inj_of_notMem (hother _) (hother _)).mp hsplit
    simpa [comp_def] using hfault
  · obtain ⟨m, hm, rfl⟩ := mem_map.mp hu
    exact hoid ▸ hlast m hm

lemma faultAfter_of_atomic (hset : StoresValues rt oids) {calls : ℕ}
    {before behind : List GoString} {n : GoString}
    (hrefused : ∃ u ∈ before ++ n :: behind, settable oids u = none)
    (hn : (settable oids n).isSome)
    (h : Atomic oids (setRequest ((before ++ n :: behind).map (·, .nil))) ⟨⟨∅, calls⟩, []⟩) :
    FaultAfter rt oids calls before := by
  by_contra hfault
  obtain ⟨oid, hoid⟩ := isSome_iff_exists.mp hn
  have hvars : (setRequest ((before ++ n :: behind).map (·, .nil))).vars =
      (before ++ n :: behind).map (⟨·, .octetString, .nil⟩) := by
    simp [setRequest, comp_def]
  have hsame := ((atomic_iff hset rfl).mp h).1
  rw [hvars] at hsame
  obtain ⟨u, hu, hnone⟩ := hrefused
  have hget := hsame ⟨_, mem_map_of_mem hu, hnone⟩ oid
  rw [map_append, map_cons, applySets_append_cons] at hget
  have hsome : ((applySets rt oids (behind.map (⟨·, .octetString, .nil⟩)) (applySet rt oids
      (applySets rt oids (before.map (⟨·, .octetString, .nil⟩)) ⟨∅, calls⟩)
      ⟨n, .octetString, .nil⟩)).values.get? oid).isSome := by
    refine isSome_applySets ?_
    rw [applySet_stores hoid (by simpa [comp_def] using hfault), get?_set_self]
    rfl
  rw [hget] at hsome
  exact absurd hsome Bool.false_ne_true

/-- **When a Set is carried out as a whole or not at all, whatever the values are.** -/
theorem set_atomic_iff (hset : StoresValues rt oids) (names : List GoString) (calls : ℕ) :
    (∀ req : SnmpPacket, req.pduType = .setRequest → req.vars.map SnmpPDU.name = names →
      ∀ w : World Stored, w.state.calls = calls → Atomic oids req w) ↔
    AllOrNothing rt oids calls names := by
  constructor
  · intro h
    have hnames : ∀ vars : List (GoString × Value),
        (setRequest vars).vars.map SnmpPDU.name = vars.map Prod.fst := fun vars => by
      simp [setRequest]
    by_cases hall : ∀ n ∈ names, (settable oids n).isSome
    · refine .all hall fun before n behind hsplit hlast => ?_
      subst hsplit
      refine not_faultAfter_of_atomic hset hall hlast (h _ rfl ?_ _ rfl)
      simp [hnames, Function.comp_def]
    · have hrefused : ∃ n ∈ names, settable oids n = none := by simpa using hall
      refine .nothing hrefused fun before n behind hsplit hn => ?_
      subst hsplit
      refine faultAfter_of_atomic hset hrefused hn (h _ rfl ?_ _ rfl)
      simp [hnames, Function.comp_def]
  · rintro h req htype rfl w rfl
    exact atomic_of_allOrNothing hset htype h

end

/-! ## Faults and missing names -/

/-- A Set for two names of the table. -/
theorem set_atomic_iff_two :
    Atomic threeItems (setRequest [(go "1.1", .int 5), (go ".1.3", .int 7)]) ⟨⟨∅, 0⟩, []⟩ := by
  have hset : StoresValues plainRuntime threeItems :=
    storesValues_of_sortsTo (sortsTo_of_pairwise threeItems_sorted)
  refine (set_atomic_iff hset [go "1.1", go ".1.3"] 0).mpr (.all (by decide) ?_) _ rfl rfl _ rfl
  intro before n behind _ _
  exact Bool.false_ne_true

def faultyRuntime : Runtime :=
  { plainRuntime with conditions := fun _ => ⟨some ⟨[]⟩, true, fun _ => []⟩ }

/-- **The first value is stored although the response is an error**; and with a fault there is no
error although the value has not been stored. -/
theorem set_stores_before_error :
    ((serve threeItems (setRequest [(go "1.1", .int 5), (go "1.9", .int 7)]) ⟨⟨∅, 0⟩, []⟩).1.map
        SnmpPacket.error) = some .notWritable ∧
    (serve threeItems (setRequest [(go "1.1", .int 5), (go "1.9", .int 7)])
        ⟨⟨∅, 0⟩, []⟩).2.state.values.get? (go "1.1") = some (.int 5) ∧
    ((serve (buildOIDs faultyRuntime (mocksFor [go "1.1"])) (setRequest [(go "1.1", .int 5)])
        ⟨⟨∅, 0⟩, []⟩).1.map SnmpPacket.error) = some .noError ∧
    (serve (buildOIDs faultyRuntime (mocksFor [go "1.1"])) (setRequest [(go "1.1", .int 5)])
        ⟨⟨∅, 0⟩, []⟩).2.state.values.get? (go "1.1") = none := by
  decide

end Mockly.SNMP
