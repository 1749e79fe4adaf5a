import Mockly.Go.Maps
import Mockly.Lib.Keyed

/-!
# Merging configurations

A section the base does not have is taken over whole; of any other, the mocks are merged by ID
(`MockList`) and the remaining lists are appended (`ItemList`). `configgen` merges the mocks written
by hand in the same way.

Main results: **`merged_eq_layered_iff`**, **`merge_regroup`**.
-/

namespace Mockly

open Keyed List

namespace Config

/-! ## Merging lists -/

section Lists

variable {M : Type} (idOf : M → GoString)

/-- The index over the base, with the last position of each ID. -/
def indexByID (base : List M) : GoMap ℕ :=
  base.zipIdx.foldl (fun index p => index.set (idOf p.1) p.2) ∅

/-- One round of the second loop of `mergeByID`: the index and the result. -/
def mergeStep (s : GoMap ℕ × List M) (m : M) : GoMap ℕ × List M :=
  match s.1.get? (idOf m) with
  | some idx => (s.1, s.2.set idx m)
  | none => (s.1.set (idOf m) s.2.length, s.2 ++ [m])

/-- An entry replaces the one with its ID, or is appended. -/
def mergeByID (base included : List M) : List M :=
  if included.isEmpty then base
  else (included.foldl (mergeStep idOf) (indexByID idOf base, base)).2

/-- The index points to the last mock with each ID. -/
def Indexes (index : GoMap ℕ) (l : List M) : Prop :=
  ∀ id, index.get? id = lastIdx id (l.map idOf)

variable {idOf}

variable {index : GoMap ℕ}

lemma indexes_concat {l : List M} (h : Indexes idOf index l) (m : M) :
    Indexes idOf (index.set (idOf m) l.length) (l ++ [m]) := by
  intro id
  rw [GoMap.get?_set, map_append, map_singleton, lastIdx_concat, length_map, h id]
  simp [eq_comm]

lemma indexes_indexByID (base : List M) : Indexes idOf (indexByID idOf base) base := by
  induction base using List.reverseRecOn with
  | nil => exact fun id => GoMap.get?_empty id
  | append_singleton l m ih =>
    have hindex : indexByID idOf (l ++ [m]) = (indexByID idOf l).set (idOf m) l.length := by
      simp [indexByID, zipIdx_append]
    rw [hindex]
    exact indexes_concat ih m

/-- One round puts a mock on the list, and the index still points to the last ones. -/
lemma mergeStep_spec {l : List M} (h : Indexes idOf index l) (m : M) :
    (mergeStep idOf (index, l) m).2 = put idOf m l ∧
      Indexes idOf (mergeStep idOf (index, l) m).1 (put idOf m l) := by
  cases hidx : lastIdx (idOf m) (l.map idOf) with
  | none =>
    have hput := put_of_notMem (lastIdx_eq_none_iff.mp hidx)
    simp only [mergeStep, h (idOf m), hidx, hput, true_and]
    exact indexes_concat h m
  | some i =>
    have hmem : idOf m ∈ l.map idOf := mem_of_getElem? (getElem?_of_lastIdx hidx)
    simp only [mergeStep, h (idOf m), hidx, put_of_lastIdx hidx, true_and]
    intro id
    rw [h id, ← put_of_lastIdx hidx, map_put, if_pos hmem]

lemma foldl_mergeStep {l : List M} (h : Indexes idOf index l) (ms : List M) :
    (ms.foldl (mergeStep idOf) (index, l)).2 = putAll idOf l ms := by
  induction ms generalizing index l with
  | nil => rfl
  | cons m ms ih =>
    obtain ⟨hresult, hindexes⟩ := mergeStep_spec h m
    rw [foldl_cons, putAll, foldl_cons, ← Prod.mk.eta (p := mergeStep idOf (index, l) m), hresult]
    exact ih hindexes

/-- **What `mergeByID` does.** -/
theorem mergeByID_eq_putAll (base included : List M) :
    mergeByID idOf base included = putAll idOf base included := by
  rw [mergeByID]
  cases included with
  | nil => rfl
  | cons m ms => exact foldl_mergeStep (indexes_indexByID base) (m :: ms)

def unnamed (idOf : M → GoString) (l : List M) : ℕ := l.countP (idOf · = [])

/-- Of the mocks without an ID, there are none in what is merged into `base`, or there is one in all
and `base` has none. -/
def FewUnnamed (idOf : M → GoString) (base included : List M) : Prop :=
  unnamed idOf included = 0 ∨ unnamed idOf base = 0 ∧ unnamed idOf included = 1

/-- The merge as intended: a mock without an ID replaces nothing. -/
def layerByID (idOf : M → GoString) : List M → List M → List M := layerAll idOf []

lemma putAll_eq_layerByID_iff (idOf : M → GoString) (base included : List M) :
    putAll idOf base included = layerByID idOf base included ↔ FewUnnamed idOf base included :=
  putAll_eq_layerAll_iff [] base included

end Lists

end Config

/-- `configgen.mergeByID`, which is written out a second time there. -/
def Configgen.mergeByID {M : Type} (idOf : M → GoString) (generated handWritten : List M) :
    List M :=
  Config.mergeByID idOf generated handWritten

namespace Config

/-! ## Configurations -/

inductive Protocol
  | http | websocket | grpc | graphql | tcp | redis | smtp | mqtt | nats | snmp
  | dns | amqp | kafka | ldap | imap | ftp | memcached | stomp | coap | sip

/-- The lists of a section that are merged by ID. -/
inductive MockList : Protocol → Type
  | httpMocks : MockList .http
  | webSocketMocks : MockList .websocket
  | graphQLMocks : MockList .graphql
  | tcpMocks : MockList .tcp
  | redisMocks : MockList .redis
  | smtpRules : MockList .smtp
  | mqttMocks : MockList .mqtt
  | natsMocks : MockList .nats
  | snmpMocks : MockList .snmp
  | snmpTraps : MockList .snmp
  | dnsMocks : MockList .dns
  | amqpMocks : MockList .amqp
  | kafkaMocks : MockList .kafka
  | ldapMocks : MockList .ldap
  | imapMailboxes : MockList .imap
  | ftpFiles : MockList .ftp
  | memcachedMocks : MockList .memcached
  | stompMocks : MockList .stomp
  | coapMocks : MockList .coap
  | sipMocks : MockList .sip

/-- The lists of a section that are appended. -/
inductive ItemList : Protocol → Type
  | grpcServices : ItemList .grpc
  | amqpExchanges : ItemList .amqp
  | amqpBindings : ItemList .amqp
  | ldapUsers : ItemList .ldap
  | imapUsers : ItemList .imap
  | ftpUsers : ItemList .ftp

/-- The types of what a configuration holds.  `Settings` is what a section has besides its lists. -/
structure Types where
  Settings : Protocol → Type
  Mock : {p : Protocol} → MockList p → Type
  idOf : {p : Protocol} → (k : MockList p) → Mock k → GoString
  Item : {p : Protocol} → ItemList p → Type
  Scenario : Type

structure Section (T : Types) (p : Protocol) where
  settings : T.Settings p
  mocks : (k : MockList p) → List (T.Mock k)
  items : (k : ItemList p) → List (T.Item k)

end Config

open Config in
/-- `Config`, without what belongs to the main file alone and is never merged. -/
structure Config (T : Types) where
  includes : List GoString
  scenarios : List T.Scenario
  protocols : (p : Protocol) → Option (Section T p)

namespace Config

variable {T : Types}

/-! ## Merging configurations -/

/-- What `mergeIncludedConfig` does for one protocol. -/
def mergeSection {p : Protocol} : Option (Section T p) → Option (Section T p) → Option (Section T p)
  | base, none => base
  | none, some inc => some inc
  | some base, some inc =>
    some
      { base with
        mocks := fun k => mergeByID (T.idOf k) (base.mocks k) (inc.mocks k)
        items := fun k => base.items k ++ inc.items k }

def mergeIncludedConfig (base inc : Config T) : Config T :=
  { base with
    scenarios := base.scenarios ++ inc.scenarios
    protocols := fun p => mergeSection (base.protocols p) (inc.protocols p) }

/-- The configurations are folded in one after the other. -/
def mergeAll (base : Config T) (incs : List (Config T)) : Config T :=
  incs.foldl mergeIncludedConfig base

/-- A list of mocks, if the configuration has its section. -/
def mocks (c : Config T) {p : Protocol} (k : MockList p) : Option (List (T.Mock k)) :=
  (c.protocols p).map (·.mocks k)

/-- The lists merged: the first one there is, and all that come after it. -/
def stack {M : Type} (f : List M → List M → List M) : List (List M) → Option (List M)
  | [] => none
  | l :: ls => some (f l ls.flatten)

/-- A list of mocks of several configurations, merged as intended. -/
def layered {p : Protocol} (k : MockList p) (cs : List (Config T)) : Option (List (T.Mock k)) :=
  stack (layerByID (T.idOf k)) (cs.filterMap (·.mocks k))

variable {p : Protocol}

lemma mocks_mergeIncludedConfig (base inc : Config T) (k : MockList p) :
    (mergeIncludedConfig base inc).mocks k =
      stack (putAll (T.idOf k)) ((base.mocks k).toList ++ (inc.mocks k).toList) := by
  simp only [mergeIncludedConfig, mocks]
  cases base.protocols p with
  | none => cases inc.protocols p <;> rfl
  | some b =>
    cases inc.protocols p with
    | none => rfl
    | some i => simp [mergeSection, stack, mergeByID_eq_putAll]

/-- **A list of mocks after any number of included configurations.** -/
theorem mocks_mergeAll (base : Config T) (incs : List (Config T)) (k : MockList p) :
    (mergeAll base incs).mocks k =
      stack (putAll (T.idOf k)) ((base :: incs).filterMap (·.mocks k)) := by
  induction incs generalizing base with
  | nil =>
    rw [mergeAll, foldl_nil]
    cases h : base.mocks k <;> simp [stack, h, putAll]
  | cons inc incs ih =>
    rw [mergeAll, foldl_cons, ← mergeAll, ih, filterMap_cons, filterMap_cons,
      filterMap_cons, mocks_mergeIncludedConfig]
    cases base.mocks k <;> cases inc.mocks k <;> simp [stack, putAll]

/-- The lists have few mocks without an ID, as the first one and all that are merged into it. -/
def FewUnnamedAmong {M : Type} (idOf : M → GoString) : List (List M) → Prop
  | [] => True
  | l :: ls => FewUnnamed idOf l ls.flatten

/-- **When merging keeps every mock.** For every base, all included configurations and each list:
exactly if the configurations that have the section have few mocks without an ID. The same for the
mocks of `configgen`. -/
theorem merged_eq_layered_iff (T : Types) :
    (∀ (base : Config T) (incs : List (Config T)) (p : Protocol) (k : MockList p),
      (mergeAll base incs).mocks k = layered k (base :: incs) ↔
        FewUnnamedAmong (T.idOf k) ((base :: incs).filterMap (·.mocks k))) ∧
    ∀ (M : Type) (idOf : M → GoString) (generated handWritten : List M),
      Configgen.mergeByID idOf generated handWritten = layerByID idOf generated handWritten ↔
        FewUnnamed idOf generated handWritten := by
  constructor
  · intro base incs p k
    rw [mocks_mergeAll, layered]
    cases (base :: incs).filterMap (·.mocks k) with
    | nil => simp [stack, FewUnnamedAmong]
    | cons l ls =>
      rw [stack, stack, Option.some_inj, putAll_eq_layerByID_iff]
      rfl
  · intro M idOf generated handWritten
    rw [Configgen.mergeByID, mergeByID_eq_putAll, putAll_eq_layerByID_iff]

def plainTypes : Types where
  Settings := fun _ => Unit
  Mock := fun _ => GoString × GoString
  idOf := fun _ => Prod.fst
  Item := fun _ => Unit
  Scenario := Unit

def withHTTPMocks (mocks : List (GoString × GoString)) : Config plainTypes where
  includes := []
  scenarios := []
  protocols
    | .http => some ⟨(), fun _ => mocks, fun _ => []⟩
    | _ => none

/-- Two mocks without an ID, one in each of two configurations: the first is gone.  Two in an
included configuration: likewise. -/
theorem unnamed_mock_replaced :
    (mergeAll (withHTTPMocks [([], go "a")]) [withHTTPMocks [([], go "b")]]).mocks .httpMocks =
        some [([], go "b")] ∧
      (mergeAll (withHTTPMocks [(go "x", [])]) [withHTTPMocks [([], go "a"), ([], go "b")]]).mocks
        .httpMocks = some [(go "x", []), ([], go "b")] ∧
      layered MockList.httpMocks [withHTTPMocks [([], go "a")], withHTTPMocks [([], go "b")]] =
        some [([], go "a"), ([], go "b")] :=
  ⟨rfl, rfl, rfl⟩

/-! ## Grouping -/

structure Layering {M : Type} (idOf : M → GoString) (merge : List M → List M → List M) : Prop where
  assoc : ∀ a b c, merge (merge a b) c = merge a (merge b c)
  idem : ∀ a, (a.map idOf).Nodup → merge a a = a
  nodup : ∀ a b, (a.map idOf).Nodup → ((merge a b).map idOf).Nodup
  regroup : ∀ g h : FreeMagma (List M),
    FreeMagma.toFreeSemigroup g = FreeMagma.toFreeSemigroup h → regroup merge g = regroup merge h

lemma layering_mergeByID {M : Type} (idOf : M → GoString) : Layering idOf (mergeByID idOf) := by
  have hassoc : ∀ a b c, mergeByID idOf (mergeByID idOf a b) c =
      mergeByID idOf a (mergeByID idOf b c) := by
    intro a b c
    simp [mergeByID_eq_putAll, putAll_assoc]
  refine ⟨hassoc, fun a ha => ?_, fun a b ha => ?_, fun g h hgh => ?_⟩
  · rw [mergeByID_eq_putAll, putAll_of_subset ha (List.Subset.refl a)]
  · rw [mergeByID_eq_putAll]
    exact nodup_map_putAll ha b
  · rw [regroup_eq_foldl hassoc, regroup_eq_foldl hassoc, hgh]

/-- The settings of a section are those of the first configuration that has it. -/
lemma mergeSection_assoc (a b c : Option (Section T p)) :
    mergeSection (mergeSection a b) c = mergeSection a (mergeSection b c) := by
  cases a with
  | none => cases b <;> cases c <;> rfl
  | some a =>
    cases b with
    | none => cases c <;> rfl
    | some b =>
      cases c with
      | none => rfl
      | some c =>
        simp [mergeSection, (layering_mergeByID (T.idOf _)).assoc]

lemma mergeIncludedConfig_assoc (a b c : Config T) :
    mergeIncludedConfig (mergeIncludedConfig a b) c =
      mergeIncludedConfig a (mergeIncludedConfig b c) := by
  simp [mergeIncludedConfig, mergeSection_assoc]

/-- **Layers may be grouped at will.** Both functions `mergeByID` are associative, keep distinct IDs
distinct, and merge a list with distinct IDs into itself; so configurations come to the same in
whatever groups they are merged. -/
theorem merge_regroup :
    (∀ (M : Type) (idOf : M → GoString), Layering idOf (mergeByID idOf)) ∧
    (∀ (M : Type) (idOf : M → GoString), Layering idOf (Configgen.mergeByID idOf)) ∧
    ∀ (T : Types) (g : FreeMagma (Config T)), regroup mergeIncludedConfig g =
      mergeAll (FreeMagma.toFreeSemigroup g).head (FreeMagma.toFreeSemigroup g).tail :=
  ⟨fun _ idOf => layering_mergeByID idOf, fun _ idOf => layering_mergeByID idOf,
    fun _ g => regroup_eq_foldl mergeIncludedConfig_assoc g⟩

end Config

end Mockly
