import Mockly.Config.Merge
import Mockly.Go.Time
import Mockly.Lib.Loops

/-!
# Scenarios

What a fault is differs from protocol to protocol (`F`). `effectiveFault` ranges over the map of the
active scenarios in any order.

Main result: **`effectiveFault_eq_iff`**.
-/

namespace Mockly.ScenarioStore

open Config (Protocol)
open Loops List Option

/-- `config.ProtocolFaults`; an absent fault stands for `nil`. -/
def ProtocolFaults (F : Protocol → Type) := (p : Protocol) → Option (F p)

/-- `config.Scenario`, as far as its faults go. -/
structure Scenario (F : Protocol → Type) where
  faults : Option (ProtocolFaults F) := none

structure RateWindow where
  start : ℤ
  count : ℤ

/-- `Store`, without its mutex and its generator of random numbers. -/
structure Store (F : Protocol → Type) where
  scenarios : GoMap (Scenario F) := ∅
  active : GoMap Bool := ∅
  direct : ProtocolFaults F := fun _ => none
  rateWindows : GoMap RateWindow := ∅

variable {F : Protocol → Type}

/-! ## The fault in force -/

/-- The variables of the loop: the fault found so far, and the scenario that has it. -/
structure Winner (T : Type) where
  result : Option T := none
  winnerID : GoString := []

def Store.consider {T : Type} (s : Store F) (selector : ProtocolFaults F → Option T)
    (w : Winner T) (id : GoString) : Winner T :=
  match s.scenarios.get? id with
  | none => w
  | some sc =>
    match sc.faults with
    | none => w
    | some faults =>
      match selector faults with
      | none => w
      | some fault => if w.result.isNone ∨ w.winnerID < id then ⟨some fault, id⟩ else w

/-- `effectiveFault`; no store stands for `nil`. -/
def effectiveFault {T : Type} (ord : RangeOrder Bool) (s : Option (Store F))
    (selector : ProtocolFaults F → Option T) : Option T :=
  match s with
  | none => none
  | some s =>
    match (((ord.seq s.active).map Prod.fst).foldl (s.consider selector) {}).result with
    | some fault => some fault
    | none => selector s.direct

section Protocols

variable (ord : RangeOrder Bool) (s : Option (Store F))

def effectiveDNSFault : Option (F .dns) := effectiveFault ord s fun f => f .dns
def effectiveGRPCFault : Option (F .grpc) := effectiveFault ord s fun f => f .grpc
def effectiveHTTPFault : Option (F .http) := effectiveFault ord s fun f => f .http
def effectiveGraphQLFault : Option (F .graphql) := effectiveFault ord s fun f => f .graphql
def effectiveWebSocketFault : Option (F .websocket) := effectiveFault ord s fun f => f .websocket
def effectiveTCPFault : Option (F .tcp) := effectiveFault ord s fun f => f .tcp
def effectiveRedisFault : Option (F .redis) := effectiveFault ord s fun f => f .redis
def effectiveMQTTFault : Option (F .mqtt) := effectiveFault ord s fun f => f .mqtt
def effectiveNATSFault : Option (F .nats) := effectiveFault ord s fun f => f .nats
def effectiveSMTPFault : Option (F .smtp) := effectiveFault ord s fun f => f .smtp
def effectiveSNMPFault : Option (F .snmp) := effectiveFault ord s fun f => f .snmp
def effectiveAMQPFault : Option (F .amqp) := effectiveFault ord s fun f => f .amqp
def effectiveKafkaFault : Option (F .kafka) := effectiveFault ord s fun f => f .kafka
def effectiveLDAPFault : Option (F .ldap) := effectiveFault ord s fun f => f .ldap
def effectiveIMAPFault : Option (F .imap) := effectiveFault ord s fun f => f .imap
def effectiveFTPFault : Option (F .ftp) := effectiveFault ord s fun f => f .ftp
def effectiveMemcachedFault : Option (F .memcached) := effectiveFault ord s fun f => f .memcached
def effectiveSTOMPFault : Option (F .stomp) := effectiveFault ord s fun f => f .stomp
def effectiveCoAPFault : Option (F .coap) := effectiveFault ord s fun f => f .coap
def effectiveSIPFault : Option (F .sip) := effectiveFault ord s fun f => f .sip

/-- `GetEffectiveProtocolFault`. -/
def effectiveProtocolFault : (p : Protocol) → Option (F p)
  | .http => effectiveHTTPFault ord s
  | .graphql => effectiveGraphQLFault ord s
  | .websocket => effectiveWebSocketFault ord s
  | .grpc => effectiveGRPCFault ord s
  | .tcp => effectiveTCPFault ord s
  | .redis => effectiveRedisFault ord s
  | .mqtt => effectiveMQTTFault ord s
  | .nats => effectiveNATSFault ord s
  | .smtp => effectiveSMTPFault ord s
  | .snmp => effectiveSNMPFault ord s
  | .dns => effectiveDNSFault ord s
  | .amqp => effectiveAMQPFault ord s
  | .kafka => effectiveKafkaFault ord s
  | .ldap => effectiveLDAPFault ord s
  | .imap => effectiveIMAPFault ord s
  | .ftp => effectiveFTPFault ord s
  | .memcached => effectiveMemcachedFault ord s
  | .stomp => effectiveSTOMPFault ord s
  | .coap => effectiveCoAPFault ord s
  | .sip => effectiveSIPFault ord s

lemma effectiveProtocolFault_eq (p : Protocol) :
    effectiveProtocolFault ord s p = effectiveFault ord s fun f => f p := by
  cases p <;> rfl

end Protocols

/-! ## Which scenario wins -/

/-- The scenario has a fault, as far as the selector goes. -/
def Store.faultOf {T : Type} (s : Store F) (selector : ProtocolFaults F → Option T)
    (id : GoString) : Option T :=
  (s.scenarios.get? id).bind fun sc => sc.faults.bind selector

def Store.Defines (s : Store F) (p : Protocol) (id : GoString) (fault : F p) : Prop :=
  (s.active.get? id).isSome ∧ s.faultOf (fun f => f p) id = some fault

/-- The fault of the active scenario with the greatest ID, or else the direct one. -/
def Store.InForce (s : Store F) (p : Protocol) (fault : Option (F p)) : Prop :=
  (∃ id f, s.Defines p id f ∧ (∀ id' f', s.Defines p id' f' → id' ≤ id) ∧ fault = some f) ∨
    (∀ id f, ¬s.Defines p id f) ∧ fault = s.direct p

section Loop

variable {T : Type} {s : Store F} {selector : ProtocolFaults F → Option T}

lemma consider_of_none {id : GoString} (h : s.faultOf selector id = none) (w : Winner T) :
    s.consider selector w id = w := by
  rw [Store.faultOf, bind_eq_none_iff] at h
  rw [Store.consider]
  cases hsc : s.scenarios.get? id with
  | none => rfl
  | some sc =>
    have hfaults := h sc hsc
    rw [bind_eq_none_iff] at hfaults
    cases hf : sc.faults with
    | none => simp [hf]
    | some faults => simp [hf, hfaults faults hf]

lemma consider_of_some {id : GoString} {fault : T} (h : s.faultOf selector id = some fault)
    (w : Winner T) :
    s.consider selector w id =
      if w.result.isNone ∨ w.winnerID < id then ⟨some fault, id⟩ else w := by
  rw [Store.faultOf, bind_eq_some_iff] at h
  obtain ⟨sc, hsc, h⟩ := h
  rw [bind_eq_some_iff] at h
  obtain ⟨faults, hfaults, hfault⟩ := h
  simp [Store.consider, hsc, hfaults, hfault]

/-- What the loop knows after some of the scenarios: of those that have a fault, the one with the
greatest ID. -/
def Best (s : Store F) (selector : ProtocolFaults F → Option T) (ids : List GoString)
    (w : Winner T) : Prop :=
  (w.result = none ∧ ∀ id ∈ ids, s.faultOf selector id = none) ∨
    (w.winnerID ∈ ids ∧ w.result = s.faultOf selector w.winnerID ∧ w.result.isSome ∧
      ∀ id ∈ ids, (s.faultOf selector id).isSome → id ≤ w.winnerID)

lemma best_consider {ids : List GoString} {w : Winner T} (h : Best s selector ids w)
    (id : GoString) : Best s selector (ids ++ [id]) (s.consider selector w id) := by
  cases hfault : s.faultOf selector id with
  | none =>
    rw [consider_of_none hfault]
    refine h.imp (fun h => ⟨h.1, ?_⟩) fun h => ⟨mem_append_left _ h.1, h.2.1, h.2.2.1, ?_⟩
    · simpa [or_imp, forall_and, hfault] using h.2
    · simpa [or_imp, forall_and, hfault] using h.2.2.2
  | some fault =>
    rw [consider_of_some hfault]
    split_ifs with hbetter
    · -- The new scenario wins: there was none before, or only lesser ones.
      refine Or.inr ⟨by simp, hfault.symm, rfl, ?_⟩
      intro id' hid' hsome
      rw [mem_append, mem_singleton] at hid'
      obtain hid' | rfl := hid'
      · obtain ⟨-, hnone⟩ | ⟨-, -, hresult, hle⟩ := h
        · simp [hnone id' hid'] at hsome
        · have hlt : w.winnerID < id := by
            simpa [isSome_iff_ne_none.mp hresult] using hbetter
          exact Std.le_trans (hle id' hid' hsome) (Std.le_of_lt hlt)
      · exact Std.le_refl _
    · rw [not_or] at hbetter
      obtain ⟨hnone, -⟩ | ⟨hmem, hresult, hsome, hle⟩ := h
      · simp [hnone] at hbetter
      · refine Or.inr ⟨mem_append_left _ hmem, hresult, hsome, ?_⟩
        intro id' hid' hsome'
        rw [mem_append, mem_singleton] at hid'
        obtain hid' | rfl := hid'
        · exact hle id' hid' hsome'
        · exact Std.not_lt.mp hbetter.2

lemma best_foldl (s : Store F) (selector : ProtocolFaults F → Option T) (ids : List GoString) :
    Best s selector ids (ids.foldl (s.consider selector) {}) :=
  foldl_invariant (I := Best s selector) (Or.inl ⟨rfl, by simp⟩) fun _ id _ _ h =>
    best_consider h id

end Loop

lemma mem_seq_fst {V : Type} (ord : RangeOrder V) {m : GoMap V} {k : GoString} :
    k ∈ (ord.seq m).map Prod.fst ↔ (m.get? k).isSome := by
  rw [List.mem_map, Option.isSome_iff_exists]
  constructor
  · rintro ⟨⟨k', v⟩, hp, rfl⟩
    exact ⟨v, ord.mem_seq.mp hp⟩
  · rintro ⟨v, hv⟩
    exact ⟨(k, v), ord.mem_seq.mpr hv, rfl⟩

lemma Store.inForce_unique {s : Store F} {p : Protocol} {a b : Option (F p)}
    (ha : s.InForce p a) (hb : s.InForce p b) : a = b := by
  obtain ⟨id, f, hdef, hmax, rfl⟩ | ⟨hnone, rfl⟩ := ha
  · obtain ⟨id', f', hdef', hmax', rfl⟩ | ⟨hnone, -⟩ := hb
    · have hid : id = id' := Std.le_antisymm (hmax' id f hdef) (hmax id' f' hdef')
      subst hid
      rw [← hdef.2, ← hdef'.2]
    · exact absurd hdef (hnone id f)
  · obtain ⟨id', f', hdef', -, -⟩ | ⟨-, rfl⟩ := hb
    · exact absurd hdef' (hnone id' f')
    · rfl

lemma inForce_effectiveFault (ord : RangeOrder Bool) (s : Store F) (p : Protocol) :
    s.InForce p (effectiveFault ord (some s) fun f => f p) := by
  have hbest := best_foldl s (fun f => f p) ((ord.seq s.active).map Prod.fst)
  have hdefines (id : GoString) (f : F p) : s.Defines p id f ↔
      id ∈ (ord.seq s.active).map Prod.fst ∧ s.faultOf (fun f => f p) id = some f := by
    rw [mem_seq_fst]
    rfl
  rw [effectiveFault]
  obtain ⟨hnone, hall⟩ | ⟨hmem, hresult, hsome, hle⟩ := hbest
  · rw [hnone]
    refine Or.inr ⟨fun id f hdef => ?_, rfl⟩
    obtain ⟨hid, hf⟩ := (hdefines id f).mp hdef
    rw [hall id hid] at hf
    cases hf
  · obtain ⟨fault, hfault⟩ := isSome_iff_exists.mp hsome
    rw [hfault] at hresult ⊢
    refine Or.inl ⟨_, fault, (hdefines _ _).mpr ⟨hmem, hresult.symm⟩, ?_, rfl⟩
    intro id' f' hdef
    obtain ⟨hid', hf'⟩ := (hdefines id' f').mp hdef
    exact hle id' hid' (by simp [hf'])

/-- **The fault in force**, for every store, protocol and order of the active scenarios. -/
theorem effectiveFault_eq_iff (p : Protocol) (ord : RangeOrder Bool) :
    (∀ (s : Store F) (fault : Option (F p)),
      effectiveProtocolFault ord (some s) p = fault ↔ s.InForce p fault) ∧
    effectiveProtocolFault ord (none : Option (Store F)) p = none := by
  refine ⟨fun s fault => ?_, by rw [effectiveProtocolFault_eq]; rfl⟩
  rw [effectiveProtocolFault_eq]
  constructor
  · rintro rfl
    exact inForce_effectiveFault ord s p
  · exact Store.inForce_unique (inForce_effectiveFault ord s p)

end Mockly.ScenarioStore
