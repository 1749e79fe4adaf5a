import Mockly.Go.Maps
import Mockly.Lib.Transition

/-!
# The subscriptions of a GraphQL connection

At its end a subscription removes what is in the maps under its id, and does not look whether that
is still its own entry.

Main result: **`reachable_iff_idFree`**.
-/

namespace Mockly.GraphQL

open Transition GoMap Option List GraphQL

/-! ## Goroutines and maps -/

inductive Phase
  /-- Before `s.streams.Register`. -/
  | starting
  | streaming
  /-- The deferred `unregister` comes next. -/
  | leaving
  /-- The deferred `delete(active, id)` comes next. -/
  | returned
  | finished
  deriving DecidableEq

structure Sub where
  id : GoString
  phase : Phase := .starting
  cancelled : Bool := false
  deriving DecidableEq

/-- A connection; a goroutine is known by its place in `subs`. -/
structure Conn where
  /-- The address of the connection, as `%p` prints it. -/
  addr : GoString
  subs : List Sub := []
  active : GoMap ℕ := ∅
  /-- The connections of `streamregistry.Registry` that belong to this one. -/
  registry : GoMap ℕ := ∅
  /-- `handleSubscriptionConn` has not returned. -/
  reading : Bool := true

def connID (addr id : GoString) : GoString := go "graphql-" ++ addr ++ go "-" ++ id

/-- What a client or a goroutine does. -/
inductive Event
  | subscribe (id : GoString)
  | complete (id : GoString)
  /-- `conn.ReadMessage` fails, and `handleSubscriptionConn` returns. -/
  | readError
  /-- `net/http` cancels the context of a request whose handler has returned. -/
  | requestDone
  | register (i : ℕ)
  /-- No mock matches, a fault, or the context is cancelled during its delay. -/
  | returnEarly (i : ℕ)
  | leave (i : ℕ)
  | unregister (i : ℕ)
  | delete (i : ℕ)

def Event.internal : Event → Bool
  | .register _ => true
  | .returnEarly _ => true
  | .leave _ => true
  | .unregister _ => true
  | .delete _ => true
  | _ => false

def Conn.move (s : Conn) (i : ℕ) (p q : Phase) (f : Sub → Conn → Conn) : Option Conn :=
  match s.subs[i]? with
  | some g => if g.phase = p then some (f g { s with subs := s.subs.set i { g with phase := q } })
      else none
  | none => none

def Conn.cancel (s : Conn) (which : ℕ → Bool) : Conn :=
  { s with subs := s.subs.mapIdx fun i g => if which i then { g with cancelled := true } else g }

def step (s : Conn) : Event → Option Conn
  | .subscribe id =>
    if s.reading then
      some { s with subs := s.subs ++ [{ id := id }], active := s.active.set id s.subs.length }
    else none
  | .complete id =>
    if s.reading then
      match s.active.get? id with
      | some i => some { s.cancel (· == i) with active := s.active.del id }
      | none => some s
    else none
  | .readError =>
    if s.reading then
      some { s.cancel (fun i => s.active.toList.any fun p => p.2 == i) with
        active := ∅
        reading := false }
    else none
  | .requestDone => if s.reading then none else some (s.cancel fun _ => true)
  | .register i =>
    s.move i .starting .streaming fun g s =>
      { s with registry := s.registry.set (connID s.addr g.id) i }
  | .returnEarly i => s.move i .starting .returned fun _ s => s
  | .leave i => s.move i .streaming .leaving fun _ s => s
  | .unregister i =>
    s.move i .leaving .returned fun g s =>
      { s with registry := s.registry.del (connID s.addr g.id) }
  | .delete i => s.move i .returned .finished fun g s => { s with active := s.active.del g.id }

/-! ## Who can be reached -/

def Sub.running (g : Sub) : Bool :=
  (g.phase == .starting || g.phase == .streaming) && !g.cancelled

/-- It is the one under its id in `active`, and once it has registered itself also in the registry.
-/
def AllReachable (s : Conn) : Prop :=
  ∀ (i : ℕ) (g : Sub), s.subs[i]? = some g → g.running → s.active.get? g.id = some i ∧
    (g.phase = .streaming → s.registry.get? (connID s.addr g.id) = some i)

/-- Whatever the goroutines do next, every running subscription can be reached. -/
def Safe (s : Conn) : Prop :=
  ∀ bs : List Event, (∀ b ∈ bs, b.internal) → ∀ t, run step s bs = some t → AllReachable t

/-- The client does not use an id that is in use. -/
def IdFree (s : Conn) : Event → Prop
  | .subscribe id => ∀ g ∈ s.subs, g.id = id → g.phase = .finished
  | _ => True

instance (s : Conn) (a : Event) : Decidable (IdFree s a) := by
  cases a <;> unfold IdFree <;> infer_instance

structure Inv (s : Conn) : Prop where
  distinct : ∀ {i j : ℕ} {g h : Sub}, s.subs[i]? = some g → s.subs[j]? = some h →
    g.phase ≠ .finished → h.phase ≠ .finished → g.id = h.id → i = j
  active : ∀ {i : ℕ} {g : Sub}, s.subs[i]? = some g → g.phase ≠ .finished → g.cancelled = false →
    s.active.get? g.id = some i
  registry : ∀ {i : ℕ} {g : Sub}, s.subs[i]? = some g → g.phase = .streaming →
    s.registry.get? (connID s.addr g.id) = some i

variable {s : Conn}

lemma Inv.allReachable (h : Inv s) : AllReachable s := by
  intro i g hg hrun
  simp only [Sub.running, Bool.and_eq_true, Bool.or_eq_true, beq_iff_eq, Bool.not_eq_true'] at hrun
  refine ⟨h.active hg ?_ hrun.2, h.registry hg⟩
  rcases hrun.1 with hp | hp <;> rw [hp] <;> exact Phase.noConfusion

variable {id : GoString}

lemma connID_injective {addr id' : GoString} (h : connID addr id = connID addr id') : id = id' := by
  simpa [connID] using h

/-! ## Steps of a goroutine -/

variable {i : ℕ}

variable {s' : Conn}

lemma move_eq_some {p q : Phase} {f : Sub → Conn → Conn} (h : s.move i p q f = some s') :
    ∃ g, s.subs[i]? = some g ∧ g.phase = p ∧
      s' = f g { s with subs := s.subs.set i { g with phase := q } } := by
  unfold Conn.move at h
  split at h
  · rename_i g hg
    simp only [ite_none_right_eq_some, Option.some.injEq] at h
    exact ⟨g, hg, h.1, h.2.symm⟩
  · simp at h

variable {g : Sub}

variable {g' : Sub}

lemma getElem?_set_cases {subs : List Sub} {j : ℕ} {h : Sub} (hg : subs[i]? = some g)
    (hj : (subs.set i g')[j]? = some h) : j = i ∧ h = g' ∨ j ≠ i ∧ subs[j]? = some h := by
  have hi := (List.getElem?_eq_some_iff.mp hg).1
  rw [List.getElem?_set] at hj
  by_cases hij : i = j
  · subst hij
    rw [if_pos rfl, if_pos hi] at hj
    exact .inl ⟨rfl, (some_injective _ hj).symm⟩
  · rw [if_neg hij] at hj
    exact .inr ⟨Ne.symm hij, hj⟩

variable {active : GoMap ℕ}

lemma Inv.move (h : Inv s) (hg : s.subs[i]? = some g) (hp : g.phase ≠ .finished) {q : Phase}
    {registry : GoMap ℕ}
    (hactive : ∀ id, id ≠ g.id ∨ q ≠ .finished → active.get? id = s.active.get? id)
    (hother : ∀ id, id ≠ g.id → registry.get? (connID s.addr id) =
      s.registry.get? (connID s.addr id))
    (hown : q = .streaming → registry.get? (connID s.addr g.id) = some i) :
    Inv { s with
      subs := s.subs.set i { g with phase := q }
      active := active
      registry := registry } := by
  refine ⟨?_, ?_, ?_⟩
  · intro j k a b ha hb hna hnb hid
    rcases getElem?_set_cases hg ha with ⟨rfl, rfl⟩ | ⟨-, ha'⟩ <;>
      rcases getElem?_set_cases hg hb with ⟨rfl, rfl⟩ | ⟨-, hb'⟩
    · rfl
    · exact h.distinct hg hb' hp hnb hid
    · exact h.distinct ha' hg hna hp hid
    · exact h.distinct ha' hb' hna hnb hid
  · intro j a ha hna hc
    rcases getElem?_set_cases hg ha with ⟨rfl, rfl⟩ | ⟨hne, ha'⟩
    · exact (hactive g.id (.inr hna)).trans (h.active hg hp hc)
    · have hid : a.id ≠ g.id := fun hid => hne (h.distinct ha' hg hna hp hid)
      exact (hactive a.id (.inl hid)).trans (h.active ha' hna hc)
  · intro j a ha hs
    rcases getElem?_set_cases hg ha with ⟨rfl, rfl⟩ | ⟨hne, ha'⟩
    · exact hown hs
    · have hna : a.phase ≠ .finished := by rw [hs]; exact Phase.noConfusion
      have hid : a.id ≠ g.id := fun hid => hne (h.distinct ha' hg hna hp hid)
      exact (hother a.id hid).trans (h.registry ha' hs)

variable {a : Event}

lemma Inv.step_internal (h : Inv s) (ha : a.internal) (hstep : step s a = some s') : Inv s' := by
  cases a with
  | subscribe | complete | readError | requestDone => exact absurd ha Bool.false_ne_true
  | register i =>
    rw [step] at hstep
    obtain ⟨g, hg, hp, rfl⟩ := move_eq_some hstep
    refine h.move hg (by simp [hp]) (fun _ _ => rfl) (fun id hid => ?_)
      fun _ => get?_set_self _ _ _
    exact get?_set_ne _ _ fun heq => hid (connID_injective heq)
  | returnEarly i | leave i =>
    rw [step] at hstep
    obtain ⟨g, hg, hp, rfl⟩ := move_eq_some hstep
    exact h.move hg (by simp [hp]) (fun _ _ => rfl) (fun _ _ => rfl) nofun
  | unregister i =>
    rw [step] at hstep
    obtain ⟨g, hg, hp, rfl⟩ := move_eq_some hstep
    refine h.move hg (by simp [hp]) (fun _ _ => rfl) (fun id hid => ?_) nofun
    rw [get?_del, if_neg fun heq => hid (connID_injective heq)]
  | delete i =>
    rw [step] at hstep
    obtain ⟨g, hg, hp, rfl⟩ := move_eq_some hstep
    refine h.move hg (by simp [hp]) (fun id hid => ?_) (fun _ _ => rfl) nofun
    rcases hid with hid | hid
    · rw [get?_del, if_neg hid]
    · exact absurd rfl hid

/-! ## Steps of the client -/

variable {which : ℕ → Bool}

lemma getElem?_cancel (h : (s.cancel which).subs[i]? = some g') :
    ∃ g, s.subs[i]? = some g ∧ g'.id = g.id ∧ g'.phase = g.phase ∧
      (g'.cancelled = false → g.cancelled = false ∧ which i = false) := by
  simp only [Conn.cancel, List.getElem?_mapIdx, map_eq_some_iff] at h
  obtain ⟨g, hg, rfl⟩ := h
  refine ⟨g, hg, ?_⟩
  cases hw : which i with
  | false => exact ⟨rfl, rfl, fun hc => ⟨hc, rfl⟩⟩
  | true => exact ⟨rfl, rfl, fun hc => Bool.noConfusion hc⟩

lemma Inv.cancel (h : Inv s) {reading : Bool}
    (hactive : ∀ id i, s.active.get? id = some i → which i = false → active.get? id = some i) :
    Inv { s.cancel which with active := active, reading := reading } := by
  refine ⟨?_, ?_, ?_⟩
  · intro i j g k hg hk hng hnk hid
    obtain ⟨g₀, hg₀, hgid, hgp, -⟩ := getElem?_cancel hg
    obtain ⟨k₀, hk₀, hkid, hkp, -⟩ := getElem?_cancel hk
    exact h.distinct hg₀ hk₀ (hgp ▸ hng) (hkp ▸ hnk) (hgid ▸ hkid ▸ hid)
  · intro i g hg hng hc
    obtain ⟨g₀, hg₀, hgid, hgp, hcancel⟩ := getElem?_cancel hg
    obtain ⟨hc₀, hw⟩ := hcancel hc
    rw [hgid]
    exact hactive _ _ (h.active hg₀ (hgp ▸ hng) hc₀) hw
  · intro i g hg hs
    obtain ⟨g₀, hg₀, hgid, hgp, -⟩ := getElem?_cancel hg
    rw [hgid]
    exact h.registry hg₀ (hgp ▸ hs)

lemma mem_active_iff :
    (active.toList.any fun p => p.2 == i) = true ↔ ∃ id, active.get? id = some i := by
  simp only [List.any_eq_true, beq_iff_eq, Prod.exists]
  constructor
  · rintro ⟨id, j, hmem, rfl⟩
    exact ⟨id, mem_toList.mp hmem⟩
  · rintro ⟨id, hget⟩
    exact ⟨id, i, mem_toList.mpr hget, rfl⟩

lemma Inv.subscribe (h : Inv s) (hfree : ∀ g ∈ s.subs, g.id = id → g.phase = .finished) :
    Inv { s with subs := s.subs ++ [{ id := id }], active := s.active.set id s.subs.length } := by
  have hcases : ∀ {i : ℕ} {g : Sub}, (s.subs ++ [({ id := id } : Sub)])[i]? = some g →
      s.subs[i]? = some g ∨ i = s.subs.length ∧ g = { id := id } := by
    intro i g hg
    rcases lt_trichotomy i s.subs.length with hlt | rfl | hgt
    · exact .inl (by rwa [List.getElem?_append_left hlt] at hg)
    · rw [List.getElem?_concat_length] at hg
      exact .inr ⟨rfl, (some_injective _ hg).symm⟩
    · rw [List.getElem?_eq_none (by simp; omega)] at hg
      simp at hg
  have hold : ∀ {i : ℕ} {g : Sub}, s.subs[i]? = some g → g.phase ≠ .finished → g.id ≠ id :=
    fun hg hng hid => hng (hfree _ (mem_of_getElem? hg) hid)
  refine ⟨?_, ?_, ?_⟩
  · intro i j g k hg hk hng hnk hid
    rcases hcases hg with hg | ⟨rfl, rfl⟩ <;> rcases hcases hk with hk | ⟨rfl, rfl⟩
    · exact h.distinct hg hk hng hnk hid
    · exact absurd hid (hold hg hng)
    · exact absurd hid.symm (hold hk hnk)
    · rfl
  · intro i g hg hng hc
    rcases hcases hg with hg | ⟨rfl, rfl⟩
    · exact (get?_set_ne _ _ (hold hg hng)).trans (h.active hg hng hc)
    · exact get?_set_self _ _ _
  · intro i g hg hs
    rcases hcases hg with hg | ⟨rfl, rfl⟩
    · exact h.registry hg hs
    · cases hs

lemma Inv.step (h : Inv s) (hfree : IdFree s a) (hstep : step s a = some s') : Inv s' := by
  cases a with
  | subscribe id =>
    simp only [step, ite_none_right_eq_some, Option.some.injEq] at hstep
    obtain ⟨-, rfl⟩ := hstep
    exact h.subscribe hfree
  | complete id =>
    simp only [step, ite_none_right_eq_some] at hstep
    obtain ⟨-, hstep⟩ := hstep
    split at hstep
    · rename_i i hi
      cases hstep
      refine h.cancel fun id' j hj hw => ?_
      rw [get?_del, if_neg, hj]
      rintro rfl
      obtain rfl := some_injective _ (hi.symm.trans hj)
      simp at hw
    · cases hstep
      exact h
  | readError =>
    simp only [step, ite_none_right_eq_some, Option.some.injEq] at hstep
    obtain ⟨-, rfl⟩ := hstep
    refine h.cancel fun id i hi hw => ?_
    rw [mem_active_iff.mpr ⟨id, hi⟩] at hw
    cases hw
  | requestDone =>
    simp only [step, ite_none_left_eq_some, Option.some.injEq] at hstep
    obtain ⟨-, rfl⟩ := hstep
    exact h.cancel fun _ _ hi _ => hi
  | register | returnEarly | leave | unregister | delete => exact h.step_internal rfl hstep

lemma Inv.safe (h : Inv s) : Safe s := fun _ hbs _ hrun =>
  (run_invariant (fun _ _ _ h ha hstep => h.step_internal ha hstep) h
    (along_of_forall_mem hbs) hrun).allReachable

/-! ## An id that is used again -/

/-- Its end removes what is under its id in `active` and leaves the other goroutines as they are. -/
def CanFinish (u : Conn) (i : ℕ) (id : GoString) : Prop :=
  ∃ bs t, (∀ b ∈ bs, Event.internal b) ∧ run step u bs = some t ∧ t.active.get? id = none ∧
    ∀ j, j ≠ i → t.subs[j]? = u.subs[j]?

variable {u : Conn}

lemma move_of_phase (hg : u.subs[i]? = some g) (q : Phase) (f : Sub → Conn → Conn) :
    u.move i g.phase q f = some (f g { u with subs := u.subs.set i { g with phase := q } }) := by
  simp [Conn.move, hg]

lemma CanFinish.of_step {u' : Conn} (h : CanFinish u' i id) (ha : a.internal)
    (hstep : step u a = some u') (hsubs : u'.subs = u.subs.set i g) : CanFinish u i id := by
  obtain ⟨bs, t, hbs, hrun, hnone, hsame⟩ := h
  refine ⟨a :: bs, t, forall_mem_cons.mpr ⟨ha, hbs⟩, run_cons.mpr ⟨u', hstep, hrun⟩, hnone,
    fun j hj => ?_⟩
  rw [hsame j hj, hsubs, List.getElem?_set_ne hj.symm]

lemma getElem?_set_of_getElem? {subs : List Sub} (hg : subs[i]? = some g) :
    (subs.set i g')[i]? = some g' :=
  List.getElem?_set_self (List.getElem?_eq_some_iff.mp hg).1

lemma canFinish_of_returned (hg : u.subs[i]? = some g) (hp : g.phase = .returned) :
    CanFinish u i g.id := by
  have hstep : step u (.delete i) = some { u with
      subs := u.subs.set i { g with phase := .finished }, active := u.active.del g.id } := by
    rw [step, ← hp, move_of_phase hg]
  refine ⟨[.delete i], _, by simp [Event.internal], run_cons.mpr ⟨_, hstep, run_nil _⟩, ?_,
    fun j hj => List.getElem?_set_ne hj.symm⟩
  exact (get?_del _ _ _).trans (if_pos rfl)

lemma canFinish_of_leaving (hg : u.subs[i]? = some g) (hp : g.phase = .leaving) :
    CanFinish u i g.id := by
  have hstep : step u (.unregister i) = some { u with
      subs := u.subs.set i { g with phase := .returned }
      registry := u.registry.del (connID u.addr g.id) } := by
    rw [step, ← hp, move_of_phase hg]
  exact (canFinish_of_returned (g := { g with phase := .returned })
    (getElem?_set_of_getElem? hg) rfl).of_step rfl hstep rfl

lemma canFinish (hg : u.subs[i]? = some g) (hp : g.phase ≠ .finished) : CanFinish u i g.id := by
  cases hphase : g.phase with
  | starting =>
    have hstep : step u (.returnEarly i) = some { u with
        subs := u.subs.set i { g with phase := .returned } } := by
      rw [step, ← hphase, move_of_phase hg]
    exact (canFinish_of_returned (g := { g with phase := .returned })
      (getElem?_set_of_getElem? hg) rfl).of_step rfl hstep rfl
  | streaming =>
    have hstep : step u (.leave i) = some { u with
        subs := u.subs.set i { g with phase := .leaving } } := by
      rw [step, ← hphase, move_of_phase hg]
    exact (canFinish_of_leaving (g := { g with phase := .leaving })
      (getElem?_set_of_getElem? hg) rfl).of_step rfl hstep rfl
  | leaving => exact canFinish_of_leaving hg hphase
  | returned => exact canFinish_of_returned hg hphase
  | finished => exact absurd hphase hp

lemma idFree_of_safe (hstep : step s (.subscribe id) = some s') (hsafe : Safe s') :
    IdFree s (.subscribe id) := by
  rintro g hmem rfl
  by_contra hp
  simp only [step, ite_none_right_eq_some, Option.some.injEq] at hstep
  obtain ⟨-, rfl⟩ := hstep
  obtain ⟨i, hi, hg⟩ := mem_iff_getElem.mp hmem
  have hold : (s.subs ++ [({ id := g.id } : Sub)])[i]? = some g := by
    rw [List.getElem?_append_left hi, List.getElem?_eq_getElem hi, hg]
  obtain ⟨bs, t, hbs, hrun, hnone, hsame⟩ := canFinish
    (u := { s with subs := s.subs ++ [{ id := g.id }], active := s.active.set g.id s.subs.length })
    hold hp
  have hnew : t.subs[s.subs.length]? = some { id := g.id } := by
    rw [hsame _ hi.ne', List.getElem?_concat_length]
  have hactive := (hsafe bs hbs t hrun _ _ hnew rfl).1
  rw [hnone] at hactive
  cases hactive

/-! ## Cancelling -/

lemma getElem?_cancel_of_which (hg : s.subs[i]? = some g) (hw : which i) :
    ∃ g', (s.cancel which).subs[i]? = some g' ∧ g'.cancelled := by
  refine ⟨{ g with cancelled := true }, ?_, rfl⟩
  simp [Conn.cancel, List.getElem?_mapIdx, hg, hw]

lemma complete_cancels {t t' : Conn} (h : AllReachable t) (hstep : step t (.complete id) = some t')
    (hg : t.subs[i]? = some g) (hrun : g.running) (hid : g.id = id) :
    ∃ g', t'.subs[i]? = some g' ∧ g'.cancelled := by
  have hactive := (h i g hg hrun).1
  rw [hid] at hactive
  simp only [step, hactive, ite_none_right_eq_some, Option.some.injEq] at hstep
  obtain ⟨-, rfl⟩ := hstep
  exact getElem?_cancel_of_which hg (beq_self_eq_true i)

lemma readError_cancels {t t' : Conn} (h : AllReachable t) (hstep : step t .readError = some t')
    (hg : t.subs[i]? = some g) (hrun : g.running) : ∃ g', t'.subs[i]? = some g' ∧ g'.cancelled := by
  simp only [step, ite_none_right_eq_some, Option.some.injEq] at hstep
  obtain ⟨-, rfl⟩ := hstep
  exact getElem?_cancel_of_which hg (mem_active_iff.mpr ⟨g.id, (h i g hg hrun).1⟩)

/-- **When every running subscription can be reached**, and what follows for those that can. -/
theorem reachable_iff_idFree (addr : GoString) {as : List Event} {s : Conn}
    (hrun : run step { addr := addr } as = some s) :
    ((∀ bs, bs <+: as → ∀ u, run step { addr := addr } bs = some u → Safe u) ↔
      Along step IdFree { addr := addr } as) ∧
    ∀ t, AllReachable t →
      (∀ id t', step t (.complete id) = some t' → ∀ (i : ℕ) g, t.subs[i]? = some g → g.running →
        g.id = id → ∃ g', t'.subs[i]? = some g' ∧ g'.cancelled) ∧
      ∀ t', step t .readError = some t' → ∀ (i : ℕ) g, t.subs[i]? = some g → g.running →
        ∃ g', t'.subs[i]? = some g' ∧ g'.cancelled := by
  have hstart : Inv { addr := addr } := ⟨nofun, nofun, nofun⟩
  refine ⟨(along_iff_prefixes (fun a _ u u' h hok hstep => h.step hok hstep)
    (fun a _ u u' h hstep => ?_) hstart hstart.safe hrun).symm, fun t ht => ⟨?_, ?_⟩⟩
  · refine ⟨fun hok => (h.step hok hstep).safe, fun hsafe => ?_⟩
    cases a with
    | subscribe id => exact idFree_of_safe hstep hsafe
    | _ => trivial
  · exact fun id t' hstep i g => complete_cancels ht hstep
  · exact fun t' hstep i g => readError_cancels ht hstep

def usedAgainLater : List Event :=
  [.subscribe (go "1"), .register 0, .complete (go "1"), .leave 0, .unregister 0, .delete 0,
    .subscribe (go "1"), .register 1]

theorem reachable_iff_idFree_later :
    ∃ s, run step { addr := [] } usedAgainLater = some s ∧ AllReachable s := by
  obtain ⟨s, hrun⟩ : ∃ s, run step { addr := [] } usedAgainLater = some s := ⟨_, rfl⟩
  have hsafe := (reachable_iff_idFree [] hrun).1.mpr (by decide) _ List.prefix_rfl s hrun
  exact ⟨s, hrun, hsafe [] nofun s (run_nil s)⟩

/-- **An id is used again while its first goroutine comes to its end.** The second subscription is
in neither map, and `complete` does nothing. -/
theorem reused_id_unreachable :
    (run step { addr := [] } [.subscribe (go "1"), .register 0, .complete (go "1"),
      .subscribe (go "1"), .register 1, .leave 0, .unregister 0, .delete 0,
      .complete (go "1")]).map (fun t => (t.subs[1]?, t.active.get? (go "1"),
        t.registry.get? (connID [] (go "1")))) =
      some (some ⟨go "1", .streaming, false⟩, none, none) := by
  decide

end Mockly.GraphQL
