import Mockly.Go.Maps
import Mockly.Go.Time
import Mockly.Lib.Transition

/-!
# The state store

Expiry is lazy, and `Get` does it in two critical sections: it reads the entry under the read lock,
looks at the clock, and calls `Delete`. Each is one event of `System`.

Main result: **`writtenValuesStay_of_deletes_expired`**.
-/

namespace Mockly.State

open Transition

/-! ## The store -/

/-- `entry`: a value and the instant it expires; the zero `Time` for never. -/
structure Entry where
  value : GoString
  expiresAt : ℤ

def Entry.expired (e : Entry) (now : ℤ) : Bool := deadlinePassed e.expiresAt now

/-- `Store`, without its mutex. -/
structure Store where
  data : GoMap Entry

def new : Store := ⟨∅⟩

/-- The entry `SetTTL` stores. -/
def newEntry (value : GoString) (ttl now : ℤ) : Entry :=
  if ttl > 0 then ⟨value, now + ttl⟩ else ⟨value, 0⟩

variable {e : Entry}

namespace Store

def setTTL (s : Store) (key value : GoString) (ttl now : ℤ) : Store :=
  ⟨s.data.set key (newEntry value ttl now)⟩

/-- `Store.Set`: no expiry, hence no look at the clock. -/
def set (s : Store) (key value : GoString) : Store := s.setTTL key value 0 0

def delete (s : Store) (key : GoString) : Store := ⟨s.data.del key⟩

/-- The value and whether there is one, and the store without the key if its entry had expired. -/
def get (s : Store) (key : GoString) (now : ℤ) : (GoString × Bool) × Store :=
  match s.data.get? key with
  | none => (([], false), s)
  | some e => if e.expired now then (([], false), s.delete key) else ((e.value, true), s)

/-- `Store.All`: the live values, and the store without the expired entries. -/
def all (s : Store) (now : ℤ) : GoMap GoString × Store :=
  let live := s.data.filter fun _ e => !e.expired now
  (live.mapVals Entry.value, ⟨live⟩)

def reset (_ : Store) : Store := ⟨∅⟩

def resetPrefix (s : Store) (p : GoString) : Store := ⟨s.data.filter fun k _ => !hasPrefix k p⟩

lemma get_of_none {s : Store} {key : GoString} (h : s.data.get? key = none) (now : ℤ) :
    s.get key now = (([], false), s) := by
  simp [get, h]

lemma get_of_some {s : Store} {key : GoString} (h : s.data.get? key = some e) (now : ℤ) :
    s.get key now =
      if e.expired now then (([], false), s.delete key) else ((e.value, true), s) := by
  simp [get, h]

lemma get_delete (s : Store) (key k : GoString) (now : ℤ) :
    ((s.delete key).get k now).1 = if k = key then ([], false) else (s.get k now).1 := by
  by_cases hk : k = key
  · subst hk
    rw [get_of_none (by simp [delete, GoMap.get?_del]), if_pos rfl]
  · have hget : (s.delete key).data.get? k = s.data.get? k := by
      simp [delete, GoMap.get?_del, hk]
    rw [if_neg hk]
    simp only [get, hget]
    cases s.data.get? k with
    | none => rfl
    | some e =>
      dsimp only
      split_ifs <;> rfl

lemma get_snd (s : Store) (key : GoString) (now : ℤ) :
    (s.get key now).2 = s ∨
      ∃ e, s.data.get? key = some e ∧ e.expired now = true ∧
        s.get key now = (([], false), s.delete key) := by
  cases h : s.data.get? key with
  | none => exact Or.inl (by rw [get_of_none h])
  | some e =>
    rw [get_of_some h]
    cases he : e.expired now with
    | true => exact Or.inr ⟨e, rfl, he, by simp⟩
    | false => exact Or.inl (by simp)

end Store

/-! ## Goroutines sharing the store -/

/-- How far a goroutine has come with its `Get`. -/
inductive GetState
  /-- Not in a `Get`. -/
  | idle
  /-- The first critical section found this entry at the key. -/
  | read (key : GoString) (e : Entry)
  /-- The entry had expired; the call of `Delete` is next. -/
  | deleting (key : GoString)

/-- The store, the goroutines inside a `Get`, and the latest instant any of them has read. -/
structure System where
  store : Store
  gets : ℕ → GetState
  clock : ℤ

/-- A fresh store, and nobody in a `Get`. -/
def System.init (clock : ℤ) : System := ⟨new, fun _ => .idle, clock⟩

/-- One critical section, or the look at the clock inside a `Get`. -/
inductive Event
  | set (key value : GoString)
  | setTTL (key value : GoString) (ttl now : ℤ)
  | delete (key : GoString)
  | reset
  | resetPrefix (p : GoString)
  | all (now : ℤ)
  | getRead (g : ℕ) (key : GoString)
  | getCheck (g : ℕ) (now : ℤ)
  | getDelete (g : ℕ)

/-- An event is enabled when its goroutine is at that point of its program and the clock does not
run backwards. -/
def step (s : System) : Event → Option System
  | .set key value => some { s with store := s.store.set key value }
  | .setTTL key value ttl now =>
    if s.clock ≤ now then
      some { s with store := s.store.setTTL key value ttl now, clock := now }
    else none
  | .delete key => some { s with store := s.store.delete key }
  | .reset => some { s with store := s.store.reset }
  | .resetPrefix p => some { s with store := s.store.resetPrefix p }
  | .all now =>
    if s.clock ≤ now then some { s with store := (s.store.all now).2, clock := now } else none
  | .getRead g key =>
    match s.gets g with
    | .idle =>
      match s.store.data.get? key with
      | none => some s
      | some e => some { s with gets := Function.update s.gets g (.read key e) }
    | _ => none
  | .getCheck g now =>
    match s.gets g with
    | .read key e =>
      if s.clock ≤ now then
        let next := if e.expired now then GetState.deleting key else .idle
        some { s with gets := Function.update s.gets g next, clock := now }
      else none
    | _ => none
  | .getDelete g =>
    match s.gets g with
    | .deleting key =>
      some { s with store := s.store.delete key, gets := Function.update s.gets g .idle }
    | _ => none

/-! ## What becomes of a written value -/

/-- The entry that an event writes. -/
def Event.writes : Event → Option (GoString × Entry)
  | .set key value => some (key, newEntry value 0 0)
  | .setTTL key value ttl now => some (key, newEntry value ttl now)
  | _ => none

/-- The event overwrites or removes `k` on a caller's behalf.  `Get` never does. -/
def Event.Touches (k : GoString) : Event → Prop
  | .set key _ => key = k
  | .setTTL key _ _ _ => key = k
  | .delete key => key = k
  | .reset => True
  | .resetPrefix p => hasPrefix k p = true
  | _ => False

/-- An entry written earlier is still in the store, unless its key was written or removed since or
the entry has expired. -/
def WrittenValuesStay (clock : ℤ) (as : List Event) : Prop :=
  ∀ (before after rest : List Event) (w : Event) (k : GoString) (e : Entry) (t : System),
    as = before ++ w :: after ++ rest → w.writes = some (k, e) →
    run step (System.init clock) (before ++ w :: after) = some t →
    t.store.data.get? k = some e ∨ e.expired t.clock = true ∨ ∃ a ∈ after, a.Touches k

/-- It finds nothing, or an entry that has expired. -/
def DeletesExpired (s : System) : Event → Prop
  | .getDelete g =>
    match s.gets g with
    | .deleting key => ∀ e ∈ s.store.data.get? key, e.expired s.clock = true
    | _ => True
  | _ => True

instance (s : System) (a : Event) : Decidable (DeletesExpired s a) := by
  unfold DeletesExpired
  split
  · split <;> infer_instance
  · infer_instance

variable {s s' : System}

lemma step_clock {a : Event} (h : step s a = some s') : s.clock ≤ s'.clock := by
  cases a with
  | setTTL | all =>
    simp only [step, Option.ite_none_right_eq_some] at h
    obtain ⟨hle, rfl⟩ := h.imp_right Option.some.inj
    exact hle
  | getCheck g now =>
    simp only [step] at h
    split at h
    · simp only [Option.ite_none_right_eq_some] at h
      obtain ⟨hle, rfl⟩ := h.imp_right Option.some.inj
      exact hle
    · cases h
  | _ =>
    simp only [step] at h
    grind

variable {k : GoString}

lemma step_keeps {a : Event} (hok : DeletesExpired s a) (hstep : step s a = some s')
    (hk : s.store.data.get? k = some e) :
    s'.store.data.get? k = some e ∨ e.expired s'.clock = true ∨ a.Touches k := by
  cases a with
  | set key value =>
    cases hstep
    by_cases h : k = key
    · exact .inr (.inr h.symm)
    · exact .inl (by simp [Store.set, Store.setTTL, GoMap.get?_set_ne _ _ h, hk])
  | setTTL key value ttl now =>
    simp only [step, Option.ite_none_right_eq_some, Option.some.injEq] at hstep
    obtain ⟨-, rfl⟩ := hstep
    by_cases h : k = key
    · exact .inr (.inr h.symm)
    · exact .inl (by simp [Store.setTTL, GoMap.get?_set_ne _ _ h, hk])
  | delete key =>
    cases hstep
    by_cases h : k = key
    · exact .inr (.inr h.symm)
    · exact .inl (by simp [Store.delete, GoMap.get?_del, h, hk])
  | reset => exact .inr (.inr trivial)
  | resetPrefix p =>
    cases hstep
    by_cases h : hasPrefix k p = true
    · exact .inr (.inr h)
    · exact .inl (by simp [Store.resetPrefix, GoMap.get?_filter, hk, Option.filter, h])
  | all now =>
    simp only [step, Option.ite_none_right_eq_some, Option.some.injEq] at hstep
    obtain ⟨-, rfl⟩ := hstep
    cases he : e.expired now with
    | true => exact .inr (.inl rfl)
    | false => exact .inl (by simp [Store.all, GoMap.get?_filter, hk, Option.filter, he])
  | getRead | getCheck =>
    simp only [step] at hstep
    refine .inl ?_
    split at hstep <;> grind
  | getDelete g =>
    simp only [step, DeletesExpired] at hstep hok
    split at hstep
    · rename_i key hg
      simp only [hg] at hok
      cases hstep
      by_cases h : k = key
      · -- the one place where `Get` removes something: by assumption it has expired
        subst h
        exact .inr (.inl (hok e hk))
      · exact .inl (by simp [Store.delete, GoMap.get?_del, h, hk])
    · cases hstep

lemma run_keeps :
    ∀ {as : List Event} {s t : System}, Along step DeletesExpired s as →
      run step s as = some t → s.store.data.get? k = some e ∨ e.expired s.clock = true →
      t.store.data.get? k = some e ∨ e.expired t.clock = true ∨ ∃ a ∈ as, a.Touches k
  | [], s, t, _, hrun, hs => by
      cases hrun
      exact hs.imp_right .inl
  | a :: as, s, t, hok, hrun, hs => by
      obtain ⟨u, hu, hrun⟩ := run_cons.mp hrun
      have hnext : (u.store.data.get? k = some e ∨ e.expired u.clock = true) ∨ a.Touches k := by
        rcases hs with hk | he
        · rcases step_keeps hok.1 hu hk with h | h | h
          · exact .inl (.inl h)
          · exact .inl (.inr h)
          · exact .inr h
        · exact .inl (.inr (deadlinePassed_mono he (step_clock hu)))
      rcases hnext with hnext | ha
      · rcases run_keeps (hok.2 u hu) hrun hnext with h | h | ⟨b, hb, ht⟩
        · exact .inl h
        · exact .inr (.inl h)
        · exact .inr (.inr ⟨b, List.mem_cons_of_mem a hb, ht⟩)
      · exact .inr (.inr ⟨a, List.mem_cons_self, ha⟩)

lemma step_writes {w : Event} (hw : w.writes = some (k, e)) (hstep : step s w = some s') :
    s'.store.data.get? k = some e := by
  cases w with
  | set key value =>
    cases hstep
    cases hw
    simp [Store.set, Store.setTTL]
  | setTTL key value ttl now =>
    simp only [step, Option.ite_none_right_eq_some, Option.some.injEq] at hstep
    obtain ⟨-, rfl⟩ := hstep
    cases hw
    simp [Store.setTTL]
  | _ => cases hw

/-- **When `Get` only ever deletes entries that have expired, written values stay**: they disappear
only by a later write, `Delete`, `ResetPrefix` or `Reset` of the key, or by their own expiry. -/
theorem writtenValuesStay_of_deletes_expired (clock : ℤ) (as : List Event)
    (hok : Along step DeletesExpired (System.init clock) as) : WrittenValuesStay clock as := by
  intro before after rest w k e t has hw hrun
  -- cut the run at the write, and the condition with it
  obtain ⟨s, hs, hrest⟩ := run_append.mp hrun
  obtain ⟨u, hu, hafter⟩ := run_cons.mp hrest
  have hcond : Along step DeletesExpired s (w :: after) := by
    rw [has] at hok
    exact ((along_append hs).mp ((along_append hrun).mp hok).1).2
  exact run_keeps (hcond.2 u hu) hafter (.inl (step_writes hw hu))

theorem fresh_value_stays_after_get :
    let as : List Event :=
      [.setTTL (go "session") (go "old") 1 10, .getRead 0 (go "session"), .getCheck 0 20,
        .getDelete 0, .set (go "session") (go "new")]
    (run step (System.init 0) as).isSome = true ∧
      Along step DeletesExpired (System.init 0) as ∧ WrittenValuesStay 0 as := by
  intro as
  have hok : Along step DeletesExpired (System.init 0) as := by decide
  exact ⟨by decide, hok, writtenValuesStay_of_deletes_expired 0 as hok⟩

/-- **A `Get` deletes a value it never saw.** It reads an expired session; before it gets to delete
it, another goroutine writes a new one. -/
theorem stale_get_deletes_fresh_value :
    let as : List Event :=
      [.setTTL (go "session") (go "old") 1 10, .getRead 0 (go "session"), .getCheck 0 20,
        .set (go "session") (go "new"), .getDelete 0]
    (run step (System.init 0) as).isSome = true ∧ ¬ WrittenValuesStay 0 as := by
  refine ⟨by decide, fun h => ?_⟩
  have hgone : ∃ t, run step (System.init 0)
      [.setTTL (go "session") (go "old") 1 10, .getRead 0 (go "session"), .getCheck 0 20,
        .set (go "session") (go "new"), .getDelete 0] = some t ∧
      t.store.data.get? (go "session") = none := ⟨_, rfl, by decide⟩
  obtain ⟨t, hrun, hnone⟩ := hgone
  rcases h [.setTTL (go "session") (go "old") 1 10, .getRead 0 (go "session"), .getCheck 0 20]
    [.getDelete 0] [] (.set (go "session") (go "new")) (go "session") (newEntry (go "new") 0 0) t
    rfl rfl hrun with hk | he | ⟨a, ha, ht⟩
  · rw [hnone] at hk
    cases hk
  · simp [newEntry, Entry.expired] at he
  · simp only [List.mem_singleton] at ha
    subst ha
    exact ht

end Mockly.State
