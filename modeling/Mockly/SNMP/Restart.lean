import Mockly.SNMP.OID
import Mockly.Lib.Transition

/-!
# Replacing the mocks of a running agent

A `SetMocks` between the copy of the list and the reading of the restart channel closes a channel
the loop has not looked at yet.

Main result: **`serves_current_iff_capturesCurrent`**.
-/

namespace Mockly.SNMP

open Transition Function

/-- Where the loop of `Start` is. -/
inductive StartLoop
  | starting
  /-- In `buildOIDs`: the copy, and the mocks whose values are still to be stored. -/
  | building (mocks rest : List SNMPMock)
  /-- The port is bound; the restart channel is read next. -/
  | listening (mocks : List SNMPMock)
  /-- In the `select`, serving the agent built from `mocks`. -/
  | serving (mocks : List SNMPMock) (restartCh : ℕ)
  | stopped
  deriving DecidableEq

/-- A call of `SetMocks`. -/
inductive Setter
  | idle
  /-- Past the critical section: the channel it is going to close. -/
  | swapped (oldRestart : ℕ)
  | returned

/-- The server.  Restart channels are numbered as they are made, so `restart` is also the number of
calls of `SetMocks` there have been; `ι` stands for the calls. -/
structure Restarting (ι : Type) where
  mocks : List SNMPMock
  values : GoMap Value
  restart : ℕ
  closed : ℕ → Bool
  loop : StartLoop
  setters : ι → Setter

/-- What the loop and its callers do. -/
inductive RestartEvent (ι : Type)
  | setMocks (i : ι) (mocks : List SNMPMock)
  | close (i : ι)
  /-- A callback of the agent stores the value of a Set request. -/
  | setValue (oid : GoString) (value : Value)
  | copyMocks
  | storeValue
  /-- The users are built and the port is bound, or one of the two fails. -/
  | listen (ok : Bool)
  | capture
  | restarted
  | serveFails
  | cancel

/-- `s.values.Store(m.OID, m.Value)` for every mock. -/
def storeValues (values : GoMap Value) (mocks : List SNMPMock) : GoMap Value :=
  values.setAll (mocks.map fun m => (m.oid, m.value))

def Restarting.new {ι : Type} (mocks : List SNMPMock) : Restarting ι where
  mocks := mocks
  values := storeValues ∅ mocks
  restart := 0
  closed := fun _ => false
  loop := .starting
  setters := fun _ => .idle

section Step

variable {ι : Type} [DecidableEq ι]

/-- One step of either. -/
def restartStep (s : Restarting ι) : RestartEvent ι → Option (Restarting ι)
  | .setMocks i mocks =>
    match s.setters i with
    | .idle =>
      some { s with
        mocks := mocks
        values := storeValues s.values mocks
        restart := s.restart + 1
        setters := Function.update s.setters i (.swapped s.restart) }
    | _ => none
  | .close i =>
    match s.setters i with
    | .swapped oldRestart =>
      some { s with
        closed := Function.update s.closed oldRestart true
        setters := Function.update s.setters i .returned }
    | _ => none
  | .setValue oid value => some { s with values := s.values.set oid value }
  | .copyMocks =>
    match s.loop with
    | .starting => some { s with loop := .building s.mocks s.mocks }
    | _ => none
  | .storeValue =>
    match s.loop with
    | .building mocks (m :: rest) =>
      some { s with values := s.values.set m.oid m.value, loop := .building mocks rest }
    | _ => none
  | .listen ok =>
    match s.loop with
    | .building mocks [] => some { s with loop := if ok then .listening mocks else .stopped }
    | _ => none
  | .capture =>
    match s.loop with
    | .listening mocks => some { s with loop := .serving mocks s.restart }
    | _ => none
  | .restarted =>
    match s.loop with
    | .serving _ ch => if s.closed ch then some { s with loop := .starting } else none
    | _ => none
  | .serveFails =>
    match s.loop with
    -- A restart requested at the same time takes precedence over the error.
    | .serving _ ch => some { s with loop := if s.closed ch then .starting else .stopped }
    | _ => none
  | .cancel =>
    match s.loop with
    | .serving _ _ => some { s with loop := .stopped }
    | _ => none

/-! ## The invariant -/

/-- Every channel that is no longer current is closed or about to be, and the current one is
open. -/
structure Signalled (s : Restarting ι) : Prop where
  old : ∀ c < s.restart, s.closed c = true ∨ ∃ i, s.setters i = .swapped c
  swapped : ∀ i c, s.setters i = .swapped c → c < s.restart
  closed : ∀ c, s.closed c = true → c < s.restart

/-- What is being served on the current channel was built from the current list. -/
def Captured (s : Restarting ι) : Prop :=
  ∀ mocks ch, s.loop = .serving mocks ch → ch < s.restart ∨ ch = s.restart ∧ mocks = s.mocks

/-- The restart channel is read while the list is still the one just built from. -/
def CapturesCurrent (s : Restarting ι) : RestartEvent ι → Prop
  | .capture => s.loop = .listening s.mocks
  | _ => True

instance (s : Restarting ι) (ev : RestartEvent ι) : Decidable (CapturesCurrent s ev) := by
  unfold CapturesCurrent
  split <;> infer_instance

open Restarting

omit [DecidableEq ι] in
lemma signalled_new (mocks : List SNMPMock) : Signalled (new mocks : Restarting ι) where
  old := by simp [new]
  swapped := by simp [new]
  closed := by simp [new]

/-- A call of `SetMocks` makes the current channel an old one, which it is going to close. -/
lemma Signalled.setMocks {s : Restarting ι} (h : Signalled s) {i : ι} (hi : s.setters i = .idle)
    (mocks : List SNMPMock) (values : GoMap Value) :
    Signalled { s with
      mocks := mocks, values := values, restart := s.restart + 1
      setters := Function.update s.setters i (.swapped s.restart) } where
  old := by
    intro c hc
    rcases Nat.lt_succ_iff_lt_or_eq.mp hc with hlt | rfl
    · rcases h.old c hlt with hclosed | ⟨j, hj⟩
      · exact Or.inl hclosed
      · have hne : j ≠ i := by
          rintro rfl
          simp [hi] at hj
        exact Or.inr ⟨j, by simpa [update_of_ne hne] using hj⟩
    · exact Or.inr ⟨i, update_self _ _ _⟩
  swapped := by
    intro j c hj
    simp only [update_apply] at hj
    split_ifs at hj
    · cases hj
      exact Nat.lt_succ_self _
    · exact (h.swapped j c hj).trans (Nat.lt_succ_self _)
  closed := fun c hc => (h.closed c hc).trans (Nat.lt_succ_self _)

lemma Signalled.close {s : Restarting ι} (h : Signalled s) {i : ι} {oldRestart : ℕ}
    (hi : s.setters i = .swapped oldRestart) :
    Signalled { s with
      closed := Function.update s.closed oldRestart true
      setters := Function.update s.setters i .returned } where
  old := by
    intro c hc
    by_cases hco : c = oldRestart
    · subst hco
      exact Or.inl (update_self _ _ _)
    · rcases h.old c hc with hclosed | ⟨j, hj⟩
      · exact Or.inl (by simpa [update_of_ne hco] using hclosed)
      · have hne : j ≠ i := by
          rintro rfl
          rw [hi] at hj
          cases hj
          exact hco rfl
        exact Or.inr ⟨j, by simpa [update_of_ne hne] using hj⟩
  swapped := by
    intro j c hj
    simp only [update_apply] at hj
    split_ifs at hj
    exact h.swapped j c hj
  closed := by
    intro c hc
    simp only [update_apply] at hc
    split_ifs at hc with hco
    · rw [hco]
      exact h.swapped i oldRestart hi
    · exact h.closed c hc

/-- What a step can do: a call of `SetMocks` starts or returns, the loop reads off the restart
channel, or the loop moves outside the `select`. -/
inductive RestartEffect (s : Restarting ι) : RestartEvent ι → Restarting ι → Prop
  | setMocks {i} (mocks) (hi : s.setters i = .idle) :
      RestartEffect s (.setMocks i mocks)
        { s with
          mocks := mocks
          values := storeValues s.values mocks
          restart := s.restart + 1
          setters := Function.update s.setters i (.swapped s.restart) }
  | close {i oldRestart} (hi : s.setters i = .swapped oldRestart) :
      RestartEffect s (.close i)
        { s with
          closed := Function.update s.closed oldRestart true
          setters := Function.update s.setters i .returned }
  | capture {mocks} (hl : s.loop = .listening mocks) :
      RestartEffect s .capture { s with loop := .serving mocks s.restart }
  | setValue {oid value} :
      RestartEffect s (.setValue oid value) { s with values := s.values.set oid value }
  | move {ev} (values) (loop) (hl : ∀ mocks ch, loop ≠ .serving mocks ch) :
      RestartEffect s ev { s with values := values, loop := loop }

lemma restartStep_effect {s s' : Restarting ι} {ev : RestartEvent ι}
    (h : restartStep s ev = some s') : RestartEffect s ev s' := by
  cases ev with
  | setMocks i mocks =>
    simp only [restartStep] at h
    split at h
    · cases h
      exact .setMocks mocks (by assumption)
    · simp at h
  | close i =>
    simp only [restartStep] at h
    split at h
    · cases h
      exact .close (by assumption)
    · simp at h
  | setValue oid value =>
    cases h
    exact .setValue
  | capture =>
    simp only [restartStep] at h
    split at h
    · cases h
      exact .capture (by assumption)
    · simp at h
  | copyMocks | cancel =>
    simp only [restartStep] at h
    split at h
    · cases h
      exact .move s.values _ (by simp)
    · simp at h
  | storeValue =>
    simp only [restartStep] at h
    split at h
    · cases h
      exact .move _ _ (by simp)
    · simp at h
  | listen ok =>
    simp only [restartStep] at h
    split at h
    · cases h
      exact .move s.values _ (by cases ok <;> simp)
    · simp at h
  | restarted =>
    simp only [restartStep] at h
    split at h
    · split_ifs at h
      cases h
      exact .move s.values _ (by simp)
    · simp at h
  | serveFails =>
    simp only [restartStep] at h
    split at h
    · cases h
      exact .move s.values _ (by split_ifs <;> simp)
    · simp at h

lemma signalled_step (s : Restarting ι) (ev : RestartEvent ι) (s' : Restarting ι)
    (h : Signalled s) (hstep : restartStep s ev = some s') : Signalled s' := by
  cases restartStep_effect hstep with
  | setMocks mocks hi => exact h.setMocks hi _ _
  | close hi => exact h.close hi
  | capture | setValue | move => exact ⟨h.old, h.swapped, h.closed⟩

lemma captured_step (s : Restarting ι) (ev : RestartEvent ι) (s' : Restarting ι)
    (h : Captured s) (hok : CapturesCurrent s ev) (hstep : restartStep s ev = some s') :
    Captured s' := by
  cases restartStep_effect hstep with
  | setMocks mocks hi =>
    intro mocks' ch hs
    refine Or.inl (Nat.lt_succ_of_le ?_)
    rcases h mocks' ch hs with hlt | ⟨rfl, -⟩
    · exact hlt.le
    · exact le_rfl
  | close hi => exact h
  | @capture mocks hl =>
    have hmocks : mocks = s.mocks := by simpa [CapturesCurrent, hl] using hok
    rintro mocks' ch ⟨⟩
    exact Or.inr ⟨rfl, hmocks⟩
  | setValue => exact h
  | move values loop hl => exact fun mocks ch hs => absurd hs (hl mocks ch)

/-! ## What is served -/

/-- If all calls of `SetMocks` have returned and the loop is blocked with its channel open, the
agent was built from the current list. -/
def ServesCurrent (s : Restarting ι) : Prop :=
  (∀ i c, s.setters i ≠ .swapped c) → ∀ mocks ch, s.loop = .serving mocks ch →
    s.closed ch = false → mocks = s.mocks

/-- As long as the restart channel is read while the list is the one just built from, no restart is
lost; and reading it otherwise, while no call of `SetMocks` is in progress, loses one. -/
theorem serves_current_iff_capturesCurrent {initial : List SNMPMock}
    {events : List (RestartEvent ι)} {s : Restarting ι}
    (hrun : run restartStep (new initial) events = some s) :
    (Along restartStep CapturesCurrent (new initial) events → ServesCurrent s) ∧
      (∀ s', (∀ i c, s.setters i ≠ .swapped c) → restartStep s .capture = some s' →
        ¬ CapturesCurrent s .capture → ¬ ServesCurrent s') := by
  have hsig : Signalled s := run_preserves signalled_step (signalled_new initial) hrun
  refine ⟨fun hok hreturned mocks ch hs hopen => ?_, fun s' hreturned hcap hstale hcur => ?_⟩
  · have hcap : Captured s :=
      run_invariant captured_step (by simp [Captured, new]) hok hrun
    rcases hcap mocks ch hs with hlt | ⟨-, hmocks⟩
    · -- An old channel is closed once nobody is about to close it.
      rcases hsig.old ch hlt with hclosed | ⟨i, hi⟩
      · simp [hopen] at hclosed
      · exact absurd hi (hreturned i ch)
    · exact hmocks
  · cases hl : s.loop with
    | listening mocks =>
      simp only [restartStep, hl, Option.some.injEq] at hcap
      subst hcap
      have hopen : s.closed s.restart = false := by
        by_contra hclosed
        exact lt_irrefl _ (hsig.closed s.restart (by simpa using hclosed))
      have hmocks := hcur hreturned mocks s.restart rfl hopen
      exact hstale (by simpa [CapturesCurrent, hl] using hmocks)
    | _ => simp [restartStep, hl] at hcap

def oneMock : SNMPMock := { oid := go "1.3", value := .int 1 }

/-- The list is replaced while the agent is running. -/
theorem serves_current_iff_capturesCurrent_replaced :
    ∃ s, run restartStep (new [oneMock] : Restarting Unit)
        [.copyMocks, .storeValue, .listen true, .capture, .setMocks () [], .close (), .restarted,
          .copyMocks, .listen true, .capture] = some s ∧ ServesCurrent s := by
  obtain ⟨s, hs⟩ : ∃ s, run restartStep (new [oneMock] : Restarting Unit)
      [.copyMocks, .storeValue, .listen true, .capture, .setMocks () [], .close (), .restarted,
        .copyMocks, .listen true, .capture] = some s := Option.isSome_iff_exists.mp (by decide)
  exact ⟨s, hs, (serves_current_iff_capturesCurrent hs).1 (by decide)⟩

/-- `SetMocks` runs and returns between the copy of the list and the reading of the channel: the
agent keeps serving the mock that has been removed. -/
theorem serves_stale_after_setMocks :
    ∃ s, run restartStep (new [oneMock] : Restarting Unit)
        [.copyMocks, .setMocks () [], .close (), .storeValue, .listen true, .capture] = some s ∧
      ¬ ServesCurrent s := by
  refine ⟨_, rfl, fun h => ?_⟩
  have hmocks := h (by rintro ⟨⟩ c ⟨⟩) [oneMock] 1 rfl rfl
  simp at hmocks

end Step

end Mockly.SNMP
