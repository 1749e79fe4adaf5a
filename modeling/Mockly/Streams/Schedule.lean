import Mockly.Streams.Servers

/-!
# The schedule of the configured events

The loop makes a new timer each time it begins again, with the whole delay of the next event, and it
begins again after pushed data as well.

Main result: **`streams_on_schedule_iff_undelayed`**.
-/

namespace Mockly.Streams

open Transition Sender

section

variable {Γ M : Type} (snd : Sender Γ M)

/-- While the loop waits for a configured event, its timer is set to the delay of the event after
the previous one was sent, or after the start of the stream. -/
def OnSchedule (s : Stream M) : Prop :=
  s.phase = .waiting → ∀ delay, snd.delays[s.idx]? = some delay →
    s.deadline = some (s.lastSent + delay)

/-- If pushed data has just been sent while configured events are left, no time has passed since
the last of them was sent. -/
def Undelayed (s : Stream M) (a : Event Γ) : Prop :=
  ∀ γ data msg, a = .finish γ → s.phase = .sending (.pushed data) →
    snd.send γ (.pushed data) = .sent msg → s.idx < snd.delays.length → s.now = s.lastSent

variable {snd}

lemma onSchedule_start (now : ℤ) : OnSchedule snd (snd.start now) := by
  intro _ delay hdelay
  rw [start] at hdelay ⊢
  rw [timer, hdelay]
  rfl

variable {s : Stream M} {a : Event Γ}

lemma undelayed_of_phase (h : ∀ data, s.phase ≠ .sending (.pushed data)) : Undelayed snd s a :=
  fun _ data _ _ hphase _ _ => absurd hphase (h data)

lemma undelayed_of_event (h : ∀ γ, a ≠ .finish γ) : Undelayed snd s a :=
  fun γ _ _ ha _ _ _ => absurd ha (h γ)

lemma onSchedule_of_phase (h : s.phase ≠ .waiting) : OnSchedule snd s :=
  fun hphase => absurd hphase h

/-- After pushed data the timer is set to the moment it should be set to exactly if no time has
passed. -/
lemma onSchedule_sent_pushed {data : GoString} {msg : M} :
    OnSchedule snd (s.sent snd (.pushed data) msg) ↔
      (s.idx < snd.delays.length → s.now = s.lastSent) := by
  constructor
  · intro h hlt
    have hdelay := List.getElem?_eq_getElem hlt
    have hdeadline := h rfl _ hdelay
    simp only [Stream.sent, timer, hdelay, Option.map_some, Option.some.injEq] at hdeadline
    omega
  · intro h _ delay hdelay
    have hnow := h (List.getElem?_eq_some_iff.mp hdelay).1
    simp only [Stream.sent] at hdelay ⊢
    rw [timer, hdelay, Option.map_some, hnow]

lemma undelayed_iff_onSchedule {s' : Stream M} (h : OnSchedule snd s)
    (hstep : step snd s a = some s') : Undelayed snd s a ↔ OnSchedule snd s' := by
  cases Step.of_step hstep with
  | advance | find | pushed | pushFailed | close | disconnect | unregister =>
    exact iff_of_true (undelayed_of_event nofun) h
  | takeDone | takeClose | takePush | takeTimer =>
    exact iff_of_true (undelayed_of_event nofun)
      (onSchedule_of_phase Phase.noConfusion)
  | @sent γ item msg hphase hsend =>
    cases item with
    | event i =>
      refine iff_of_true (undelayed_of_phase fun data => by simp [hphase]) ?_
      intro _ delay hdelay
      simp only [Stream.sent] at hdelay ⊢
      rw [timer, hdelay, Option.map_some]
    | pushed data =>
      rw [onSchedule_sent_pushed]
      constructor
      · exact fun hu => hu γ data msg rfl hphase hsend
      · intro hnow γ' data' msg' _ _ _
        exact hnow
  | @failed γ item last hphase hsend =>
    refine iff_of_true ?_ (onSchedule_of_phase Phase.noConfusion)
    intro γ' data msg ha hphase' hsend' _
    cases ha
    rw [hphase] at hphase'
    cases hphase'
    rw [hsend] at hsend'
    cases hsend'
  | closed hphase =>
    exact iff_of_true (undelayed_of_phase fun data => by simp [hphase])
      (onSchedule_of_phase Phase.noConfusion)

/-- The timer is right in every state of the run exactly if no push delays an event. -/
def ScheduleIff (snd : Sender Γ M) : Prop :=
  ∀ (now : ℤ) (as : List (Event Γ)) (s : Stream M), run (step snd) (snd.start now) as = some s →
    ((∀ bs, bs <+: as → ∀ u, run (step snd) (snd.start now) bs = some u → OnSchedule snd u) ↔
      Along (step snd) (Undelayed snd) (snd.start now) as)

theorem scheduleIff (snd : Sender Γ M) : ScheduleIff snd := fun now _ _ hrun =>
  (along_iff_invariant (fun _ _ _ => undelayed_iff_onSchedule) (onSchedule_start now) hrun).symm

end

/-- **When pushed data does not postpone the configured events.** -/
theorem streams_on_schedule_iff_undelayed (env : Env) (ctx : RequestContext) :
    (∀ wireType stream, ScheduleIff (writeStream env ctx wireType stream)) ∧
    (∀ jsonValid id stream, ScheduleIff (runSubscription env jsonValid ctx id stream)) ∧
    ∀ (R : Type) (marshal : R → Except GoString GoString) stream,
      ScheduleIff (serveServerStream marshal stream) :=
  ⟨fun _ _ => scheduleIff _, fun _ _ _ => scheduleIff _, fun _ _ _ => scheduleIff _⟩

/-! ## Data pushed after six of ten seconds -/

def emptyContext : RequestContext := ⟨[], [], ∅, ∅, [], ∅⟩

def oneEvent : Sender Templates (List Piece) :=
  writeStream Env.basic emptyContext [] ⟨[{ data := go "a", delay := 10 }], true⟩

def pushAfterLast : List (Event Templates) :=
  [.advance 10, .takeTimer, .finish noTemplates, .find, .push (go "1"), .advance 6, .takePush,
    .finish noTemplates]

/-- Data that is pushed after the last configured event delays nothing. -/
theorem streams_on_schedule_iff_undelayed_late :
    ∃ s, run (step oneEvent) (oneEvent.start 0) pushAfterLast = some s ∧ OnSchedule oneEvent s := by
  obtain ⟨s, hrun⟩ : ∃ s, run (step oneEvent) (oneEvent.start 0) pushAfterLast = some s := ⟨_, rfl⟩
  refine ⟨s, hrun, ((streams_on_schedule_iff_undelayed _ _).1 _ _ 0 _ _ hrun).mpr ?_ _
    List.prefix_rfl _ hrun⟩
  iterate 2 (refine ⟨undelayed_of_event nofun, ?_⟩; rintro _ ⟨⟩)
  refine ⟨undelayed_of_phase nofun, ?_⟩; rintro _ ⟨⟩
  iterate 4 (refine ⟨undelayed_of_event nofun, ?_⟩; rintro _ ⟨⟩)
  exact ⟨fun _ _ _ _ _ _ hlt => absurd hlt (by decide), fun _ _ => trivial⟩

def pushAtSix {Γ : Type} (γ : Γ) : List (Event Γ) :=
  [.find, .push (go "1"), .advance 6, .takePush, .finish γ]

def waitingAfter {Γ M : Type} (snd : Sender Γ M) (as : List (Event Γ)) :
    Option (Phase × ℕ × ℤ × Option ℤ) :=
  (run (step snd) (snd.start 0) as).map fun s => (s.phase, s.idx, s.lastSent, s.deadline)

/-- **The first event, which is due at 10, is put off until 16.** -/
theorem push_postpones_event :
    waitingAfter oneEvent (pushAtSix noTemplates) = some (.waiting, 0, 0, some 16) ∧
    waitingAfter (runSubscription Env.basic (fun _ => true) emptyContext (go "s") [⟨go "a", 10⟩])
      (pushAtSix noTemplates) = some (.waiting, 0, 0, some 16) ∧
    waitingAfter (serveServerStream (R := Unit) (fun _ => .ok []) [⟨(), none, 10⟩])
      (pushAtSix none) = some (.waiting, 0, 0, some 16) := by
  decide

end Mockly.Streams
