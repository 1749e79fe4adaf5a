import Mockly.Go.Strings
import Mockly.Lib.Transition
import Mockly.Lib.Interleave

/-!
# Streams that are kept open

The loop waits for the timer of the next configured event, for pushed data, for a request to close
the stream and for the client to go away. Pushes and requests to close come through channels for
sixteen and for one. What the three servers do not share is a `Sender`.

Main results: **`inv_of_run`**, **`written_of_ended`**.
-/

namespace Mockly.Streams

open Transition List Option

/-! ## The loop -/

/-- What is to be sent: a configured event, or pushed data. -/
inductive Item
  | event (i : ℕ)
  | pushed (data : GoString)
  deriving DecidableEq

/-- A message that has been sent, or the end of the stream, perhaps with a last message. -/
inductive Sending (M : Type)
  | sent (msg : M)
  | ended (last : Option M)

/-- `Γ` is what sending depends on besides, such as whether the transport fails. -/
structure Sender (Γ M : Type) where
  delays : List ℤ
  send : Γ → Item → Sending M
  /-- The last message after a request to close the stream. -/
  closing : GoString → Option M
  /-- The last message after the client has gone. -/
  gone : Option M

inductive Phase
  | waiting
  | sending (item : Item)
  | closing (errMsg : GoString)
  | ended
  deriving DecidableEq

def Phase.over : Phase → Bool
  | .waiting => false
  | .sending _ => false
  | .closing _ => true
  | .ended => true

/-- The capacity of `pushCh`. -/
def pushCapacity : ℕ := 16

/-- The loop with its channels. -/
structure Stream (M : Type) where
  now : ℤ
  phase : Phase := .waiting
  idx : ℕ := 0
  deadline : Option ℤ
  pushCh : List GoString := []
  closeCh : Option GoString := none
  done : Bool := false
  registered : Bool := true
  /-- How many callers of the registry have the connection in their hands. -/
  callers : ℕ := 0
  written : List M := []
  /-- The data of the pushes that have succeeded. -/
  accepted : List GoString := []
  /-- The data of the pushes that have been sent. -/
  delivered : List GoString := []
  /-- When the last configured event was sent, or the stream started. -/
  lastSent : ℤ
  /-- How many pushes had succeeded when the stream was last requested to be closed. -/
  owed : ℕ := 0

inductive Event (Γ : Type)
  | advance (d : ℕ)
  /-- `Registry.find`, or `byMock`. -/
  | find
  /-- `Connection.Push`. -/
  | push (data : GoString)
  /-- `Connection.Close`. -/
  | close (errMsg : GoString)
  | disconnect
  | unregister
  | takeDone
  | takeClose
  | takePush
  | takeTimer
  | finish (γ : Γ)

section Loop

variable {Γ M : Type} (snd : Sender Γ M)

/-- `time.NewTimer` for the event, if there is one. -/
def Sender.timer (i : ℕ) (now : ℤ) : Option ℤ := (snd.delays[i]?).map (now + ·)

def Sender.start (now : ℤ) : Stream M where
  now := now
  deadline := snd.timer 0 now
  lastSent := now

def Stream.sent (s : Stream M) (item : Item) (msg : M) : Stream M :=
  { s with
    phase := .waiting
    deadline := snd.timer s.idx s.now
    written := s.written ++ [msg]
    delivered := match item with
      | .event _ => s.delivered
      | .pushed data => s.delivered ++ [data]
    lastSent := match item with
      | .event _ => s.now
      | .pushed _ => s.lastSent }

def Stream.finished (s : Stream M) (last : Option M) : Stream M :=
  { s with phase := .ended, written := s.written ++ last.toList }

/-- One event of the stream, or of the loop. -/
def step (s : Stream M) : Event Γ → Option (Stream M)
  | .advance d => some { s with now := s.now + d }
  | .find => if s.registered then some { s with callers := s.callers + 1 } else none
  | .push data =>
    if s.callers = 0 then none
    else if s.pushCh.length < pushCapacity then
      some { s with
        callers := s.callers - 1
        pushCh := s.pushCh ++ [data]
        accepted := s.accepted ++ [data] }
    else some { s with callers := s.callers - 1 }
  | .close errMsg =>
    if s.callers = 0 then none
    else some { s with
      callers := s.callers - 1
      closeCh := some (s.closeCh.getD errMsg)
      owed := s.accepted.length }
  | .disconnect => some { s with done := true }
  | .unregister =>
    if s.phase = .ended ∧ s.registered then some { s with registered := false } else none
  | .takeDone => if s.phase = .waiting ∧ s.done then some (s.finished snd.gone) else none
  | .takeClose =>
    match s.phase, s.closeCh with
    | .waiting, some errMsg => some { s with phase := .closing errMsg, closeCh := none }
    | _, _ => none
  | .takePush =>
    match s.phase, s.pushCh with
    | .waiting, data :: rest => some { s with phase := .sending (.pushed data), pushCh := rest }
    | _, _ => none
  | .takeTimer =>
    match s.phase, s.deadline with
    | .waiting, some t =>
      if t ≤ s.now then some { s with phase := .sending (.event s.idx), idx := s.idx + 1 }
      else none
    | _, _ => none
  | .finish γ =>
    match s.phase with
    | .sending item =>
      match snd.send γ item with
      | .sent msg => some (s.sent snd item msg)
      | .ended last => some (s.finished last)
    | .closing errMsg => some (s.finished (snd.closing errMsg))
    | _ => none

/-- What a step can do. -/
inductive Step (s : Stream M) : Event Γ → Stream M → Prop
  | advance (d : ℕ) : Step s (.advance d) { s with now := s.now + d }
  | find : Step s .find { s with callers := s.callers + 1 }
  | pushed {data : GoString} :
      Step s (.push data) { s with
        callers := s.callers - 1
        pushCh := s.pushCh ++ [data]
        accepted := s.accepted ++ [data] }
  | pushFailed {data : GoString} : Step s (.push data) { s with callers := s.callers - 1 }
  | close {errMsg : GoString} :
      Step s (.close errMsg) { s with
        callers := s.callers - 1
        closeCh := some (s.closeCh.getD errMsg)
        owed := s.accepted.length }
  | disconnect : Step s .disconnect { s with done := true }
  | unregister : Step s .unregister { s with registered := false }
  | takeDone (hphase : s.phase = .waiting) (hdone : s.done = true) :
      Step s .takeDone (s.finished snd.gone)
  | takeClose (hphase : s.phase = .waiting) {errMsg : GoString} (h : s.closeCh = some errMsg) :
      Step s .takeClose { s with phase := .closing errMsg, closeCh := none }
  | takePush (hphase : s.phase = .waiting) {data : GoString} {rest : List GoString}
      (h : s.pushCh = data :: rest) :
      Step s .takePush { s with phase := .sending (.pushed data), pushCh := rest }
  | takeTimer (hphase : s.phase = .waiting) {t : ℤ} (h : s.deadline = some t) :
      Step s .takeTimer { s with phase := .sending (.event s.idx), idx := s.idx + 1 }
  | sent {γ : Γ} {item : Item} {msg : M} (hphase : s.phase = .sending item)
      (h : snd.send γ item = .sent msg) : Step s (.finish γ) (s.sent snd item msg)
  | failed {γ : Γ} {item : Item} {last : Option M} (hphase : s.phase = .sending item)
      (h : snd.send γ item = .ended last) : Step s (.finish γ) (s.finished last)
  | closed {γ : Γ} {errMsg : GoString} (hphase : s.phase = .closing errMsg) :
      Step s (.finish γ) (s.finished (snd.closing errMsg))

variable {snd}

variable {s : Stream M} {a : Event Γ}

lemma Step.of_step {s' : Stream M} (h : step snd s a = some s') : Step snd s a s' := by
  cases a with
  | advance d => cases h; exact .advance d
  | find =>
    simp only [step, ite_none_right_eq_some, Option.some.injEq] at h
    obtain ⟨-, rfl⟩ := h
    exact .find
  | push data =>
    simp only [step] at h
    split at h
    · simp at h
    · split at h
      · cases h; exact .pushed
      · cases h; exact .pushFailed
  | close errMsg =>
    simp only [step] at h
    split at h
    · simp at h
    · cases h; exact .close
  | disconnect => cases h; exact .disconnect
  | unregister =>
    simp only [step, ite_none_right_eq_some, Option.some.injEq] at h
    obtain ⟨-, rfl⟩ := h
    exact .unregister
  | takeDone =>
    simp only [step, ite_none_right_eq_some, Option.some.injEq] at h
    obtain ⟨⟨hphase, hdone⟩, rfl⟩ := h
    exact .takeDone hphase hdone
  | takeClose =>
    simp only [step] at h
    split at h
    · rename_i hphase hclose
      cases h
      exact .takeClose hphase hclose
    · simp at h
  | takePush =>
    simp only [step] at h
    split at h
    · rename_i hphase hpush
      cases h
      exact .takePush hphase hpush
    · simp at h
  | takeTimer =>
    simp only [step] at h
    split at h
    · rename_i hphase hdeadline
      split at h
      · cases h
        exact .takeTimer hphase hdeadline
      · simp at h
    · simp at h
  | finish γ =>
    simp only [step] at h
    split at h
    · rename_i hphase
      split at h
      · rename_i hsend
        cases h
        exact .sent hphase hsend
      · rename_i hsend
        cases h
        exact .failed hphase hsend
    · rename_i hphase
      cases h
      exact .closed hphase
    · simp at h

/-! ## The order of what is written -/

variable (snd)

def Messages (items : List Item) (msgs : List M) : Prop :=
  List.Forall₂ (fun item msg => ∃ γ, snd.send γ item = .sent msg) items msgs

/-- An interleaving of the first `n` configured events with the first of the accepted data, and the
last message. -/
structure Ordered (s : Stream M) (n : ℕ) (last : Option M) (xs ys zs : List M) : Prop where
  written : s.written = zs ++ last.toList
  merged : Interleaves xs ys zs
  configured : Messages snd ((List.range n).map .event) xs
  bounded : n ≤ snd.delays.length
  pushed : Messages snd (s.delivered.map .pushed) ys
  accepted : s.delivered <+: s.accepted

/-- The message is for an item that cannot be sent, for a request to close, or for a client that
has gone. -/
def Sender.Final (m : M) : Prop :=
  (∃ γ item, snd.send γ item = .ended (some m)) ∨ (∃ errMsg, snd.closing errMsg = some m) ∨
    snd.gone = some m

def Progress (s : Stream M) (n : ℕ) (last : Option M) : Prop :=
  match s.phase with
  | .waiting => n = s.idx ∧ (s.deadline.isSome → s.idx < snd.delays.length) ∧
      s.accepted = s.delivered ++ s.pushCh ∧ last = none
  | .sending (.event i) => n = i ∧ s.idx = i + 1 ∧ i < snd.delays.length ∧
      s.accepted = s.delivered ++ s.pushCh ∧ last = none
  | .sending (.pushed data) => n = s.idx ∧ s.accepted = s.delivered ++ data :: s.pushCh ∧
      last = none
  | .closing _ => s.accepted = s.delivered ++ s.pushCh ∧ last = none
  | .ended => ∀ m, last = some m → snd.Final m

/-- What has been written so far. -/
def Inv (s : Stream M) : Prop :=
  ∃ n last xs ys zs, Ordered snd s n last xs ys zs ∧ Progress snd s n last

variable {snd}

lemma timer_isSome {i : ℕ} {now : ℤ} (h : (snd.timer i now).isSome) : i < snd.delays.length := by
  simpa [Sender.timer] using h

lemma inv_start (now : ℤ) : Inv snd (snd.start now) :=
  ⟨0, none, [], [], [], ⟨rfl, .nil, .nil, Nat.zero_le _, .nil, prefix_rfl⟩, rfl, timer_isSome,
    rfl, rfl⟩

lemma Inv.of_others {s' : Stream M} (h : Inv snd s) (hwritten : s'.written = s.written)
    (hphase : s'.phase = s.phase) (hidx : s'.idx = s.idx) (hdeadline : s'.deadline = s.deadline)
    (hdelivered : s'.delivered = s.delivered) {new : List GoString}
    (hpush : s'.pushCh = s.pushCh ++ new) (haccepted : s'.accepted = s.accepted ++ new) :
    Inv snd s' := by
  obtain ⟨n, last, xs, ys, zs, ⟨h1, h2, h3, h4, h5, h6⟩, hprogress⟩ := h
  refine ⟨n, last, xs, ys, zs, ⟨hwritten ▸ h1, h2, h3, h4, hdelivered ▸ h5, ?_⟩, ?_⟩
  · rw [hdelivered, haccepted]
    exact h6.trans (prefix_append _ _)
  · unfold Progress at hprogress ⊢
    rw [hphase, hidx, hdeadline, hdelivered, hpush, haccepted]
    rcases hp : s.phase with _ | ⟨_ | _⟩ | _ | _ <;> rw [hp] at hprogress
    · obtain ⟨hn, hd, ha, hl⟩ := hprogress
      exact ⟨hn, hd, by rw [ha, append_assoc], hl⟩
    · obtain ⟨hn, hi, hd, ha, hl⟩ := hprogress
      exact ⟨hn, hi, hd, by rw [ha, append_assoc], hl⟩
    · obtain ⟨hn, ha, hl⟩ := hprogress
      exact ⟨hn, by rw [ha, append_assoc, cons_append], hl⟩
    · obtain ⟨ha, hl⟩ := hprogress
      exact ⟨by rw [ha, append_assoc], hl⟩
    · exact hprogress

lemma Progress.last_eq_none {n : ℕ} {last : Option M} (h : Progress snd s n last)
    (hphase : s.phase ≠ .ended) : last = none := by
  unfold Progress at h
  rcases hp : s.phase with _ | ⟨_ | _⟩ | _ | _ <;> rw [hp] at h
  · exact h.2.2.2
  · exact h.2.2.2.2
  · exact h.2.2
  · exact h.2
  · exact absurd hp hphase

lemma Inv.finished (h : Inv snd s) (hphase : s.phase ≠ .ended) {last : Option M}
    (hfinal : ∀ m, last = some m → snd.Final m) : Inv snd (s.finished last) := by
  obtain ⟨n, last', xs, ys, zs, ⟨h1, h2, h3, h4, h5, h6⟩, hprogress⟩ := h
  have hnone := hprogress.last_eq_none hphase
  subst hnone
  refine ⟨n, last, xs, ys, zs, ⟨?_, h2, h3, h4, h5, h6⟩, hfinal⟩
  rw [Stream.finished, h1, toList_none, append_nil]

lemma Inv.sent (h : Inv snd s) {item : Item} (hphase : s.phase = .sending item) {γ : Γ} {msg : M}
    (hsend : snd.send γ item = .sent msg) : Inv snd (s.sent snd item msg) := by
  obtain ⟨n, last, xs, ys, zs, ⟨h1, h2, h3, h4, h5, h6⟩, hprogress⟩ := h
  unfold Progress at hprogress
  rw [hphase] at hprogress
  cases item with
  | event i =>
    obtain ⟨rfl, hidx, hlt, ha, rfl⟩ := hprogress
    refine ⟨n + 1, none, xs ++ [msg], ys, zs ++ [msg],
      ⟨?_, h2.left msg, ?_, hlt, h5, h6⟩, hidx.symm, timer_isSome, ha, rfl⟩
    · simp [Stream.sent, h1]
    · rw [range_succ, map_append]
      exact rel_append h3 (.cons ⟨γ, hsend⟩ .nil)
  | pushed data =>
    obtain ⟨rfl, ha, rfl⟩ := hprogress
    refine ⟨s.idx, none, xs, ys ++ [msg], zs ++ [msg],
      ⟨?_, h2.right msg, h3, h4, ?_, ?_⟩, rfl, timer_isSome, ?_, rfl⟩
    · simp [Stream.sent, h1]
    · change Messages snd ((s.delivered ++ [data]).map .pushed) _
      rw [map_append]
      exact rel_append h5 (.cons ⟨γ, hsend⟩ .nil)
    · change s.delivered ++ [data] <+: s.accepted
      rw [ha]
      exact ⟨s.pushCh, by simp⟩
    · change s.accepted = (s.delivered ++ [data]) ++ s.pushCh
      rw [ha]
      simp

/-- While the loop waits, everything accepted is delivered or in the channel. -/
lemma Inv.of_waiting (h : Inv snd s) (hphase : s.phase = .waiting) :
    (s.deadline.isSome → s.idx < snd.delays.length) ∧ s.accepted = s.delivered ++ s.pushCh ∧
      ∃ xs ys zs, Ordered snd s s.idx none xs ys zs := by
  obtain ⟨n, last, xs, ys, zs, ho, hprogress⟩ := h
  unfold Progress at hprogress
  rw [hphase] at hprogress
  obtain ⟨rfl, hlt, ha, rfl⟩ := hprogress
  exact ⟨hlt, ha, xs, ys, zs, ho⟩

lemma Inv.step {s' : Stream M} (h : Inv snd s) (hstep : step snd s a = some s') : Inv snd s' := by
  cases Step.of_step hstep with
  | advance | find | pushFailed | close | disconnect | unregister =>
    exact h.of_others rfl rfl rfl rfl rfl (append_nil _).symm (append_nil _).symm
  | pushed => exact h.of_others rfl rfl rfl rfl rfl rfl rfl
  | takeDone hphase => exact h.finished (by simp [hphase]) fun _ hm => .inr (.inr hm)
  | failed hphase hsend =>
    exact h.finished (by simp [hphase]) fun _ hm => .inl ⟨_, _, hm ▸ hsend⟩
  | closed hphase => exact h.finished (by simp [hphase]) fun _ hm => .inr (.inl ⟨_, hm⟩)
  | takeClose hphase hclose =>
    obtain ⟨-, ha, xs, ys, zs, ho⟩ := h.of_waiting hphase
    exact ⟨s.idx, none, xs, ys, zs, { ho with }, ha, rfl⟩
  | takePush hphase hpush =>
    obtain ⟨-, ha, xs, ys, zs, ho⟩ := h.of_waiting hphase
    exact ⟨s.idx, none, xs, ys, zs, { ho with }, rfl, hpush ▸ ha, rfl⟩
  | takeTimer hphase hdeadline =>
    obtain ⟨hlt, ha, xs, ys, zs, ho⟩ := h.of_waiting hphase
    have hidx := hlt (by rw [hdeadline]; rfl)
    exact ⟨s.idx, none, xs, ys, zs, { ho with }, rfl, rfl, hidx, ha, rfl⟩
  | sent hphase hsend => exact h.sent hphase hsend

/-- **What has been written is in order**, in every state of every run. -/
theorem inv_of_run {now : ℤ} {as : List (Event Γ)}
    (hrun : run (step snd) (snd.start now) as = some s) : Inv snd s :=
  run_preserves (fun _ _ _ => Inv.step) (inv_start now) hrun

/-! ## The end -/

lemma ended_step {w : List M} {u u' : Stream M} (hu : u.phase = .ended ∧ u.written = w)
    (hstep : step snd u a = some u') : u'.phase = .ended ∧ u'.written = w := by
  obtain ⟨hu, hw⟩ := hu
  cases Step.of_step hstep with
  | advance | find | pushed | pushFailed | close | disconnect | unregister => exact ⟨hu, hw⟩
  | takeDone h | takeClose h | takePush h | takeTimer h | sent h | failed h | closed h =>
    rw [hu] at h
    exact Phase.noConfusion h

/-- **After the end nothing is written.** -/
theorem written_of_ended {t : Stream M} (hphase : s.phase = .ended) {as : List (Event Γ)}
    (hrun : run (step snd) s as = some t) : t.phase = .ended ∧ t.written = s.written :=
  run_preserves (fun _ _ _ => ended_step) ⟨hphase, rfl⟩ hrun

/-- The stream is being closed, and the last message may have been written. -/
def ClosedAfter (snd : Sender Γ M) (errMsg : GoString) (w : List M) (u : Stream M) : Prop :=
  u.phase = .closing errMsg ∧ u.written = w ∨
    u.phase = .ended ∧ u.written = w ++ (snd.closing errMsg).toList

lemma ClosedAfter.step {errMsg : GoString} {w : List M} {u u' : Stream M}
    (h : ClosedAfter snd errMsg w u) (hstep : step snd u a = some u') :
    ClosedAfter snd errMsg w u' := by
  rcases h with ⟨hu, hw⟩ | hended
  · cases Step.of_step hstep with
    | advance | find | pushed | pushFailed | close | disconnect | unregister =>
      exact .inl ⟨hu, hw⟩
    | closed h =>
      rw [hu] at h
      cases h
      exact .inr ⟨rfl, congrArg (· ++ _) hw⟩
    | takeDone h | takeClose h | takePush h | takeTimer h | sent h | failed h =>
      rw [hu] at h
      exact Phase.noConfusion h
  · exact .inr (ended_step hended hstep)

/-- **After a request to close the stream has been taken, only the last message is written.** -/
theorem written_of_closing {t : Stream M} {errMsg : GoString} (hphase : s.phase = .closing errMsg)
    {as : List (Event Γ)} (hrun : run (step snd) s as = some t) :
    ClosedAfter snd errMsg s.written t :=
  run_preserves (fun _ _ _ => ClosedAfter.step) (.inl ⟨hphase, rfl⟩) hrun

end Loop

end Mockly.Streams
