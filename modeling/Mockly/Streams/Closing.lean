import Mockly.Streams.Servers

/-!
# Closing a stream

A loop that finds both data and a request to close takes what it likes. If it takes the request, the
data is lost, although the push had succeeded before.

Main result: **`pushes_written_iff_nothingLeft`**.
-/

namespace Mockly.Streams

open Transition List

section

variable {Γ M : Type} {snd : Sender Γ M}

/-- When the loop has been left, all data pushed before the last request to close has been sent. -/
def PushesWritten (s : Stream M) : Prop :=
  s.phase.over → s.accepted.take s.owed <+: s.delivered

/-- A request to close is taken only when the data left in the channel was all pushed after the
last request, and when it comes after that no data is left. -/
def NothingLeft (s : Stream M) (a : Event Γ) : Prop :=
  (a = .takeClose → s.pushCh.length ≤ s.accepted.length - s.owed) ∧
    ∀ errMsg, a = .close errMsg → s.phase.over → s.pushCh = []

/-- Nothing that can be asked of the sender ends the stream. -/
def Sender.NeverFails (snd : Sender Γ M) : Prop :=
  ∀ γ item, (∀ i, item = .event i → i < snd.delays.length) → ∃ msg, snd.send γ item = .sent msg

/-- The client is there, and what has been accepted is where it belongs. -/
structure Connected (snd : Sender Γ M) (s : Stream M) : Prop where
  inv : Inv snd s
  done : s.done = false
  owed : s.owed ≤ s.accepted.length
  kept : s.phase.over → s.accepted = s.delivered ++ s.pushCh

lemma connected_start (now : ℤ) : Connected snd (snd.start now) :=
  ⟨inv_start now, rfl, le_rfl, fun h => absurd h Bool.false_ne_true⟩

variable {s : Stream M}

lemma Inv.event_lt (h : Inv snd s) {item : Item} (hphase : s.phase = .sending item) (i : ℕ)
    (hi : item = .event i) : i < snd.delays.length := by
  subst hi
  obtain ⟨n, last, xs, ys, zs, -, hprogress⟩ := h
  unfold Progress at hprogress
  rw [hphase] at hprogress
  exact hprogress.2.2.1

lemma Inv.send_ne_ended (h : Inv snd s) (hsnd : snd.NeverFails) {item : Item}
    (hphase : s.phase = .sending item) {γ : Γ} {last : Option M} :
    snd.send γ item ≠ .ended last := by
  obtain ⟨msg, hmsg⟩ := hsnd γ item (h.event_lt hphase)
  rw [hmsg]
  nofun

lemma Connected.step (hsnd : snd.NeverFails) {s' : Stream M} {a : Event Γ} (h : Connected snd s)
    (ha : a ≠ .disconnect) (hstep : step snd s a = some s') : Connected snd s' := by
  have hinv := h.inv.step hstep
  cases Step.of_step hstep with
  | advance | find | pushFailed | unregister => exact ⟨hinv, h.done, h.owed, h.kept⟩
  | pushed =>
    refine ⟨hinv, h.done, h.owed.trans (by simp), fun hover => ?_⟩
    exact (congrArg (· ++ _) (h.kept hover)).trans (append_assoc _ _ _)
  | close => exact ⟨hinv, h.done, le_rfl, h.kept⟩
  | disconnect => exact absurd rfl ha
  | takeDone _ hdone => exact absurd (h.done.symm.trans hdone) Bool.false_ne_true
  | takeClose hphase => exact ⟨hinv, h.done, h.owed, fun _ => (h.inv.of_waiting hphase).2.1⟩
  | takePush | takeTimer | sent =>
    exact ⟨hinv, h.done, h.owed, fun hover => absurd hover Bool.false_ne_true⟩
  | failed hphase hsend => exact absurd hsend (h.inv.send_ne_ended hsnd hphase)
  | closed hphase => exact ⟨hinv, h.done, h.owed, fun _ => h.kept (by rw [hphase]; rfl)⟩

lemma pushesWritten_iff (h : Connected snd s) :
    PushesWritten s ↔ (s.phase.over → s.owed ≤ s.delivered.length) := by
  refine imp_congr_right fun hover => ?_
  have hpre : s.delivered <+: s.accepted := ⟨s.pushCh, (h.kept hover).symm⟩
  constructor
  · intro htake
    simpa [h.owed] using htake.length_le
  · intro hle
    exact prefix_of_prefix_length_le (List.take_prefix _ _) hpre (by simp [h.owed, hle])

lemma nothingLeft_iff (hsnd : snd.NeverFails) {s' : Stream M} {a : Event Γ} (ha : a ≠ .disconnect)
    (h : Connected snd s) (hw : PushesWritten s) (hstep : step snd s a = some s') :
    NothingLeft s a ↔ PushesWritten s' := by
  have h' := h.step hsnd ha hstep
  rw [pushesWritten_iff h']
  rw [pushesWritten_iff h] at hw
  cases Step.of_step hstep with
  | advance | find | pushFailed | unregister | pushed =>
    exact iff_of_true ⟨nofun, nofun⟩ hw
  | @close errMsg =>
    have hlen : s.phase.over → s.accepted.length = s.delivered.length + s.pushCh.length :=
      fun hover => by rw [h.kept hover, length_append]
    refine ⟨fun hok hover => ?_, fun hnew => ⟨nofun, fun _ _ hover => ?_⟩⟩
    · have hnil := hok.2 errMsg rfl hover
      rw [hnil] at hlen
      exact (hlen hover).le
    · have hle : s.accepted.length ≤ s.delivered.length := hnew hover
      have hlen := hlen hover
      exact length_eq_zero_iff.mp (by omega)
  | disconnect => exact absurd rfl ha
  | takeDone _ hdone => exact absurd (h.done.symm.trans hdone) Bool.false_ne_true
  | takeClose hphase =>
    have hlen : s.accepted.length = s.delivered.length + s.pushCh.length := by
      rw [(h.inv.of_waiting hphase).2.1, length_append]
    have howed := h.owed
    refine ⟨fun hok _ => ?_, fun hnew => ⟨fun _ => ?_, nofun⟩⟩
    · have hleft := hok.1 rfl
      show s.owed ≤ s.delivered.length
      omega
    · have hle : s.owed ≤ s.delivered.length := hnew rfl
      omega
  | takePush | takeTimer | sent =>
    exact iff_of_true ⟨nofun, nofun⟩ fun hover => absurd hover Bool.false_ne_true
  | failed hphase hsend => exact absurd hsend (h.inv.send_ne_ended hsnd hphase)
  | closed hphase => exact iff_of_true ⟨nofun, nofun⟩ fun _ => hw (by rw [hphase]; rfl)

lemma Inv.sublist_written (h : Inv snd s) :
    ∃ ys, Messages snd (s.delivered.map .pushed) ys ∧ ys.Sublist s.written := by
  obtain ⟨n, last, xs, ys, zs, ho, -⟩ := h
  refine ⟨ys, ho.pushed, ?_⟩
  rw [ho.written]
  exact ho.merged.sublist_right.trans (sublist_append_left _ _)

end

lemma writeStream_neverFails (env : Env) (ctx : RequestContext) (wireType : GoString)
    (stream : HTTPStream) : (writeStream env ctx wireType stream).NeverFails := by
  intro τ item hitem
  cases item with
  | event i =>
    have hlt : i < stream.events.length := by simpa [writeStream] using hitem i rfl
    exact ⟨_, by simp [writeStream, List.getElem?_eq_getElem hlt]; rfl⟩
  | pushed data => exact ⟨_, rfl⟩

/-- **When a request to close an HTTP stream loses no data that was pushed before it.** -/
theorem pushes_written_iff_nothingLeft (env : Env) (ctx : RequestContext) (wireType : GoString)
    (stream : HTTPStream) {now : ℤ} {as : List (Event Templates)} {s : Stream (List Piece)}
    (hrun : run (step (writeStream env ctx wireType stream))
      ((writeStream env ctx wireType stream).start now) as = some s)
    (hstays : .disconnect ∉ as) :
    ((∀ bs, bs <+: as → ∀ u, run (step (writeStream env ctx wireType stream))
        ((writeStream env ctx wireType stream).start now) bs = some u → PushesWritten u) ↔
      Along (step (writeStream env ctx wireType stream)) NothingLeft
        ((writeStream env ctx wireType stream).start now) as) ∧
    ∃ ys, Messages (writeStream env ctx wireType stream) (s.delivered.map .pushed) ys ∧
      ys.Sublist s.written := by
  have hsnd := writeStream_neverFails env ctx wireType stream
  generalize writeStream env ctx wireType stream = snd at hrun hsnd ⊢
  refine ⟨?_, (inv_of_run hrun).sublist_written⟩
  have hne : ∀ a ∈ as, a ≠ .disconnect := fun a ha => ne_of_mem_of_not_mem ha hstays
  have hiff : ∀ a ∈ as, ∀ u u' : Stream (List Piece), Connected snd u ∧ PushesWritten u →
      step snd u a = some u' → (NothingLeft u a ↔ PushesWritten u') :=
    fun a ha u u' h hstep => nothingLeft_iff hsnd (hne a ha) h.1 h.2 hstep
  have hstart : PushesWritten (snd.start now) := fun h => absurd h Bool.false_ne_true
  exact (along_iff_prefixes (fun a ha u u' h hok hstep =>
    ⟨h.1.step hsnd (hne a ha) hstep, (hiff a ha u u' h hstep).mp hok⟩) hiff
    ⟨connected_start now, hstart⟩ hstart hrun).symm

/-! ## A request that overtakes -/

def openStream : Sender Templates (List Piece) :=
  writeStream Env.basic ⟨[], [], ∅, ∅, [], ∅⟩ [] ⟨[], true⟩

def pushThenClose : List (Event Templates) := [.find, .push (go "x"), .find, .close []]

lemma nothingLeft_of_event {s : Stream (List Piece)} {a : Event Templates} (htake : a ≠ .takeClose)
    (hclose : ∀ errMsg, a ≠ .close errMsg) : NothingLeft s a :=
  ⟨fun h => absurd h htake, fun errMsg h => absurd h (hclose errMsg)⟩

def pushCloseInTurn : List (Event Templates) :=
  pushThenClose ++ [.takePush, .finish noTemplates, .takeClose, .finish noTemplates]

/-- Data that is taken before the request has been written. -/
theorem pushes_written_iff_nothingLeft_inTurn :
    ∃ s, run (step openStream) (openStream.start 0) pushCloseInTurn = some s ∧ PushesWritten s := by
  obtain ⟨s, hrun⟩ : ∃ s, run (step openStream) (openStream.start 0) pushCloseInTurn = some s :=
    ⟨_, rfl⟩
  have hstays : .disconnect ∉ pushCloseInTurn := by simp [pushCloseInTurn, pushThenClose]
  refine ⟨s, hrun, (pushes_written_iff_nothingLeft _ _ _ _ hrun hstays).1.mpr ?_ _
    List.prefix_rfl _ hrun⟩
  iterate 3 (refine ⟨nothingLeft_of_event nofun nofun, ?_⟩; rintro _ ⟨⟩)
  refine ⟨⟨nofun, fun _ _ hover => absurd hover Bool.false_ne_true⟩, ?_⟩; rintro _ ⟨⟩
  iterate 2 (refine ⟨nothingLeft_of_event nofun nofun, ?_⟩; rintro _ ⟨⟩)
  refine ⟨⟨fun _ => Nat.zero_le _, nofun⟩, ?_⟩; rintro _ ⟨⟩
  exact ⟨nothingLeft_of_event nofun nofun, fun _ _ => trivial⟩

/-- **A push has succeeded, then the stream is requested to be closed, and nothing is written.** -/
theorem close_overtakes_push :
    ∃ s, run (step openStream) (openStream.start 0)
        (pushThenClose ++ [.takeClose, .finish noTemplates]) = some s ∧
      s.phase = .ended ∧ s.accepted.take s.owed = [go "x"] ∧ s.delivered = [] ∧ s.written = [] :=
  ⟨_, rfl, rfl, rfl, rfl, rfl⟩

end Mockly.Streams
