import Mockly.Streams.Servers

/-!
# Bidirectional calls of the gRPC server

A call that is kept open has the `select` of `serveServerStream`, with the client's messages in the
place of the timer; when receiving fails, the call goes on.

Main result: **`bidi_in_order`**.
-/

namespace Mockly.Streams

open Transition List Option

/-- `GRPCMock`, as far as a stream goes. -/
structure GRPCStreamMock (R : Type) where
  stream : List (GRPCStreamMessage R)
  keepOpen : Bool

/-- What `RecvMsg` has returned. -/
inductive Received
  | message
  | failed
  deriving DecidableEq

structure Bidi where
  call : Stream GRPCSent
  /-- The messages that the client has sent and nobody has received. -/
  inFlight : ℕ := 0
  halfClosed : Bool := false
  receiving : Bool := true
  offered : Option Received := none
  /-- The loop no longer listens to what is received. -/
  recvDone : Bool := false
  /-- History: the messages that have been received. -/
  received : ℕ := 0

/-- The error of `SendMsg`, if any, is what sending depends on. -/
abbrev Transport : Type := Option (ℕ × GoString)

inductive BidiEvent
  /-- A step that the call has in common with the other streams. -/
  | call (e : Event Transport)
  | clientSend
  | halfClose
  /-- `RecvMsg` returns. -/
  | recv (r : Received)
  | takeRecv

section

variable {R : Type} (marshal : R → Except GoString GoString) (mock : GRPCStreamMock R)

/-- The loop takes a message: the next entry is to be sent, if there is one. -/
def answer (s : Stream GRPCSent) : Stream GRPCSent :=
  if s.idx < mock.stream.length then
    { s with phase := .sending (.event s.idx), idx := s.idx + 1 }
  else s

/-- A call begins.  Only one that is kept open is registered. -/
def Bidi.start (now : ℤ) : Bidi where
  call :=
    { (serveServerStream marshal mock.stream).start now with registered := mock.keepOpen }

/-- One step of a call. -/
def bidiStep (s : Bidi) : BidiEvent → Option Bidi
  | .call .takeTimer => none
  | .call .takeDone =>
    if mock.keepOpen then
      (step (serveServerStream marshal mock.stream) s.call .takeDone).map ({ s with call := · })
    else none
  | .call e => (step (serveServerStream marshal mock.stream) s.call e).map ({ s with call := · })
  | .clientSend => if s.halfClosed then none else some { s with inFlight := s.inFlight + 1 }
  | .halfClose => some { s with halfClosed := true }
  | .recv r =>
    -- without the goroutine, it is the loop itself that receives
    if s.receiving = false ∨ s.offered ≠ none ∨
        (mock.keepOpen = false ∧ s.call.phase ≠ .waiting) then none
    else
      match r with
      | .failed => some { s with receiving := false, offered := some .failed }
      | .message =>
        if s.inFlight = 0 then none
        else some { s with
          inFlight := s.inFlight - 1
          offered := some .message
          received := s.received + 1 }
  | .takeRecv =>
    if s.recvDone ∨ s.call.phase ≠ .waiting then none
    else
      match s.offered with
      | none => none
      | some .message => some { s with offered := none, call := answer mock s.call }
      | some .failed =>
        if mock.keepOpen then some { s with offered := none, recvDone := true }
        else some { s with
          offered := none
          recvDone := true
          call := s.call.finished (some (.status codeOK [])) }

inductive BStep (s : Bidi) : BidiEvent → Bidi → Prop
  | loop {e : Event Transport} {c : Stream GRPCSent} (htimer : e ≠ .takeTimer)
      (hdone : e = .takeDone → mock.keepOpen = true)
      (h : step (serveServerStream marshal mock.stream) s.call e = some c) :
      BStep s (.call e) { s with call := c }
  | clientSend : BStep s .clientSend { s with inFlight := s.inFlight + 1 }
  | halfClose : BStep s .halfClose { s with halfClosed := true }
  | recvMessage (h : s.offered = none) :
      BStep s (.recv .message) { s with
        inFlight := s.inFlight - 1
        offered := some .message
        received := s.received + 1 }
  | recvFailed : BStep s (.recv .failed) { s with receiving := false, offered := some .failed }
  | answered (hphase : s.call.phase = .waiting) (h : s.offered = some .message) :
      BStep s .takeRecv { s with offered := none, call := answer mock s.call }
  | deaf (hopen : mock.keepOpen = true) :
      BStep s .takeRecv { s with offered := none, recvDone := true }
  | hungUp (hphase : s.call.phase = .waiting) (hopen : mock.keepOpen = false) :
      BStep s .takeRecv { s with
        offered := none
        recvDone := true
        call := s.call.finished (some (.status codeOK [])) }

variable {marshal mock}

variable {s s' : Bidi}

lemma BStep.of_takeRecv (h : bidiStep marshal mock s .takeRecv = some s') :
    BStep marshal mock s .takeRecv s' := by
  simp only [bidiStep] at h
  split at h
  · cases h
  · rename_i hready
    have hphase : s.call.phase = .waiting := by
      by_contra hphase
      exact hready (.inr hphase)
    cases hoff : s.offered with
    | none =>
      rw [hoff] at h
      cases h
    | some r =>
      rw [hoff] at h
      cases r with
      | message =>
        cases h
        exact .answered hphase hoff
      | failed =>
        cases hopen : mock.keepOpen with
        | true =>
          simp only [hopen, if_true, Option.some.injEq] at h
          subst h
          exact .deaf hopen
        | false =>
          simp only [hopen, Bool.false_eq_true, if_false, Option.some.injEq] at h
          subst h
          exact .hungUp hphase hopen

variable {e : BidiEvent}

lemma BStep.of_bidiStep (h : bidiStep marshal mock s e = some s') : BStep marshal mock s e s' := by
  cases e with
  | call e =>
    cases e with
    | takeTimer => cases h
    | takeDone =>
      simp only [bidiStep, ite_none_right_eq_some, map_eq_some_iff] at h
      obtain ⟨hopen, c, hc, rfl⟩ := h
      exact .loop nofun (fun _ => hopen) hc
    | _ =>
      simp only [bidiStep, map_eq_some_iff] at h
      obtain ⟨c, hc, rfl⟩ := h
      exact .loop nofun nofun hc
  | clientSend =>
    simp only [bidiStep, ite_none_left_eq_some, Option.some.injEq] at h
    obtain ⟨-, rfl⟩ := h
    exact .clientSend
  | halfClose =>
    cases h
    exact .halfClose
  | recv r =>
    simp only [bidiStep] at h
    split at h
    · cases h
    · rename_i hready
      cases r with
      | failed =>
        cases h
        exact .recvFailed
      | message =>
        simp only [ite_none_left_eq_some, Option.some.injEq] at h
        obtain ⟨-, rfl⟩ := h
        refine .recvMessage ?_
        by_contra hoff
        exact hready (.inr (.inl hoff))
  | takeRecv => exact .of_takeRecv h

/-! ## The order of the messages -/

open BStep

/-- **The invariant of the loop.** -/
lemma inv_bidi_step (h : Inv (serveServerStream marshal mock.stream) s.call)
    (hstep : bidiStep marshal mock s e = some s') :
    Inv (serveServerStream marshal mock.stream) s'.call := by
  cases of_bidiStep hstep with
  | loop _ _ hloop => exact h.step hloop
  | clientSend | halfClose | recvMessage | recvFailed | deaf => exact h
  | answered hphase _ =>
    dsimp only
    unfold answer
    split_ifs with hidx
    · obtain ⟨-, ha, xs, ys, zs, ho⟩ := h.of_waiting hphase
      refine ⟨s.call.idx, none, xs, ys, zs, { ho with }, rfl, rfl, ?_, ha, rfl⟩
      simpa [serveServerStream] using hidx
    · exact h
  | hungUp hphase _ => exact h.finished (by simp [hphase]) fun _ hm => .inr (.inr hm)

def messageCount (sent : List GRPCSent) : ℕ := sent.countP GRPCSent.isMessage

def Phase.owes : Phase → ℕ
  | .sending (.event _) => 1
  | _ => 0

/-- Each message is one of the entries up to the current one, or was pushed. -/
def Accounted (c : Stream GRPCSent) : Prop :=
  messageCount c.written + c.phase.owes ≤ c.idx + c.delivered.length

lemma messageCount_append (l l' : List GRPCSent) :
    messageCount (l ++ l') = messageCount l + messageCount l' := countP_append ..

variable {c : Stream GRPCSent} {last : Option GRPCSent}

lemma Accounted.finished (h : Accounted c) (hlast : ∀ x ∈ last, x.isMessage = false) :
    Accounted (c.finished last) := by
  have hnone : messageCount last.toList = 0 := by
    rw [messageCount, countP_eq_zero]
    intro x hx
    simp [hlast x (mem_toList.mp hx)]
  have howes : (c.finished last).phase.owes = 0 := rfl
  unfold Accounted at h ⊢
  rw [howes, Stream.finished, messageCount_append, hnone]
  dsimp only
  omega

/-! ### What is sent -/

variable {γ : Transport}

variable {i : ℕ}

variable {c' : Stream GRPCSent}

lemma Accounted.step {e : Event Transport} (h : Accounted c)
    (hstep : step (serveServerStream marshal mock.stream) c e = some c') : Accounted c' := by
  cases Step.of_step hstep with
  | advance | find | pushed | pushFailed | close | disconnect | unregister => exact h
  | takeDone _ _ =>
    refine h.finished ?_
    rintro x ⟨⟩
    rfl
  | takeClose hphase _ | takePush hphase _ =>
    rw [Accounted, hphase] at h
    exact h
  | takeTimer hphase _ =>
    rw [Accounted, hphase] at h
    unfold Accounted
    simp only [Phase.owes] at h ⊢
    omega
  | @sent γ item msg hphase hsend =>
    have hcount : messageCount [msg] = 1 := by
      cases item with
      | event i =>
        obtain ⟨_, body, -, -, -, rfl⟩ := send_event_eq_sent hsend
        rfl
      | pushed data =>
        rw [sendMsg_eq_sent hsend]
        rfl
    rw [Accounted, hphase] at h
    unfold Accounted
    cases item with
    | event i =>
      simp only [Stream.sent, messageCount_append, hcount, Phase.owes] at h ⊢
      omega
    | pushed data =>
      simp only [Stream.sent, messageCount_append, hcount, Phase.owes, length_append,
        length_singleton] at h ⊢
      omega
  | failed _ hsend => exact h.finished (send_eq_ended hsend)
  | closed _ => exact h.finished closing_isMessage

/-- Only the timer, which nobody looks at here, and the client's messages move the index. -/
lemma idx_of_step {e : Event Transport} (htimer : e ≠ .takeTimer)
    (hstep : step (serveServerStream marshal mock.stream) c e = some c') : c'.idx = c.idx := by
  cases Step.of_step hstep with
  | takeTimer => exact absurd rfl htimer
  | _ => rfl

/-- A result that is offered to the loop and calls for an entry. -/
def Bidi.due (s : Bidi) : ℕ := if s.offered = some .message then 1 else 0

/-- No entry is sent that no message has come for. -/
structure Within (s : Bidi) : Prop where
  sent : Accounted s.call
  asked : s.call.idx + s.due ≤ s.received

lemma within_bidi_step (h : Within s) (hstep : bidiStep marshal mock s e = some s') :
    Within s' := by
  obtain ⟨hsent, hasked⟩ := h
  cases of_bidiStep hstep with
  | loop htimer _ hloop =>
    refine ⟨hsent.step hloop, ?_⟩
    rw [idx_of_step htimer hloop]
    exact hasked
  | clientSend | halfClose => exact ⟨hsent, hasked⟩
  | recvMessage hoff =>
    refine ⟨hsent, ?_⟩
    simp only [Bidi.due, hoff] at hasked ⊢
    simpa using hasked
  | recvFailed | deaf => exact ⟨hsent, (Nat.le_add_right _ _).trans hasked⟩
  | answered hphase hoff =>
    simp only [Bidi.due, hoff, if_true] at hasked
    unfold Accounted at hsent
    rw [hphase] at hsent
    unfold answer
    split_ifs with hidx
    · refine ⟨?_, hasked⟩
      simp only [Accounted, Phase.owes] at hsent ⊢
      omega
    · refine ⟨?_, Nat.le_of_succ_le hasked⟩
      rw [Accounted, hphase]
      exact hsent
  | hungUp hphase _ =>
    refine ⟨hsent.finished ?_, (Nat.le_add_right _ _).trans hasked⟩
    rintro x ⟨⟩
    rfl

/-! ### The end of a call -/

lemma ends_of_step {e : Event Transport} (hphase : c.phase ≠ .ended)
    (hstep : step (serveServerStream marshal mock.stream) c e = some c')
    (hended : c'.phase = .ended) :
    ∃ last, c' = c.finished last ∧ ∀ x ∈ last, x.isMessage = false := by
  cases Step.of_step hstep with
  | advance | find | pushed | pushFailed | close | disconnect | unregister =>
    exact absurd hended hphase
  | takeClose | takePush | takeTimer | sent => cases hended
  | takeDone _ _ =>
    refine ⟨_, rfl, ?_⟩
    rintro x ⟨⟩
    rfl
  | failed _ hsend => exact ⟨_, rfl, send_eq_ended hsend⟩
  | closed _ => exact ⟨_, rfl, closing_isMessage⟩

lemma ends_of_bidiStep (hphase : s.call.phase ≠ .ended)
    (hstep : bidiStep marshal mock s e = some s') (hended : s'.call.phase = .ended) :
    ∃ last, s'.call = s.call.finished last ∧ ∀ x ∈ last, x.isMessage = false := by
  cases of_bidiStep hstep with
  | loop _ _ hloop => exact ends_of_step hphase hloop hended
  | clientSend | halfClose | recvMessage | recvFailed | deaf => exact absurd hended hphase
  | answered _ _ =>
    unfold answer at hended
    by_cases hidx : s.call.idx < mock.stream.length
    · rw [if_pos hidx] at hended
      cases hended
    · rw [if_neg hidx] at hended
      exact absurd hended hphase
  | hungUp _ _ =>
    refine ⟨_, rfl, ?_⟩
    rintro x ⟨⟩
    rfl

lemma ended_bidiStep (hphase : s.call.phase = .ended)
    (hstep : bidiStep marshal mock s e = some s') :
    s'.call.phase = .ended ∧ s'.call.written = s.call.written ∧
      s.call.accepted <+: s'.call.accepted := by
  cases of_bidiStep hstep with
  | loop _ _ hloop =>
    obtain ⟨hended, hwritten⟩ := ended_step ⟨hphase, rfl⟩ hloop
    refine ⟨hended, hwritten, ?_⟩
    cases Step.of_step hloop with
    | pushed => exact prefix_append _ _
    | _ => exact prefix_rfl
  | clientSend | halfClose | recvMessage | recvFailed | deaf =>
    exact ⟨hphase, rfl, prefix_rfl⟩
  | answered h _ | hungUp h _ =>
    rw [hphase] at h
    cases h

/-- What was sent: the messages of a call that had not ended, and perhaps a status. -/
structure Outline (marshal : R → Except GoString GoString) (mock : GRPCStreamMock R) (s : Bidi)
    (c : Stream GRPCSent) (last : Option GRPCSent) : Prop where
  inv : Inv (serveServerStream marshal mock.stream) c
  going : c.phase ≠ .ended
  sent : Accounted c
  asked : c.idx ≤ s.received
  accepted : c.accepted <+: s.call.accepted
  written : s.call.written = c.written ++ last.toList
  status : ∀ x ∈ last, x.isMessage = false
  current : s.call.phase ≠ .ended → c = s.call ∧ last = none

lemma received_le (hstep : bidiStep marshal mock s e = some s') : s.received ≤ s'.received := by
  cases of_bidiStep hstep with
  | recvMessage _ => exact Nat.le_succ _
  | _ => exact le_rfl

lemma Outline.step (h : Outline marshal mock s c last) (hw : Within s)
    (hstep : bidiStep marshal mock s e = some s') :
    ∃ c' last', Outline marshal mock s' c' last' := by
  have hw' := within_bidi_step hw hstep
  by_cases hphase : s.call.phase = .ended
  · obtain ⟨hended, hwritten, haccepted⟩ := ended_bidiStep hphase hstep
    exact ⟨c, last, { h with
      asked := h.asked.trans (received_le hstep)
      accepted := h.accepted.trans haccepted
      written := hwritten.trans h.written
      current := fun hgoing => absurd hended hgoing }⟩
  · obtain ⟨rfl, rfl⟩ := h.current hphase
    by_cases hended : s'.call.phase = .ended
    · obtain ⟨last', hcall, hstatus⟩ := ends_of_bidiStep hphase hstep hended
      refine ⟨s.call, last', { h with
        asked := h.asked.trans (received_le hstep)
        accepted := ?_
        written := ?_
        status := hstatus
        current := fun hgoing => absurd hended hgoing }⟩
      · rw [hcall]
        exact prefix_rfl
      · rw [hcall]
        rfl
    · exact ⟨s'.call, none, inv_bidi_step h.inv hstep, hended, hw'.sent,
        (Nat.le_add_right _ _).trans hw'.asked, prefix_rfl, (append_nil _).symm, nofun,
        fun _ => ⟨rfl, rfl⟩⟩

variable (marshal mock) in
lemma inv_bidi_start (now : ℤ) :
    Inv (serveServerStream marshal mock.stream) (Bidi.start marshal mock now).call := by
  obtain ⟨n, last, xs, ys, zs, ho, hp⟩ := @inv_start _ _ (serveServerStream marshal mock.stream) now
  exact ⟨n, last, xs, ys, zs, { ho with }, hp⟩

variable {events : List BidiEvent}

lemma outline_of_run {now : ℤ}
    (hrun : run (bidiStep marshal mock) (Bidi.start marshal mock now) events = some s) :
    ∃ c last, Outline marshal mock s c last := by
  have hstart : Within (Bidi.start marshal mock now) := ⟨Nat.zero_le _, Nat.zero_le _⟩
  refine (run_preserves (fun s _ _ (h : Within s ∧ ∃ c last, Outline marshal mock s c last) hstep =>
    ?_) ⟨hstart, (Bidi.start marshal mock now).call, none, ?_⟩ hrun).2
  · obtain ⟨hw, c, last, h⟩ := h
    exact ⟨within_bidi_step hw hstep, h.step hw hstep⟩
  · exact ⟨inv_bidi_start marshal mock now, nofun, hstart.sent, Nat.zero_le _, prefix_rfl,
      (append_nil _).symm, nofun, fun _ => ⟨rfl, rfl⟩⟩

/-! ## What a call sends -/

/-- The body of the `i`-th entry, which carries no error. -/
def BodyOf (marshal : R → Except GoString GoString) (mock : GRPCStreamMock R) (i : ℕ)
    (body : GoString) : Prop :=
  ∃ msg, mock.stream[i]? = some msg ∧ msg.error = none ∧ marshal msg.response = .ok body

lemma bodies_of_messages {is : List ℕ} {xs : List GRPCSent}
    (h : Messages (serveServerStream marshal mock.stream) (is.map .event) xs) :
    ∃ bodies, xs = bodies.map .message ∧ List.Forall₂ (BodyOf marshal mock) is bodies := by
  induction is generalizing xs with
  | nil =>
    cases h
    exact ⟨[], rfl, .nil⟩
  | cons i is ih =>
    cases h with
    | cons hx hrest =>
      obtain ⟨γ, hsend⟩ := hx
      obtain ⟨msg, body, hmsg, herr, hbody, rfl⟩ := send_event_eq_sent hsend
      obtain ⟨bodies, rfl, hall⟩ := ih hrest
      exact ⟨body :: bodies, rfl, .cons ⟨msg, hmsg, herr, hbody⟩ hall⟩

lemma eq_of_pushed_messages {ds : List GoString} {ys : List GRPCSent}
    (h : Messages (serveServerStream marshal mock.stream) (ds.map .pushed) ys) :
    ys = ds.map .message := by
  induction ds generalizing ys with
  | nil =>
    cases h
    rfl
  | cons d ds ih =>
    cases h with
    | cons hy hrest =>
      obtain ⟨γ, hsend⟩ := hy
      rw [sendMsg_eq_sent hsend, ih hrest, map_cons]

lemma messageCount_map (bodies : List GoString) :
    messageCount (bodies.map .message) = bodies.length := by
  rw [messageCount, countP_map, countP_eq_length]
  exact fun _ _ => rfl

/-- An interleaving of the first entries, as many as there were messages for at most, with the first
of the pushed data; and at its end perhaps a status. -/
def SendsInOrder (marshal : R → Except GoString GoString) (mock : GRPCStreamMock R) (s : Bidi) :
    Prop :=
  ∃ n bodies ds zs last, s.call.written = zs ++ Option.toList last ∧
    (∀ x ∈ last, x.isMessage = false ∧ s.call.phase = .ended) ∧
    Interleaves (bodies.map .message) (ds.map .message) zs ∧
    n ≤ s.received ∧ List.Forall₂ (BodyOf marshal mock) (List.range n) bodies ∧
    ds <+: s.call.accepted

lemma sendsInOrder_of_run {now : ℤ}
    (hrun : run (bidiStep marshal mock) (Bidi.start marshal mock now) events = some s) :
    SendsInOrder marshal mock s := by
  obtain ⟨c, last, h⟩ := outline_of_run hrun
  obtain ⟨n, last', xs, ys, zs, ho, hprogress⟩ := h.inv
  obtain rfl := hprogress.last_eq_none h.going
  obtain ⟨bodies, rfl, hbodies⟩ := bodies_of_messages ho.configured
  obtain rfl := eq_of_pushed_messages ho.pushed
  have hlen : bodies.length = n := by
    rw [← hbodies.length_eq, length_range]
  have hn : n ≤ s.received := by
    have hcount := ho.merged.countP_eq GRPCSent.isMessage
    change messageCount zs = messageCount _ + messageCount _ at hcount
    have hsent := h.sent
    rw [messageCount_map, messageCount_map, hlen] at hcount
    rw [Accounted, ho.written, messageCount_append, hcount] at hsent
    have hasked := h.asked
    omega
  refine ⟨n, bodies, c.delivered, zs, last, ?_, fun x hx => ⟨h.status x hx, ?_⟩, ho.merged, hn,
    hbodies, ho.accepted.trans h.accepted⟩
  · rw [h.written, ho.written, toList_none, append_nil]
  · by_contra hphase
    obtain ⟨-, rfl⟩ := h.current hphase
    cases hx

/-! ## What ends a call, and what does not -/

variable {w : List GRPCSent}

lemma ended_bidi_step (h : s.call.phase = .ended ∧ s.call.written = w)
    (hstep : bidiStep marshal mock s e = some s') :
    s'.call.phase = .ended ∧ s'.call.written = w := by
  obtain ⟨hended, hwritten, -⟩ := ended_bidiStep h.1 hstep
  exact ⟨hended, hwritten.trans h.2⟩

/-- An entry that carries an error is on its way, or has ended the call with its status. -/
def EndsWith (status : GRPCSent) (item : Item) (w : List GRPCSent) (c : Stream GRPCSent) : Prop :=
  c.phase = .sending item ∧ c.written = w ∨ c.phase = .ended ∧ c.written = w ++ [status]

lemma send_error {msg : GRPCStreamMessage R} {e : GRPCError} (hmsg : mock.stream[i]? = some msg)
    (herr : msg.error = some e) (γ : Transport) :
    (serveServerStream marshal mock.stream).send γ (.event i) =
      .ended (some (statusError (safeGRPCCode e.code) e.message)) := by
  simp [serveServerStream, hmsg, herr]

lemma EndsWith.step {msg : GRPCStreamMessage R} {e : GRPCError} (hmsg : mock.stream[i]? = some msg)
    (herr : msg.error = some e) {ev : BidiEvent}
    (h : EndsWith (statusError (safeGRPCCode e.code) e.message) (.event i) w s.call)
    (hstep : bidiStep marshal mock s ev = some s') :
    EndsWith (statusError (safeGRPCCode e.code) e.message) (.event i) w s'.call := by
  rcases h with ⟨hphase, hw⟩ | ⟨hphase, hw⟩
  · cases of_bidiStep hstep with
    | clientSend | halfClose | recvMessage | recvFailed | deaf => exact .inl ⟨hphase, hw⟩
    | answered h _ | hungUp h _ =>
      rw [hphase] at h
      cases h
    | loop _ _ hloop =>
      cases Step.of_step hloop with
      | advance | find | pushed | pushFailed | close | disconnect | unregister =>
        exact .inl ⟨hphase, hw⟩
      | takeDone h | takeClose h | takePush h | takeTimer h | closed h =>
        rw [hphase] at h
        cases h
      | sent h hsend =>
        rw [hphase] at h
        cases h
        rw [send_error hmsg herr] at hsend
        cases hsend
      | failed h hsend =>
        rw [hphase] at h
        cases h
        rw [send_error hmsg herr] at hsend
        cases hsend
        exact .inr ⟨rfl, congrArg (· ++ _) hw⟩
  · exact .inr (ended_bidi_step ⟨hphase, hw⟩ hstep)

lemma ClosedAfter.bidi_step {errMsg : GoString}
    (h : ClosedAfter (serveServerStream marshal mock.stream) errMsg w s.call)
    (hstep : bidiStep marshal mock s e = some s') :
    ClosedAfter (serveServerStream marshal mock.stream) errMsg w s'.call := by
  cases of_bidiStep hstep with
  | loop _ _ hloop => exact h.step hloop
  | clientSend | halfClose | recvMessage | recvFailed | deaf => exact h
  | answered hphase _ | hungUp hphase _ =>
    rcases h with ⟨hu, -⟩ | ⟨hu, -⟩ <;> rw [hu] at hphase <;> cases hphase

/-- A cancellation or a request to close the call is taken, or something cannot be sent. -/
def EndsCall (marshal : R → Except GoString GoString) (mock : GRPCStreamMock R) (s : Bidi)
    (e : BidiEvent) : Prop :=
  e = .call .takeDone ∨ e = .call .takeClose ∨
    ∃ γ item last, e = .call (.finish γ) ∧ s.call.phase = .sending item ∧
      (serveServerStream marshal mock.stream).send γ item = .ended last

lemma going_step (hopen : mock.keepOpen = true) (h : s.call.phase.over = false)
    (hends : ¬ EndsCall marshal mock s e) (hstep : bidiStep marshal mock s e = some s') :
    s'.call.phase.over = false := by
  cases of_bidiStep hstep with
  | clientSend | halfClose | recvMessage | recvFailed | deaf => exact h
  | answered _ _ =>
    dsimp only [answer]
    split_ifs
    · rfl
    · exact h
  | hungUp _ hclosed =>
    rw [hopen] at hclosed
    cases hclosed
  | loop _ _ hloop =>
    cases Step.of_step hloop with
    | advance | find | pushed | pushFailed | close | disconnect | unregister => exact h
    | takePush | takeTimer | sent => rfl
    | takeDone => exact absurd (.inl rfl) hends
    | takeClose => exact absurd (.inr (.inl rfl)) hends
    | failed hphase hsend =>
      exact absurd (.inr (.inr ⟨_, _, _, rfl, hphase, hsend⟩)) hends
    | closed hphase =>
      rw [hphase] at h
      cases h

end

/-- What has been sent is in order; an entry with an error ends the call with its status, and
nothing comes after it; after a close or a cancellation only a status is sent. And nothing else ends
a call that is kept open. -/
theorem bidi_in_order {R : Type} (marshal : R → Except GoString GoString)
    (mock : GRPCStreamMock R) (now : ℤ) (events : List BidiEvent) (s : Bidi)
    (hrun : run (bidiStep marshal mock) (Bidi.start marshal mock now) events = some s) :
    SendsInOrder marshal mock s ∧
    (∀ i msg e, s.call.phase = .sending (.event i) → mock.stream[i]? = some msg →
      msg.error = some e → ∀ later t, run (bidiStep marshal mock) s later = some t →
        EndsWith (statusError (safeGRPCCode e.code) e.message) (.event i) s.call.written t.call) ∧
    (∀ later t, run (bidiStep marshal mock) s (.call .takeClose :: later) = some t →
      ∃ errMsg, s.call.closeCh = some errMsg ∧
        ClosedAfter (serveServerStream marshal mock.stream) errMsg s.call.written t.call) ∧
    (∀ later t, run (bidiStep marshal mock) s (.call .takeDone :: later) = some t →
      t.call.phase = .ended ∧ t.call.written = s.call.written ++ [.status codeOK []]) ∧
    (mock.keepOpen = true →
      Along (bidiStep marshal mock) (fun s e => ¬ EndsCall marshal mock s e)
        (Bidi.start marshal mock now) events → s.call.phase.over = false) := by
  refine ⟨sendsInOrder_of_run hrun, fun i msg e hphase hmsg herr later t hlater => ?_,
    fun later t hlater => ?_, fun later t hlater => ?_, fun hopen hends => ?_⟩
  · exact run_preserves (fun u _ _ (h : EndsWith _ _ _ u.call) => h.step hmsg herr)
      (.inl ⟨hphase, rfl⟩) hlater
  · obtain ⟨u, hu, hlater⟩ := run_cons.mp hlater
    cases BStep.of_bidiStep hu with
    | loop _ _ hloop =>
      cases Step.of_step hloop with
      | @takeClose _ errMsg hch =>
        refine ⟨errMsg, hch, run_preserves (fun _ _ _ => ClosedAfter.bidi_step) ?_ hlater⟩
        exact .inl ⟨rfl, rfl⟩
  · obtain ⟨u, hu, hlater⟩ := run_cons.mp hlater
    cases BStep.of_bidiStep hu with
    | loop _ _ hloop =>
      cases Step.of_step hloop with
      | takeDone _ _ => exact run_preserves (fun _ _ _ => ended_bidi_step) ⟨rfl, rfl⟩ hlater
  · exact run_invariant (fun _ _ _ h hok hstep => going_step hopen h hok hstep) rfl hends hrun

def oneEntry : GRPCStreamMock GoString := ⟨[{ response := go "one" }], true⟩

def halfClosing : List BidiEvent :=
  [.clientSend, .recv .message, .clientSend, .halfClose, .call .find, .call (.push (go "two")),
    .takeRecv, .recv .message, .call (.finish none), .takeRecv, .recv .failed, .takeRecv,
    .call .takePush, .call (.finish none)]

theorem bidi_in_order_halfClosing :
    ∃ s, run (bidiStep .ok oneEntry) (Bidi.start .ok oneEntry 0) halfClosing = some s ∧
      s.call.written = [.message (go "one"), .message (go "two")] ∧ s.call.phase = .waiting ∧
      SendsInOrder .ok oneEntry s := by
  obtain ⟨s, hrun, hwritten, hphase⟩ : ∃ s,
      run (bidiStep .ok oneEntry) (Bidi.start .ok oneEntry 0) halfClosing = some s ∧
        s.call.written = [.message (go "one"), .message (go "two")] ∧ s.call.phase = .waiting :=
    ⟨_, rfl, rfl, rfl⟩
  exact ⟨s, hrun, hwritten, hphase, (bidi_in_order .ok oneEntry 0 halfClosing s hrun).1⟩

end Mockly.Streams
