import Mockly.Streams.Loop
import Mockly.HTTPServer.Reply

/-!
# The servers with streams

The servers differ in what a message is, in what can go wrong with one, and in how a stream ends. A
template is executed when its event is due, so that each event meets template engines of its own.

Main result: **`streams_in_order`**.
-/

namespace Mockly.Streams

open Transition List

/-- What the template engines make of a template at one moment. -/
structure Templates where
  text : GoString → RequestContext → Option GoString
  html : GoString → RequestContext → Option GoString

def Templates.at (τ : Templates) (env : Env) : Env :=
  { env with textTemplate := τ.text, htmlTemplate := τ.html }

def noTemplates : Templates := ⟨fun _ _ => none, fun _ _ => none⟩

/-! ## HTTP -/

/-- `writeStream` for a stream that is kept open. -/
def writeStream (env : Env) (ctx : RequestContext) (wireType : GoString) (stream : HTTPStream) :
    Sender Templates (List Piece) where
  delays := stream.events.map HTTPStreamEvent.delay
  send := fun τ item =>
    match item with
    | .event i =>
      match stream.events[i]? with
      | some ev =>
        .sent (frameEvent env wireType ev (renderEvent (τ.at env) ctx wireType ev.data))
      | none => .ended none
    | .pushed data => .sent (frameEvent env wireType { data := [] } (.fixed data))
  closing := fun errMsg =>
    if errMsg ≠ [] then
      some (frameEvent env wireType { data := [], event := go "error" } (.fixed errMsg))
    else none
  gone := none

/-! ## GraphQL -/

structure GraphqlWSMessage where
  id : GoString := []
  type : GoString
  payload : GoString := []

structure GraphQLStreamEvent where
  data : GoString
  delay : ℤ := 0

def wsErrorPayload (env : Env) (message : GoString) : GoString :=
  env.jsonMarshal (.arr [.obj [(go "message", .str message)]])

/-- `sendEvent` of `runSubscription`; `jsonValid` is `json.Valid`. -/
def sendEvent (env : Env) (jsonValid : GoString → Bool) (id data : GoString) :
    Sending GraphqlWSMessage :=
  if jsonValid data then .sent ⟨id, go "next", data⟩
  else
    .ended (some ⟨id, go "error",
      wsErrorPayload env (go "stream event data is not valid JSON: " ++ env.quote data)⟩)

/-- The loop of `runSubscription`. -/
def runSubscription (env : Env) (jsonValid : GoString → Bool) (ctx : RequestContext)
    (id : GoString) (stream : List GraphQLStreamEvent) : Sender Templates GraphqlWSMessage where
  delays := stream.map GraphQLStreamEvent.delay
  send := fun τ item =>
    match item with
    | .event i =>
      match stream[i]? with
      | some ev => sendEvent env jsonValid id (render (τ.at env) ev.data ctx).text
      | none => .ended none
    | .pushed data => sendEvent env jsonValid id data
  closing := fun errMsg =>
    if errMsg ≠ [] then some ⟨id, go "error", wsErrorPayload env errMsg⟩
    else some ⟨id, go "complete", []⟩
  gone := none

/-! ## gRPC -/

structure GRPCError where
  code : ℤ
  message : GoString

structure GRPCStreamMessage (R : Type) where
  response : R
  error : Option GRPCError := none
  delay : ℤ := 0

/-- What a call sends: messages, and at the end a status. -/
inductive GRPCSent
  | message (body : GoString)
  | status (code : ℕ) (message : GoString)

/-- `codes.OK`, `codes.Unknown`, `codes.Aborted` and `codes.Internal`. -/
def codeOK : ℕ := 0

def codeUnknown : ℕ := 2

def codeAborted : ℕ := 10

def codeInternal : ℕ := 13

def safeGRPCCode (n : ℤ) : ℕ := if n < 0 ∨ n > 16 then codeUnknown else n.toNat

/-- `status.Error`, which is no error for `codes.OK`. -/
def statusError (code : ℕ) (message : GoString) : GRPCSent :=
  if code = codeOK then .status codeOK [] else .status code message

/-- `stream.SendMsg`; `err` is the status of the error it returns, if any. -/
def sendMsg (err : Option (ℕ × GoString)) (body : GoString) : Sending GRPCSent :=
  match err with
  | none => .sent (.message body)
  | some (code, message) => .ended (some (statusError code message))

/-- `serveServerStream` for a stream that is kept open; `marshal` is `json.Marshal`. -/
def serveServerStream {R : Type} (marshal : R → Except GoString GoString)
    (stream : List (GRPCStreamMessage R)) : Sender (Option (ℕ × GoString)) GRPCSent where
  delays := stream.map GRPCStreamMessage.delay
  send := fun err item =>
    match item with
    | .event i =>
      match stream[i]? with
      | some msg =>
        match msg.error with
        | some e => .ended (some (statusError (safeGRPCCode e.code) e.message))
        | none =>
          match marshal msg.response with
          | .error e =>
            .ended (some (statusError codeInternal
              (go "marshalling mock stream message: " ++ e)))
          | .ok body => sendMsg err body
      | none => .ended none
    | .pushed data => sendMsg err data
  closing := fun errMsg =>
    if errMsg ≠ [] then some (statusError codeAborted errMsg) else some (.status codeOK [])
  gone := some (.status codeOK [])

/-! ## Their order -/

variable {n : ℕ}

section

variable {Γ M : Type}

/-- What a stream writes is in order: messages of its first events, each as `frame` has it, and of
the data that was pushed, each as `pushed` has it, and when it has ended perhaps a `final` one.
Nothing but `closing` is written after a request to close the stream has been taken, and nothing but
`gone` after that the client has gone. -/
def InOrder {E : Type} (snd : Sender Γ M) (events : List E) (frame : E → M → Prop)
    (pushed : GoString → M → Prop) (final : M → Prop) (closing : GoString → Option M)
    (gone : Option M) : Prop :=
  ∀ (now : ℤ) (as : List (Event Γ)) (s : Stream M), run (step snd) (snd.start now) as = some s →
    (∃ n ds xs ys zs last, s.written = zs ++ Option.toList last ∧
      (∀ m, last = some m → s.phase = .ended ∧ final m) ∧ Interleaves xs ys zs ∧
      List.Forall₂ frame (events.take n) xs ∧
      ds <+: s.accepted ∧ List.Forall₂ pushed ds ys) ∧
    (∀ bs t, run (step snd) s (.takeClose :: bs) = some t →
      ∃ errMsg, s.closeCh = some errMsg ∧
        (t.phase = .closing errMsg ∧ t.written = s.written ∨
          t.phase = .ended ∧ t.written = s.written ++ (closing errMsg).toList)) ∧
    ∀ bs t, run (step snd) s (.takeDone :: bs) = some t → t.written = s.written ++ gone.toList

lemma Progress.final {snd : Sender Γ M} {s : Stream M} {m : M}
    (h : Progress snd s n (some m)) : s.phase = .ended ∧ snd.Final m := by
  have hphase : s.phase = .ended := by
    by_contra hphase
    exact Option.some_ne_none m (h.last_eq_none hphase)
  rw [Progress, hphase] at h
  exact ⟨hphase, h m rfl⟩

lemma filterMap_getElem?_range {E : Type} (events : List E) (n : ℕ) :
    (List.range n).filterMap (events[·]?) = events.take n := by
  induction n with
  | zero => rfl
  | succ n ih =>
    rw [range_succ, filterMap_append, ih, take_add_one]
    congr 1

lemma forall₂_filterMap {E I : Type} {f : I → Option E} {frame : E → M → Prop} {items : List I}
    {msgs : List M} (h : List.Forall₂ (fun i m => ∃ ev, f i = some ev ∧ frame ev m) items msgs) :
    List.Forall₂ frame (items.filterMap f) msgs := by
  induction h with
  | nil => exact .nil
  | cons hev _ ih =>
    obtain ⟨ev, hf, hframe⟩ := hev
    rw [filterMap_cons_some hf]
    exact .cons hframe ih

/-- **A sender writes in order**, where its messages are what the two relations say. -/
lemma inOrder {E : Type} {snd : Sender Γ M} {events : List E} {frame : E → M → Prop}
    {pushed : GoString → M → Prop} {final : M → Prop}
    (hevent : ∀ γ i m, snd.send γ (.event i) = .sent m → ∃ ev, events[i]? = some ev ∧ frame ev m)
    (hpushed : ∀ γ data m, snd.send γ (.pushed data) = .sent m → pushed data m)
    (hfinal : ∀ m, snd.Final m → final m) :
    InOrder snd events frame pushed final snd.closing snd.gone := by
  intro now as s hrun
  obtain ⟨n, last, xs, ys, zs, ho, hprogress⟩ := inv_of_run hrun
  have hxs : List.Forall₂ frame (events.take n) xs := by
    rw [← filterMap_getElem?_range]
    refine forall₂_filterMap ((forall₂_map_left_iff.mp ho.configured).imp ?_)
    rintro i m ⟨γ, hsend⟩
    exact hevent γ i m hsend
  have hys : List.Forall₂ pushed s.delivered ys := by
    refine (forall₂_map_left_iff.mp ho.pushed).imp ?_
    rintro data m ⟨γ, hsend⟩
    exact hpushed γ data m hsend
  have hlast : ∀ m, last = some m → s.phase = .ended ∧ final m := by
    rintro m rfl
    exact hprogress.final.imp_right (hfinal m)
  refine ⟨⟨n, s.delivered, xs, ys, zs, last, ho.written, hlast, ho.merged, hxs, ho.accepted, hys⟩,
    fun bs t hclose => ?_, fun bs t hdone => ?_⟩
  · obtain ⟨u, hu, hrest⟩ := run_cons.mp hclose
    cases Step.of_step hu with
    | takeClose hphase hch =>
      have hclosed := written_of_closing rfl hrest
      exact ⟨_, hch, hclosed⟩
  · obtain ⟨u, hu, hrest⟩ := run_cons.mp hdone
    cases Step.of_step hu with
    | takeDone hphase _ => exact (written_of_ended rfl hrest).2

end

lemma sendEvent_sent {env : Env} {jsonValid : GoString → Bool} {id data : GoString}
    {m : GraphqlWSMessage} (h : sendEvent env jsonValid id data = .sent m) :
    jsonValid data = true ∧ m = ⟨id, go "next", data⟩ := by
  rw [sendEvent] at h
  split_ifs at h with hvalid
  cases h
  exact ⟨hvalid, rfl⟩

lemma sendEvent_ended {env : Env} {jsonValid : GoString → Bool} {id data : GoString}
    {m : GraphqlWSMessage} (h : sendEvent env jsonValid id data = .ended (some m)) :
    m.type = go "error" := by
  rw [sendEvent] at h
  split_ifs at h
  cases h
  rfl

def GRPCSent.isMessage : GRPCSent → Bool
  | .message _ => true
  | .status _ _ => false

section GRPC

variable {R : Type} {marshal : R → Except GoString GoString} {stream : List (GRPCStreamMessage R)}
  {γ : Option (ℕ × GoString)} {last : Option GRPCSent}

lemma isMessage_statusError (code : ℕ) (message : GoString) :
    (statusError code message).isMessage = false := by
  unfold statusError
  split_ifs <;> rfl

lemma sendMsg_eq_sent {body : GoString} {msg : GRPCSent} (h : sendMsg γ body = .sent msg) :
    msg = .message body := by
  cases γ with
  | none =>
    cases h
    rfl
  | some err => cases h

lemma sendMsg_eq_ended {body : GoString} (h : sendMsg γ body = .ended last) :
    ∀ x ∈ last, x.isMessage = false := by
  cases γ with
  | none => cases h
  | some err =>
    cases h
    rintro x ⟨⟩
    exact isMessage_statusError _ _

lemma send_event_eq_sent {i : ℕ} {sent : GRPCSent}
    (h : (serveServerStream marshal stream).send γ (.event i) = .sent sent) :
    ∃ msg body, stream[i]? = some msg ∧ msg.error = none ∧ marshal msg.response = .ok body ∧
      sent = .message body := by
  simp only [serveServerStream] at h
  split at h
  · rename_i msg hmsg
    cases herr : msg.error with
    | some e =>
      rw [herr] at h
      cases h
    | none =>
      rw [herr] at h
      cases hbody : marshal msg.response with
      | error e =>
        rw [hbody] at h
        cases h
      | ok body =>
        rw [hbody] at h
        exact ⟨msg, body, hmsg, herr, hbody, sendMsg_eq_sent h⟩
  · cases h

lemma send_eq_ended {item : Item}
    (h : (serveServerStream marshal stream).send γ item = .ended last) :
    ∀ x ∈ last, x.isMessage = false := by
  cases item with
  | pushed data => exact sendMsg_eq_ended h
  | event i =>
    simp only [serveServerStream] at h
    split at h
    · rename_i msg hmsg
      cases herr : msg.error with
      | some e =>
        rw [herr] at h
        cases h
        rintro x ⟨⟩
        exact isMessage_statusError _ _
      | none =>
        rw [herr] at h
        cases hbody : marshal msg.response with
        | error e =>
          rw [hbody] at h
          cases h
          rintro x ⟨⟩
          exact isMessage_statusError _ _
        | ok body =>
          rw [hbody] at h
          exact sendMsg_eq_ended h
    · cases h
      rintro x ⟨⟩

lemma closing_isMessage {errMsg : GoString} :
    ∀ x ∈ (serveServerStream marshal stream).closing errMsg, x.isMessage = false := by
  simp only [serveServerStream]
  split_ifs
  · rintro x ⟨⟩
    exact isMessage_statusError _ _
  · rintro x ⟨⟩
    rfl

end GRPC

/-- **Every stream that is kept open writes in order**: its frames, its `next` messages, or its
messages, and at the end an error, `complete`, or the status of the call. -/
theorem streams_in_order :
    (∀ env ctx wireType stream, InOrder (writeStream env ctx wireType stream) stream.events
      (fun ev m => ∃ τ : Templates,
        m = frameEvent env wireType ev (renderEvent (τ.at env) ctx wireType ev.data))
      (fun data m => m = frameEvent env wireType { data := [] } (.fixed data))
      (fun m => ∃ errMsg,
        m = frameEvent env wireType { data := [], event := go "error" } (.fixed errMsg))
      (fun errMsg => if errMsg ≠ [] then
        some (frameEvent env wireType { data := [], event := go "error" } (.fixed errMsg))
        else none)
      none) ∧
    (∀ env jsonValid ctx id stream, InOrder (runSubscription env jsonValid ctx id stream) stream
      (fun ev m => ∃ τ : Templates, jsonValid (render (τ.at env) ev.data ctx).text = true ∧
        m = ⟨id, go "next", (render (τ.at env) ev.data ctx).text⟩)
      (fun data m => jsonValid data = true ∧ m = ⟨id, go "next", data⟩)
      (fun m => m.type = go "error" ∨ m = ⟨id, go "complete", []⟩)
      (fun errMsg => if errMsg ≠ [] then some ⟨id, go "error", wsErrorPayload env errMsg⟩
        else some ⟨id, go "complete", []⟩)
      none) ∧
    ∀ (R : Type) (marshal : R → Except GoString GoString) stream,
      InOrder (serveServerStream marshal stream) stream
        (fun msg m => msg.error = none ∧
          ∃ body, marshal msg.response = .ok body ∧ m = .message body)
        (fun data m => m = .message data)
        (fun m => ∃ code message, m = .status code message)
        (fun errMsg => if errMsg ≠ [] then some (.status 10 errMsg) else some (.status 0 []))
        (some (.status 0 [])) := by
  refine ⟨fun env ctx wireType stream => ?_, fun env jsonValid ctx id stream => ?_,
    fun R marshal stream => ?_⟩
  · refine inOrder (fun τ i m h => ?_) (fun τ data m h => ?_) ?_
    · simp only [writeStream] at h
      split at h <;> cases h
      exact ⟨_, by assumption, τ, rfl⟩
    · cases h
      rfl
    · rintro m (⟨τ, i | data, h⟩ | ⟨errMsg, h⟩ | h)
      · simp only [writeStream] at h
        split at h <;> cases h
      · cases h
      · simp only [writeStream] at h
        split at h <;> cases h
        exact ⟨errMsg, rfl⟩
      · cases h
  · refine inOrder (fun τ i m h => ?_) (fun τ data m h => sendEvent_sent h) ?_
    · simp only [runSubscription] at h
      split at h
      · exact ⟨_, by assumption, τ, sendEvent_sent h⟩
      · cases h
    · rintro m (⟨τ, i | data, h⟩ | ⟨errMsg, h⟩ | h)
      · simp only [runSubscription] at h
        split at h
        · exact .inl (sendEvent_ended h)
        · cases h
      · exact .inl (sendEvent_ended h)
      · simp only [runSubscription] at h
        split at h <;> cases h
        · exact .inl rfl
        · exact .inr rfl
      · cases h
  · refine inOrder (fun err i m h => ?_) (fun err data m h => sendMsg_eq_sent h) ?_
    · obtain ⟨msg, body, hmsg, herr, hbody, rfl⟩ := send_event_eq_sent h
      exact ⟨msg, hmsg, herr, body, hbody, rfl⟩
    · rintro (body | ⟨code, message⟩) h
      · rcases h with ⟨err, item, h⟩ | ⟨errMsg, h⟩ | h
        · cases send_eq_ended h _ rfl
        · cases closing_isMessage _ h
        · cases h
      · exact ⟨code, message, rfl⟩

def promptEvent : Sender Templates (List Piece) :=
  writeStream .basic ⟨[], [], ∅, ∅, [], ∅⟩ [] ⟨[{ data := go "a" }], true⟩

/-- An event, a push, and a request to close with an error. -/
def pushAndClose : List (Event Templates) :=
  [.takeTimer, .finish noTemplates, .find, .push (go "x"), .takePush, .finish noTemplates, .find,
    .close (go "bye")]

theorem streams_in_order_closed :
    ∃ s, run (step promptEvent) (promptEvent.start 0) pushAndClose = some s ∧
      s.written = [[.fixed (go "a")], [.fixed (go "x")]] ∧
      ∀ bs t, run (step promptEvent) s (.takeClose :: bs) = some t → t.phase = .ended →
        t.written = s.written ++ [[.fixed (go "bye")]] := by
  obtain ⟨s, hrun, hwritten, hch⟩ : ∃ s, run (step promptEvent) (promptEvent.start 0) pushAndClose =
      some s ∧ s.written = [[.fixed (go "a")], [.fixed (go "x")]] ∧ s.closeCh = some (go "bye") :=
    ⟨_, rfl, rfl, rfl⟩
  refine ⟨s, hrun, hwritten, fun bs t hclose hended => ?_⟩
  obtain ⟨errMsg, herr, hlast⟩ := (streams_in_order.1 _ _ _ _ 0 _ s hrun).2.1 bs t hclose
  rw [hch] at herr
  cases herr
  rcases hlast with ⟨hphase, -⟩ | ⟨-, hlast⟩
  · rw [hended] at hphase
    cases hphase
  · exact hlast

/-! ## The turns of an HTTP stream -/

section Turns

variable {env : Env} {ctx : RequestContext} {wireType : GoString} {stream : HTTPStream}
  {τ : Templates}

def TookTurns (env : Env) (ctx : RequestContext) (wireType : GoString) (stream : HTTPStream)
    (turns : List StreamTurn) (s : Stream (List Piece)) (n : ℕ) : Prop :=
  ∀ more, keepOpenEvents env ctx wireType stream.events (turns ++ more) =
    s.written.flatten ++ keepOpenEvents env ctx wireType (stream.events.drop n) more

/-- The loop has written what the turns write. -/
def Replays (env : Env) (ctx : RequestContext) (wireType : GoString) (stream : HTTPStream)
    (s : Stream (List Piece)) : Prop :=
  ∃ turns, match s.phase with
    | .sending (.event i) => s.idx = i + 1 ∧ TookTurns env ctx wireType stream turns s i
    | .ended => s.written.flatten = keepOpenEvents env ctx wireType stream.events turns
    | _ => TookTurns env ctx wireType stream turns s s.idx

variable {s : Stream (List Piece)}

lemma TookTurns.turn {turns : List StreamTurn} {s' : Stream (List Piece)} {n' : ℕ}
    (h : TookTurns env ctx wireType stream turns s n) (turn : StreamTurn) {out : List Piece}
    (hwritten : s'.written = s.written ++ [out])
    (hout : ∀ more, keepOpenEvents env ctx wireType (stream.events.drop n) (turn :: more) =
      out ++ keepOpenEvents env ctx wireType (stream.events.drop n') more) :
    TookTurns env ctx wireType stream (turns ++ [turn]) s' n' := by
  intro more
  rw [append_assoc, singleton_append, h, hout, hwritten]
  simp

lemma TookTurns.last {turns : List StreamTurn} (h : TookTurns env ctx wireType stream turns s n)
    (more : List StreamTurn) {last : Option (List Piece)} (hlast : last.toList.flatten =
      keepOpenEvents env ctx wireType (stream.events.drop n) more) :
    (s.finished last).written.flatten =
      keepOpenEvents env ctx wireType stream.events (turns ++ more) := by
  rw [h, ← hlast, Stream.finished, flatten_append]

lemma Replays.step {s' : Stream (List Piece)} {a : Event Templates}
    (h : Replays (τ.at env) ctx wireType stream s) (ha : ∀ γ, a = .finish γ → γ = τ)
    (hstep : step (writeStream env ctx wireType stream) s a = some s') :
    Replays (τ.at env) ctx wireType stream s' := by
  obtain ⟨turns, h⟩ := h
  cases Step.of_step hstep with
  | advance | find | pushed | pushFailed | close | disconnect | unregister => exact ⟨turns, h⟩
  | takeDone hphase =>
    rw [hphase] at h
    exact ⟨_, h.last [.done] (by simp [writeStream, keepOpenEvents])⟩
  | takeClose hphase | takePush hphase =>
    rw [hphase] at h
    exact ⟨turns, h⟩
  | takeTimer hphase =>
    rw [hphase] at h
    exact ⟨turns, rfl, h⟩
  | @sent γ item msg hphase hsend =>
    obtain rfl := ha γ rfl
    rw [hphase] at h
    cases item with
    | event i =>
      simp only [writeStream] at hsend
      split at hsend
      · rename_i ev hev
        cases hsend
        obtain ⟨hidx, h⟩ := h
        obtain ⟨hlt, hget⟩ := List.getElem?_eq_some_iff.mp hev
        refine ⟨_, h.turn .timer rfl fun more => ?_⟩
        rw [drop_eq_getElem_cons hlt, hget, keepOpenEvents]
        simp only [Stream.sent, hidx]
        rfl
      · cases hsend
    | pushed data =>
      cases hsend
      refine ⟨_, h.turn (.push data) rfl fun more => ?_⟩
      rw [keepOpenEvents]
      rfl
  | @failed γ item last hphase hsend =>
    rw [hphase] at h
    cases item with
    | event i =>
      simp only [writeStream] at hsend
      split at hsend
      · cases hsend
      · cases hsend
        exact ⟨_, h.2.last [] (by simp [keepOpenEvents])⟩
    | pushed data => cases hsend
  | @closed γ errMsg hphase =>
    rw [hphase] at h
    refine ⟨_, h.last [.close errMsg] ?_⟩
    by_cases hmsg : errMsg = [] <;>
      simp [writeStream, keepOpenEvents, hmsg, frameEvent, Templates.at]

lemma Replays.exists_turns (h : Replays env ctx wireType stream s) :
    ∃ turns, s.written.flatten = keepOpenEvents env ctx wireType stream.events turns := by
  obtain ⟨turns, h⟩ := h
  have hstop : ∀ n, TookTurns env ctx wireType stream turns s n →
      s.written.flatten = keepOpenEvents env ctx wireType stream.events turns := by
    intro n htook
    simpa [keepOpenEvents] using (htook []).symm
  refine ⟨turns, ?_⟩
  split at h
  · exact hstop _ h.2
  · exact h
  · exact hstop _ h

/-- **A run writes what the reply says for the turns it has taken**, if the templates do not change
on the way. -/
theorem written_eq_writeStream {now : ℤ} {as : List (Event Templates)}
    (hrun : run (step (writeStream env ctx wireType stream))
      ((writeStream env ctx wireType stream).start now) as = some s)
    (hτ : ∀ a ∈ as, ∀ γ, a = .finish γ → γ = τ) (hopen : stream.keepOpen = true) :
    ∃ turns, s.written.flatten = Mockly.writeStream (τ.at env) ctx wireType stream turns := by
  have hstart : Replays (τ.at env) ctx wireType stream
      ((writeStream env ctx wireType stream).start now) := ⟨[], fun more => rfl⟩
  have hreplays := run_invariant (fun _ a _ => Replays.step (a := a)) hstart
    (along_of_forall_mem hτ) hrun
  simp only [Mockly.writeStream, hopen, if_true]
  exact hreplays.exists_turns

theorem written_eq_writeStream_pushed :
    let snd := writeStream .basic ⟨[], [], ∅, ∅, [], ∅⟩ [] ⟨[], true⟩
    let as := [.find, .push (go "x"), .takePush, .finish noTemplates]
    ∃ s, run (step snd) (snd.start 0) as = some s ∧ ∃ turns, s.written.flatten =
      Mockly.writeStream (noTemplates.at .basic) ⟨[], [], ∅, ∅, [], ∅⟩ [] ⟨[], true⟩ turns := by
  intro snd as
  obtain ⟨s, hrun⟩ : ∃ s, run (step snd) (snd.start 0) as = some s := ⟨_, rfl⟩
  exact ⟨s, hrun, written_eq_writeStream hrun (by simp [as]) rfl⟩

end Turns

end Mockly.Streams
