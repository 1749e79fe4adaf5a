import Mockly.Brokers.Servers

/-!
# Responses that come back

`OnPublish` means to skip what the server itself has published and asks for a client that is `nil`,
but there is a client for that too. `natsserver` does not ask.

Main result: **`answered_once_iff`**.
-/

namespace Mockly.Brokers

open Transition NATS MQTT

variable {E : Moment → Prop}

/-! ## One response at most -/

lemma MQTT.alwaysQuiet_iff {mocks : List MQTTMock} {id : GoString} {pk : Packet} :
    (server mocks).AlwaysQuiet E (external id pk) ↔
      ∀ γ γ', E γ → E γ' → ∀ p, onPublish mocks γ pk = some p → respond γ' p = none := by
  have hexternal (γ : Moment) : (server mocks).receivers γ (external id pk) = [()] :=
    receivers_of_client γ nofun
  rw [Responder.quiet_iff]
  constructor
  · rintro ⟨-, hunheard⟩ γ γ' hγ hγ' p hp
    by_contra hresponds
    obtain ⟨m, hm⟩ := Option.ne_none_iff_exists'.mp hresponds
    have hnil := hunheard γ hγ () (by simp [hexternal]) γ hγ p hp γ' hγ' m hm
    rw [receivers_of_client γ' (by simp [client_of_respond hm])] at hnil
    cases hnil
  · refine fun hnever => ⟨fun γ _ => ?_, fun γ _ h _ γ₁ hγ₁ p hp γ₂ hγ₂ m hm => ?_⟩
    · rw [hexternal]
      exact List.pairwise_singleton _ _
    · cases (hnever γ₁ γ₂ hγ₁ hγ₂ p hp).symm.trans hm

variable {accepts : GoString → GoString → Bool}

lemma NATS.alwaysQuiet_iff {mocks : List NATSMock} {msg : Msg} :
    (server accepts mocks).AlwaysQuiet E msg ↔
      (server accepts mocks).OneAnswers E msg ∧
      ∀ γ, E γ → ∀ h ∈ receivers (resubscribe accepts mocks) γ msg.subject,
        ∀ γ', E γ' → ∀ p, handle mocks γ' h msg = some p →
          ∀ γ'', E γ'' → ∀ out, respond γ'' p = some out →
            Unheard (resubscribe accepts mocks) γ'' out.subject := by
  simp [Responder.quiet_iff, Responder.AnswersUnheard, server, receivers_eq_nil_iff]

/-- **When the servers answer a message once and leave the answer alone.** -/
theorem answered_once_iff (E : Moment → Prop) :
    (∀ mocks id pk, (server mocks).AlwaysQuiet E (external id pk) ↔
      ∀ γ γ', E γ → E γ' → ∀ p, onPublish mocks γ pk = some p → respond γ' p = none) ∧
    (∀ accepts mocks msg, (server accepts mocks).AlwaysQuiet E msg ↔
      (server accepts mocks).OneAnswers E msg ∧
      ∀ γ, E γ → ∀ h ∈ receivers (resubscribe accepts mocks) γ msg.subject,
        ∀ γ', E γ' → ∀ p, handle mocks γ' h msg = some p →
          ∀ γ'', E γ'' → ∀ out, respond γ'' p = some out →
            NATS.Unheard (resubscribe accepts mocks) γ'' out.subject) :=
  ⟨fun _ _ _ => alwaysQuiet_iff, fun _ _ _ => alwaysQuiet_iff⟩

def Moment.calm : Moment where
  content := fun _ => []
  faulted := false
  env := Env.basic
  refuses := fun _ => false
  member := fun _ => 0

def NATS.greet : NATSMock where
  subject := go "greet"
  queueGroup := go "greeters"
  response := some { payload := go "hello" }

lemma NATS.unheard_inbox :
    Unheard (resubscribe (fun _ _ => true) [greet]) .calm (go "inbox") := by
  refine .inr ⟨rfl, fun g => ?_⟩
  have hcovers : covers greet.subject (go "inbox") = false := by decide
  have hsubs : (resubscribe (fun _ _ => true) [greet]).queueSubs = [greet] := rfl
  simp [members, hsubs, hcovers]

/-- A request that a queue group answers: one response, which the server does not see. -/
theorem answered_once_iff_request :
    (server (fun _ _ => true) [greet]).AlwaysQuiet (· = .calm)
      { subject := go "greet", reply := go "inbox", data := [] } := by
  refine ((answered_once_iff _).2 _ _ _).mpr ⟨?_, ?_⟩
  · rintro _ rfl
    exact List.pairwise_singleton _ (NATS.Receiver.queue greet)
  · rintro _ rfl h hh _ rfl p hp _ rfl out hout
    obtain rfl := List.mem_singleton.mp (show h ∈ [NATS.Receiver.queue greet] from hh)
    cases hp
    cases hout
    exact unheard_inbox

/-! ## Mocks for everything -/

def Moment.Clear (γ : Moment) : Prop := γ.faulted = false ∧ ∀ dest, γ.refuses dest = false

variable {γ : Moment}

namespace MQTT

lemma feeding_of_hash (hγ : γ.Clear) (resp : MQTTResponse) (mocks : List MQTTMock) :
    (server ({ topic := go "#", response := some resp } :: mocks)).Feeding γ
      fun m => m.client ≠ none := by
  intro m hm
  refine ⟨(), by simp [receivers_of_client γ hm], ⟨resp, m.packet.topicName,
    requestContext m.packet.topicName m.packet.payload ∅⟩, _, ?_, if_neg (by simp [hγ.2]), nofun⟩
  simp [server, onPublish, matchMock, stateHolds, matchMQTTTopic_hash, hγ.1]

end MQTT

namespace NATS

lemma respond_of_fixed (hγ : γ.Clear) {p : Pending} (hreply : p.msg.reply = [])
    (hne : p.resp.subject ≠ []) (hfixed : contains p.resp.subject templateOpen = false) :
    respond γ p = some ⟨p.resp.subject, [], (render γ.env p.resp.payload p.reqCtx).text⟩ := by
  simp [respond, hreply, hne, hγ.2, render_eq_of_not_template γ.env hfixed, Piece.fixed]

/-- A first mock for `>` outside the queue groups answers everything that has no reply subject,
also its own responses. -/
lemma feeding_of_greater (hγ : γ.Clear) {resp : NATSResponse}
    (hfixed : contains resp.subject templateOpen = false) (hsubject : [] ∉ split resp.subject dot)
    {mocks : List NATSMock} (hsubs : (queueSubscribe accepts mocks).2 = true) :
    (server accepts ({ subject := go ">", response := some resp } :: mocks)).Feeding γ
      fun m => m.reply = [] ∧ [] ∉ split m.subject dot := by
  have hne : resp.subject ≠ [] := by
    rintro h
    rw [h] at hsubject
    exact hsubject (by decide)
  rintro m ⟨hreply, hm⟩
  refine ⟨.catchAll, ?_, ⟨m, resp, requestContext m.subject m.data ∅⟩, _, ?_,
    respond_of_fixed hγ hreply hne hfixed, rfl, hsubject⟩
  · simp [server, receivers, hm, resubscribe, queueSubscribe, hsubs]
  · simp [server, handle, matchPlainMock, stateHolds, matchNATSSubject_greater, handleMessage, hγ.1]

end NATS

lemma Moment.clear_calm : Moment.calm.Clear := ⟨rfl, fun _ => rfl⟩

def MQTT.pongAll : MQTTMock where
  topic := go "#"
  response := some { topic := [], payload := go "pong" }

def NATS.pongAll : NATSMock where
  subject := go ">"
  response := some { subject := go "pong", payload := [] }

/-- One message, and any number of responses. -/
theorem responses_without_end :
    (∀ n, ∃ as t, (∀ a ∈ as, Responder.Event.env a = Moment.calm) ∧
      run (server [pongAll]).step ((server [pongAll]).start .calm
        (external (go "c") { topicName := go "ping", payload := [] })) as = some t ∧
      t.published.length = n) ∧
    (∀ n, ∃ as t, (∀ a ∈ as, Responder.Event.env a = Moment.calm) ∧
      run (server (fun _ _ => true) [pongAll]).step
        ((server (fun _ _ => true) [pongAll]).start .calm
          { subject := go "ping", data := [] }) as = some t ∧
      t.published.length = n) := by
  constructor
  · exact (feeding_of_hash Moment.clear_calm _ []).endless (m := external _ _) nofun
  · exact (feeding_of_greater Moment.clear_calm (by decide) (by decide) rfl).endless
      (m := { subject := go "ping", data := [] }) ⟨rfl, by decide⟩

end Mockly.Brokers
