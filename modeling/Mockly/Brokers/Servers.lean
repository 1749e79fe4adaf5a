import Mockly.Brokers.Match
import Mockly.Engine.Explain
import Mockly.Lib.Responder

/-!
# The MQTT and the NATS server

A goroutine publishes a response, some time later and back into the same broker. Of the brokers this
much is taken for granted: mochi-mqtt calls `OnPublish` with the inline client for what the server
publishes itself; NATS gives a connection what it has published itself, one member of a queue group
gets a message, and subjects with an empty token reach nobody. Delays and logs are left out.
-/

namespace Mockly.Brokers

/-- What a server meets when it handles or publishes a message. -/
structure Moment where
  content : GoString → GoString
  /-- A fault is in force, and `RollFault` has its error rate come true. -/
  faulted : Bool
  env : Env
  /-- The broker returns an error for a message to this topic or subject. -/
  refuses : GoString → Bool
  /-- Whom of a queue group the NATS server chooses: one of the mocks of the server, or, counting
  on, some other member. -/
  member : GoString → ℕ

/-- The `RequestContext` of a message. -/
def requestContext (path body : GoString) (params : GoMap GoString) : RequestContext where
  method := []
  path := path
  query := ∅
  headers := ∅
  body := body
  pathParams := params

/-! ## MQTT -/

namespace MQTT

structure MQTTResponse where
  topic : GoString
  payload : GoString
  qos : UInt8 := 0
  retain : Bool := false

structure MQTTMock where
  topic : GoString
  response : Option MQTTResponse := none
  state : Option StateCondition := none

inductive Client
  | connected (id : GoString)
  | inline

structure Packet where
  topicName : GoString
  payload : GoString
  qos : UInt8 := 0
  retain : Bool := false

/-- The arguments of `OnPublish`; no client stands for `nil`. -/
structure Publish where
  client : Option Client
  packet : Packet

structure Pending where
  resp : MQTTResponse
  topic : GoString
  reqCtx : RequestContext

def matchMock (mocks : List MQTTMock) (γ : Moment) (topic : GoString) :
    Option (MQTTMock × GoMap GoString) :=
  mocks.findSome? fun m =>
    if !stateHolds (some γ.content) m.state then none
    else (matchMQTTTopic m.topic topic).map fun params => (m, params)

/-- `OnPublish`, once the message is in the store. -/
def onPublish (mocks : List MQTTMock) (γ : Moment) (pk : Packet) : Option Pending :=
  (matchMock mocks γ pk.topicName).bind fun (mock, topicParams) =>
    mock.response.bind fun resp =>
      if γ.faulted then none
      else some ⟨resp, pk.topicName, requestContext pk.topicName pk.payload topicParams⟩

def responseTopic (γ : Moment) (p : Pending) : GoString :=
  let rendered := (render γ.env p.resp.topic p.reqCtx).text
  if rendered = [] then p.topic ++ go "/response" else rendered

def respond (γ : Moment) (p : Pending) : Option Publish :=
  if γ.refuses (responseTopic γ p) then none
  else
    some
      { client := some .inline
        packet :=
          { topicName := responseTopic γ p
            payload := (render γ.env p.resp.payload p.reqCtx).text
            qos := p.resp.qos
            retain := p.resp.retain } }

def server (mocks : List MQTTMock) : Responder Moment Publish Unit Pending where
  receivers _ m := if m.client = none then [] else [()]
  handle γ _ m := onPublish mocks γ m.packet
  publish := respond

def external (id : GoString) (pk : Packet) : Publish := ⟨some (.connected id), pk⟩

lemma receivers_of_client {mocks : List MQTTMock} {m : Publish} (γ : Moment)
    (h : m.client ≠ none) : (server mocks).receivers γ m = [()] := if_neg h

lemma client_of_respond {γ : Moment} {p : Pending} {m : Publish} (h : respond γ p = some m) :
    m.client = some .inline := by
  unfold respond at h
  split at h
  · cases h
  · cases h
    rfl

end MQTT

/-! ## NATS -/

namespace NATS

structure NATSResponse where
  subject : GoString := []
  payload : GoString

structure NATSMock where
  subject : GoString
  queueGroup : GoString := []
  response : Option NATSResponse := none
  state : Option StateCondition := none

structure Msg where
  subject : GoString
  reply : GoString := []
  data : GoString

structure Subscriptions where
  queueSubs : List NATSMock
  catchAll : Bool

section Resubscribe

-- `QueueSubscribe` can return an error for a subject and a group.
variable (accepts : GoString → GoString → Bool)

/-- The loop of `resubscribe`, and whether it comes to its end. -/
def queueSubscribe : List NATSMock → List NATSMock × Bool
  | [] => ([], true)
  | m :: ms =>
    if m.queueGroup = [] then queueSubscribe ms
    else if accepts m.subject m.queueGroup then
      let (subs, ok) := queueSubscribe ms
      (m :: subs, ok)
    else ([], false)

/-- The subscriptions for a list of mocks. -/
def resubscribe (mocks : List NATSMock) : Subscriptions :=
  let (subs, ok) := queueSubscribe accepts mocks
  { queueSubs := subs, catchAll := ok && mocks.any fun m => m.queueGroup = [] }

end Resubscribe

inductive Receiver
  | catchAll
  | queue (mock : NATSMock)

/-- The subscriptions in a queue group that cover the subject. -/
def members (subs : Subscriptions) (subject group : GoString) : List NATSMock :=
  subs.queueSubs.filter fun m => covers m.subject subject && m.queueGroup = group

def groups (subs : Subscriptions) : List GoString := (subs.queueSubs.map NATSMock.queueGroup).dedup

/-- Who gets a message with the subject. -/
def receivers (subs : Subscriptions) (γ : Moment) (subject : GoString) : List Receiver :=
  if [] ∈ split subject dot then []
  else
    (if subs.catchAll then [.catchAll] else []) ++
      (groups subs).filterMap fun g => ((members subs subject g)[γ.member g]?).map .queue

def matchPlainMock (mocks : List NATSMock) (γ : Moment) (subject : GoString) :
    Option (NATSMock × GoMap GoString) :=
  mocks.findSome? fun m =>
    if m.queueGroup ≠ [] then none
    else if !stateHolds (some γ.content) m.state then none
    else (matchNATSSubject m.subject subject).map fun params => (m, params)

structure Pending where
  msg : Msg
  resp : NATSResponse
  reqCtx : RequestContext

/-- `handleMessage`, once the message is in the store. -/
def handleMessage (γ : Moment) (msg : Msg) (mock : NATSMock) (params : GoMap GoString) :
    Option Pending :=
  mock.response.bind fun resp =>
    if γ.faulted then none else some ⟨msg, resp, requestContext msg.subject msg.data params⟩

/-- The callbacks.  The state of a mock is only looked at by `matchPlainMock`. -/
def handle (mocks : List NATSMock) (γ : Moment) (h : Receiver) (msg : Msg) : Option Pending :=
  match h with
  | .catchAll =>
    (matchPlainMock mocks γ msg.subject).bind fun (mock, params) =>
      handleMessage γ msg mock params
  | .queue mock => handleMessage γ msg mock ∅

def respond (γ : Moment) (p : Pending) : Option Msg :=
  let responsePayload := (render γ.env p.resp.payload p.reqCtx).text
  let send (destSubject : GoString) : Option Msg :=
    if γ.refuses destSubject then none
    else some { subject := destSubject, data := responsePayload }
  if p.msg.reply ≠ [] then send p.msg.reply
  else if p.resp.subject ≠ [] then send (render γ.env p.resp.subject p.reqCtx).text
  else none

def server (accepts : GoString → GoString → Bool) (mocks : List NATSMock) :
    Responder Moment Msg Receiver Pending where
  receivers γ msg := receivers (resubscribe accepts mocks) γ msg.subject
  handle := handle mocks
  publish := respond

/-- No callback gets a message with this subject: it has an empty token, or there is no subscription
to everything, and no queue group has chosen a mock. -/
def Unheard (subs : Subscriptions) (γ : Moment) (subject : GoString) : Prop :=
  [] ∈ split subject dot ∨
    subs.catchAll = false ∧ ∀ g, (members subs subject g).length ≤ γ.member g

lemma mem_groups {subs : Subscriptions} {subject group : GoString}
    (h : members subs subject group ≠ []) : group ∈ groups subs := by
  obtain ⟨m, hm⟩ := List.exists_mem_of_ne_nil _ h
  obtain ⟨hmem, hgroup⟩ := List.mem_filter.mp hm
  simp only [Bool.and_eq_true, decide_eq_true_eq] at hgroup
  exact List.mem_dedup.mpr (List.mem_map.mpr ⟨m, hmem, hgroup.2⟩)

lemma receivers_eq_nil_iff {subs : Subscriptions} {γ : Moment} {subject : GoString} :
    receivers subs γ subject = [] ↔ Unheard subs γ subject := by
  unfold receivers Unheard
  by_cases hempty : [] ∈ split subject dot
  · simp [hempty]
  have hgroups : (∀ g ∈ groups subs, (members subs subject g).length ≤ γ.member g) ↔
      ∀ g, (members subs subject g).length ≤ γ.member g := by
    refine ⟨fun h g => ?_, fun h g _ => h g⟩
    by_cases hg : members subs subject g = []
    · simp [hg]
    · exact h g (mem_groups hg)
  cases subs.catchAll <;> simp [hempty, List.filterMap_eq_nil_iff, hgroups]

end NATS

end Mockly.Brokers
