import Mockly.AMQP.Frames
import Mockly.Engine.Explain
import Mockly.Engine.Wildcard
import Mockly.Go.Strconv

/-!
# The AMQP server

What one frame leads to is a list of effects — what is sent, and what is added to the message store
— and the next state. Delays and the log are left out.
-/

namespace Mockly.AMQP

/-! ## Configuration -/

structure AMQPExchange where
  name : GoString
  type : GoString := []

structure AMQPBinding where
  exchange : GoString
  routingKeyPattern : GoString := []
  queue : GoString

structure AMQPResponse where
  exchange : GoString := []
  routingKey : GoString := []
  body : GoString
  deriving DecidableEq

structure AMQPMock where
  exchange : GoString := []
  routingKey : GoString := []
  queue : GoString := []
  response : Option AMQPResponse := none
  state : Option StateCondition := none

/-- The configuration, and the mocks as they are at the time. -/
structure Server where
  exchanges : List AMQPExchange := []
  bindings : List AMQPBinding := []
  mocks : List AMQPMock := []

structure ReceivedAMQPMessage where
  id : GoString
  exchange : GoString
  routingKey : GoString
  body : GoString
  timestamp : GoString

/-! ## A connection -/

/-- A publish whose body has not arrived in full. -/
structure PublishState where
  exchange : GoString
  routingKey : GoString
  bodySize : ℕ := 0
  body : GoString := []

structure Consumer where
  channel : UInt16
  tag : GoString
  queue : GoString
  deriving DecidableEq

/-- `connState`.  Both are maps by channel; a consumer has its own channel in it. -/
structure Conn where
  consumers : List Consumer := []
  publishes : UInt16 → Option PublishState := fun _ => none

structure Moment where
  /-- What the state store has when it is asked for the `i`-th queue a message is routed to. -/
  content : ℕ → GoString → GoString
  /-- A fault is in force, and `RollFault` has its error rate come true. -/
  dropped : Bool
  /-- The order in which the consumers are ranged over, for the `i`-th queue. -/
  order : ℕ → List Consumer → List Consumer
  order_perm : ∀ i cs, (order i cs).Perm cs
  /-- `time.Now().UnixNano()`, for the tag of a consumer. -/
  nanos : ℤ
  /-- The id and the timestamp of the message that is recorded. -/
  id : GoString
  timestamp : GoString
  /-- What the counter of deliveries gives for the `i`-th delivery. -/
  deliveryTag : ℕ → ℕ
  env : Env

/-- A moment at which there is nothing in the state store and no fault. -/
def Moment.plain : Moment where
  content := fun _ _ => []
  dropped := false
  order := fun _ cs => cs
  order_perm := fun _ _ => List.Perm.refl _
  nanos := 0
  id := []
  timestamp := []
  deliveryTag := fun i => i + 1
  env := .basic

structure Delivery where
  consumer : Consumer
  response : AMQPResponse
  routingKey : GoString

/-- What a frame leads to. -/
inductive Effect
  | send (f : Frame)
  | record (m : ReceivedAMQPMessage)
  | deliver (deliveryTag : ℕ) (d : Delivery)

inductive Next
  | continue (c : Conn)
  | closed
  | panicked (p : Panic)

structure Answer where
  effects : List Effect := []
  next : Next

/-- The frames of a delivery: `deliver`. -/
def Delivery.frames (d : Delivery) (deliveryTag : ℕ) : List Frame :=
  let routingKey := if d.response.routingKey = [] then d.routingKey else d.response.routingKey
  [methodFrame d.consumer.channel 60 60
      (encodeShortStr d.consumer.tag ++ encodeLongLong deliveryTag ++ [0] ++
        encodeShortStr d.response.exchange ++ encodeShortStr routingKey),
    headerFrame d.consumer.channel 60 d.response.body.length,
    bodyFrame d.consumer.channel d.response.body]

/-! ## Routing -/

section Routing

variable (srv : Server)

def exchangeType (name : GoString) : GoString :=
  match srv.exchanges.find? fun ex => ex.name = name with
  | some ex => if ex.type = [] then go "direct" else ex.type
  | none => go "direct"

/-- `topicMatchSegments`, by the pattern; the loop for `#` tries every rest of the key. -/
def topicMatchSegments : List GoString → List GoString → Bool
  | [], key => key.isEmpty
  | p :: pattern, key =>
    if p = go "#" then
      pattern.isEmpty || (List.range (key.length + 1)).any fun i =>
        topicMatchSegments pattern (key.drop i)
    else
      match key with
      | [] => false
      | k :: key => (p == go "*" || k == p) && topicMatchSegments pattern key

def dot : UInt8 := 0x2E

def amqpTopicMatches (pattern key : GoString) : Bool :=
  topicMatchSegments (split pattern dot) (split key dot)

/-- Whether a binding of an exchange of this type takes a routing key. -/
def bindingMatches (exchangeType pattern routingKey : GoString) : Bool :=
  if exchangeType = go "fanout" then true
  else if exchangeType = go "topic" then pattern == [] || amqpTopicMatches pattern routingKey
  else pattern == [] || pattern == routingKey

/-- The loop of `routeToQueues`, with the queues it has found. -/
def routeLoop (exchange routingKey : GoString) : List GoString → List AMQPBinding → List GoString
  | queues, [] => queues
  | queues, b :: bs =>
    if b.exchange = exchange ∧
        bindingMatches (exchangeType srv exchange) b.routingKeyPattern routingKey ∧
        b.queue ∉ queues
    then routeLoop exchange routingKey (queues ++ [b.queue]) bs
    else routeLoop exchange routingKey queues bs

def routeToQueues (exchange routingKey : GoString) : List GoString :=
  routeLoop srv exchange routingKey [] srv.bindings

def matchMockByQueue (content : GoString → GoString) (queue : GoString) : Option AMQPMock :=
  srv.mocks.find? fun m => stateHolds (some content) m.state && m.queue == queue

def matchMock (env : Env) (content : GoString → GoString) (exchange routingKey : GoString) :
    Option AMQPMock :=
  srv.mocks.find? fun m => stateHolds (some content) m.state && m.exchange == exchange &&
    matchAMQPRoutingKey env m.routingKey routingKey

/-- `consumersForQueue`, with the consumers in the order they are ranged over. -/
def consumersForQueue (consumers : List Consumer) (queue : GoString) : List Consumer :=
  consumers.filter fun c => c.queue = queue

/-- What is delivered for the `i`-th queue a message is routed to. -/
def deliverQueue (c : Conn) (γ : Moment) (pub : PublishState) (queue : GoString) (i : ℕ) :
    List Delivery :=
  match (matchMockByQueue srv (γ.content i) queue).bind AMQPMock.response with
  | none => []
  | some resp =>
    if γ.dropped then []
    else (consumersForQueue (γ.order i c.consumers) queue).map fun cons =>
      ⟨cons, resp, pub.routingKey⟩

def routePublish (c : Conn) (γ : Moment) (pub : PublishState) : List Delivery :=
  (routeToQueues srv pub.exchange pub.routingKey).zipIdx.flatMap fun (queue, i) =>
    deliverQueue srv c γ pub queue i

/-- The end of `processPublish` where there are no bindings: to the consumer of the channel, or to
some other. -/
def flatPublish (c : Conn) (γ : Moment) (channel : UInt16) (pub : PublishState) : List Delivery :=
  match (matchMock srv γ.env (γ.content 0) pub.exchange pub.routingKey).bind AMQPMock.response with
  | none => []
  | some resp =>
    if γ.dropped then []
    else
      match (c.consumers.find? (·.channel = channel)).or (γ.order 0 c.consumers).head? with
      | none => []
      | some cons => [⟨cons, resp, pub.routingKey⟩]

def PublishState.message (pub : PublishState) (γ : Moment) : ReceivedAMQPMessage where
  id := γ.id
  exchange := pub.exchange
  routingKey := pub.routingKey
  body := pub.body
  timestamp := γ.timestamp

def processPublish (c : Conn) (γ : Moment) (channel : UInt16) (pub : PublishState) : List Effect :=
  let deliveries :=
    if srv.bindings ≠ [] then routePublish srv c γ pub else flatPublish srv c γ channel pub
  .record (pub.message γ) :: deliveries.mapIdx fun i d => .deliver (γ.deliveryTag i) d

end Routing

/-! ## The loop -/

/-- `state.consumers[channel] = …`. -/
def Conn.setConsumer (c : Conn) (cons : Consumer) : Conn :=
  { c with consumers := c.consumers.filter (fun x => x.channel ≠ cons.channel) ++ [cons] }

/-- `state.publishes[channel] = pub`, or its deletion. -/
def Conn.setPublish (c : Conn) (channel : UInt16) (pub : Option PublishState) : Conn :=
  { c with publishes := Function.update c.publishes channel pub }

def consumerOf (γ : Moment) (channel : UInt16) (args : GoString) : Consumer :=
  let (queue, tag) := parseConsume args
  ⟨channel, if tag = [] then go "ctag-" ++ formatInt γ.nanos else tag, queue⟩

/-- The methods `handleMethod` tells apart. -/
inductive Method
  | connectionStartOk
  | connectionTuneOk
  | connectionOpen
  | channelOpen
  | exchangeDeclare
  | queueDeclare
  | queueBind
  | basicConsume
  | basicPublish
  | channelClose
  | connectionClose
  deriving DecidableEq

def Method.id : Method → UInt16 × UInt16
  | .connectionStartOk => (10, 11)
  | .connectionTuneOk => (10, 31)
  | .connectionOpen => (10, 40)
  | .channelOpen => (20, 10)
  | .exchangeDeclare => (40, 10)
  | .queueDeclare => (50, 10)
  | .queueBind => (50, 20)
  | .basicConsume => (60, 20)
  | .basicPublish => (60, 40)
  | .channelClose => (20, 40)
  | .connectionClose => (10, 50)

/-- The cases of `handleMethod`, in their order. -/
def Method.cases : List Method :=
  [.connectionStartOk, .connectionTuneOk, .connectionOpen, .channelOpen, .exchangeDeclare,
    .queueDeclare, .queueBind, .basicConsume, .basicPublish, .channelClose, .connectionClose]

def Method.of (classID methodID : UInt16) : Option Method :=
  Method.cases.find? fun m => m.id = (classID, methodID)

def handleMethod (c : Conn) (γ : Moment) (channel classID methodID : UInt16) (args : GoString) :
    Answer :=
  match Method.of classID methodID with
  | some .connectionStartOk => ⟨[.send (methodFrame 0 10 30 buildConnectionTune)], .continue c⟩
  | some .connectionTuneOk => ⟨[], .continue c⟩
  | some .connectionOpen => ⟨[.send (methodFrame 0 10 41 [])], .continue c⟩
  | some .channelOpen => ⟨[.send (methodFrame channel 20 11 [0, 0, 0, 0])], .continue c⟩
  | some .exchangeDeclare => ⟨[.send (methodFrame channel 40 11 [])], .continue c⟩
  | some .queueDeclare =>
    ⟨[.send (methodFrame channel 50 11 (buildQueueDeclareOK args))], .continue c⟩
  | some .queueBind => ⟨[.send (methodFrame channel 50 21 [])], .continue c⟩
  | some .basicConsume =>
    let cons := consumerOf γ channel args
    ⟨[.send (methodFrame channel 60 21 (encodeShortStr cons.tag))],
      .continue (c.setConsumer cons)⟩
  | some .basicPublish =>
    let (exchange, routingKey) := parsePublish args
    ⟨[], .continue (c.setPublish channel
      (some { exchange := exchange, routingKey := routingKey }))⟩
  | some .channelClose => ⟨[.send (methodFrame channel 20 41 [])], .continue c⟩
  | some .connectionClose => ⟨[.send (methodFrame 0 10 51 [])], .closed⟩
  | none => ⟨[], .continue c⟩

lemma Method.of_eq_some_iff {classID methodID : UInt16} {m : Method} :
    Method.of classID methodID = some m ↔ m.id = (classID, methodID) := by
  have hnodup : (Method.cases.map Method.id).Nodup := by decide
  rw [Method.of, Records.find?_key_eq_some hnodup]
  exact and_iff_right (by cases m <;> decide)

def methodParts (payload : GoString) : Except Panic (UInt16 × UInt16 × GoString) := do
  let classID ← slice payload 0 2
  let methodID ← slice payload 2 4
  let args ← slice payload 4 payload.length
  return (uint16 classID, uint16 methodID, args)

/-- What is done with a method frame. -/
def onMethod (c : Conn) (γ : Moment) (channel : UInt16) (payload : GoString) : Answer :=
  match methodParts payload with
  | .error e => ⟨[], .panicked e⟩
  | .ok (classID, methodID, args) => handleMethod c γ channel classID methodID args

/-- What is done with a header frame. -/
def onHeader (c : Conn) (channel : UInt16) (payload : GoString) : Answer :=
  match c.publishes channel with
  | none => ⟨[], .continue c⟩
  | some pub =>
    if 12 ≤ payload.length then
      match slice payload 4 12 with
      | .error e => ⟨[], .panicked e⟩
      | .ok size =>
        ⟨[], .continue
          (c.setPublish channel (some { pub with bodySize := BigEndian.value size }))⟩
    else ⟨[], .continue c⟩

/-- What is done with a body frame. -/
def onBody (srv : Server) (c : Conn) (γ : Moment) (channel : UInt16) (payload : GoString) :
    Answer :=
  match c.publishes channel with
  | none => ⟨[], .continue c⟩
  | some pub =>
    let pub := { pub with body := pub.body ++ payload }
    if pub.bodySize ≤ pub.body.length then
      ⟨processPublish srv c γ channel pub, .continue (c.setPublish channel none)⟩
    else ⟨[], .continue (c.setPublish channel (some pub))⟩

/-- One round of the loop of `handleConn`. -/
def handleFrame (srv : Server) (c : Conn) (γ : Moment) (f : Frame) : Answer :=
  if f.type = 1 then onMethod c γ f.channel f.payload
  else if f.type = 2 then onHeader c f.channel f.payload
  else if f.type = 3 then onBody srv c γ f.channel f.payload
  else ⟨[], .continue c⟩

end Mockly.AMQP
