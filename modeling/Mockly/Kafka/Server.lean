import Mockly.Engine.Explain
import Mockly.Engine.Wildcard
import Mockly.Kafka.Wire

/-!
# The Kafka server

Delays, the log and with it the ids of the mocks are left out.
-/

namespace Mockly.Kafka

open Parser

/-! ## Configuration -/

structure KafkaRecord where
  key : GoString := []
  value : GoString

structure KafkaMock where
  topic : GoString
  records : List KafkaRecord
  state : Option StateCondition := none

/-- The configuration, and the mocks as they are at the time. -/
structure Server where
  port : ℤ := 0
  mocks : List KafkaMock := []

structure ProducedKafkaMessage where
  id : GoString
  topic : GoString
  partition : ℤ
  key : GoString
  value : GoString
  timestamp : GoString
  deriving DecidableEq

structure Moment where
  /-- What the state store has when the `i`-th topic of a fetch is looked up. -/
  content : ℕ → GoString → GoString
  /-- A fault is in force, and `RollFault` has its error rate come true for the `i`-th response. -/
  struck : ℕ → Bool
  errorCode : ℤ
  /-- The id and the timestamp of the `i`-th message that is stored. -/
  id : ℕ → GoString
  timestamp : ℕ → GoString
  env : Env

/-- A moment at which there is nothing in the state store and no fault. -/
def Moment.plain : Moment where
  content := fun _ _ => []
  struck := fun _ => false
  errorCode := 0
  id := fun _ => []
  timestamp := fun _ => []
  env := .basic

/-- The error code of the `i`-th response. -/
def Moment.responseCode (γ : Moment) (i : ℕ) : ℤ :=
  if γ.struck i then (if γ.errorCode = 0 then 5 else γ.errorCode) else 0

/-- The body of a reply, and what is added to the message store. -/
structure Answer where
  body : GoString
  produced : List ProducedKafkaMessage := []

/-! ## Message sets -/

def nullableBytes (s : GoString) : Option GoString := if s = [] then none else some s

/-- What the checksum of a message is of: magic byte, attributes, key and value. -/
def messagePayload (record : KafkaRecord) : GoString :=
  [0, 0] ++ writeKafkaBytes (nullableBytes record.key) ++ writeKafkaBytes (some record.value)

/-- One round of the loop of `buildMessageSet`. -/
def messageEntry (record : KafkaRecord) : GoString :=
  writeInt 8 0 ++ writeInt 4 ((messagePayload record).length + 4) ++
    BigEndian.bytes 4 (checksumIEEE (messagePayload record)).toNat ++ messagePayload record

def messageSet (records : List KafkaRecord) : GoString := records.flatMap messageEntry

/-- `parseMessageSet`, with a reader of its own. -/
def parseMessageSet (recordSet : GoString) : Reading (GoString × GoString) :=
  if recordSet.length < 26 then pure ([], recordSet)
  else within recordSet do
    let _offset ← readInt 8
    let _msgSize ← readInt 4
    let _crc ← readInt 4
    let _magic ← readInt 1
    let _attrs ← readInt 1
    let key ← readKafkaBytes
    let value ← readKafkaBytes
    pure (key, value)

section Server

variable (srv : Server) (γ : Moment)

/-- `matchMock`, for the `i`-th topic of a fetch. -/
def matchMock (i : ℕ) (topic : GoString) : Option KafkaMock :=
  srv.mocks.find? fun m => stateHolds (some (γ.content i)) m.state &&
    matchKafkaTopic γ.env m.topic topic

def buildMessageSet (i : ℕ) (topic : GoString) : GoString :=
  match matchMock srv γ i topic with
  | none => []
  | some mock => messageSet mock.records

/-! ## Versions and metadata -/

def buildApiVersionsResponse : GoString :=
  writeInt 2 0 ++ writeInt 4 4 ++
    [0, 1, 3, 18].flatMap (fun key : ℤ => writeInt 2 key ++ writeInt 2 0 ++ writeInt 2 0) ++
    writeInt 4 0

def readKafkaTopics : Reading (List GoString) := do
  let n ← readInt 4
  make n
  times (do turn; readKafkaString) n.toNat

def metadataTopic (topic : GoString) : GoString :=
  writeInt 2 0 ++ writeKafkaString topic ++ [0] ++ writeInt 4 1 ++ writeInt 2 0 ++ writeInt 4 0 ++
    writeInt 4 1 ++ writeInt 4 1 ++ writeInt 4 1 ++ writeInt 4 1 ++ writeInt 4 1

def buildMetadataResponse : Reading Answer := do
  let topics ← readKafkaTopics
  pure
    { body := writeInt 4 1 ++ writeInt 4 1 ++ writeKafkaString (go "localhost") ++
        writeInt 4 srv.port ++ writeInt 4 topics.length ++ topics.flatMap metadataTopic }

/-! ## Produce -/

/-- What is found in one partition of a produce request. -/
structure Produced where
  topic : GoString
  partition : ℤ
  key : GoString
  value : GoString

def maxRecordSet : ℤ := 10 * 1024 * 1024

/-- A partition; a record set that is too long, or of negative length, is the end of the request. -/
def producePartition (topic : GoString) : Reading (List Produced × Bool) := do
  turn
  let partition ← readInt 4
  let recordSetLen ← readInt 4
  if recordSetLen < 0 ∨ recordSetLen > maxRecordSet then pure ([], false)
  else do
    let recordSet ← readFull recordSetLen
    let (key, value) ← parseMessageSet recordSet
    pure ([⟨topic, partition, key, value⟩], true)

def produceTopic : Reading (List Produced × Bool) := do
  turn
  let topic ← readKafkaString
  let numPartitions ← readInt 4
  rounds (producePartition topic) numPartitions.toNat

/-- The response for a partition: each has an entry for its topic to itself. -/
def produceEntry (p : Produced × ℕ) : GoString :=
  writeKafkaString p.1.topic ++ writeInt 4 1 ++ writeInt 4 p.1.partition ++
    writeInt 2 (γ.responseCode p.2) ++ writeInt 8 0

def produceReply (responses : List Produced) : GoString :=
  writeInt 4 responses.length ++ responses.zipIdx.flatMap (produceEntry γ)

/-- The `i`-th message that is stored. -/
def Produced.message (p : Produced × ℕ) : ProducedKafkaMessage where
  id := γ.id p.2
  topic := p.1.topic
  partition := p.1.partition
  key := p.1.key
  value := p.1.value
  timestamp := γ.timestamp p.2

/-- `handleProduce`.  What has been stored stays so if the rest is given up. -/
def handleProduce : Reading Answer := do
  let _requiredAcks ← readInt 2
  let _timeout ← readInt 4
  let numTopics ← readInt 4
  let (responses, finished) ← rounds produceTopic numTopics.toNat
  pure
    { body := if finished then produceReply γ responses else []
      produced := responses.zipIdx.map (Produced.message γ) }

/-! ## Fetch -/

/-- A partition of a fetch request, which is read and not looked at. -/
def fetchPartition : Reading Unit := do
  turn
  let _partition ← readInt 4
  let _fetchOffset ← readInt 8
  let _maxBytes ← readInt 4
  pure ()

def fetchTopic : Reading GoString := do
  turn
  let topic ← readKafkaString
  let numPartitions ← readInt 4
  let _partitions ← times fetchPartition numPartitions.toNat
  pure topic

def fetchEntry (topic : GoString × ℕ) : GoString :=
  let set := if γ.struck topic.2 then [] else buildMessageSet srv γ topic.2 topic.1
  writeKafkaString topic.1 ++ writeInt 4 1 ++ writeInt 4 0 ++ writeInt 2 (γ.responseCode topic.2) ++
    writeInt 8 0 ++ writeInt 4 set.length ++ set

/-- The reply to a fetch. -/
def handleFetch : Reading Answer := do
  let _replicaID ← readInt 4
  let _maxWait ← readInt 4
  let _minBytes ← readInt 4
  let numTopics ← readInt 4
  make numTopics
  let topics ← times fetchTopic numTopics.toNat
  pure { body := writeInt 4 topics.length ++ topics.zipIdx.flatMap (fetchEntry srv γ) }

/-! ## Requests -/

def reply (correlationID : ℤ) (body : GoString) : GoString :=
  writeInt 4 (4 + body.length) ++ writeInt 4 correlationID ++ body

/-- The cases of `handleRequest`. -/
def respond (apiKey : ℤ) : Reading Answer :=
  if apiKey = 18 then pure { body := buildApiVersionsResponse }
  else if apiKey = 3 then buildMetadataResponse srv
  else if apiKey = 0 then handleProduce γ
  else if apiKey = 1 then handleFetch srv γ
  else pure { body := [] }

/-- `handleRequest`, and what is added to the message store. -/
def handleRequest : Reading (GoString × List ProducedKafkaMessage) := do
  let apiKey ← readInt 2
  let _apiVersion ← readInt 2
  let correlationID ← readInt 4
  let _clientID ← readKafkaString
  let answer ← respond srv γ apiKey
  pure (reply correlationID answer.body, answer.produced)

end Server

end Mockly.Kafka
