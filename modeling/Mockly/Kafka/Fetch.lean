import Mockly.Kafka.Messages

/-!
# Fetch

Nothing limits the size of a reply, which is written in four bytes.

Main result: **`fetch_decodes_iff_size`**.
-/

namespace Mockly.Kafka

open Parser Protocol List Protocol.FetchTopic

/-! ## The request -/

lemma reads_writeNullableString {s : Option GoString} (h : 2 * (s.getD []).length < 256 ^ 2) :
    Reads readKafkaString (writeNullableString s) (s.getD []) := by
  cases s with
  | none => exact (reads_readInt (by decide : Fits 2 (-1))).bind_pure (reads_pure [])
  | some s => exact reads_readKafkaString h

lemma reads_fetchPartition (p : Protocol.FetchPartition) : Reads fetchPartition p.encode () :=
  reads_turn.of_nil ((reads_readInt p.partition_fits).bind
    ((reads_readInt p.fetchOffset_fits).bind
      ((reads_readInt p.maxBytes_fits).bind_pure (reads_pure ()))))

lemma reads_fetchTopic (t : Protocol.FetchTopic) : Reads fetchTopic t.encode t.name := by
  refine reads_turn.of_nil ((reads_readKafkaString t.name_lt).bind
    ((reads_readInt (fits_length t.partitions_lt)).bind ?_))
  rw [Int.toNat_natCast]
  exact (reads_times fun p _ => reads_fetchPartition p).bind_pure (reads_pure _)

def fetchBody (srv : Server) (γ : Moment) (topics : List GoString) : GoString :=
  writeInt 4 topics.length ++ topics.zipIdx.flatMap (fetchEntry srv γ)

/-- **A request is read** as it was written. -/
lemma reads_handleRequest (srv : Server) (γ : Moment) (req : Protocol.FetchRequest) :
    Reads (handleRequest srv γ) req.encode
      (reply req.correlationID (fetchBody srv γ (req.topics.map name)), []) := by
  have hfetch : Reads (handleFetch srv γ)
      (writeInt 4 req.replicaID ++ (writeInt 4 req.maxWait ++ (writeInt 4 req.minBytes ++
        (writeInt 4 req.topics.length ++ req.topics.flatMap encode))))
      { body := fetchBody srv γ (req.topics.map name) } := by
    refine (reads_readInt req.replicaID_fits).bind ((reads_readInt req.maxWait_fits).bind
      ((reads_readInt req.minBytes_fits).bind
        ((reads_readInt (fits_length req.topics_lt)).bind
          ((reads_make (Int.natCast_nonneg _)).of_nil ?_))))
    rw [Int.toNat_natCast]
    exact (reads_times fun t _ => reads_fetchTopic t).bind_pure (reads_pure _)
  refine (reads_readInt (by decide : Fits 2 1)).bind ((reads_readInt (by decide : Fits 2 0)).bind
    ((reads_readInt req.correlationID_fits).bind
      ((reads_writeNullableString req.clientID_lt).bind ?_)))
  exact hfetch.bind_pure (reads_pure _)

/-! ## The reply -/

section Reply

variable (srv : Server) (γ : Moment)

/-- The records of the first mock that matches, if there is one. -/
def recordsFor (i : ℕ) (topic : GoString) : List KafkaRecord :=
  ((matchMock srv γ i topic).map KafkaMock.records).getD []

lemma buildMessageSet_eq (i : ℕ) (topic : GoString) :
    buildMessageSet srv γ i topic = messageSet (recordsFor srv γ i topic) := by
  rw [buildMessageSet, recordsFor]
  cases matchMock srv γ i topic <;> rfl

def topicReply (topic : GoString × ℕ) : Protocol.TopicReply :=
  ⟨topic.1, [⟨0, 0, 0, (recordsFor srv γ topic.2 topic.1).map messageOf⟩]⟩

variable {topic : GoString × ℕ}

lemma fetchEntry_eq (h : γ.struck topic.2 = false) :
    fetchEntry srv γ topic = writeKafkaString topic.1 ++ (writeInt 4 1 ++ (writeInt 4 0 ++
      (writeInt 2 0 ++ (writeInt 8 0 ++
        (writeInt 4 (messageSet (recordsFor srv γ topic.2 topic.1)).length ++
          messageSet (recordsFor srv γ topic.2 topic.1)))))) := by
  simp [fetchEntry, h, Moment.responseCode, buildMessageSet_eq]

lemma reads_fetchEntry (h : γ.struck topic.2 = false) (hname : 2 * topic.1.length < 256 ^ 2)
    (hset : 2 * (messageSet (recordsFor srv γ topic.2 topic.1)).length < 256 ^ 4) :
    Reads Protocol.fetchTopic (fetchEntry srv γ topic) (topicReply srv γ topic) := by
  rw [fetchEntry_eq srv γ h]
  have hpartition : Reads Protocol.fetchPartition (writeInt 4 0 ++ (writeInt 2 0 ++
      (writeInt 8 0 ++ (writeInt 4 (messageSet (recordsFor srv γ topic.2 topic.1)).length ++
        messageSet (recordsFor srv γ topic.2 topic.1)))))
      ⟨0, 0, 0, (recordsFor srv γ topic.2 topic.1).map messageOf⟩ := by
    refine (Protocol.reads_int_of_fits (by decide)).bind
      ((Protocol.reads_int_of_fits (by decide)).bind
        ((Protocol.reads_int_of_fits (by decide)).bind ((Protocol.reads_count hset).bind
          ((Protocol.reads_exactly rfl).bind_pure ?_))))
    exact (Protocol.reads_ofOption (messages_messageSet hset)).bind_pure (reads_pure _)
  exact (Protocol.reads_string hname).bind
    ((Protocol.reads_array_one hpartition).bind_pure (reads_pure _))

def entrySize (topic : GoString × ℕ) : ℕ :=
  24 + topic.1.length +
    ((recordsFor srv γ topic.2 topic.1).map fun r => 26 + r.key.length + r.value.length).sum

/-- The size of the reply to a fetch, apart from the size itself. -/
def fetchSize (topics : List GoString) : ℕ := 8 + (topics.zipIdx.map (entrySize srv γ)).sum

lemma length_fetchEntry (h : γ.struck topic.2 = false) :
    (fetchEntry srv γ topic).length = entrySize srv γ topic := by
  rw [fetchEntry_eq srv γ h, entrySize]
  simp only [length_append, length_writeInt, length_writeKafkaString, messageSet,
    length_flatMap, length_messageEntry]
  omega

lemma length_fetchBody (hfault : ∀ i, γ.struck i = false) (topics : List GoString) :
    4 + (fetchBody srv γ topics).length = fetchSize srv γ topics := by
  have hentry : (topics.zipIdx.map fun t => (fetchEntry srv γ t).length) =
      topics.zipIdx.map (entrySize srv γ) :=
    map_congr_left fun t _ => length_fetchEntry srv γ (hfault t.2)
  rw [fetchBody, fetchSize, length_append, length_writeInt, length_flatMap, hentry]
  omega

/-- **The response is read** entry by entry, if all of it is of a size that can be written. -/
lemma reads_fetchBody (hfault : ∀ i, γ.struck i = false) {topics : List GoString}
    (hlen : 2 * topics.length < 256 ^ 4) (hnames : ∀ t ∈ topics, 2 * t.length < 256 ^ 2)
    (hsize : 2 * (4 + (fetchBody srv γ topics).length) < 256 ^ 4) :
    Reads fetchResponse (fetchBody srv γ topics)
      (topics.zipIdx.map (topicReply srv γ)) := by
  have hlen' : topics.zipIdx.length = topics.length := length_zipIdx
  rw [fetchBody, ← hlen']
  refine reads_array (by omega) fun t ht => ?_
  refine reads_fetchEntry srv γ (hfault t.2) (hnames t.1 (fst_mem_of_mem_zipIdx ht)) ?_
  have hle : (fetchEntry srv γ t).length ≤ (topics.zipIdx.flatMap (fetchEntry srv γ)).length := by
    rw [length_flatMap]
    exact single_le_sum (by simp) _ (mem_map_of_mem ht)
  rw [fetchEntry_eq srv γ (hfault t.2)] at hle
  rw [fetchBody] at hsize
  simp only [length_append] at hle hsize
  omega

end Reply

lemma decodeReply_fetchBody (srv : Server) (γ : Moment) (req : Protocol.FetchRequest)
    (hfault : ∀ i, γ.struck i = false) :
    decodeReply fetchResponse (reply req.correlationID
        (fetchBody srv γ (req.topics.map Protocol.FetchTopic.name))) =
        some (req.correlationID,
          (req.topics.map Protocol.FetchTopic.name).zipIdx.map (topicReply srv γ)) ↔
      fetchSize srv γ (req.topics.map Protocol.FetchTopic.name) < 2 ^ 31 := by
  have hlen : 2 * (req.topics.map Protocol.FetchTopic.name).length < 256 ^ 4 := by
    rw [length_map]
    exact req.topics_lt
  have hnames : ∀ name ∈ req.topics.map Protocol.FetchTopic.name, 2 * name.length < 256 ^ 2 := by
    intro name hname
    obtain ⟨t, -, rfl⟩ := mem_map.mp hname
    exact t.name_lt
  rw [decodeReply_eq_some_iff req.correlationID_fits
    (reads_fetchBody srv γ hfault hlen hnames), length_fetchBody srv γ hfault]
  omega

lemma runs_handleRequest_iff (srv : Server) (γ : Moment) (req : Protocol.FetchRequest)
    {bs : GoString} :
    Runs (handleRequest srv γ) req.encode (bs, []) [] ↔
      bs = reply req.correlationID (fetchBody srv γ (req.topics.map name)) := by
  have hread := reads_handleRequest srv γ req []
  rw [append_nil] at hread
  constructor
  · intro hbs
    exact congrArg Prod.fst (hbs.unique hread).1
  · rintro rfl
    exact hread

/-- **What a client reads of the reply to a fetch.** -/
theorem fetch_decodes_iff_size (srv : Server) (γ : Moment) (req : Protocol.FetchRequest)
    (hfault : ∀ i, γ.struck i = false) :
    ((∃ bs, Runs (handleRequest srv γ) req.encode (bs, []) [] ∧
        decodeReply fetchResponse bs = some (req.correlationID,
          (req.topics.map name).zipIdx.map (topicReply srv γ))) ↔
      fetchSize srv γ (req.topics.map name) < 2 ^ 31) ∧
    ∀ record records, (messageSet (record :: records)).length < 2 ^ 31 → ∀ r,
      Runs (parseMessageSet (messageSet (record :: records))) r (record.key, record.value) r := by
  constructor
  · rw [← decodeReply_fetchBody srv γ req hfault]
    simp [runs_handleRequest_iff]
  · intro record records h r
    exact runs_parseMessageSet (by omega) r

/-! ## Two requests -/

def plainFetch (topics : List Protocol.FetchTopic) (h : 2 * topics.length < 256 ^ 4) :
    Protocol.FetchRequest where
  correlationID := 7
  clientID := none
  replicaID := -1
  maxWait := 100
  minBytes := 1
  topics := topics
  correlationID_fits := by decide
  clientID_lt := by decide
  replicaID_fits := by decide
  maxWait_fits := by decide
  minBytes_fits := by decide
  topics_lt := h

def shortTopic : Protocol.FetchTopic where
  name := go "t"
  partitions := []
  name_lt := by decide
  partitions_lt := by decide

def oneMock (records : List KafkaRecord) : Server where
  mocks := [{ topic := go "*", records := records }]

/-- One topic, with two records. -/
theorem fetch_two_records :
    ∃ bs, Runs (handleRequest (oneMock [{ value := go "a" }, { key := go "k", value := go "b" }])
        .plain) (plainFetch [shortTopic] (by decide)).encode (bs, []) [] ∧
      decodeReply fetchResponse bs =
        some (7, [⟨go "t", [⟨0, 0, 0, [⟨0, none, some (go "a")⟩,
          ⟨0, some (go "k"), some (go "b")⟩]⟩]⟩]) :=
  (fetch_decodes_iff_size _ .plain (plainFetch [shortTopic] (by decide)) fun _ => rfl).1.mpr
    (by decide)

lemma length_repeatedFetch (n : ℕ) (h : 2 * (List.replicate n shortTopic).length < 256 ^ 4) :
    (plainFetch (List.replicate n shortTopic) h).encode.length = 26 + n * 7 := by
  have htopic : shortTopic.encode.length = 7 := by decide
  simp only [Protocol.FetchRequest.encode, plainFetch, writeNullableString, length_append,
    length_writeInt, length_flatMap, map_replicate, htopic, sum_replicate, smul_eq_mul]
  omega

lemma fetchSize_repeated (n : ℕ) (value : GoString) :
    fetchSize (oneMock [{ value := value }]) .plain (List.replicate n (go "t")) =
      8 + n * (51 + value.length) := by
  have hentry : ∀ t ∈ (List.replicate n (go "t")).zipIdx,
      entrySize (oneMock [{ value := value }]) .plain t = 51 + value.length := by
    intro t ht
    have hname := eq_of_mem_replicate (fst_mem_of_mem_zipIdx ht)
    have hrecords : recordsFor (oneMock [{ value := value }]) .plain t.2 (go "t") =
        [{ value := value }] := rfl
    have hlen : (go "t").length = 1 := by decide
    rw [entrySize, hname, hrecords, hlen]
    simp
    omega
  rw [fetchSize, map_congr_left hentry, map_const', sum_replicate,
    length_zipIdx, length_replicate, smul_eq_mul]

/-- A request of less than ten megabytes, for a topic again and again: with a record of two
kilobytes, the reply is of more than two gigabytes, and cannot be read. -/
theorem fetch_reply_too_large :
    ∃ (srv : Server) (req : Protocol.FetchRequest), req.encode.length ≤ 10 * 1024 * 1024 ∧
      ∃ bs, Runs (handleRequest srv .plain) req.encode (bs, []) [] ∧
        decodeReply fetchResponse bs ≠ some (req.correlationID,
          (req.topics.map name).zipIdx.map (topicReply srv .plain)) := by
  obtain ⟨n, hn⟩ : ∃ n, n = 1400000 := ⟨_, rfl⟩
  obtain ⟨value, hvalue⟩ : ∃ value : GoString, value.length = 2000 :=
    ⟨List.replicate 2000 0, List.length_replicate⟩
  have hlen : 2 * (List.replicate n shortTopic).length < 256 ^ 4 := by
    rw [List.length_replicate]
    omega
  refine ⟨oneMock [{ value := value }], plainFetch (List.replicate n shortTopic) hlen, ?_, _,
    (runs_handleRequest_iff _ .plain _).mpr rfl, fun h => ?_⟩
  · rw [length_repeatedFetch]
    omega
  · have hlt := (decodeReply_fetchBody _ .plain _ fun _ => rfl).mp h
    have hnames : (plainFetch (List.replicate n shortTopic) hlen).topics.map
        name = List.replicate n (go "t") := List.map_replicate
    rw [hnames, fetchSize_repeated, hvalue] at hlt
    omega

end Mockly.Kafka
