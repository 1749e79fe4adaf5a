import Mockly.Kafka.Messages

/-!
# Produce

Of each message set the server stores the first message, or an empty one if there is none; it gives
up the request at a set of more than ten megabytes, with an empty reply.

Main result: **`produce_faithful`**.
-/

namespace Mockly.Kafka

open Parser Protocol List Protocol.ProduceRequest Produced ProducedKafkaMessage

namespace Protocol

def ProduceRequest.sets (req : ProduceRequest) : List (GoString × ProducePartition) :=
  req.topics.flatMap fun t => t.partitions.map fun p => (t.name, p)

def ProduceRequest.partitions (req : ProduceRequest) : List (GoString × ℤ) :=
  req.sets.map fun s => (s.1, s.2.partition)

def ProduceRequest.messages (req : ProduceRequest) : List Produced :=
  req.sets.flatMap fun s => s.2.records.map fun r => ⟨s.1, s.2.partition, r.key, r.value⟩

def ProducePartition.Accepted (p : ProducePartition) : Prop :=
  (messageSet p.records).length ≤ maxRecordSet

instance (p : ProducePartition) : Decidable p.Accepted :=
  inferInstanceAs (Decidable (((messageSet p.records).length : ℤ) ≤ maxRecordSet))

end Protocol

/-! ## What is read of a request -/

/-- What is stored of a message set. -/
def taken (s : GoString × Protocol.ProducePartition) : Produced :=
  match s.2.records with
  | [] => ⟨s.1, s.2.partition, [], []⟩
  | r :: _ => ⟨s.1, s.2.partition, r.key, r.value⟩

lemma runs_parseMessageSet_taken (s : GoString × Protocol.ProducePartition) (r : GoString) :
    Runs (parseMessageSet (messageSet s.2.records)) r ((taken s).key, (taken s).value) r := by
  obtain ⟨topic, partition, records, hpartition, hset⟩ := s
  cases records with
  | nil => exact runs_pure.mpr ⟨rfl, rfl⟩
  | cons record records => exact runs_parseMessageSet hset r

lemma reads_producePartition (topic : GoString) {p : Protocol.ProducePartition} (h : p.Accepted) :
    Reads (producePartition topic) p.encode ([taken (topic, p)], true) := by
  refine reads_turn.of_nil ((reads_readInt p.partition_fits).bind
    ((reads_readInt (fits_length p.set_lt)).bind ?_))
  have hok : ¬(((messageSet p.records).length : ℤ) < 0 ∨
      ((messageSet p.records).length : ℤ) > maxRecordSet) := by
    unfold Protocol.ProducePartition.Accepted at h
    omega
  rw [if_neg hok]
  refine (reads_readFull _).bind_pure ?_
  have hparse : Reads (parseMessageSet (messageSet p.records)) []
      ((taken (topic, p)).key, (taken (topic, p)).value) :=
    fun r => runs_parseMessageSet_taken (topic, p) r
  have htaken : taken (topic, p) =
      ⟨topic, p.partition, (taken (topic, p)).key, (taken (topic, p)).value⟩ := by
    unfold taken
    cases p.records <;> rfl
  refine hparse.bind_pure ?_
  rw [htaken]
  exact reads_pure _

lemma stops_producePartition (topic : GoString) {p : Protocol.ProducePartition}
    (h : ¬p.Accepted) : Stops (producePartition topic) p.encode := by
  have hbad : ((messageSet p.records).length : ℤ) < 0 ∨
      ((messageSet p.records).length : ℤ) > maxRecordSet := by
    unfold Protocol.ProducePartition.Accepted at h
    omega
  refine reads_turn.bind_stops (e := []) ((reads_readInt p.partition_fits).bind_stops
    ((reads_readInt (fits_length p.set_lt)).bind_stops fun rest => ?_))
  rw [if_pos hbad]
  exact ⟨[], _, runs_pure.mpr ⟨rfl, rfl⟩⟩

lemma reads_produceTopic {t : Protocol.ProduceTopic} (h : ∀ p ∈ t.partitions, p.Accepted) :
    Reads produceTopic t.encode (t.partitions.flatMap fun p => [taken (t.name, p)], true) := by
  refine reads_turn.of_nil ((reads_readKafkaString t.name_lt).bind
    ((reads_readInt (fits_length t.partitions_lt)).bind ?_))
  rw [Int.toNat_natCast]
  exact reads_rounds fun p hp => reads_producePartition t.name (h p hp)

lemma stops_produceTopic {t : Protocol.ProduceTopic} (h : ∃ p ∈ t.partitions, ¬p.Accepted) :
    Stops produceTopic t.encode := by
  refine reads_turn.bind_stops (e := []) ((reads_readKafkaString t.name_lt).bind_stops
    ((reads_readInt (fits_length t.partitions_lt)).bind_stops ?_))
  rw [Int.toNat_natCast]
  obtain ⟨p, hp, hbad⟩ := h
  refine stops_rounds (fun q _ => ?_) ⟨p, hp, stops_producePartition t.name hbad⟩
  by_cases hq : q.Accepted
  · exact Or.inl ⟨_, reads_producePartition t.name hq⟩
  · exact Or.inr (stops_producePartition t.name hq)

/-- **A request whose sets are accepted** is read to its end. -/
lemma runs_handleProduce (γ : Moment) {req : Protocol.ProduceRequest}
    (h : ∀ s ∈ req.sets, s.2.Accepted) :
    Runs (handleProduce γ) req.encode
      { body := produceReply γ (req.sets.map taken)
        produced := (req.sets.map taken).zipIdx.map (message γ) } [] := by
  have hsets : req.sets.map taken =
      req.topics.flatMap fun t => t.partitions.flatMap fun p => [taken (t.name, p)] := by
    rw [sets, map_flatMap]
    simp [Function.comp_def, ← map_eq_flatMap]
  have hread : Reads (handleProduce γ) req.encode
      { body := produceReply γ (req.sets.map taken)
        produced := (req.sets.map taken).zipIdx.map (message γ) } := by
    refine (reads_readInt req.requiredAcks_fits).bind ((reads_readInt req.timeout_fits).bind
      ((reads_readInt (fits_length req.topics_lt)).bind ?_))
    rw [Int.toNat_natCast, hsets]
    refine (reads_rounds fun t ht => reads_produceTopic fun p hp => ?_).bind_pure (reads_pure _)
    exact h (t.name, p) (mem_flatMap.mpr ⟨t, ht, mem_map_of_mem hp⟩)
  have hruns := hread []
  rwa [append_nil] at hruns

lemma runs_handleProduce_of_not_accepted (γ : Moment) {req : Protocol.ProduceRequest}
    (h : ∃ s ∈ req.sets, ¬s.2.Accepted) :
    ∃ produced r, Runs (handleProduce γ) req.encode { body := [], produced := produced } r := by
  have hstop : ∃ t ∈ req.topics, ∃ p ∈ t.partitions, ¬p.Accepted := by
    obtain ⟨s, hs, hbad⟩ := h
    obtain ⟨t, ht, hs⟩ := mem_flatMap.mp hs
    obtain ⟨p, hp, rfl⟩ := mem_map.mp hs
    exact ⟨t, ht, p, hp, hbad⟩
  obtain ⟨t, ht, hbad⟩ := hstop
  have hrounds : Stops (rounds produceTopic req.topics.length)
      (req.topics.flatMap Protocol.ProduceTopic.encode) := by
    refine stops_rounds (fun u _ => ?_) ⟨t, ht, stops_produceTopic hbad⟩
    by_cases hu : ∀ p ∈ u.partitions, p.Accepted
    · exact Or.inl ⟨_, reads_produceTopic hu⟩
    · exact Or.inr (stops_produceTopic (by simpa using hu))
  obtain ⟨as, r, hruns⟩ := hrounds []
  rw [append_nil] at hruns
  refine ⟨as.zipIdx.map (message γ), r, ?_⟩
  refine runs_bind.mpr ⟨_, _, reads_readInt req.requiredAcks_fits _, ?_⟩
  refine runs_bind.mpr ⟨_, _, reads_readInt req.timeout_fits _, ?_⟩
  refine runs_bind.mpr ⟨_, _, reads_readInt (fits_length req.topics_lt) _, ?_⟩
  rw [Int.toNat_natCast]
  exact runs_bind.mpr ⟨_, _, hruns, runs_pure.mpr ⟨rfl, rfl⟩⟩

/-! ## The acknowledgements -/

def acknowledged (topics : List (GoString × List Protocol.Ack)) : List (GoString × ℤ) :=
  topics.flatMap fun t => t.2.map fun ack => (t.1, ack.partition)

section Reply

variable (γ : Moment)

def ackOf (p : Produced × ℕ) : GoString × List Protocol.Ack :=
  (p.1.topic, [⟨p.1.partition, (γ.responseCode p.2).bmod (256 ^ 2), 0⟩])

def Produced.Fits (p : Produced) : Prop := 2 * p.topic.length < 256 ^ 2 ∧ Kafka.Fits 4 p.partition

lemma reads_produceEntry {p : Produced × ℕ} (h : p.1.Fits) :
    Reads Protocol.produceTopic (produceEntry γ p) (ackOf γ p) := by
  have hbytes : produceEntry γ p = writeKafkaString p.1.topic ++ (writeInt 4 1 ++
      (writeInt 4 p.1.partition ++ (writeInt 2 (γ.responseCode p.2) ++ writeInt 8 0))) := by
    simp [produceEntry]
  have hack : Reads produceAck
      (writeInt 4 p.1.partition ++ (writeInt 2 (γ.responseCode p.2) ++ writeInt 8 0))
      ⟨p.1.partition, (γ.responseCode p.2).bmod (256 ^ 2), 0⟩ :=
    (reads_int_of_fits h.2).bind ((reads_int 2 _).bind
      ((reads_int_of_fits (by decide)).bind_pure (reads_pure _)))
  rw [hbytes]
  exact (Protocol.reads_string h.1).bind
    ((Protocol.reads_array_one hack).bind_pure (reads_pure _))

lemma reads_produceReply {ps : List Produced} (h : ∀ p ∈ ps, p.Fits)
    (hlen : 2 * ps.length < 256 ^ 4) :
    Reads produceResponse (produceReply γ ps) (ps.zipIdx.map (ackOf γ)) := by
  have hlen' : ps.zipIdx.length = ps.length := length_zipIdx
  rw [produceReply, ← hlen']
  exact reads_array (by omega) fun p hp =>
    reads_produceEntry γ (h p.1 (fst_mem_of_mem_zipIdx hp))

lemma acknowledged_ackOf (ps : List Produced) :
    acknowledged (ps.zipIdx.map (ackOf γ)) = ps.map fun p => (p.topic, p.partition) := by
  have hone : acknowledged (ps.zipIdx.map (ackOf γ)) =
      ps.zipIdx.flatMap fun p => [(p.1.topic, p.1.partition)] := by
    rw [acknowledged, flatMap_map]
    rfl
  have hfst : ps.zipIdx.map (fun p => (p.1.topic, p.1.partition)) =
      (ps.zipIdx.map Prod.fst).map fun p => (p.topic, p.partition) := by
    rw [map_map]
    rfl
  rw [hone, ← map_eq_flatMap, hfst, zipIdx_map_fst]

/-- **A reply with more partitions than fit in four bytes** cannot be read. -/
lemma lt_of_decode_produceReply {ps : List Produced} (h : ∀ p ∈ ps, p.Fits)
    {acks : List (GoString × List Protocol.Ack)}
    (hdecode : Protocol.decode Protocol.produceResponse (produceReply γ ps) = some acks) :
    2 * ps.length < 256 ^ 4 := by
  by_contra hlarge
  obtain ⟨m, r, hcount, htimes⟩ := runs_bind.mp (Protocol.decode_eq_some_iff.mp hdecode)
  obtain ⟨rfl, hm⟩ := Protocol.eq_of_runs_count hcount
  have hbmod := Int.bmod_lt (x := (ps.length : ℤ)) (m := 256 ^ 4) (by positivity)
  have hlt : m < ps.length := by omega
  have hread := reads_times (fun p hp => reads_produceEntry γ (h p.1
    (fst_mem_of_mem_zipIdx (mem_of_mem_take hp))) :
      ∀ p ∈ ps.zipIdx.take m, Reads Protocol.produceTopic (produceEntry γ p) (ackOf γ p))
    ((ps.zipIdx.drop m).flatMap (produceEntry γ))
  rw [← flatMap_append, take_append_drop, length_take, length_zipIdx, min_eq_left hlt.le] at hread
  -- There are entries left over, and these are not empty.
  obtain ⟨-, hnil⟩ := htimes.unique hread
  have hlast : (ps.zipIdx.drop m).length ≠ 0 := by
    rw [length_drop, length_zipIdx]
    omega
  refine hlast (length_eq_zero_iff.mpr (eq_nil_iff_forall_not_mem.mpr fun p hp => ?_))
  have hempty := flatMap_eq_nil_iff.mp hnil.symm p hp
  have hlen := congrArg List.length hempty
  simp [produceEntry] at hlen

end Reply

/-! ## Messages and acknowledgements of a request -/

/-- A message as it is stored, apart from its id and timestamp. -/
def ProducedKafkaMessage.content (m : ProducedKafkaMessage) : Produced :=
  ⟨m.topic, m.partition, m.key, m.value⟩

/-- Every message of every set is stored, and every partition acknowledged once, in order. -/
def Faithful (γ : Moment) (req : Protocol.ProduceRequest) : Prop :=
  ∃ answer r acks, Runs (handleProduce γ) req.encode answer r ∧
    answer.produced.map content = req.messages ∧
    decode produceResponse answer.body = some acks ∧
    acknowledged acks = req.partitions

/-- Each set has one message and is accepted, and the partitions can be counted. -/
def Protocol.ProduceRequest.Simple (req : Protocol.ProduceRequest) : Prop :=
  (∀ s ∈ req.sets, s.2.records.length = 1 ∧ s.2.Accepted) ∧ req.sets.length < 2 ^ 31

section Request

variable {req : Protocol.ProduceRequest}

lemma content_message (γ : Moment) (ps : List Produced) :
    (ps.zipIdx.map (message γ)).map content = ps := by
  rw [map_map]
  exact zipIdx_map_fst 0 ps

lemma partition_taken (s : GoString × Protocol.ProducePartition) :
    (taken s).topic = s.1 ∧ (taken s).partition = s.2.partition := by
  unfold taken
  cases s.2.records <;> exact ⟨rfl, rfl⟩

lemma fits_taken : ∀ p ∈ req.sets.map taken, p.Fits := by
  intro p hp
  obtain ⟨s, hs, rfl⟩ := mem_map.mp hp
  obtain ⟨t, -, hs⟩ := mem_flatMap.mp hs
  obtain ⟨q, -, rfl⟩ := mem_map.mp hs
  rw [Produced.Fits, (partition_taken _).1, (partition_taken _).2]
  exact ⟨t.name_lt, q.partition_fits⟩

lemma map_partition_taken :
    (req.sets.map taken).map (fun p => (p.topic, p.partition)) = req.partitions := by
  rw [map_map, partitions]
  refine map_congr_left fun s _ => ?_
  exact Prod.ext (partition_taken s).1 (partition_taken s).2

lemma messages_eq_taken (h : ∀ s ∈ req.sets, s.2.records.length = 1) :
    req.messages = req.sets.map taken := by
  rw [Protocol.ProduceRequest.messages, map_eq_flatMap]
  refine flatMap_congr fun s hs => ?_
  obtain ⟨record, hrecord⟩ := length_eq_one_iff.mp (h s hs)
  rw [taken, hrecord]
  rfl

lemma eq_one_of_map_eq {α β : Type} {xs : List α} {τ : α → β} {n : α → ℕ}
    (hnodup : (xs.map τ).Nodup)
    (h : xs.map τ = xs.flatMap fun x => List.replicate (n x) (τ x)) : ∀ x ∈ xs, n x = 1 := by
  induction xs with
  | nil => simp
  | cons x xs ih =>
    rw [map_cons, nodup_cons] at hnodup
    rw [map_cons, flatMap_cons] at h
    have hmem : ∀ y ∈ xs.flatMap (fun x => List.replicate (n x) (τ x)), y ∈ xs.map τ := by
      intro y hy
      obtain ⟨z, hz, hy⟩ := mem_flatMap.mp hy
      rw [eq_of_mem_replicate hy]
      exact mem_map_of_mem hz
    match hn : n x with
    | 0 =>
      rw [hn, replicate_zero, nil_append] at h
      exact absurd (hmem _ (h ▸ mem_cons_self)) hnodup.1
    | 1 =>
      rw [hn] at h
      rw [forall_mem_cons]
      exact ⟨hn, ih hnodup.2 (List.cons.inj h).2⟩
    | k + 2 =>
      rw [hn, replicate_succ, cons_append] at h
      have htail := (List.cons.inj h).2
      rw [replicate_succ, cons_append] at htail
      exact absurd (htail ▸ mem_cons_self) hnodup.1

lemma length_eq_one_of_messages_eq (hnodup : req.partitions.Nodup)
    (h : req.sets.map taken = req.messages) : ∀ s ∈ req.sets, s.2.records.length = 1 := by
  refine eq_one_of_map_eq hnodup ?_
  have htags : req.messages.map (fun p => (p.topic, p.partition)) =
      req.sets.flatMap fun s => List.replicate s.2.records.length (s.1, s.2.partition) := by
    rw [Protocol.ProduceRequest.messages, map_flatMap]
    refine flatMap_congr fun s _ => ?_
    simp [Function.comp_def]
  rw [← htags, ← h, map_partition_taken]
  rfl

end Request

/-- **Which produce requests are stored and acknowledged.** -/
theorem produce_faithful (γ : Moment) (req : Protocol.ProduceRequest) :
    (req.Simple → Faithful γ req) ∧
      (req.partitions.Nodup → Faithful γ req → req.Simple) := by
  constructor
  · rintro ⟨hone, hcount⟩
    have hlen : 2 * (req.sets.map taken).length < 256 ^ 4 := by
      rw [length_map]
      omega
    refine ⟨_, _, _, runs_handleProduce γ fun s hs => (hone s hs).2, ?_,
      decode_of_reads (reads_produceReply γ fits_taken hlen), ?_⟩
    · rw [content_message, messages_eq_taken fun s hs => (hone s hs).1]
    · rw [acknowledged_ackOf, map_partition_taken]
  · rintro hnodup ⟨answer, r, acks, hruns, hstored, hdecode, -⟩
    have haccepted : ∀ s ∈ req.sets, s.2.Accepted := by
      by_contra hall
      have hbad : ∃ s ∈ req.sets, ¬s.2.Accepted := by simpa using hall
      obtain ⟨produced, r', hgiven⟩ := runs_handleProduce_of_not_accepted γ hbad
      obtain ⟨rfl, -⟩ := hruns.unique hgiven
      cases hdecode
    obtain ⟨rfl, -⟩ := hruns.unique (runs_handleProduce γ haccepted)
    have hlt := lt_of_decode_produceReply γ fits_taken hdecode
    rw [length_map] at hlt
    rw [content_message] at hstored
    refine ⟨fun s hs => ⟨?_, haccepted s hs⟩, by omega⟩
    exact length_eq_one_of_messages_eq hnodup hstored s hs

/-! ## A request with two messages -/

def twoMessages : Protocol.ProduceRequest where
  requiredAcks := 1
  timeout := 250
  topics :=
    [{ name := go "orders"
       partitions :=
         [{ partition := 0
            records := [{ value := go "a" }, { key := go "k", value := go "b" }]
            partition_fits := by decide
            set_lt := by decide +kernel }]
       name_lt := by decide
       partitions_lt := by decide }]
  requiredAcks_fits := by decide
  timeout_fits := by decide
  topics_lt := by decide

/-- Two messages in one set: the second is not stored. -/
theorem second_message_lost :
    twoMessages.messages =
        [⟨go "orders", 0, [], go "a"⟩, ⟨go "orders", 0, go "k", go "b"⟩] ∧
      ∃ answer, Runs (handleProduce .plain) twoMessages.encode answer [] ∧
        answer.produced.map content = [⟨go "orders", 0, [], go "a"⟩] := by
  refine ⟨rfl, _, runs_handleProduce .plain (by decide +kernel), ?_⟩
  rw [content_message]
  rfl

end Mockly.Kafka
