import Mockly.Kafka.Server

/-!
# The protocol

How a request of version 0 is written, and how a reply is to be read. A client refuses a reply that
is cut short, in which a length is negative, or in which anything is left over.
-/

namespace Mockly.Kafka.Protocol

open Parser List

/-! ## Writing requests -/

def writeNullableString : Option GoString → GoString
  | none => writeInt 2 (-1)
  | some s => writeKafkaString s

structure FetchPartition where
  partition : ℤ
  fetchOffset : ℤ
  maxBytes : ℤ
  partition_fits : Fits 4 partition
  fetchOffset_fits : Fits 8 fetchOffset
  maxBytes_fits : Fits 4 maxBytes

def FetchPartition.encode (p : FetchPartition) : GoString :=
  writeInt 4 p.partition ++ (writeInt 8 p.fetchOffset ++ writeInt 4 p.maxBytes)

structure FetchTopic where
  name : GoString
  partitions : List FetchPartition
  name_lt : 2 * name.length < 256 ^ 2
  partitions_lt : 2 * partitions.length < 256 ^ 4

def FetchTopic.encode (t : FetchTopic) : GoString :=
  writeKafkaString t.name ++
    (writeInt 4 t.partitions.length ++ t.partitions.flatMap FetchPartition.encode)

/-- A fetch request; strings and lists are of a length that can be written. -/
structure FetchRequest where
  correlationID : ℤ
  clientID : Option GoString
  replicaID : ℤ
  maxWait : ℤ
  minBytes : ℤ
  topics : List FetchTopic
  correlationID_fits : Fits 4 correlationID
  clientID_lt : 2 * (clientID.getD []).length < 256 ^ 2
  replicaID_fits : Fits 4 replicaID
  maxWait_fits : Fits 4 maxWait
  minBytes_fits : Fits 4 minBytes
  topics_lt : 2 * topics.length < 256 ^ 4

def FetchRequest.encode (req : FetchRequest) : GoString :=
  writeInt 2 1 ++ (writeInt 2 0 ++ (writeInt 4 req.correlationID ++
    (writeNullableString req.clientID ++ (writeInt 4 req.replicaID ++ (writeInt 4 req.maxWait ++
      (writeInt 4 req.minBytes ++ (writeInt 4 req.topics.length ++
        req.topics.flatMap FetchTopic.encode)))))))

/-- A partition of a produce request, with a message set. -/
structure ProducePartition where
  partition : ℤ
  records : List KafkaRecord
  partition_fits : Fits 4 partition
  set_lt : 2 * (messageSet records).length < 256 ^ 4

def ProducePartition.encode (p : ProducePartition) : GoString :=
  writeInt 4 p.partition ++ (writeInt 4 (messageSet p.records).length ++ messageSet p.records)

structure ProduceTopic where
  name : GoString
  partitions : List ProducePartition
  name_lt : 2 * name.length < 256 ^ 2
  partitions_lt : 2 * partitions.length < 256 ^ 4

def ProduceTopic.encode (t : ProduceTopic) : GoString :=
  writeKafkaString t.name ++
    (writeInt 4 t.partitions.length ++ t.partitions.flatMap ProducePartition.encode)

structure ProduceRequest where
  requiredAcks : ℤ
  timeout : ℤ
  topics : List ProduceTopic
  requiredAcks_fits : Fits 2 requiredAcks
  timeout_fits : Fits 4 timeout
  topics_lt : 2 * topics.length < 256 ^ 4

def ProduceRequest.encode (req : ProduceRequest) : GoString :=
  writeInt 2 req.requiredAcks ++ (writeInt 4 req.timeout ++
    (writeInt 4 req.topics.length ++ req.topics.flatMap ProduceTopic.encode))

/-! ## Reading replies -/

/-- Reading what is there, or refusing it. -/
abbrev Decoding := Parser Unit

def exactly (n : ℕ) : Decoding GoString := do
  let bs ← upTo n
  if bs.length = n then pure bs else fail ()

def int (k : ℕ) : Decoding ℤ := do
  let bs ← exactly k
  pure (BigEndian.signed bs)

def count : Decoding ℕ := do
  let n ← int 4
  if n < 0 then fail () else pure n.toNat

def string : Decoding GoString := do
  let n ← int 2
  if n < 0 then fail () else exactly n.toNat

def nullable : Decoding (Option GoString) := do
  let n ← int 4
  if n = -1 then pure none
  else if n < 0 then fail ()
  else do
    let bs ← exactly n.toNat
    pure (some bs)

def array {α : Type} (p : Decoding α) : Decoding (List α) := do
  let n ← count
  times p n

def decode {α : Type} (p : Decoding α) (bs : GoString) : Option α :=
  match p bs with
  | .error _ => none
  | .ok o => if o.unread = [] then some o.value else none

def ofOption {α : Type} : Option α → Decoding α
  | none => fail ()
  | some a => pure a

structure Message where
  offset : ℤ
  key : Option GoString
  value : Option GoString

def messageContent (offset : ℤ) : Decoding Message := do
  let magic ← int 1
  let attributes ← int 1
  let key ← nullable
  let value ← nullable
  if magic = 0 ∧ attributes = 0 then pure ⟨offset, key, value⟩ else fail ()

/-- A message: its offset, its size, and the checksum and the content that take up this size. -/
def message : Decoding Message := do
  let offset ← int 8
  let size ← count
  let bs ← exactly size
  if 4 ≤ size ∧ BigEndian.value (bs.take 4) = (checksumIEEE (bs.drop 4)).toNat then
    ofOption (decode (messageContent offset) (bs.drop 4))
  else fail ()

def messages : ℕ → GoString → Option (List Message)
  | _, [] => some []
  | 0, _ :: _ => none
  | n + 1, b :: bs =>
    match message (b :: bs) with
    | .error _ => none
    | .ok o => (messages n o.unread).map (o.value :: ·)

structure PartitionReply where
  partition : ℤ
  errorCode : ℤ
  highWatermark : ℤ
  messages : List Message

structure TopicReply where
  topic : GoString
  partitions : List PartitionReply

def fetchPartition : Decoding PartitionReply := do
  let partition ← int 4
  let errorCode ← int 2
  let highWatermark ← int 8
  let size ← count
  let set ← exactly size
  let ms ← ofOption (messages set.length set)
  pure ⟨partition, errorCode, highWatermark, ms⟩

def fetchTopic : Decoding TopicReply := do
  let topic ← string
  let partitions ← array fetchPartition
  pure ⟨topic, partitions⟩

def fetchResponse : Decoding (List TopicReply) := array fetchTopic

/-- The acknowledgement of a partition, with an error code and an offset. -/
structure Ack where
  partition : ℤ
  errorCode : ℤ
  offset : ℤ

def produceAck : Decoding Ack := do
  let partition ← int 4
  let errorCode ← int 2
  let offset ← int 8
  pure ⟨partition, errorCode, offset⟩

def produceTopic : Decoding (GoString × List Ack) := do
  let topic ← string
  let acks ← array produceAck
  pure (topic, acks)

def produceResponse : Decoding (List (GoString × List Ack)) := array produceTopic

/-- A reply: its size, and the correlation id and the response that take up this size. -/
def decodeReply {α : Type} (response : Decoding α) (bs : GoString) : Option (ℤ × α) :=
  decode (do
    let size ← count
    let frame ← exactly size
    ofOption (decode (do
      let correlationID ← int 4
      let a ← response
      pure (correlationID, a)) frame)) bs

/-! ## Reading what was written -/

section Reads

variable {α : Type}

lemma reads_exactly {n : ℕ} {bs : GoString} (h : bs.length = n) : Reads (exactly n) bs bs := by
  refine (reads_upTo h).bind_pure ?_
  rw [if_pos h]
  exact reads_pure bs

lemma reads_int (k : ℕ) (n : ℤ) : Reads (int k) (writeInt k n) (n.bmod (256 ^ k)) := by
  refine (reads_exactly (length_writeInt k n)).bind_pure ?_
  rw [writeInt, BigEndian.signed_signedBytes]
  exact reads_pure _

lemma reads_int_of_fits {k : ℕ} {n : ℤ} (h : Fits k n) : Reads (int k) (writeInt k n) n := by
  refine (reads_exactly (length_writeInt k n)).bind_pure ?_
  rw [signed_writeInt h]
  exact reads_pure n

lemma reads_count {n : ℕ} (h : 2 * n < 256 ^ 4) : Reads count (writeInt 4 n) n := by
  have hfits : Fits 4 n := ⟨by omega, by omega⟩
  refine (reads_int_of_fits hfits).bind_pure ?_
  rw [if_neg (by omega), Int.toNat_natCast]
  exact reads_pure n

lemma reads_string {s : GoString} (h : 2 * s.length < 256 ^ 2) :
    Reads string (writeKafkaString s) s := by
  refine (reads_int_of_fits (fits_length h)).bind ?_
  rw [if_neg (by omega), Int.toNat_natCast]
  exact reads_exactly rfl

lemma reads_nullable {b : Option GoString} (h : 2 * (b.getD []).length < 256 ^ 4) :
    Reads nullable (writeKafkaBytes b) b := by
  cases b with
  | none => exact (reads_int_of_fits (by decide : Fits 4 (-1))).bind_pure (reads_pure none)
  | some b =>
    refine (reads_int_of_fits (fits_length h)).bind ?_
    rw [if_neg (by omega), if_neg (by omega), Int.toNat_natCast]
    exact (reads_exactly rfl).bind_pure (reads_pure _)

lemma reads_array {γ : Type} {p : Decoding α} {xs : List γ} {e : γ → GoString} {a : γ → α}
    (hlen : 2 * xs.length < 256 ^ 4) (h : ∀ x ∈ xs, Reads p (e x) (a x)) :
    Reads (array p) (writeInt 4 xs.length ++ xs.flatMap e) (xs.map a) :=
  (reads_count hlen).bind (reads_times h)

lemma reads_array_one {p : Decoding α} {e : GoString} {a : α} (h : Reads p e a) :
    Reads (array p) (writeInt 4 1 ++ e) [a] :=
  (reads_count (by decide : 2 * 1 < 256 ^ 4)).bind
    (h.bind_pure ((reads_pure []).bind_pure (reads_pure _)))

lemma decode_eq_some_iff {p : Decoding α} {bs : GoString} {a : α} :
    decode p bs = some a ↔ Runs p bs a [] := by
  unfold decode Runs
  cases h : p bs with
  | error e => simp
  | ok o =>
    obtain ⟨value, unread, demands⟩ := o
    by_cases hnil : unread = [] <;> simp [hnil]

lemma decode_of_reads {p : Decoding α} {bs : GoString} {a : α} (h : Reads p bs a) :
    decode p bs = some a := by
  have hruns := h []
  rw [append_nil] at hruns
  exact decode_eq_some_iff.mpr hruns

lemma reads_ofOption {o : Option α} {a : α} (h : o = some a) : Reads (ofOption o) [] a := by
  rw [h]
  exact reads_pure a

lemma messages_of_reads {γ : Type} {xs : List γ} {e : γ → GoString} {m : γ → Message}
    (he : ∀ x, e x ≠ []) (h : ∀ x ∈ xs, Reads message (e x) (m x)) {n : ℕ} (hn : xs.length ≤ n) :
    messages n (xs.flatMap e) = some (xs.map m) := by
  induction xs generalizing n with
  | nil => cases n <;> rfl
  | cons x xs ih =>
    rw [forall_mem_cons] at h
    obtain ⟨n, rfl⟩ : ∃ n', n = n' + 1 := ⟨n - 1, by simp at hn; omega⟩
    obtain ⟨ds, hds⟩ := h.1 (xs.flatMap e)
    have hrest := ih h.2 (by simpa using hn)
    rw [flatMap_cons]
    obtain ⟨b, bs, hb⟩ := exists_cons_of_ne_nil (he x)
    rw [hb] at hds ⊢
    rw [cons_append] at hds ⊢
    simp [messages, hds, hrest]

end Reads

/-! ## The size of a reply -/

section Size

variable {α : Type} {r r' : GoString}

lemma runs_exactly {n : ℕ} {bs : GoString} :
    Runs (exactly n) r bs r' ↔ n ≤ r.length ∧ bs = r.take n ∧ r' = r.drop n := by
  have hlen : (r.take n).length = n ↔ n ≤ r.length := by
    rw [length_take]
    omega
  rw [exactly, runs_bind]
  constructor
  · rintro ⟨_, _, hup, h⟩
    obtain ⟨rfl, rfl⟩ := runs_upTo.mp hup
    split_ifs at h with hn
    · obtain ⟨rfl, rfl⟩ := runs_pure.mp h
      exact ⟨hlen.mp hn, rfl, rfl⟩
    · exact absurd h not_runs_fail
  · rintro ⟨hn, rfl, rfl⟩
    refine ⟨_, _, runs_upTo.mpr ⟨rfl, rfl⟩, ?_⟩
    rw [if_pos (hlen.mpr hn)]
    exact runs_pure.mpr ⟨rfl, rfl⟩

lemma runs_ofOption {o : Option α} {a : α} : Runs (ofOption o) r a r' ↔ o = some a ∧ r' = r := by
  cases o with
  | none => simp [ofOption, not_runs_fail]
  | some b => simp [ofOption, runs_pure, eq_comm]

lemma eq_of_runs_count {n : ℤ} {m : ℕ} (h : Runs count (writeInt 4 n ++ r) m r') :
    r' = r ∧ (m : ℤ) = n.bmod (256 ^ 4) := by
  rw [count, runs_bind] at h
  obtain ⟨n', r'', hint, h⟩ := h
  obtain ⟨rfl, rfl⟩ := hint.unique (reads_int 4 n r)
  split_ifs at h with hneg
  · exact absurd h not_runs_fail
  · obtain ⟨rfl, rfl⟩ := runs_pure.mp h
    exact ⟨rfl, Int.toNat_of_nonneg (not_lt.mp hneg)⟩

lemma lt_of_eq_bmod {n : ℕ} (h : (n : ℤ) = (n : ℤ).bmod (256 ^ 4)) : 2 * n < 256 ^ 4 := by
  have hlt := Int.bmod_lt (x := (n : ℤ)) (m := 256 ^ 4) (by positivity)
  omega

/-- **The size of a reply that can be read is what it says it is.**  A size that does not fit in its
four bytes is cut off there. -/
lemma decodeReply_eq_some_iff {response : Decoding α} {correlationID : ℤ} {body : GoString} {a : α}
    (hid : Fits 4 correlationID) (h : 2 * (4 + body.length) < 256 ^ 4 → Reads response body a) :
    decodeReply response (reply correlationID body) = some (correlationID, a) ↔
      2 * (4 + body.length) < 256 ^ 4 := by
  have hlen : (writeInt 4 correlationID ++ body).length = 4 + body.length := by simp
  rw [decodeReply, decode_eq_some_iff, reply, append_assoc]
  constructor
  · intro hruns
    obtain ⟨size, r₁, hcount, hruns⟩ := runs_bind.mp hruns
    obtain ⟨rfl, hsize⟩ := eq_of_runs_count hcount
    obtain ⟨frame, r₂, hframe, hruns⟩ := runs_bind.mp hruns
    obtain ⟨hle, -, rfl⟩ := runs_exactly.mp hframe
    obtain ⟨-, hnil⟩ := runs_ofOption.mp hruns
    have hge := drop_eq_nil_iff.mp hnil.symm
    rw [hlen] at hle hge
    obtain rfl : size = 4 + body.length := le_antisymm hle hge
    refine lt_of_eq_bmod ?_
    push_cast at hsize ⊢
    exact hsize
  · intro hlt
    have hbody : Reads (do
        let correlationID ← int 4
        let a ← response
        pure (correlationID, a)) (writeInt 4 correlationID ++ body) (correlationID, a) :=
      (reads_int_of_fits hid).bind ((h hlt).bind_pure (reads_pure _))
    have hcount := reads_count hlt (writeInt 4 correlationID ++ body)
    push_cast at hcount
    refine runs_bind.mpr ⟨_, _, hcount, ?_⟩
    refine runs_bind.mpr ⟨writeInt 4 correlationID ++ body, [], ?_, ?_⟩
    · rw [runs_exactly, ← hlen, take_length, drop_length]
      exact ⟨le_rfl, rfl, rfl⟩
    · exact runs_ofOption.mpr ⟨decode_of_reads hbody, rfl⟩

end Size

end Mockly.Kafka.Protocol
