import Mockly.Kafka.Protocol

/-!
# Message sets

A client finds the messages with their sizes and checksums (`messages_messageSet`). The server takes
the key and the value of the first one (`runs_parseMessageSet`).
-/

namespace Mockly.Kafka

open Parser Protocol BigEndian List

lemma getD_nullableBytes (s : GoString) : (nullableBytes s).getD [] = s := by
  unfold nullableBytes
  split_ifs with h
  · exact h.symm
  · rfl

variable (record : KafkaRecord)

lemma length_messagePayload :
    (messagePayload record).length = 10 + record.key.length + record.value.length := by
  simp only [messagePayload, length_append, length_writeKafkaBytes, getD_nullableBytes,
    Option.getD_some]
  simp
  omega

@[simp] lemma length_messageEntry :
    (messageEntry record).length = 26 + record.key.length + record.value.length := by
  simp only [messageEntry, length_append, length_writeInt, length_bytes, length_messagePayload]
  omega

lemma messagePayload_eq :
    messagePayload record = writeInt 1 0 ++ (writeInt 1 0 ++
      (writeKafkaBytes (nullableBytes record.key) ++ writeKafkaBytes (some record.value))) :=
  rfl

lemma messageEntry_eq :
    messageEntry record = writeInt 8 0 ++ (writeInt 4 ((messagePayload record).length + 4 : ℕ) ++
      (bytes 4 (checksumIEEE (messagePayload record)).toNat ++ messagePayload record)) := by
  simp [messageEntry]

def messageOf (record : KafkaRecord) : Protocol.Message :=
  ⟨0, nullableBytes record.key, some record.value⟩

lemma record_fits {record : KafkaRecord} (h : 2 * (messageEntry record).length < 256 ^ 4) :
    2 * ((nullableBytes record.key).getD []).length < 256 ^ 4 ∧
      2 * ((some record.value).getD []).length < 256 ^ 4 := by
  rw [length_messageEntry] at h
  rw [getD_nullableBytes, Option.getD_some]
  omega

lemma reads_messageContent {record : KafkaRecord}
    (h : 2 * (messageEntry record).length < 256 ^ 4) :
    Reads (messageContent 0) (messagePayload record) (messageOf record) := by
  obtain ⟨hkey, hvalue⟩ := record_fits h
  rw [messagePayload_eq]
  exact (reads_int_of_fits (by decide)).bind ((reads_int_of_fits (by decide)).bind
    ((reads_nullable hkey).bind ((reads_nullable hvalue).bind_pure
      (reads_pure _))))

/-- **A message is read**, with its size and its checksum. -/
lemma reads_message {record : KafkaRecord} (h : 2 * (messageEntry record).length < 256 ^ 4) :
    Reads message (messageEntry record) (messageOf record) := by
  have hcontent := decode_of_reads (reads_messageContent h)
  have hlen := length_messagePayload record
  rw [length_messageEntry] at h
  rw [messageEntry_eq]
  generalize messagePayload record = payload at *
  have hsize : (bytes 4 (checksumIEEE payload).toNat ++ payload).length = payload.length + 4 := by
    simp
    omega
  have hcrc : value (bytes 4 (checksumIEEE payload).toNat) =
      (checksumIEEE payload).toNat :=
    value_bytes_of_lt (UInt32.toNat_lt _)
  refine (reads_int_of_fits (by decide)).bind ((reads_count (by omega)).bind
    ((reads_exactly hsize).bind_pure ?_))
  rw [take_left' (length_bytes 4 _), drop_left' (length_bytes 4 _),
    if_pos ⟨Nat.le_add_left 4 _, hcrc⟩]
  exact reads_ofOption hcontent

variable {records : List KafkaRecord}

lemma length_messageEntry_le {record : KafkaRecord} (h : record ∈ records) :
    (messageEntry record).length ≤ (messageSet records).length := by
  rw [messageSet, length_flatMap]
  exact single_le_sum (by simp) _ (mem_map_of_mem h)

/-- **A message set is read** as the messages in it. -/
lemma messages_messageSet (h : 2 * (messageSet records).length < 256 ^ 4) :
    messages (messageSet records).length (messageSet records) = some (records.map messageOf) := by
  refine messages_of_reads (fun record => ?_) (fun record hrecord => ?_) ?_
  · rw [← length_pos_iff, length_messageEntry]
    omega
  · have hle := length_messageEntry_le hrecord
    exact reads_message (by omega)
  · rw [messageSet, length_flatMap]
    have hle := length_le_sum_of_one_le (records.map fun r => (messageEntry r).length)
    rw [length_map] at hle
    refine hle fun n hn => ?_
    obtain ⟨record, -, rfl⟩ := mem_map.mp hn
    rw [length_messageEntry]
    omega

lemma runs_parseMessageSet {record : KafkaRecord}
    (h : 2 * (messageSet (record :: records)).length < 256 ^ 4) (r : GoString) :
    Runs (parseMessageSet (messageSet (record :: records))) r (record.key, record.value) r := by
  have hentry := length_messageEntry_le (mem_cons_self : record ∈ record :: records)
  have hlen := length_messagePayload record
  obtain ⟨hkey, hvalue⟩ := record_fits ((Nat.mul_le_mul_left 2 hentry).trans_lt h)
  rw [length_messageEntry] at hentry
  have hfits : Fits 4 ((messagePayload record).length + 4 : ℕ) := ⟨by omega, by omega⟩
  have hbytes : messageEntry record = writeInt 8 0 ++
      (writeInt 4 ((messagePayload record).length + 4 : ℕ) ++
        (bytes 4 (checksumIEEE (messagePayload record)).toNat ++ (writeInt 1 0 ++
          (writeInt 1 0 ++ (writeKafkaBytes (nullableBytes record.key) ++
            writeKafkaBytes (some record.value)))))) := messageEntry_eq record
  have hset : messageSet (record :: records) = messageEntry record ++ messageSet records := rfl
  rw [parseMessageSet, if_neg (by omega), hset, hbytes]
  refine Reads.within ?_ r
  refine (reads_readInt (by decide)).bind ((reads_readInt hfits).bind
    ((reads_readInt_bytes (length_bytes 4 _)).bind
      ((reads_readInt (by decide)).bind ((reads_readInt (by decide)).bind
        ((reads_readKafkaBytes hkey).bind ((reads_readKafkaBytes hvalue).bind_pure ?_))))))
  rw [getD_nullableBytes]
  exact reads_pure _

end Mockly.Kafka
