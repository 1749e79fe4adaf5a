import Mockly.Kafka.Server

/-!
# What a Kafka request can ask for

A request is backed if there are as many bytes as is to be allocated, and a byte to read for every
round of a loop.

Main result: **`handleRequest_safe_iff`**.
-/

namespace Mockly.Kafka

open Parser List

/-! ## Which requests are backed -/

/-- The number at the front; zero if it is cut short. -/
def intAt (k : ℕ) (r : GoString) : ℤ := if r.length < k then 0 else BigEndian.signed (r.take k)

/-- Something with its length in the first `k` bytes. -/
def LengthBacked (k : ℕ) (r : GoString) : Prop := intAt k r ≤ (r.drop k).length

def afterLength (k : ℕ) (r : GoString) : GoString := (r.drop k).drop (intAt k r).toNat

def SetBacked (set : GoString) : Prop :=
  26 ≤ set.length → LengthBacked 4 (set.drop 18) ∧ LengthBacked 4 (afterLength 4 (set.drop 18))

def StringsBacked : ℕ → GoString → Prop
  | 0, _ => True
  | n + 1, r => r ≠ [] ∧ LengthBacked 2 r ∧ StringsBacked n (afterLength 2 r)

/-- The topics of a fetch; a partition takes 16 bytes, and needs one. -/
def FetchBacked : ℕ → GoString → Prop
  | 0, _ => True
  | n + 1, r =>
    r ≠ [] ∧ LengthBacked 2 r ∧
      let m := (intAt 4 (afterLength 2 r)).toNat
      let partitions := (afterLength 2 r).drop 4
      (m = 0 ∨ 16 * (m - 1) < partitions.length) ∧ FetchBacked n (partitions.drop (16 * m))

/-- The rest, `K`, is given up at a record set of a length that is refused. -/
def PartitionsBacked (K : Bool → GoString → Prop) : ℕ → GoString → Prop
  | 0, r => K true r
  | n + 1, r =>
    r ≠ [] ∧
      let len := intAt 4 (r.drop 4)
      let rest := r.drop 8
      if len < 0 ∨ len > maxRecordSet then K false rest
      else len ≤ rest.length ∧ SetBacked (rest.take len.toNat) ∧
        PartitionsBacked K n (rest.drop len.toNat)

/-- The same of a produce request. -/
def ProduceBacked : ℕ → GoString → Prop
  | 0, _ => True
  | n + 1, r =>
    r ≠ [] ∧ LengthBacked 2 r ∧
      PartitionsBacked (fun goOn r' => goOn = true → ProduceBacked n r')
        (intAt 4 (afterLength 2 r)).toNat ((afterLength 2 r).drop 4)

def CountBacked (r : GoString) : Prop := 0 ≤ intAt 4 r ∧ intAt 4 r ≤ (r.drop 4).length

/-- What is behind the head of a request, by its kind. -/
def BodyBacked (apiKey : ℤ) (r : GoString) : Prop :=
  if apiKey = 18 then True
  else if apiKey = 3 then CountBacked r ∧ StringsBacked (intAt 4 r).toNat (r.drop 4)
  else if apiKey = 0 then ProduceBacked (intAt 4 (r.drop 6)).toNat (r.drop 10)
  else if apiKey = 1 then
    CountBacked (r.drop 12) ∧ FetchBacked (intAt 4 (r.drop 12)).toNat (r.drop 16)
  else True

/-- Every demand of the request is backed. -/
def RequestBacked (buf : GoString) : Prop :=
  LengthBacked 2 (buf.drop 8) ∧ BodyBacked (intAt 2 buf) (afterLength 2 (buf.drop 8))

/-! ## Reading -/

variable {k : ℕ}

section Reading

variable {r : GoString}

@[simp] lemma wp_readInt {Q : ℤ → GoString → ℤ → Prop} :
    Wp (readInt k) r Q ↔ Q (intAt k r) (r.drop k) 0 := by
  simp [readInt, intAt]

@[simp] lemma wp_turn {Q : Unit → GoString → ℤ → Prop} :
    Wp turn r Q ↔ r ≠ [] ∧ Q () r 1 := by
  have hpos : (0 ≤ (1 : ℤ) ∧ (1 : ℤ) ≤ r.length) ↔ r ≠ [] := by
    rw [← length_pos_iff]
    omega
  rw [turn, wp_demand, hpos]

@[simp] lemma wp_make {n : ℤ} {Q : Unit → GoString → ℤ → Prop} :
    Wp (make n) r Q ↔ (0 ≤ n ∧ n ≤ r.length) ∧ Q () r n := by
  rw [make, wp_bind, wp_demand]
  refine and_congr_right fun hn => ?_
  rw [if_neg (not_lt.mpr hn.1), wp_pure, add_zero]

variable {Q : GoString → GoString → ℤ → Prop}

@[simp] lemma wp_readFull {n : ℤ} :
    Wp (readFull n) r Q ↔ (0 ≤ n ∧ n ≤ r.length) ∧ Q (r.take n.toNat) (r.drop n.toNat) n := by
  rw [readFull, wp_bind, wp_make]
  refine and_congr_right fun hn => ?_
  have hlen : (r.take n.toNat).length = n.toNat := by
    rw [length_take]
    omega
  have hcopy : copySlice (List.replicate n.toNat 0) (r.take n.toNat) = r.take n.toNat := by
    simp [copySlice, hlen]
  simp [hcopy]

lemma wp_length_then {p : ℤ → Reading GoString}
    (hp : ∀ n, 0 ≤ n ∧ p n = readFull n ∨ n ≤ 0 ∧ p n = pure []) :
    Wp (readInt k >>= p) r Q ↔
      LengthBacked k r ∧ Q ((r.drop k).take (intAt k r).toNat) (afterLength k r)
        (intAt k r).toNat := by
  rw [wp_bind, wp_readInt, LengthBacked, afterLength]
  rcases hp (intAt k r) with ⟨hn, h⟩ | ⟨hn, h⟩
  · rw [h, wp_readFull, Int.toNat_of_nonneg hn, zero_add, and_iff_right hn]
  · have hle : intAt k r ≤ (r.drop k).length := by omega
    rw [h, wp_pure, Int.toNat_of_nonpos hn, and_iff_right hle]
    simp

@[simp] lemma wp_readKafkaString :
    Wp readKafkaString r Q ↔
      LengthBacked 2 r ∧ Q ((r.drop 2).take (intAt 2 r).toNat) (afterLength 2 r)
        (intAt 2 r).toNat := by
  refine wp_length_then fun n => ?_
  by_cases hn : n ≤ 0
  · exact Or.inr ⟨hn, if_pos hn⟩
  · exact Or.inl ⟨by omega, if_neg hn⟩

@[simp] lemma wp_readKafkaBytes :
    Wp readKafkaBytes r Q ↔
      LengthBacked 4 r ∧ Q ((r.drop 4).take (intAt 4 r).toNat) (afterLength 4 r)
        (intAt 4 r).toNat := by
  refine wp_length_then fun n => ?_
  by_cases hn : n < 0
  · exact Or.inr ⟨hn.le, if_pos hn⟩
  · exact Or.inl ⟨by omega, if_neg hn⟩

end Reading

/-!
## Whether the demands are backed
-/

variable (n : ℕ) (srv : Server) (γ : Moment)

section Backed

variable {r : GoString}

lemma wp_parseMessageSet {set : GoString} {K : GoString → Prop} :
    (Wp (parseMessageSet set) r fun _ r' _ => K r') ↔ SetBacked set ∧ K r := by
  rw [parseMessageSet, SetBacked]
  split_ifs with h
  · simp [show ¬26 ≤ set.length by omega]
  · simp [show 26 ≤ set.length by omega, and_assoc]

lemma wp_strings : Safe (times (do turn; readKafkaString) n) r ↔ StringsBacked n r := by
  induction n generalizing r with
  | zero => simp [Safe, StringsBacked]
  | succ n ih =>
    rw [Safe, wp_times_succ, StringsBacked, ← ih]
    simp [Safe]

lemma wp_fetchPartition {K : GoString → Prop} :
    (Wp fetchPartition r fun _ r' _ => K r') ↔ r ≠ [] ∧ K (r.drop 16) := by
  simp [fetchPartition]

lemma wp_fetchPartitions (m : ℕ) {K : GoString → Prop} :
    (Wp (times fetchPartition m) r fun _ r' _ => K r') ↔
      (m = 0 ∨ 16 * (m - 1) < r.length) ∧ K (r.drop (16 * m)) := by
  induction m generalizing r with
  | zero => simp
  | succ m ih =>
    have hdrop : (r.drop 16).drop (16 * m) = r.drop (16 * (m + 1)) := by
      rw [drop_drop]
      congr 1
      omega
    have hcount : (r ≠ [] ∧ (m = 0 ∨ 16 * (m - 1) < (r.drop 16).length)) ↔
        (m + 1 = 0 ∨ 16 * (m + 1 - 1) < r.length) := by
      rw [← length_pos_iff, length_drop]
      omega
    simp only [wp_times_succ, ih]
    rw [wp_fetchPartition, hdrop, ← and_assoc, hcount]

lemma wp_fetchTopic {K : GoString → Prop} :
    (Wp fetchTopic r fun _ r' _ => K r') ↔
      r ≠ [] ∧ LengthBacked 2 r ∧
        ((intAt 4 (afterLength 2 r)).toNat = 0 ∨ 16 * ((intAt 4 (afterLength 2 r)).toNat - 1) <
          ((afterLength 2 r).drop 4).length) ∧
        K (((afterLength 2 r).drop 4).drop (16 * (intAt 4 (afterLength 2 r)).toNat)) := by
  simp [fetchTopic, wp_bind, wp_turn, wp_readKafkaString, wp_readInt, wp_pure, wp_fetchPartitions]

lemma wp_fetchTopics : Safe (times fetchTopic n) r ↔ FetchBacked n r := by
  induction n generalizing r with
  | zero => simp [Safe, FetchBacked]
  | succ n ih =>
    rw [Safe, wp_times_succ, wp_fetchTopic]
    exact and_congr_right fun _ => and_congr_right fun _ => and_congr_right fun _ => ih

variable {K : Bool → GoString → Prop}

lemma wp_producePartition {topic : GoString} :
    (Wp (producePartition topic) r fun a r' _ => K a.2 r') ↔
      r ≠ [] ∧
        if intAt 4 (r.drop 4) < 0 ∨ intAt 4 (r.drop 4) > maxRecordSet then K false (r.drop 8)
        else intAt 4 (r.drop 4) ≤ (r.drop 8).length ∧
          SetBacked ((r.drop 8).take (intAt 4 (r.drop 4)).toNat) ∧
          K true ((r.drop 8).drop (intAt 4 (r.drop 4)).toNat) := by
  have hdrop : (r.drop 4).drop 4 = r.drop 8 := drop_drop
  simp only [producePartition, wp_bind, wp_turn, wp_readInt, hdrop]
  refine and_congr_right fun _ => ?_
  split_ifs with h
  · rw [wp_pure]
  · have hnonneg : 0 ≤ intAt 4 (r.drop 4) := by omega
    rw [wp_bind, wp_readFull, and_iff_right hnonneg, wp_bind]
    simp only [wp_pure]
    rw [wp_parseMessageSet]

lemma wp_producePartitions {topic : GoString} :
    (Wp (rounds (producePartition topic) n) r fun a r' _ => K a.2 r') ↔ PartitionsBacked K n r := by
  induction n generalizing r with
  | zero => simp [PartitionsBacked]
  | succ n ih =>
    simp only [wp_rounds_succ, ih]
    exact wp_producePartition (K := fun goOn r' =>
      if goOn then PartitionsBacked K n r' else K goOn r')

lemma wp_produceTopic :
    (Wp produceTopic r fun a r' _ => K a.2 r') ↔
      r ≠ [] ∧ LengthBacked 2 r ∧
        PartitionsBacked K (intAt 4 (afterLength 2 r)).toNat ((afterLength 2 r).drop 4) := by
  simp [produceTopic, wp_bind, wp_turn, wp_readKafkaString, wp_readInt, wp_producePartitions]

lemma wp_produceTopics : Safe (rounds produceTopic n) r ↔ ProduceBacked n r := by
  induction n generalizing r with
  | zero => simp [Safe, ProduceBacked]
  | succ n ih =>
    have hstop : ∀ (goOn : Bool) (r' : GoString),
        (if goOn then Safe (rounds produceTopic n) r' else True) ↔
          (goOn = true → ProduceBacked n r') := by
      intro goOn r'
      cases goOn <;> simp [ih]
    rw [ProduceBacked, Safe, wp_rounds_succ, ← wp_produceTopic]
    exact iff_of_eq (congrArg _ (funext fun a => funext fun r' => funext fun _ =>
      propext (hstop a.2 r')))

lemma safe_buildMetadataResponse :
    Safe (buildMetadataResponse srv) r ↔
      CountBacked r ∧ StringsBacked (intAt 4 r).toNat (r.drop 4) := by
  simp only [Safe, buildMetadataResponse, readKafkaTopics, wp_bind, wp_readInt, wp_make, wp_pure]
  rw [← wp_strings]
  rfl

lemma safe_handleProduce :
    Safe (handleProduce γ) r ↔ ProduceBacked (intAt 4 (r.drop 6)).toNat (r.drop 10) := by
  simp only [Safe, handleProduce, wp_bind, wp_readInt, wp_pure, drop_drop]
  rw [← wp_produceTopics]
  rfl

lemma safe_handleFetch :
    Safe (handleFetch srv γ) r ↔
      CountBacked (r.drop 12) ∧ FetchBacked (intAt 4 (r.drop 12)).toNat (r.drop 16) := by
  simp only [Safe, handleFetch, wp_bind, wp_readInt, wp_make, wp_pure, drop_drop]
  rw [CountBacked, drop_drop, ← wp_fetchTopics]
  rfl

lemma safe_respond (apiKey : ℤ) : Safe (respond srv γ apiKey) r ↔ BodyBacked apiKey r := by
  unfold respond BodyBacked
  split_ifs
  · simp [Safe]
  · exact safe_buildMetadataResponse srv
  · exact safe_handleProduce γ
  · exact safe_handleFetch srv γ
  · simp [Safe]

lemma safe_handleRequest (buf : GoString) : Safe (handleRequest srv γ) buf ↔ RequestBacked buf := by
  simp only [Safe, handleRequest, wp_bind, wp_readInt, wp_readKafkaString, wp_pure, drop_drop]
  rw [RequestBacked, ← safe_respond srv γ]
  rfl

end Backed

/-! ## What a request asks for in all -/

section Total

lemma frugal_readInt (k : ℕ) : Frugal 2 (readInt k) := by
  intro r _
  rw [wp_readInt, length_drop]
  omega

lemma pays_readInt (hk : 0 < k) : Pays 2 (readInt k) := by
  intro r hr _
  have hpos := length_pos_iff.mpr hr
  rw [wp_readInt, length_drop]
  omega

lemma length_afterLength (k : ℕ) (r : GoString) :
    (afterLength k r).length = r.length - k - (intAt k r).toNat := by
  rw [afterLength, length_drop, length_drop]

lemma readKafkaString_of_safe {r : GoString} (h : Safe readKafkaString r) :
    Wp readKafkaString r fun _ r' n => n + r'.length = (r.length - 2 : ℕ) := by
  rw [Safe, wp_readKafkaString] at h
  have hlen := h.1
  rw [LengthBacked, length_drop] at hlen
  rw [wp_readKafkaString, length_afterLength]
  exact ⟨h.1, by omega⟩

lemma frugal_readKafkaString : Frugal 2 readKafkaString := by
  intro r h
  refine ((readKafkaString_of_safe h).and h.total_nonneg).mono fun a r' n hn => ?_
  omega

lemma pays_readKafkaString : Pays 2 readKafkaString := by
  intro r hr h
  have hlen := length_pos_iff.mpr hr
  refine ((readKafkaString_of_safe h).and h.total_nonneg).mono fun a r' n hn => ?_
  omega

lemma parseMessageSet_within {set r : GoString} (h : SetBacked set) :
    Wp (parseMessageSet set) r fun _ r' n => r' = r ∧ n ≤ set.length := by
  rw [parseMessageSet]
  split_ifs with hlen
  · simp
  · have hset := h (by omega)
    have h₁ := hset.1
    have h₂ := hset.2
    rw [LengthBacked, length_drop] at h₁ h₂
    rw [length_drop] at h₁
    rw [length_afterLength, length_drop] at h₂
    simp only [wp_within, wp_bind, wp_readInt, wp_readKafkaBytes, wp_pure, drop_drop, Nat.reduceAdd]
    refine ⟨hset.1, hset.2, trivial, ?_⟩
    omega

lemma frugal_fetchPartition : Frugal 2 fetchPartition :=
  ((pays_readInt (by decide)).bind fun _ => (frugal_readInt 8).bind fun _ =>
    (frugal_readInt 4).bind fun _ => frugal_pure 2 ()).round

lemma frugal_fetchTopic : Frugal 2 fetchTopic :=
  (pays_readKafkaString.bind fun topic => (frugal_readInt 4).bind fun m =>
    (frugal_fetchPartition.times m.toNat).bind fun _ => frugal_pure 2 topic).round

lemma frugal_producePartition (topic : GoString) : Frugal 2 (producePartition topic) := by
  refine ((pays_readInt (by decide)).bind fun partition =>
    (frugal_readInt 4).bind fun len => ?_).round
  split_ifs with hlen
  · exact frugal_pure 2 _
  · intro r h
    simp only [Safe, wp_bind, wp_readFull, wp_pure] at h
    obtain ⟨hn, h⟩ := h
    have hset := (wp_parseMessageSet.mp h).1
    simp only [wp_bind, wp_readFull, wp_pure]
    refine ⟨hn, (parseMessageSet_within hset).mono fun a r' k hwithin => ?_⟩
    obtain ⟨hr', hk⟩ := hwithin
    rw [length_take] at hk
    rw [hr', length_drop]
    omega

lemma frugal_produceTopic : Frugal 2 produceTopic :=
  (pays_readKafkaString.bind fun topic => (frugal_readInt 4).bind fun m =>
    (frugal_producePartition topic).rounds m.toNat).round

lemma affordable_make {α : Type} {n : ℤ} {p : Reading α} (hp : Frugal 2 p) :
    Affordable 2 (make n >>= fun _ => p) := by
  intro r hsafe
  rw [Safe, wp_bind, wp_make] at hsafe
  rw [wp_bind, wp_make]
  refine ⟨hsafe.1, (hp r hsafe.2).mono fun a r' k hk => ?_⟩
  omega

lemma affordable_respond (apiKey : ℤ) : Affordable 2 (respond srv γ apiKey) := by
  unfold respond
  split_ifs
  · exact (frugal_pure 2 _).affordable
  · have htopics : Affordable 2 readKafkaTopics :=
      (frugal_readInt 4).bind_affordable (by decide) fun n =>
        affordable_make (pays_readKafkaString.round.times n.toNat)
    exact htopics.bind fun topics => frugal_pure 2 _
  · have hproduce : Frugal 2 (handleProduce γ) :=
      (frugal_readInt 2).bind fun _ => (frugal_readInt 4).bind fun _ =>
        (frugal_readInt 4).bind fun n => (frugal_produceTopic.rounds n.toNat).bind fun _ =>
          frugal_pure 2 _
    exact hproduce.affordable
  · refine (frugal_readInt 4).bind_affordable (by decide) fun _ =>
      (frugal_readInt 4).bind_affordable (by decide) fun _ =>
        (frugal_readInt 4).bind_affordable (by decide) fun _ =>
          (frugal_readInt 4).bind_affordable (by decide) fun n => affordable_make ?_
    exact (frugal_fetchTopic.times n.toNat).bind fun topics => frugal_pure 2 _
  · exact (frugal_pure 2 _).affordable

lemma affordable_handleRequest : Affordable 2 (handleRequest srv γ) :=
  (frugal_readInt 2).bind_affordable (by decide) fun apiKey =>
    (frugal_readInt 2).bind_affordable (by decide) fun _ =>
      (frugal_readInt 4).bind_affordable (by decide) fun _ =>
        frugal_readKafkaString.bind_affordable (by decide) fun _ =>
          (affordable_respond srv γ apiKey).bind fun _ => frugal_pure 2 _

end Total

/-- **Which requests are answered without a panic and within their length.** -/
theorem handleRequest_safe_iff (srv : Server) (γ : Moment) (buf : GoString) :
    ((∃ o, handleRequest srv γ buf = .ok o ∧ ∀ d ∈ o.demands, d.Backed) ↔ RequestBacked buf) ∧
      (RequestBacked buf → ∃ o, handleRequest srv γ buf = .ok o ∧
        Demand.total o.demands ≤ 3 * buf.length) := by
  have hsafe := safe_handleRequest srv γ buf
  constructor
  · rw [← hsafe, Safe, Wp]
    simp
  · intro hbacked
    obtain ⟨o, ho, -, hle⟩ := affordable_handleRequest srv γ buf (hsafe.mpr hbacked)
    exact ⟨o, ho, by push_cast at hle; omega⟩

/-! ## Two requests -/

def negativeFetch : GoString :=
  [0, 1, 0, 0, 0, 0, 0, 0, 0xFF, 0xFF] ++ List.replicate 12 0 ++ [0xFF, 0xFF, 0xFF, 0xFF]

def endlessProduce : GoString :=
  [0, 0, 0, 0, 0, 0, 0, 0, 0xFF, 0xFF] ++ List.replicate 6 0 ++ [0x7F, 0xFF, 0xFF, 0xFF]

lemma rounds_produceTopic_nil :
    rounds produceTopic n [] = .ok ⟨([], true), [], List.replicate n ⟨1, 0⟩⟩ := by
  induction n with
  | zero => rfl
  | succ n ih =>
    have hround : produceTopic [] = .ok ⟨([], true), [], [⟨1, 0⟩]⟩ := rfl
    have hrest : (rounds produceTopic n >>= fun as => pure ([] ++ as.1, as.2)) [] =
        .ok ⟨([], true), [], List.replicate n ⟨1, 0⟩⟩ := by
      rw [bind_apply_of_ok ih]
      exact congrArg _ (congrArg _ (append_nil _))
    rw [rounds, bind_apply_of_ok hround]
    exact congrArg _ hrest

/-- The first makes the server panic. The second has it go round two thousand million times. -/
theorem handleRequest_not_safe :
    handleRequest {} .plain negativeFetch = .error .makeslice ∧
      endlessProduce.length = 20 ∧
      ∃ o, handleRequest {} .plain endlessProduce = .ok o ∧
        Demand.total o.demands = 2 ^ 31 - 1 := by
  refine ⟨by decide +kernel, rfl, ?_⟩
  have h₁ : readInt 2 endlessProduce = .ok ⟨0, endlessProduce.drop 2, []⟩ := by decide +kernel
  have h₂ : readInt 2 (endlessProduce.drop 2) = .ok ⟨0, endlessProduce.drop 4, []⟩ := by
    decide +kernel
  have h₃ : readInt 4 (endlessProduce.drop 4) = .ok ⟨0, endlessProduce.drop 8, []⟩ := by
    decide +kernel
  have h₄ : readKafkaString (endlessProduce.drop 8) = .ok ⟨[], endlessProduce.drop 10, []⟩ := by
    decide +kernel
  have h₅ : readInt 2 (endlessProduce.drop 10) = .ok ⟨0, endlessProduce.drop 12, []⟩ := by
    decide +kernel
  have h₆ : readInt 4 (endlessProduce.drop 12) = .ok ⟨0, endlessProduce.drop 16, []⟩ := by
    decide +kernel
  -- The number of rounds is kept apart, so that nothing counts up to it.
  obtain ⟨n, hn⟩ : ∃ n : ℕ, (n : ℤ) = 2 ^ 31 - 1 := ⟨2 ^ 31 - 1, by norm_num⟩
  have h₇ : readInt 4 (endlessProduce.drop 16) = .ok ⟨n, [], []⟩ := by
    rw [hn]
    decide +kernel
  have hrounds : rounds produceTopic (n : ℤ).toNat [] =
      .ok ⟨([], true), [], List.replicate n ⟨1, 0⟩⟩ := by
    rw [Int.toNat_natCast, rounds_produceTopic_nil]
  have hproduce : respond {} .plain 0 (endlessProduce.drop 10) =
      .ok ⟨{ body := produceReply .plain [] }, [], List.replicate n ⟨1, 0⟩ ++ []⟩ := by
    rw [respond, if_neg (by decide), if_neg (by decide), if_pos rfl, handleProduce,
      bind_apply_of_ok h₅, bind_apply_of_ok h₆, bind_apply_of_ok h₇, bind_apply_of_ok hrounds]
    rfl
  rw [handleRequest, bind_apply_of_ok h₁, bind_apply_of_ok h₂, bind_apply_of_ok h₃,
    bind_apply_of_ok h₄, bind_apply_of_ok hproduce]
  refine ⟨_, rfl, ?_⟩
  simp [Parsed.after, Demand.total, hn]

end Mockly.Kafka
