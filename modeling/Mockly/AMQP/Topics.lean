import Mockly.AMQP.Server

/-!
# Topic patterns and the queues of a message

`topicMatchSegments` without its search (`TopicMatches`), and `routeToQueues` without its loop: the
queues of the matching bindings, in the order of the first one of each (`firstBinding`).
-/

namespace Mockly.AMQP

open List

/-! ## Patterns -/

/-- What may stand in a key for one word of a pattern. -/
inductive StandsFor : GoString → List GoString → Prop
  | star (w : GoString) : StandsFor (go "*") [w]
  | hash (ws : List GoString) : StandsFor (go "#") ws
  | word {p : GoString} (hstar : p ≠ go "*") (hhash : p ≠ go "#") : StandsFor p [p]

/-- The key is the pattern with its wildcards replaced. -/
def TopicMatches (pattern key : List GoString) : Prop :=
  ∃ parts, List.Forall₂ StandsFor pattern parts ∧ parts.flatten = key

variable {p : GoString}

lemma standsFor_iff_of_ne_hash (hp : p ≠ go "#") {part : List GoString} :
    StandsFor p part ↔ ∃ w, part = [w] ∧ (p = go "*" ∨ w = p) := by
  constructor
  · intro h
    cases h with
    | star w => exact ⟨w, rfl, Or.inl rfl⟩
    | hash ws => exact absurd rfl hp
    | word hstar hhash => exact ⟨p, rfl, Or.inr rfl⟩
  · rintro ⟨w, rfl, h⟩
    by_cases hstar : p = go "*"
    · subst hstar
      exact .star w
    · obtain rfl := h.resolve_left hstar
      exact .word hstar hp

variable {key : List GoString}

lemma topicMatches_nil : TopicMatches [] key ↔ key = [] := by
  simp [TopicMatches, eq_comm]

variable {pattern : List GoString}

/-- A pattern is matched word by word, with any part of the key for the first one. -/
lemma topicMatches_cons :
    TopicMatches (p :: pattern) key ↔
      ∃ part rest, key = part ++ rest ∧ StandsFor p part ∧ TopicMatches pattern rest := by
  constructor
  · rintro ⟨parts, hparts, rfl⟩
    cases hparts with
    | cons hp hrest => exact ⟨_, _, flatten_cons, hp, _, hrest, rfl⟩
  · rintro ⟨part, rest, rfl, hp, parts, hrest, rfl⟩
    exact ⟨part :: parts, .cons hp hrest, flatten_cons⟩

lemma topicMatches_hash :
    TopicMatches (go "#" :: pattern) key ↔
      ∃ i ≤ key.length, TopicMatches pattern (key.drop i) := by
  rw [topicMatches_cons]
  constructor
  · rintro ⟨part, rest, rfl, -, hrest⟩
    exact ⟨part.length, by simp, by simpa using hrest⟩
  · rintro ⟨i, -, hrest⟩
    exact ⟨key.take i, key.drop i, (take_append_drop i key).symm, .hash _, hrest⟩

lemma topicMatches_of_ne_hash (hp : p ≠ go "#") :
    TopicMatches (p :: pattern) key ↔
      ∃ w rest, key = w :: rest ∧ (p = go "*" ∨ w = p) ∧ TopicMatches pattern rest := by
  rw [topicMatches_cons]
  constructor
  · rintro ⟨part, rest, rfl, hpart, hrest⟩
    obtain ⟨w, rfl, hw⟩ := (standsFor_iff_of_ne_hash hp).mp hpart
    exact ⟨w, rest, rfl, hw, hrest⟩
  · rintro ⟨w, rest, rfl, hw, hrest⟩
    exact ⟨[w], rest, rfl, (standsFor_iff_of_ne_hash hp).mpr ⟨w, rfl, hw⟩, hrest⟩

lemma topicMatches_hash_last (key : List GoString) : TopicMatches [go "#"] key :=
  topicMatches_hash.mpr ⟨key.length, le_rfl, topicMatches_nil.mpr drop_length⟩

/-- The search decides the relation; the induction is on the pattern, for every key. -/
lemma topicMatchSegments_iff (pattern key : List GoString) :
    topicMatchSegments pattern key = true ↔ TopicMatches pattern key := by
  induction pattern generalizing key with
  | nil => simp [topicMatchSegments, topicMatches_nil]
  | cons p pattern ih =>
    by_cases hp : p = go "#"
    · subst hp
      simp only [topicMatchSegments, if_true, Bool.or_eq_true, List.any_eq_true, List.mem_range,
        Nat.lt_succ_iff, ih, List.isEmpty_iff]
      rw [← topicMatches_hash]
      refine or_iff_right_of_imp fun hnil => ?_
      subst hnil
      exact topicMatches_hash_last key
    · rw [topicMatches_of_ne_hash hp]
      cases key with
      | nil => simp [topicMatchSegments, hp]
      | cons k key =>
        simp only [topicMatchSegments, if_neg hp, Bool.and_eq_true, Bool.or_eq_true, beq_iff_eq, ih]
        constructor
        · rintro ⟨hw, hrest⟩
          exact ⟨k, key, rfl, hw, hrest⟩
        · rintro ⟨w, rest, hkey, hw, hrest⟩
          obtain ⟨rfl, rfl⟩ := List.cons.inj hkey
          exact ⟨hw, hrest⟩

/-! ## Queues -/

section Queues

variable (srv : Server) (exchange routingKey : GoString)

/-- The binding takes messages with this routing key from the exchange. -/
def Takes (b : AMQPBinding) : Prop :=
  b.exchange = exchange ∧
    bindingMatches (exchangeType srv exchange) b.routingKeyPattern routingKey = true

instance : DecidablePred (Takes srv exchange routingKey) :=
  fun _ => inferInstanceAs (Decidable (_ ∧ _))

/-- A topic exchange: the pattern is empty, or its words match those of the routing key. -/
lemma takes_topic_iff (h : exchangeType srv exchange = go "topic") (b : AMQPBinding) :
    Takes srv exchange routingKey b ↔ b.exchange = exchange ∧ (b.routingKeyPattern = [] ∨
      TopicMatches (split b.routingKeyPattern dot) (split routingKey dot)) := by
  have hfanout : go "topic" ≠ go "fanout" := by decide
  simp [Takes, h, bindingMatches, hfanout, amqpTopicMatches, topicMatchSegments_iff]

/-- The position of the first binding that takes the message to a queue. -/
def firstBinding (bindings : List AMQPBinding) (queue : GoString) : ℕ :=
  bindings.findIdx fun b => decide (Takes srv exchange routingKey b ∧ b.queue = queue)

/-- The queues found so far are those of the bindings seen so far, in the order of their first
bindings. -/
structure Found (seen rest : List AMQPBinding) (queues : List GoString) : Prop where
  mem_iff : ∀ q, q ∈ queues ↔ ∃ b ∈ seen, Takes srv exchange routingKey b ∧ b.queue = q
  ordered : queues.Pairwise fun q q' =>
    firstBinding srv exchange routingKey (seen ++ rest) q <
      firstBinding srv exchange routingKey (seen ++ rest) q'

variable {srv exchange routingKey}

variable {seen rest : List AMQPBinding}

lemma firstBinding_lt {q : GoString}
    (h : ∃ b ∈ seen, Takes srv exchange routingKey b ∧ b.queue = q) :
    firstBinding srv exchange routingKey (seen ++ rest) q < seen.length := by
  obtain ⟨b, hb, hq⟩ := h
  have hlt := findIdx_lt_length_of_exists
    (p := fun b => decide (Takes srv exchange routingKey b ∧ b.queue = q))
    ⟨b, hb, decide_eq_true hq⟩
  rw [firstBinding, findIdx_append, if_pos hlt]
  exact hlt

lemma le_firstBinding {q : GoString}
    (h : ¬∃ b ∈ seen, Takes srv exchange routingKey b ∧ b.queue = q) :
    seen.length ≤ firstBinding srv exchange routingKey (seen ++ rest) q := by
  have hall : seen.findIdx (fun b => decide (Takes srv exchange routingKey b ∧ b.queue = q)) =
      seen.length := by
    rw [findIdx_eq_length]
    intro b hb
    exact decide_eq_false fun hq => h ⟨b, hb, hq⟩
  rw [firstBinding, findIdx_append, hall, if_neg (lt_irrefl _)]
  exact Nat.le_add_left _ _

variable {queues : List GoString}

lemma Found.add {b : AMQPBinding} (h : Found srv exchange routingKey seen (b :: rest) queues)
    (hb : Takes srv exchange routingKey b) (hnew : b.queue ∉ queues) :
    Found srv exchange routingKey (seen ++ [b]) rest (queues ++ [b.queue]) where
  mem_iff q := by
    simp only [mem_append, mem_singleton, h.mem_iff]
    constructor
    · rintro (⟨b', hmem, hq⟩ | rfl)
      · exact ⟨b', Or.inl hmem, hq⟩
      · exact ⟨b, Or.inr rfl, hb, rfl⟩
    · rintro ⟨b', hmem | rfl, hq⟩
      · exact Or.inl ⟨b', hmem, hq⟩
      · exact Or.inr hq.2.symm
  ordered := by
    rw [append_assoc, singleton_append, pairwise_append]
    refine ⟨h.ordered, pairwise_singleton _ _, ?_⟩
    intro q hq q' hq'
    obtain rfl := mem_singleton.mp hq'
    exact (firstBinding_lt ((h.mem_iff q).mp hq)).trans_le
      (le_firstBinding fun hex => hnew ((h.mem_iff _).mpr hex))

lemma Found.skip {b : AMQPBinding} (h : Found srv exchange routingKey seen (b :: rest) queues)
    (hb : Takes srv exchange routingKey b → b.queue ∈ queues) :
    Found srv exchange routingKey (seen ++ [b]) rest queues where
  mem_iff q := by
    simp only [mem_append, mem_singleton]
    constructor
    · intro hq
      obtain ⟨b', hmem, hq⟩ := (h.mem_iff q).mp hq
      exact ⟨b', Or.inl hmem, hq⟩
    · rintro ⟨b', hmem | rfl, htakes, rfl⟩
      · exact (h.mem_iff _).mpr ⟨b', hmem, htakes, rfl⟩
      · exact hb htakes
  ordered := by
    rw [append_assoc, singleton_append]
    exact h.ordered

lemma found_routeLoop (h : Found srv exchange routingKey seen rest queues) :
    Found srv exchange routingKey (seen ++ rest) []
      (routeLoop srv exchange routingKey queues rest) := by
  induction rest generalizing seen queues with
  | nil => simpa [routeLoop] using h
  | cons b rest ih =>
    rw [routeLoop, append_cons]
    split
    next hb => exact ih (h.add ⟨hb.1, hb.2.1⟩ hb.2.2)
    next hb =>
      refine ih (h.skip fun htakes => ?_)
      by_contra hnew
      exact hb ⟨htakes.1, htakes.2, hnew⟩

variable (srv exchange routingKey) in
lemma found_routeToQueues :
    Found srv exchange routingKey srv.bindings [] (routeToQueues srv exchange routingKey) := by
  have hnil : Found srv exchange routingKey [] srv.bindings [] := ⟨by simp, List.Pairwise.nil⟩
  exact found_routeLoop hnil

end Queues

/-- **Routing of a message.** A pattern takes exactly the keys that come from it by replacing each
`*` by one word and each `#` by any words; and the queues of a message are those with a matching
binding, each once, in the order of their first matching bindings. -/
theorem topicMatchSegments_iff_and_routeToQueues_spec :
    (∀ pattern key : List GoString,
      topicMatchSegments pattern key = true ↔ TopicMatches pattern key) ∧
    ∀ (srv : Server) (exchange routingKey : GoString),
      (routeToQueues srv exchange routingKey).Nodup ∧
      (∀ q, q ∈ routeToQueues srv exchange routingKey ↔
        ∃ b ∈ srv.bindings, Takes srv exchange routingKey b ∧ b.queue = q) ∧
      (routeToQueues srv exchange routingKey).Pairwise fun q q' =>
        firstBinding srv exchange routingKey srv.bindings q <
          firstBinding srv exchange routingKey srv.bindings q' := by
  refine ⟨topicMatchSegments_iff, fun srv exchange routingKey => ?_⟩
  have hfound := found_routeToQueues srv exchange routingKey
  have hordered := hfound.ordered
  rw [List.append_nil] at hordered
  exact ⟨hordered.imp fun hlt heq => absurd (heq ▸ hlt) (lt_irrefl _), hfound.mem_iff, hordered⟩

end Mockly.AMQP
