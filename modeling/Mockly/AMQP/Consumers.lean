import Mockly.AMQP.Publishes

/-!
# Consumers and what is delivered to them

The table of consumers goes by channel number: a second consume on a channel takes the place of the
first, and the consumer of a channel that is closed stays.

Main result: **`delivered_iff_latest`**.
-/

namespace Mockly.AMQP

open List AMQPMock

/-! ## The consumers of a connection -/

/-- The consumer that a frame asks for, if it is a consume. -/
def consumed (γ : Moment) (f : Frame) : Option Consumer :=
  if f.type = 1 ∧ f.payload.take 4 = Method.basicConsume.bytes then
    some (consumerOf γ f.channel (f.payload.drop 4))
  else none

/-- The frame is a method frame with method `m` on the channel. -/
def Frame.Calls (m : Method) (f : Frame) (channel : UInt16) : Prop :=
  f.type = 1 ∧ f.payload.take 4 = m.bytes ∧ f.channel = channel

instance (m : Method) (f : Frame) (channel : UInt16) : Decidable (f.Calls m channel) :=
  inferInstanceAs (Decidable (_ ∧ _))

/-- The method has not been called on its channel since. -/
def ConsumedBefore (m : Method) (γ : ℕ → Moment) (fs : List Frame) (cons : Consumer) : Prop :=
  ∃ before f since, fs = before ++ f :: since ∧ consumed (γ before.length) f = some cons ∧
    ∀ g ∈ since, ¬g.Calls m cons.channel

/-- The channel of the consumer has not been closed since. -/
def Live (γ : ℕ → Moment) (fs : List Frame) (cons : Consumer) : Prop :=
  ConsumedBefore .channelClose γ fs cons

/-- There has been no other consume on the channel since. -/
def Latest (γ : ℕ → Moment) (fs : List Frame) (cons : Consumer) : Prop :=
  ConsumedBefore .basicConsume γ fs cons

lemma consumedBefore_nil (m : Method) (γ : ℕ → Moment) (cons : Consumer) :
    ¬ConsumedBefore m γ [] cons := by
  rintro ⟨before, f, since, h, -⟩
  simp at h

lemma consumedBefore_concat (m : Method) (γ : ℕ → Moment) (fs : List Frame) (f : Frame)
    (cons : Consumer) :
    ConsumedBefore m γ (fs ++ [f]) cons ↔
      consumed (γ fs.length) f = some cons ∨
        ConsumedBefore m γ fs cons ∧ ¬f.Calls m cons.channel := by
  constructor
  · rintro ⟨before, g, since, hfs, hg, hsince⟩
    rcases eq_nil_or_concat' since with rfl | ⟨since, g', rfl⟩
    · obtain ⟨rfl, hlast⟩ := append_inj' hfs rfl
      cases hlast
      exact Or.inl hg
    · rw [← cons_append, ← append_assoc] at hfs
      obtain ⟨rfl, hlast⟩ := append_inj' hfs rfl
      cases hlast
      refine Or.inr ⟨⟨before, g, since, rfl, hg, fun x hx => hsince x ?_⟩, hsince f ?_⟩
      · exact mem_append_left _ hx
      · exact mem_append_right _ (mem_singleton_self f)
  · rintro (hf | ⟨⟨before, g, since, rfl, hg, hsince⟩, hf⟩)
    · exact ⟨fs, f, [], rfl, hf, by simp⟩
    · refine ⟨before, g, since ++ [f], by simp, hg, fun x hx => ?_⟩
      rcases mem_append.mp hx with hx | hx
      · exact hsince x hx
      · rw [mem_singleton.mp hx]
        exact hf

/-! ## The table -/

variable {cons : Consumer} {fs : List Frame}

section Table

variable (srv : Server) (γ : Moment) {c : Conn} {f : Frame}

/-- The table has what it should have after the frames `fs`. -/
def HasLatest (γ : ℕ → Moment) (fs : List Frame) (c : Conn) : Prop :=
  (c.consumers.map Consumer.channel).Nodup ∧ ∀ cons, cons ∈ c.consumers ↔ Latest γ fs cons

lemma calls_of_consumed (h : consumed γ f = some cons) : f.Calls .basicConsume cons.channel := by
  unfold consumed at h
  split_ifs at h with hf
  cases h
  exact ⟨hf.1, hf.2, rfl⟩

/-- A consume request is acknowledged, and its consumer put into the table. -/
lemma handleFrame_of_consume (h : consumed γ f = some cons) :
    handleFrame srv c γ f =
      ⟨[.send (methodFrame cons.channel 60 21 (encodeShortStr cons.tag))],
        .continue (c.setConsumer cons)⟩ := by
  unfold consumed at h
  split_ifs at h with hf
  cases h
  obtain ⟨classID, methodID, hof, hon⟩ := onMethod_of_bytes c γ f.channel hf.2
  rw [handleFrame, if_pos hf.1, hon]
  simp only [handleMethod, hof]
  rfl

variable {c' : Conn}

lemma consumers_handleMethod {classID methodID : UInt16} (channel : UInt16) (args : GoString)
    (h : Method.of classID methodID ≠ some .basicConsume)
    (hnext : (handleMethod c γ channel classID methodID args).next = .continue c') :
    c'.consumers = c.consumers := by
  rw [handleMethod] at hnext
  cases hm : Method.of classID methodID with
  | none =>
    rw [hm] at hnext
    cases hnext
    rfl
  | some m =>
    rw [hm] at hnext
    cases m with
    | basicConsume => exact absurd hm h
    | connectionClose => cases hnext
    | _ => cases hnext; rfl

lemma consumers_handleFrame (h : consumed γ f = none)
    (hnext : (handleFrame srv c γ f).next = .continue c') : c'.consumers = c.consumers := by
  have hf : ¬(f.type = 1 ∧ f.payload.take 4 = Method.basicConsume.bytes) := by
    intro hf
    rw [consumed, if_pos hf] at h
    cases h
  unfold handleFrame at hnext
  split_ifs at hnext with h1 h2 h3
  · rcases onMethod_cases c γ f.channel f.payload with ⟨-, h⟩ | ⟨-, classID, methodID, hof, h⟩
    · rw [h] at hnext
      cases hnext
    · rw [h] at hnext
      exact consumers_handleMethod γ f.channel _ (fun hm => hf ⟨h1, (hof _).mp hm⟩) hnext
  · obtain ⟨ps, h⟩ := onHeader_next c f.channel f.payload
    rw [h] at hnext
    cases hnext
    rfl
  · obtain ⟨ps, h⟩ := onBody_next srv c γ f.channel f.payload
    rw [h] at hnext
    cases hnext
    rfl
  · cases hnext
    rfl

lemma mem_setConsumer {x : Consumer} :
    x ∈ (c.setConsumer cons).consumers ↔ x = cons ∨ x ∈ c.consumers ∧ x.channel ≠ cons.channel := by
  simp only [Conn.setConsumer, mem_append, mem_filter, decide_eq_true_eq, mem_singleton]
  tauto

lemma nodup_setConsumer (h : (c.consumers.map Consumer.channel).Nodup) (cons : Consumer) :
    ((c.setConsumer cons).consumers.map Consumer.channel).Nodup := by
  rw [Conn.setConsumer, map_append, nodup_append]
  refine ⟨h.sublist (filter_sublist.map _), nodup_singleton _, ?_⟩
  intro ch hch ch' hch'
  obtain ⟨x, hx, rfl⟩ := mem_map.mp hch
  rw [mem_singleton.mp hch']
  simpa using (mem_filter.mp hx).2

/-- **The next frame**, in the table and in what is the latest. -/
lemma HasLatest.step {γ : ℕ → Moment} (h : HasLatest γ fs c)
    (hnext : (handleFrame srv c (γ fs.length) f).next = .continue c') :
    HasLatest γ (fs ++ [f]) c' := by
  obtain ⟨hnodup, hmem⟩ := h
  cases hcons : consumed (γ fs.length) f with
  | none =>
    have hsame := consumers_handleFrame srv _ hcons hnext
    refine ⟨by rwa [hsame], fun x => ?_⟩
    have hcalls : ¬f.Calls .basicConsume x.channel := by
      rintro ⟨htype, hpayload, -⟩
      rw [consumed, if_pos ⟨htype, hpayload⟩] at hcons
      cases hcons
    rw [hsame, hmem, Latest, Latest, consumedBefore_concat, hcons]
    simp [hcalls]
  | some cons =>
    rw [handleFrame_of_consume srv _ hcons] at hnext
    cases hnext
    refine ⟨nodup_setConsumer hnodup cons, fun x => ?_⟩
    have hcalls : f.Calls .basicConsume x.channel ↔ x.channel = cons.channel := by
      have hf := calls_of_consumed _ hcons
      exact ⟨fun h => h.2.2.symm.trans hf.2.2, fun h => ⟨hf.1, hf.2.1, hf.2.2.trans h.symm⟩⟩
    rw [mem_setConsumer, hmem, Latest, Latest, consumedBefore_concat, hcons, hcalls,
      Option.some_inj, eq_comm]

end Table

/-! ## The frames of a connection -/

/-- What the frame `f` leads to, after the frames `fs`. -/
def effectsOf (srv : Server) (γ : ℕ → Moment) (fs : List Frame) (f : Frame) : List Effect :=
  (handleConn srv γ (connection (fs ++ [f]))).1.drop (handleConn srv γ (connection fs)).1.length

lemma frameLoop_nil (srv : Server) (γ : ℕ → Moment) (turns i : ℕ) (c : Conn) :
    frameLoop srv γ turns i c [] = ([], none) := by
  have hnil : readFrame [] = .ok none := rfl
  cases turns <;> simp [frameLoop, hnil]

/-- By induction from the last frame on: the table has the latest consumers all along. -/
lemma frameLoop_of_passes (srv : Server) (γ : ℕ → Moment) (hfs : ∀ f ∈ fs, f.Passes) :
    ∃ effects c, HasLatest γ fs c ∧ ∀ turns r,
      (frameLoop srv γ (fs.length + turns) 0 {} (fs.flatMap writeFrame ++ r)).1 =
        effects ++ (frameLoop srv γ turns fs.length c r).1 := by
  induction fs using List.reverseRecOn with
  | nil =>
    refine ⟨[], {}, ⟨nodup_nil, fun cons => ?_⟩, fun turns r => by simp⟩
    exact iff_of_false not_mem_nil (consumedBefore_nil _ _ _)
  | append_singleton fs f ih =>
    obtain ⟨effects, c, hc, hloop⟩ := ih fun g hg => hfs g (mem_append_left _ hg)
    have hf : f.Passes := hfs f (by simp)
    obtain ⟨c', hnext⟩ := hf.next srv c (γ fs.length)
    refine ⟨effects ++ (handleFrame srv c (γ fs.length) f).effects, c',
      hc.step srv hnext, fun turns r => ?_⟩
    have hturns : (fs ++ [f]).length + turns = fs.length + (turns + 1) := by simp; omega
    have hbytes : (fs ++ [f]).flatMap writeFrame ++ r =
        fs.flatMap writeFrame ++ (writeFrame f ++ r) := by simp
    rw [hturns, hbytes, hloop, frameLoop_of_continue srv γ hf.1 hnext, append_assoc, length_append]
    rfl

lemma effectsOf_eq (srv : Server) (γ : ℕ → Moment) {f : Frame} (hfs : ∀ g ∈ fs, g.Passes)
    (hf : f.Passes) :
    ∃ c, HasLatest γ fs c ∧ effectsOf srv γ fs f = (handleFrame srv c (γ fs.length) f).effects := by
  obtain ⟨effects, c, hc, hloop⟩ := frameLoop_of_passes srv γ hfs
  refine ⟨c, hc, ?_⟩
  obtain ⟨turns, hturns, hbefore⟩ := handleConn_connection srv γ fs
  obtain ⟨turns', hturns', hafter⟩ := handleConn_connection srv γ (fs ++ [f])
  obtain ⟨k, rfl⟩ := Nat.exists_eq_add_of_le hturns
  obtain ⟨k', rfl⟩ : ∃ k', turns' = fs.length + (k' + 1) :=
    ⟨turns' - (fs.length + 1), by rw [length_append] at hturns'; simp at hturns'; omega⟩
  obtain ⟨c', hnext⟩ := hf.next srv c (γ fs.length)
  have h₁ := hloop k []
  have h₂ := hloop (k' + 1) (writeFrame f ++ [])
  rw [append_nil, frameLoop_nil, append_nil] at h₁
  rw [frameLoop_of_continue srv γ hf.1 hnext, frameLoop_nil, append_nil, append_nil] at h₂
  rw [effectsOf, hafter, hbefore, flatMap_append, flatMap_singleton, h₁, h₂,
    ← cons_append, drop_left]

/-! ## Deliveries -/

def Effect.delivery : Effect → Option Delivery
  | .deliver _ d => some d
  | _ => none

def deliveries (effects : List Effect) : List Delivery := effects.filterMap Effect.delivery

/-- The consumers of a queue that something is delivered to. -/
def deliveredTo (queue : GoString) (effects : List Effect) : List Consumer :=
  ((deliveries effects).filter fun d => d.consumer.queue = queue).map Delivery.consumer

section Deliveries

variable (srv : Server) (c : Conn) (γ : Moment)

lemma deliveries_processPublish (channel : UInt16) (pub : PublishState) :
    deliveries (processPublish srv c γ channel pub) =
      if srv.bindings ≠ [] then routePublish srv c γ pub else flatPublish srv c γ channel pub := by
  have hmap : ∀ ds : List Delivery,
      (ds.mapIdx fun i d => Effect.deliver (γ.deliveryTag i) d).filterMap Effect.delivery = ds := by
    intro ds
    have hsome : (Effect.delivery ∘ fun x : Delivery × ℕ =>
        Effect.deliver (γ.deliveryTag x.2) x.1) = some ∘ Prod.fst := rfl
    rw [mapIdx_eq_zipIdx_map, filterMap_map, hsome, filterMap_eq_map, zipIdx_map_fst]
  exact hmap _

lemma nodup_routeLoop (exchange routingKey : GoString) (bs : List AMQPBinding)
    {queues : List GoString} (h : queues.Nodup) :
    (routeLoop srv exchange routingKey queues bs).Nodup := by
  induction bs generalizing queues with
  | nil => exact h
  | cons b bs ih =>
    rw [routeLoop]
    split_ifs with hb
    · exact ih (by rw [← concat_eq_append]; exact h.concat hb.2.2)
    · exact ih h

lemma nodup_routeToQueues (exchange routingKey : GoString) :
    (routeToQueues srv exchange routingKey).Nodup :=
  nodup_routeLoop srv _ _ _ nodup_nil

variable {pub : PublishState} {queue : GoString} {i : ℕ}

lemma mem_deliverQueue {d : Delivery} (h : d ∈ deliverQueue srv c γ pub queue i) :
    d.consumer.queue = queue ∧ d.routingKey = pub.routingKey ∧
      (matchMockByQueue srv (γ.content i) queue).bind response = some d.response := by
  unfold deliverQueue at h
  split at h
  · cases h
  · next resp hresp =>
    split_ifs at h
    · cases h
    · obtain ⟨cons, hcons, rfl⟩ := mem_map.mp h
      exact ⟨by simpa using (mem_filter.mp hcons).2, rfl, hresp⟩

/-- A delivery is to a consumer of a queue the message is routed to, with the response of that
queue. -/
lemma mem_routePublish {d : Delivery} (h : d ∈ routePublish srv c γ pub) :
    ∃ j, (routeToQueues srv pub.exchange pub.routingKey)[j]? = some d.consumer.queue ∧
      (matchMockByQueue srv (γ.content j) d.consumer.queue).bind response =
        some d.response ∧ d.routingKey = pub.routingKey := by
  obtain ⟨⟨queue, j⟩, hmem, hd⟩ := mem_flatMap.mp h
  obtain ⟨rfl, hkey, hresp⟩ := mem_deliverQueue srv c γ hd
  exact ⟨j, mem_zipIdx_iff_getElem?.mp hmem, hresp, hkey⟩

lemma flatMap_zipIdx_of_nodup {α β : Type*} {l : List α} (hl : l.Nodup) {a : α}
    (h : l[i]? = some a) {g : α × ℕ → List β} (hg : ∀ x j, x ≠ a → g (x, j) = []) :
    l.zipIdx.flatMap g = g (a, i) := by
  obtain ⟨hi, rfl⟩ := List.getElem?_eq_some_iff.mp h
  have hsplit : l = l.take i ++ l[i] :: l.drop (i + 1) := by simp
  rw [hsplit, nodup_append, nodup_cons] at hl
  obtain ⟨-, ⟨hafter, -⟩, hbefore⟩ := hl
  have hnil : ∀ (l' : List α) (n : ℕ), (∀ x ∈ l', x ≠ l[i]) → (l'.zipIdx n).flatMap g = [] := by
    intro l' n hl'
    rw [flatMap_eq_nil_iff]
    rintro ⟨x, j⟩ hx
    exact hg x j (hl' x (fst_mem_of_mem_zipIdx hx))
  have hlen : (l.take i).length = i := length_take_of_le hi.le
  conv_lhs => rw [hsplit]
  rw [zipIdx_append, zipIdx_cons, flatMap_append, flatMap_cons, hlen,
    Nat.zero_add, hnil _ _ fun x hx => hbefore x hx _ mem_cons_self,
    hnil _ _ fun x hx hxi => hafter (hxi ▸ hx), nil_append, append_nil]

/-- Each consumer is on one queue, and a message is routed to a queue once. -/
lemma filter_routePublish (h : (routeToQueues srv pub.exchange pub.routingKey)[i]? = some queue) :
    (routePublish srv c γ pub).filter (fun d => d.consumer.queue = queue) =
      deliverQueue srv c γ pub queue i := by
  have hnodup := nodup_routeToQueues srv pub.exchange pub.routingKey
  rw [routePublish, filter_flatMap, flatMap_zipIdx_of_nodup hnodup h]
  · refine filter_eq_self.mpr fun d hd => ?_
    exact decide_eq_true ((mem_deliverQueue srv c γ hd).1)
  · intro x j hx
    refine filter_eq_nil_iff.mpr fun d hd hqueue => hx ?_
    rw [← (mem_deliverQueue srv c γ hd).1]
    exact of_decide_eq_true hqueue

lemma bindings_ne_nil {exchange routingKey : GoString}
    (hqueue : (routeToQueues srv exchange routingKey)[i]? = some queue) : srv.bindings ≠ [] := by
  intro hnil
  rw [routeToQueues, hnil] at hqueue
  cases hqueue

lemma filter_deliveries {channel : UInt16} {resp : AMQPResponse}
    (hqueue : (routeToQueues srv pub.exchange pub.routingKey)[i]? = some queue)
    (hresp : (matchMockByQueue srv (γ.content i) queue).bind response = some resp) :
    (deliveries (processPublish srv c γ channel pub)).filter
        (fun d => d.consumer.queue = queue) =
      if γ.dropped then []
      else (consumersForQueue (γ.order i c.consumers) queue).map fun cons =>
        ⟨cons, resp, pub.routingKey⟩ := by
  rw [deliveries_processPublish, if_pos (bindings_ne_nil srv hqueue),
    filter_routePublish srv c γ hqueue,
    deliverQueue, hresp]

lemma deliveredTo_eq {channel : UInt16} {resp : AMQPResponse}
    (hqueue : (routeToQueues srv pub.exchange pub.routingKey)[i]? = some queue)
    (hresp : (matchMockByQueue srv (γ.content i) queue).bind response = some resp) :
    deliveredTo queue (processPublish srv c γ channel pub) =
      if γ.dropped then [] else consumersForQueue (γ.order i c.consumers) queue := by
  rw [deliveredTo, filter_deliveries srv c γ hqueue hresp]
  split_ifs
  · rfl
  · rw [map_map]
    exact map_id _

lemma mem_consumersForQueue :
    cons ∈ consumersForQueue (γ.order i c.consumers) queue ↔
      cons.queue = queue ∧ cons ∈ c.consumers := by
  rw [consumersForQueue, mem_filter, (γ.order_perm i c.consumers).mem_iff, and_comm,
    decide_eq_true_eq]

lemma nodup_consumersForQueue (h : (c.consumers.map Consumer.channel).Nodup) (queue : GoString)
    (i : ℕ) : (consumersForQueue (γ.order i c.consumers) queue).Nodup :=
  ((γ.order_perm i c.consumers).nodup_iff.mpr h.of_map).filter _

lemma recorded_onMethod (channel : UInt16) (payload : GoString) :
    recorded (onMethod c γ channel payload).effects = [] := by
  rw [onMethod]
  cases methodParts payload with
  | error e => rfl
  | ok parts =>
    obtain ⟨classID, methodID, args⟩ := parts
    dsimp only
    rw [handleMethod]
    cases Method.of classID methodID with
    | none => rfl
    | some m => cases m <;> rfl

lemma effects_of_recorded {f : Frame} {m : GoString × GoString × GoString}
    (h : recorded (handleFrame srv c γ f).effects = [m]) :
    ∃ pub, (handleFrame srv c γ f).effects = processPublish srv c γ f.channel pub := by
  unfold handleFrame at h ⊢
  split_ifs at h ⊢ with h1 h2 h3
  · rw [recorded_onMethod] at h
    cases h
  · obtain ⟨c', hc'⟩ := onHeader_next c f.channel f.payload
    rw [hc'] at h
    cases h
  · unfold onBody at h ⊢
    cases hpub : c.publishes f.channel with
    | none =>
      rw [hpub] at h
      cases h
    | some pub =>
      rw [hpub] at h
      dsimp only at h ⊢
      split_ifs at h ⊢
      · exact ⟨_, rfl⟩
      · cases h
  · cases h

end Deliveries

/-- **Who a response is delivered to.** -/
theorem delivered_iff_latest (srv : Server) (γ : ℕ → Moment) (fs : List Frame) (f : Frame)
    (hfs : ∀ g ∈ fs ++ [f], g.Passes) (exchange routingKey body : GoString)
    (hrecorded : recorded (effectsOf srv γ fs f) = [(exchange, routingKey, body)])
    (i : ℕ) (queue : GoString) (hqueue : (routeToQueues srv exchange routingKey)[i]? = some queue)
    (resp : AMQPResponse)
    (hresp : (matchMockByQueue srv ((γ fs.length).content i) queue).bind response =
      some resp) :
    (∀ d ∈ deliveries (effectsOf srv γ fs f),
        (∃ j, (routeToQueues srv exchange routingKey)[j]? = some d.consumer.queue ∧
          (matchMockByQueue srv ((γ fs.length).content j) d.consumer.queue).bind
            response = some d.response) ∧
        d.routingKey = routingKey ∧ (d.consumer.queue = queue → d.response = resp)) ∧
      (((deliveredTo queue (effectsOf srv γ fs f)).Nodup ∧
          ∀ cons, cons ∈ deliveredTo queue (effectsOf srv γ fs f) ↔
            cons.queue = queue ∧ Live γ fs cons) ↔
        ∀ cons, cons.queue = queue →
          (Live γ fs cons ↔ (γ fs.length).dropped = false ∧ Latest γ fs cons)) := by
  obtain ⟨c, ⟨hnodup, htable⟩, heffects⟩ := effectsOf_eq srv γ
    (fun g hg => hfs g (mem_append_left _ hg)) (hfs f (by simp))
  rw [heffects] at hrecorded ⊢
  obtain ⟨pub, hpub⟩ := effects_of_recorded srv c _ hrecorded
  rw [hpub, recorded_processPublish] at hrecorded
  cases hrecorded
  rw [hpub]
  constructor
  · intro d hd
    rw [deliveries_processPublish, if_pos (bindings_ne_nil srv hqueue)] at hd
    obtain ⟨j, hj, hresponse, hkey⟩ := mem_routePublish srv c _ hd
    refine ⟨⟨j, hj, hresponse⟩, hkey, fun heq => ?_⟩
    -- the message is routed to the queue once
    rw [heq] at hj hresponse
    obtain ⟨hi, -⟩ := List.getElem?_eq_some_iff.mp hqueue
    obtain rfl := (getElem?_inj hi (nodup_routeToQueues srv _ _)).mp (hqueue.trans hj.symm)
    rw [hresp] at hresponse
    exact (Option.some.inj hresponse).symm
  · rw [deliveredTo_eq srv c _ hqueue hresp]
    cases (γ fs.length).dropped with
    | true => simp
    | false =>
      simp only [Bool.false_eq_true, if_false, true_and, mem_consumersForQueue, htable,
        nodup_consumersForQueue c _ hnodup]
      exact forall_congr' fun cons => and_congr_right_iff.trans
        (imp_congr_right fun _ => iff_comm)

/-! ## Three connections

One queue, with a mock, and consumers of it. -/

def oneQueue : Server where
  bindings := [{ exchange := go "e", queue := go "q" }]
  mocks := [{ queue := go "q", response := some { body := go "ok" } }]

def consumeFrame (channel : UInt16) (tag : GoString) : Frame :=
  methodFrame channel 60 20 ([0, 0] ++ (encodeShortStr (go "q") ++ encodeShortStr tag))

def greetingHead : List Frame :=
  [(greeting 1 [go "hey"]).methodFrame, (greeting 1 [go "hey"]).headerFrame]

/-- With one consumer on one channel, that is who gets the response. -/
theorem delivered_to_one_consumer :
    (∀ cons, cons ∈ deliveredTo (go "q")
        (effectsOf oneQueue (fun _ => .plain) (consumeFrame 1 (go "s") :: greetingHead)
          (bodyFrame 1 (go "hey"))) ↔
      cons.queue = go "q" ∧
        Live (fun _ => .plain) (consumeFrame 1 (go "s") :: greetingHead) cons) ∧
      Live (fun _ => .plain) (consumeFrame 1 (go "s") :: greetingHead)
        ⟨1, go "s", go "q"⟩ := by
  have hfs : consumeFrame 1 (go "s") :: greetingHead =
      [] ++ [consumeFrame 1 (go "s")] ++ [(greeting 1 [go "hey"]).methodFrame] ++
        [(greeting 1 [go "hey"]).headerFrame] := rfl
  have hone : ∀ m, m = .channelClose ∨ m = .basicConsume → ∀ cons,
      (ConsumedBefore m (fun _ => .plain) (consumeFrame 1 (go "s") :: greetingHead) cons ↔
        ⟨1, go "s", go "q"⟩ = cons) := by
    intro m hm cons
    have hmethod : ¬(greeting 1 [go "hey"]).methodFrame.Calls m cons.channel := by
      rintro ⟨-, h, -⟩
      rcases hm with rfl | rfl <;> exact absurd h (by decide)
    have hheader : ¬(greeting 1 [go "hey"]).headerFrame.Calls m cons.channel :=
      fun h => absurd h.1 (by decide)
    have h₁ : consumed .plain (consumeFrame 1 (go "s")) = some ⟨1, go "s", go "q"⟩ := by decide
    have h₂ : consumed .plain (greeting 1 [go "hey"]).methodFrame = none := by decide
    have h₃ : consumed .plain (greeting 1 [go "hey"]).headerFrame = none := by decide
    simp only [hfs, consumedBefore_concat, consumedBefore_nil, h₁, h₂, h₃, hmethod, hheader,
      Option.some_inj, false_and, or_false, reduceCtorEq, not_false_eq_true, and_true, false_or]
  refine ⟨((delivered_iff_latest oneQueue _ _ (bodyFrame 1 (go "hey")) (by decide) (go "e")
    (go "k") (go "hey") (by decide) 0 (go "q") (by decide) { body := go "ok" } (by decide)).2.mpr
    fun cons _ => ?_).2, (hone _ (Or.inl rfl) _).mpr rfl⟩
  rw [Live, Latest, hone _ (Or.inl rfl), hone _ (Or.inr rfl)]
  exact (and_iff_right rfl).symm

/-- A second consume on a channel: the first consumer gets nothing. A channel that has been closed:
its consumer gets the response. -/
theorem consumers_not_latest :
    (Live (fun _ => .plain) (consumeFrame 1 (go "s") :: consumeFrame 1 (go "t") :: greetingHead)
        ⟨1, go "s", go "q"⟩ ∧
      deliveredTo (go "q") (effectsOf oneQueue (fun _ => .plain)
        (consumeFrame 1 (go "s") :: consumeFrame 1 (go "t") :: greetingHead)
        (bodyFrame 1 (go "hey"))) = [⟨1, go "t", go "q"⟩]) ∧
    (¬Live (fun _ => .plain) (consumeFrame 2 (go "s") :: methodFrame 2 20 40 [] :: greetingHead)
        ⟨2, go "s", go "q"⟩ ∧
      deliveredTo (go "q") (effectsOf oneQueue (fun _ => .plain)
        (consumeFrame 2 (go "s") :: methodFrame 2 20 40 [] :: greetingHead)
        (bodyFrame 1 (go "hey"))) = [⟨2, go "s", go "q"⟩]) := by
  refine ⟨⟨⟨[], _, _, rfl, by decide, by decide⟩, by decide +kernel⟩, fun hlive => ?_,
    by decide +kernel⟩
  have hfs : consumeFrame 2 (go "s") :: methodFrame 2 20 40 [] :: greetingHead =
      [consumeFrame 2 (go "s")] ++ [methodFrame 2 20 40 []] ++
        [(greeting 1 [go "hey"]).methodFrame] ++ [(greeting 1 [go "hey"]).headerFrame] := rfl
  rw [Live, hfs, consumedBefore_concat, consumedBefore_concat, consumedBefore_concat] at hlive
  rcases hlive with h | ⟨h | ⟨h | ⟨-, h⟩, -⟩, -⟩
  · exact absurd h (by decide)
  · exact absurd h (by decide)
  · exact absurd h (by decide)
  · exact h (by decide)

end Mockly.AMQP
