import Mockly.AMQP.Stream

/-!
# Publishes and what is recorded of them

A publish is a method frame, a header frame and body frames; those of several channels may be
interleaved. The server asks whether a publish is complete only when a body frame arrives.

Main result: **`recorded_iff_body_frames`**.
-/

namespace Mockly.AMQP

open List Function

/-! ## Well-formed publishes -/

/-- A publish: exchange and routing key are short strings. -/
structure Publish where
  channel : UInt16
  exchange : GoString
  routingKey : GoString
  bodies : List GoString
  exchange_le : exchange.length ≤ 255
  routingKey_le : routingKey.length ≤ 255

namespace Publish

variable (p : Publish)

def body : GoString := p.bodies.flatten

def content : GoString × GoString × GoString := (p.exchange, p.routingKey, p.body)

/-- The method frame: a short, the two strings, and flags. -/
def IsMethod (f : Frame) : Prop :=
  f.type = 1 ∧ f.channel = p.channel ∧ ∃ short flags, short.length = 2 ∧
    f.payload = Method.basicPublish.bytes ++
      (short ++ (encodeShortStr p.exchange ++ (encodeShortStr p.routingKey ++ flags)))

/-- The header frame, with the size of the body behind class and weight. -/
def IsHeader (f : Frame) : Prop :=
  f.type = 2 ∧ f.channel = p.channel ∧ 12 ≤ f.payload.length ∧
    BigEndian.value ((f.payload.drop 4).take 8) = p.body.length

/-- Nothing is missing after the body frames `seen`. -/
def Full (seen : List GoString) : Prop := seen ≠ [] ∧ seen.flatten.length = p.body.length

instance (seen : List GoString) : Decidable (p.Full seen) :=
  inferInstanceAs (Decidable (_ ∧ _))

end Publish

def Frame.IsOther (f : Frame) : Prop :=
  f.type ≠ 2 ∧ f.type ≠ 3 ∧ ¬(f.type = 1 ∧ f.payload.take 4 = Method.basicPublish.bytes)

/-- The frame is not too large, does not close the connection, and has a method if it should. -/
def Frame.Passes (f : Frame) : Prop :=
  f.payload.length ≤ maxFrame ∧ f.Complete ∧ ¬f.IsClose

instance (f : Frame) : Decidable f.Passes :=
  inferInstanceAs (Decidable (_ ∧ _))

lemma Frame.Passes.next {f : Frame} (hf : f.Passes) (srv : Server) (c : Conn) (γ : Moment) :
    ∃ c', (handleFrame srv c γ f).next = .continue c' := by
  rcases handleFrame_next srv c γ f with ⟨hbad, -⟩ | ⟨-, hclose, -⟩ | ⟨-, -, h⟩
  · exact absurd hf.2.1 hbad
  · exact absurd hclose hf.2.2
  · exact h

/-- How far a publish on a channel has come. -/
inductive Progress
  | method (p : Publish)
  /-- The body frames that have been sent, and those that are still to be. -/
  | bodies (p : Publish) (seen left : List GoString)

/-- The progress after the body frames `seen`: none if there are no more. -/
def Progress.rest (p : Publish) (seen : List GoString) : List GoString → Option Progress
  | [] => none
  | left => some (.bodies p seen left)

/-- The frames of a connection, for publishes that have begun as `begun` says by channel, and the
publishes in the order in which they are complete, each with whether the server has passed all
frames until then. -/
inductive Sends : Bool → (UInt16 → Option Progress) → List Frame → List (Publish × Bool) → Prop
  | nil {open_ : Bool} {begun : UInt16 → Option Progress} (hnone : ∀ ch, begun ch = none) :
      Sends open_ begun [] []
  | other {open_ : Bool} {begun : UInt16 → Option Progress} {f : Frame} {fs : List Frame}
      {ps : List (Publish × Bool)} (hf : f.IsOther)
      (hfs : Sends (open_ && decide f.Passes) begun fs ps) : Sends open_ begun (f :: fs) ps
  | method {open_ : Bool} {begun : UInt16 → Option Progress} {f : Frame} {fs : List Frame}
      {ps : List (Publish × Bool)} (p : Publish) (hf : p.IsMethod f)
      (hbegun : begun p.channel = none)
      (hfs : Sends (open_ && decide f.Passes)
        (Function.update begun p.channel (some (.method p))) fs ps) :
      Sends open_ begun (f :: fs) ps
  | header {open_ : Bool} {begun : UInt16 → Option Progress} {f : Frame} {fs : List Frame}
      {ps : List (Publish × Bool)} (p : Publish) (hf : p.IsHeader f)
      (hbegun : begun p.channel = some (.method p))
      (hfs : Sends (open_ && decide f.Passes)
        (Function.update begun p.channel (Progress.rest p [] p.bodies)) fs ps) :
      Sends open_ begun (f :: fs)
        (if p.bodies = [] then (p, open_ && decide f.Passes) :: ps else ps)
  | body {open_ : Bool} {begun : UInt16 → Option Progress} {f : Frame} {fs : List Frame}
      {ps : List (Publish × Bool)} (p : Publish) {seen left : List GoString} {b : GoString}
      (hf : f = bodyFrame p.channel b)
      (hbegun : begun p.channel = some (.bodies p seen (b :: left)))
      (hfs : Sends (open_ && decide f.Passes)
        (Function.update begun p.channel (Progress.rest p (seen ++ [b]) left)) fs ps) :
      Sends open_ begun (f :: fs)
        (if p.Full (seen ++ [b]) ∧ ¬p.Full seen then (p, open_ && decide f.Passes) :: ps else ps)

/-! ## What a frame does to the publishes -/

def Effect.recorded : Effect → Option (GoString × GoString × GoString)
  | .record m => some (m.exchange, m.routingKey, m.body)
  | _ => none

/-- What is recorded, apart from the ids and the timestamps. -/
def recorded (effects : List Effect) : List (GoString × GoString × GoString) :=
  effects.filterMap Effect.recorded

lemma recorded_append (as bs : List Effect) : recorded (as ++ bs) = recorded as ++ recorded bs :=
  filterMap_append

variable {channel : UInt16}

section Frames

variable (srv : Server) (γ : Moment) {c : Conn} {f : Frame}

lemma recorded_processPublish (c : Conn) (channel : UInt16) (pub : PublishState) :
    recorded (processPublish srv c γ channel pub) = [(pub.exchange, pub.routingKey, pub.body)] := by
  have hdeliveries : ∀ ds : List Delivery,
      recorded (ds.mapIdx fun i d => .deliver (γ.deliveryTag i) d) = [] := by
    intro ds
    rw [recorded, filterMap_eq_nil_iff]
    intro e he
    obtain ⟨i, hi, rfl⟩ := mem_mapIdx.mp he
    rfl
  exact congrArg ((pub.exchange, pub.routingKey, pub.body) :: ·) (hdeliveries _)

lemma handleMethod_of_ne_publish {classID methodID : UInt16} (channel : UInt16) (args : GoString)
    (h : Method.of classID methodID ≠ some .basicPublish) :
    recorded (handleMethod c γ channel classID methodID args).effects = [] ∧
      ∀ c', (handleMethod c γ channel classID methodID args).next = .continue c' →
        c'.publishes = c.publishes := by
  rw [handleMethod]
  cases hm : Method.of classID methodID with
  | none => exact ⟨rfl, by rintro c' ⟨⟩; rfl⟩
  | some m =>
    cases m with
    | basicPublish => exact absurd hm h
    | connectionClose => exact ⟨rfl, by rintro c' ⟨⟩⟩
    | _ => exact ⟨rfl, by rintro c' ⟨⟩; rfl⟩

lemma handleFrame_of_other (hf : f.IsOther) :
    recorded (handleFrame srv c γ f).effects = [] ∧
      ∀ c', (handleFrame srv c γ f).next = .continue c' → c'.publishes = c.publishes := by
  obtain ⟨h2, h3, h1⟩ := hf
  by_cases htype : f.type = 1
  · rw [handleFrame, if_pos htype]
    rcases onMethod_cases c γ f.channel f.payload with ⟨-, h⟩ | ⟨-, classID, methodID, hof, h⟩
    · rw [h]
      exact ⟨rfl, by rintro c' ⟨⟩⟩
    · rw [h]
      exact handleMethod_of_ne_publish γ f.channel _ fun hm => h1 ⟨htype, (hof _).mp hm⟩
  · rw [handleFrame, if_neg htype, if_neg h2, if_neg h3]
    exact ⟨rfl, by rintro c' ⟨⟩; rfl⟩

lemma handleFrame_of_method {p : Publish} (hf : p.IsMethod f) :
    handleFrame srv c γ f = ⟨[], .continue (c.setPublish p.channel
      (some { exchange := p.exchange, routingKey := p.routingKey }))⟩ := by
  obtain ⟨htype, hch, short, flags, hshort, hpayload⟩ := hf
  have htake : f.payload.take 4 = Method.basicPublish.bytes := by rw [hpayload]; rfl
  have hargs : f.payload.drop 4 =
      short ++ (encodeShortStr p.exchange ++ (encodeShortStr p.routingKey ++ flags)) := by
    rw [hpayload]
    rfl
  obtain ⟨classID, methodID, hof, hon⟩ := onMethod_of_bytes c γ f.channel htake
  rw [handleFrame, if_pos htype, hon]
  simp [handleMethod, hof, hargs, hch, parsePublish,
    parseTwo_eq hshort p.exchange_le p.routingKey_le]

lemma handleFrame_of_header {p : Publish} (hf : p.IsHeader f) {pub : PublishState}
    (hpub : c.publishes p.channel = some pub) :
    handleFrame srv c γ f = ⟨[], .continue (c.setPublish p.channel
      (some { pub with bodySize := p.body.length }))⟩ := by
  obtain ⟨htype, hch, hlen, hsize⟩ := hf
  have hslice : slice f.payload 4 12 = .ok ((f.payload.drop 4).take 8) := by
    rw [slice_of_le (by omega) (by omega) (by omega)]
    exact congrArg _ drop_take
  rw [handleFrame, if_neg (by rw [htype]; decide), if_pos htype, onHeader, hch, hpub]
  simp [if_pos hlen, hslice, hsize]

lemma handleFrame_of_body {pub : PublishState} (b : GoString)
    (hpub : c.publishes channel = some pub) :
    handleFrame srv c γ (bodyFrame channel b) =
      if pub.bodySize ≤ (pub.body ++ b).length then
        ⟨processPublish srv c γ channel { pub with body := pub.body ++ b },
          .continue (c.setPublish channel none)⟩
      else ⟨[], .continue (c.setPublish channel (some { pub with body := pub.body ++ b }))⟩ := by
  simp only [handleFrame, bodyFrame, onBody, hpub]
  rfl

lemma handleFrame_of_late_body (b : GoString) (hpub : c.publishes channel = none) :
    handleFrame srv c γ (bodyFrame channel b) = ⟨[], .continue c⟩ := by
  simp only [handleFrame, bodyFrame, onBody, hpub]
  rfl

end Frames

/-- The frames of a publish do not end the connection, unless one is too large. -/
lemma passes_iff_of_type {f : Frame} (h : f.type ≠ 1) :
    f.Passes ↔ f.payload.length ≤ maxFrame :=
  and_iff_left ⟨fun h1 => absurd h1 h, fun hclose => h hclose.1⟩

lemma passes_iff_of_method {p : Publish} {f : Frame} (hf : p.IsMethod f) :
    f.Passes ↔ f.payload.length ≤ maxFrame := by
  obtain ⟨-, -, short, flags, -, hpayload⟩ := hf
  refine and_iff_left ⟨fun _ => ?_, fun hclose => ?_⟩
  · rw [hpayload, length_append]
    exact Nat.le_add_right _ _
  · have htake : f.payload.take 4 = Method.basicPublish.bytes := by rw [hpayload]; rfl
    exact absurd (htake.symm.trans hclose.2) (by decide)

/-! ## The table of publishes -/

def Progress.TrackedBy (st : Option PublishState) (ch : UInt16) : Progress → Prop
  | .method p =>
    p.channel = ch ∧ st = some { exchange := p.exchange, routingKey := p.routingKey }
  | .bodies p seen left =>
    p.channel = ch ∧ seen ++ left = p.bodies ∧
      st = if p.Full seen then none
        else some ⟨p.exchange, p.routingKey, p.body.length, seen.flatten⟩

/-- The table has what has been sent of the publishes that have begun. -/
def Tracks (c : Conn) (begun : UInt16 → Option Progress) : Prop :=
  ∀ ch pr, begun ch = some pr → pr.TrackedBy (c.publishes ch) ch

variable {c : Conn} {begun : UInt16 → Option Progress}

lemma tracks_update {c' : Conn} {next : Option Progress} (h : Tracks c begun)
    (hother : ∀ ch, ch ≠ channel → c'.publishes ch = c.publishes ch)
    (hnew : ∀ pr, next = some pr → pr.TrackedBy (c'.publishes channel) channel) :
    Tracks c' (Function.update begun channel next) := by
  intro ch pr hpr
  by_cases hch : ch = channel
  · subst hch
    rw [update_self] at hpr
    exact hnew pr hpr
  · rw [update_of_ne hch] at hpr
    rw [hother ch hch]
    exact h ch pr hpr

lemma publishes_setPublish_self (c : Conn) (channel : UInt16) (st : Option PublishState) :
    (c.setPublish channel st).publishes channel = st :=
  update_self ..

lemma publishes_setPublish_of_ne (c : Conn) {ch : UInt16} (st : Option PublishState)
    (h : ch ≠ channel) : (c.setPublish channel st).publishes ch = c.publishes ch :=
  update_of_ne h ..

/-- What is still to come of a publish, once the table has what has been sent. -/
lemma trackedBy_rest {p : Publish} {seen left : List GoString} {st : Option PublishState}
    (hbodies : seen ++ left = p.bodies)
    (hst : st = if p.Full seen then none
      else some ⟨p.exchange, p.routingKey, p.body.length, seen.flatten⟩) {pr : Progress}
    (hpr : Progress.rest p seen left = some pr) : pr.TrackedBy st p.channel := by
  cases left with
  | nil => cases hpr
  | cons b left =>
    cases hpr
    exact ⟨rfl, hbodies, hst⟩

namespace Publish

variable {p : Publish} {seen left : List GoString} {b : GoString}

lemma length_body (h : seen ++ left = p.bodies) :
    p.body.length = seen.flatten.length + left.flatten.length := by
  rw [body, ← h, flatten_append, length_append]

lemma Full.flatten_eq (hfull : p.Full seen) (h : seen ++ left = p.bodies) :
    seen.flatten = p.body := by
  have hlen := length_body h
  rw [← hfull.2] at hlen
  have hleft : left.flatten = [] := length_eq_zero_iff.mp (by omega)
  rw [body, ← h, flatten_append, hleft, append_nil]

lemma full_concat_iff (h : seen ++ b :: left = p.bodies) :
    p.Full (seen ++ [b]) ↔ p.body.length ≤ (seen.flatten ++ b).length := by
  have hlen := length_body h
  simp only [flatten_cons, length_append] at hlen
  simp only [Full, ne_eq, append_eq_nil_iff, cons_ne_nil, and_false, not_false_eq_true, true_and,
    flatten_append, flatten_cons, flatten_nil, append_nil, length_append]
  omega

lemma Full.concat (hfull : p.Full seen) (h : seen ++ b :: left = p.bodies) :
    p.Full (seen ++ [b]) := by
  rw [full_concat_iff h, length_append, ← hfull.2]
  omega

end Publish

lemma other_step (srv : Server) (γ : Moment) {f : Frame} (hf : f.IsOther) (hc : Tracks c begun)
    (hpass : f.Passes) :
    ∃ c', (handleFrame srv c γ f).next = .continue c' ∧ Tracks c' begun ∧
      recorded (handleFrame srv c γ f).effects = [] := by
  obtain ⟨hnone, hsame⟩ := handleFrame_of_other srv γ (c := c) hf
  obtain ⟨c', hnext⟩ := hpass.next srv c γ
  refine ⟨c', hnext, fun ch pr hpr => ?_, hnone⟩
  rw [hsame c' hnext]
  exact hc ch pr hpr

lemma method_step (srv : Server) (γ : Moment) {f : Frame} {p : Publish} (hf : p.IsMethod f)
    (hc : Tracks c begun) :
    ∃ c', (handleFrame srv c γ f).next = .continue c' ∧
      Tracks c' (Function.update begun p.channel (some (.method p))) ∧
      recorded (handleFrame srv c γ f).effects = [] := by
  rw [handleFrame_of_method srv γ hf]
  refine ⟨_, rfl, tracks_update hc (fun ch hch => publishes_setPublish_of_ne c _ hch)
    fun pr hpr => ?_, rfl⟩
  cases hpr
  exact ⟨rfl, publishes_setPublish_self c _ _⟩

lemma header_step (srv : Server) (γ : Moment) {f : Frame} {p : Publish} (hf : p.IsHeader f)
    (hc : Tracks c begun) (hbegun : begun p.channel = some (.method p)) :
    ∃ c', (handleFrame srv c γ f).next = .continue c' ∧
      Tracks c' (Function.update begun p.channel (Progress.rest p [] p.bodies)) ∧
      recorded (handleFrame srv c γ f).effects = [] := by
  obtain ⟨-, hst⟩ := hc _ _ hbegun
  rw [handleFrame_of_header srv γ hf hst]
  refine ⟨_, rfl, tracks_update hc (fun ch hch => publishes_setPublish_of_ne c _ hch)
    fun pr hpr => ?_, rfl⟩
  rw [publishes_setPublish_self]
  exact trackedBy_rest (nil_append _) (by rw [if_neg fun h => h.1 rfl]; rfl) hpr

/-- **A body frame**: it is recorded exactly if it makes the publish complete. -/
lemma body_step (srv : Server) (γ : Moment) {p : Publish} {seen left : List GoString}
    {b : GoString} (hc : Tracks c begun)
    (hbegun : begun p.channel = some (.bodies p seen (b :: left))) :
    ∃ c', (handleFrame srv c γ (bodyFrame p.channel b)).next = .continue c' ∧
      Tracks c' (Function.update begun p.channel (Progress.rest p (seen ++ [b]) left)) ∧
      recorded (handleFrame srv c γ (bodyFrame p.channel b)).effects =
        if p.Full (seen ++ [b]) ∧ ¬p.Full seen then [p.content] else [] := by
  obtain ⟨-, hbodies, hst⟩ := hc _ _ hbegun
  have hconcat : (seen ++ [b]) ++ left = p.bodies := by
    rw [← hbodies, append_assoc]
    rfl
  by_cases hseen : p.Full seen
  · rw [if_pos hseen] at hst
    rw [handleFrame_of_late_body srv γ b hst]
    refine ⟨c, rfl, tracks_update hc (fun _ _ => rfl) fun pr hpr => ?_, ?_⟩
    · exact trackedBy_rest hconcat (by rw [if_pos (hseen.concat hbodies), hst]) hpr
    · rw [if_neg fun h => h.2 hseen]
      rfl
  · rw [if_neg hseen] at hst
    rw [handleFrame_of_body srv γ b hst]
    simp only [← Publish.full_concat_iff hbodies]
    by_cases hfull : p.Full (seen ++ [b])
    · rw [if_pos hfull, if_pos ⟨hfull, hseen⟩]
      refine ⟨_, rfl, tracks_update hc
        (fun ch hch => publishes_setPublish_of_ne c none hch) fun pr hpr => ?_, ?_⟩
      · rw [publishes_setPublish_self]
        exact trackedBy_rest hconcat (by rw [if_pos hfull]) hpr
      · have hbody : seen.flatten ++ b = p.body := by
          rw [← hfull.flatten_eq hconcat]
          simp
        rw [recorded_processPublish, hbody]
        rfl
    · rw [if_neg hfull, if_neg fun h => hfull h.1]
      refine ⟨_, rfl, tracks_update hc
        (fun ch hch => publishes_setPublish_of_ne c _ hch) fun pr hpr => ?_, rfl⟩
      rw [publishes_setPublish_self]
      exact trackedBy_rest hconcat (by rw [if_neg hfull]; simp) hpr

/-! ## Whole connections -/

/-- Those with a body frame that the connection lasts for. -/
def kept (ps : List (Publish × Bool)) : List (Publish × Bool) :=
  ps.filter fun x => x.2 && decide (x.1.bodies ≠ [])

variable {fs : List Frame} {ps : List (Publish × Bool)}

lemma Sends.open_of_mem {open_ : Bool} (h : Sends open_ begun fs ps) :
    ∀ x ∈ ps, x.2 = true → open_ = true := by
  induction h with
  | nil hnone => simp
  | other hf hfs ih | method p hf hbegun hfs ih =>
    exact fun x hx h => (Bool.and_eq_true_iff.mp (ih x hx h)).1
  | header p hf hbegun hfs ih | body p hf hbegun hfs ih =>
    intro x hx h
    split_ifs at hx
    · rcases mem_cons.mp hx with rfl | hx
      · exact (Bool.and_eq_true_iff.mp h).1
      · exact (Bool.and_eq_true_iff.mp (ih x hx h)).1
    · exact (Bool.and_eq_true_iff.mp (ih x hx h)).1

lemma Sends.kept_eq_nil (h : Sends false begun fs ps) : kept ps = [] := by
  rw [kept, filter_eq_nil_iff]
  intro x hx hkept
  exact absurd (h.open_of_mem x hx (Bool.and_eq_true_iff.mp hkept).1) Bool.false_ne_true

lemma kept_cons (p : Publish) (o : Bool) (ps : List (Publish × Bool)) :
    kept ((p, o) :: ps) = if o = true ∧ p.bodies ≠ [] then (p, o) :: kept ps else kept ps := by
  simp [kept, filter_cons]

/-- From such a state on, the loop records these messages. -/
def WillRecord (srv : Server) (γ : ℕ → Moment) (begun : UInt16 → Option Progress) (fs : List Frame)
    (contents : List (GoString × GoString × GoString)) : Prop :=
  ∀ turns i c, fs.length ≤ turns → Tracks c begun →
    recorded (frameLoop srv γ turns i c (fs.flatMap writeFrame)).1 = contents

/-- **The next frame on a connection.** -/
lemma WillRecord.cons {srv : Server} {γ : ℕ → Moment} {begun' : UInt16 → Option Progress}
    {f : Frame} {new : List (GoString × GoString × GoString)} (hsize : f.payload.length < 2 ^ 32)
    (hfs : Sends (true && decide f.Passes) begun' fs ps)
    (hpass : ∀ i c, Tracks c begun → f.Passes →
      ∃ c', (handleFrame srv c (γ i) f).next = .continue c' ∧ Tracks c' begun' ∧
        recorded (handleFrame srv c (γ i) f).effects = new)
    (hstop : ∀ i c, ¬f.Passes → f.payload.length ≤ maxFrame →
      recorded (handleFrame srv c (γ i) f).effects = [])
    (hrest : f.Passes → WillRecord srv γ begun' fs ((kept ps).map fun x => x.1.content)) :
    WillRecord srv γ begun (f :: fs)
      ((if f.Passes then new else []) ++ (kept ps).map fun x => x.1.content) := by
  intro turns i c hturns hc
  obtain ⟨turns, rfl⟩ : ∃ n, turns = n + 1 := ⟨turns - 1, by simp at hturns; omega⟩
  rw [flatMap_cons]
  by_cases hf : f.Passes
  · obtain ⟨c', hnext, hc', hnew⟩ := hpass i c hc hf
    rw [if_pos hf, frameLoop_of_continue srv γ hf.1 hnext, recorded_append, hnew,
      hrest hf turns (i + 1) c' (by simpa using hturns) hc']
  · have hend : maxFrame < f.payload.length ∨ ¬f.Complete ∨ f.IsClose := by
      by_contra hgo
      simp only [not_or, not_lt, not_not] at hgo
      exact hf hgo
    simp only [hf, decide_false, Bool.and_false] at hfs
    rw [if_neg hf, hfs.kept_eq_nil, frameLoop_of_end srv γ hsize hend]
    split_ifs with hlarge
    · rfl
    · exact hstop i c hf (not_lt.mp hlarge)

/-- **What is recorded of a connection.** The table has what has been sent of each publish, for as
long as the connection lasts. -/
lemma records_of_sends (srv : Server) (γ : ℕ → Moment) {open_ : Bool}
    (h : Sends open_ begun fs ps) (hopen : open_ = true)
    (hsize : ∀ f ∈ fs, f.payload.length < 2 ^ 32) :
    WillRecord srv γ begun fs ((kept ps).map fun x => x.1.content) := by
  induction h with
  | nil hnone =>
    intro turns i c _ _
    have hnil : readFrame [] = .ok none := rfl
    cases turns <;> simp [frameLoop, hnil, kept, recorded]
  | @other open_ begun f fs ps hf hfs ih =>
    subst hopen
    rw [forall_mem_cons] at hsize
    have hcons := WillRecord.cons hsize.1 hfs
      (fun i c hc hpass => other_step srv (γ i) hf hc hpass)
      (fun i c _ _ => (handleFrame_of_other srv (γ i) hf).1)
      fun hpass => ih (by simp [hpass]) hsize.2
    simpa using hcons
  | @method open_ begun f fs ps p hf hbegun hfs ih =>
    subst hopen
    rw [forall_mem_cons] at hsize
    have hcons := WillRecord.cons hsize.1 hfs
      (fun i c hc _ => method_step srv (γ i) hf hc)
      (fun i c hstop hlen => absurd ((passes_iff_of_method hf).mpr hlen) hstop)
      fun hpass => ih (by simp [hpass]) hsize.2
    simpa using hcons
  | @header open_ begun f fs ps p hf hbegun hfs ih =>
    subst hopen
    rw [forall_mem_cons] at hsize
    have htype : f.type ≠ 1 := by rw [hf.1]; decide
    have hcons := WillRecord.cons hsize.1 hfs
      (fun i c hc _ => header_step srv (γ i) hf hc hbegun)
      (fun i c hstop hlen => absurd ((passes_iff_of_type htype).mpr hlen) hstop)
      fun hpass => ih (by simp [hpass]) hsize.2
    -- Without a body frame the publish is complete, and not recorded.
    have hkept : kept (if p.bodies = [] then (p, true && decide f.Passes) :: ps else ps) =
        kept ps := by
      split_ifs with hnil
      · rw [kept_cons, if_neg fun h => h.2 hnil]
      · rfl
    rw [hkept]
    simpa using hcons
  | @body open_ begun f fs ps p seen left b hf hbegun hfs ih =>
    subst hopen
    rw [forall_mem_cons] at hsize
    have htype : f.type ≠ 1 := by rw [hf]; exact (by decide : (3 : UInt8) ≠ 1)
    have hcons := WillRecord.cons hsize.1 hfs
      (fun i c hc _ => by rw [hf]; exact body_step srv (γ i) hc hbegun)
      (fun i c hstop hlen => absurd ((passes_iff_of_type htype).mpr hlen) hstop)
      fun hpass => ih (by simp [hpass]) hsize.2
    intro turns i c hturns hc
    have hne : p.bodies ≠ [] := by
      obtain ⟨-, hbodies, -⟩ := hc _ _ hbegun
      simp [← hbodies]
    rw [hcons turns i c hturns hc]
    split_ifs with hpass hfull
    · simp [kept_cons, hpass, hne]
    · simp
    · simp [kept_cons, hpass]
    · simp

lemma recorded_handleConn (srv : Server) (γ : ℕ → Moment) (h : Sends true (fun _ => none) fs ps)
    (hsize : ∀ f ∈ fs, f.payload.length < 2 ^ 32) :
    recorded (handleConn srv γ (connection fs)).1 =
      (kept ps).map fun x => x.1.content := by
  obtain ⟨turns, hturns, hconn⟩ := handleConn_connection srv γ fs
  rw [hconn]
  exact records_of_sends srv γ h rfl hsize turns 0 {} hturns fun ch pr hpr => by cases hpr

/-- **What is recorded of well-formed publishes.** -/
theorem recorded_iff_body_frames (srv : Server) (γ : ℕ → Moment) (fs : List Frame)
    (ps : List (Publish × Bool)) (h : Sends true (fun _ => none) fs ps)
    (hsize : ∀ f ∈ fs, f.payload.length < 2 ^ 32) :
    recorded (handleConn srv γ (connection fs)).1 =
        ps.map (fun x => x.1.content) ↔
      ∀ x ∈ ps, x.2 = true ∧ x.1.bodies ≠ [] := by
  rw [recorded_handleConn srv γ h hsize]
  constructor
  · intro heq x hx
    have hlen : (kept ps).length = ps.length := by
      simpa using congrArg List.length heq
    have hall := List.length_filter_eq_length_iff.mp hlen x hx
    simpa using hall
  · intro hall
    have hkept : kept ps = ps := List.filter_eq_self.mpr fun x hx => by simpa using hall x hx
    rw [hkept]

/-! ## Two connections -/

def Publish.methodFrame (p : Publish) : Frame :=
  AMQP.methodFrame p.channel 60 40
    ([0, 0] ++ (encodeShortStr p.exchange ++ (encodeShortStr p.routingKey ++ [0])))

def Publish.headerFrame (p : Publish) : Frame := AMQP.headerFrame p.channel 60 p.body.length

lemma Publish.isMethod_methodFrame (p : Publish) : p.IsMethod p.methodFrame :=
  ⟨rfl, rfl, [0, 0], [0], rfl, rfl⟩

lemma Publish.isHeader_headerFrame (p : Publish) (h : p.body.length < 2 ^ 64) :
    p.IsHeader p.headerFrame := by
  have hvalue : BigEndian.value (BigEndian.bytes 8 p.body.length) = p.body.length :=
    BigEndian.value_bytes_of_lt (by simpa using h)
  exact ⟨rfl, rfl, Nat.le_add_left 12 _, hvalue⟩

def greeting (channel : UInt16) (bodies : List GoString) : Publish where
  channel := channel
  exchange := go "e"
  routingKey := go "k"
  bodies := bodies
  exchange_le := by decide
  routingKey_le := by decide

/-- Two publishes at the same time: the one that begins first is complete last. -/
theorem recorded_interleaved :
    recorded (handleConn {} (fun _ => .plain) (connection
        [(greeting 1 [go "he", go "y"]).methodFrame, (greeting 1 [go "he", go "y"]).headerFrame,
          bodyFrame 1 (go "he"), (greeting 2 [go "ho"]).methodFrame,
          (greeting 2 [go "ho"]).headerFrame, bodyFrame 2 (go "ho"), bodyFrame 1 (go "y")])).1 =
      [(go "e", go "k", go "ho"), (go "e", go "k", go "hey")] := by
  have hsends : Sends true (fun _ => none)
      [(greeting 1 [go "he", go "y"]).methodFrame, (greeting 1 [go "he", go "y"]).headerFrame,
        bodyFrame 1 (go "he"), (greeting 2 [go "ho"]).methodFrame,
        (greeting 2 [go "ho"]).headerFrame, bodyFrame 2 (go "ho"), bodyFrame 1 (go "y")]
      [(greeting 2 [go "ho"], true), (greeting 1 [go "he", go "y"], true)] := by
    refine .method (greeting 1 [go "he", go "y"]) (Publish.isMethod_methodFrame _) rfl ?_
    refine .header (greeting 1 [go "he", go "y"])
      (Publish.isHeader_headerFrame _ (by decide)) rfl ?_
    refine @Sends.body _ _ _ _ _ (greeting 1 [go "he", go "y"]) [] [go "y"] _ rfl rfl ?_
    refine .method (greeting 2 [go "ho"]) (Publish.isMethod_methodFrame _) rfl ?_
    refine .header (greeting 2 [go "ho"]) (Publish.isHeader_headerFrame _ (by decide)) rfl ?_
    refine @Sends.body _ _ _ _ _ (greeting 2 [go "ho"]) [] [] _ rfl rfl ?_
    refine @Sends.body _ _ _ _ _ (greeting 1 [go "he", go "y"]) [go "he"] [] _ rfl rfl
      (.nil fun ch => ?_)
    simp only [Function.update_apply]
    split_ifs <;> rfl
  exact (recorded_iff_body_frames {} _ _ _ hsends (by decide)).mpr (by decide)

/-- An empty message is complete with its header, and is not recorded. -/
theorem empty_message_not_recorded :
    Sends true (fun _ => none) [(greeting 1 []).methodFrame, (greeting 1 []).headerFrame]
        [(greeting 1 [], true)] ∧
      recorded (handleConn {} (fun _ => .plain)
        (connection [(greeting 1 []).methodFrame, (greeting 1 []).headerFrame])).1 = [] := by
  have hsends : Sends true (fun _ => none)
      [(greeting 1 []).methodFrame, (greeting 1 []).headerFrame] [(greeting 1 [], true)] := by
    refine .method (greeting 1 []) (Publish.isMethod_methodFrame _) rfl ?_
    refine @Sends.header _ _ _ _ _ (greeting 1 [])
      (Publish.isHeader_headerFrame _ (by decide)) rfl (.nil fun ch => ?_)
    simp only [Function.update_apply]
    split_ifs <;> rfl
  exact ⟨hsends, recorded_handleConn {} _ hsends (by decide)⟩

end Mockly.AMQP
