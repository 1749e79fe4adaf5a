import Mockly.AMQP.Server

/-!
# A connection and the bytes on it

Nothing checks that the payload of a method frame has the four bytes of its class and method.

Main results: **`handleConn_safe_iff`**, **`deliveries_read_back_iff`**.
-/

namespace Mockly.AMQP

open Method List

/-! ## The loop over the bytes -/

/-- The loop of `handleConn` from the `i`-th frame on: what it does, and the panic that ends it, if
one does. -/
def frameLoop (srv : Server) (γ : ℕ → Moment) :
    ℕ → ℕ → Conn → GoString → List Effect × Option Panic
  | 0, _, _, _ => ([], none)
  | turns + 1, i, c, r =>
    match readFrame r with
    | .error e => ([], some e)
    | .ok none => ([], none)
    | .ok (some (f, r)) =>
      let answer := handleFrame srv c (γ i) f
      match answer.next with
      | .closed => (answer.effects, none)
      | .panicked e => (answer.effects, some e)
      | .continue c =>
        let (effects, e) := frameLoop srv γ turns (i + 1) c r
        (answer.effects ++ effects, e)

def protocolHeader : GoString := go "AMQP" ++ [0, 0, 9, 1]

/-- `handleConn`; every frame takes at least one byte. -/
def handleConn (srv : Server) (γ : ℕ → Moment) (r : GoString) : List Effect × Option Panic :=
  if r.take 8 ≠ protocolHeader then ([], none)
  else
    let (effects, e) := frameLoop srv γ r.length 0 {} (r.drop 8)
    (.send (methodFrame 0 10 10 buildConnectionStart) :: effects, e)

/-! ## What a frame can do -/

def Frame.IsClose (f : Frame) : Prop := f.type = 1 ∧ f.payload.take 4 = [0, 10, 0, 50]

instance (f : Frame) : Decidable f.IsClose :=
  inferInstanceAs (Decidable (_ ∧ _))

/-- The payload has the bytes that a method frame is asked for. -/
def Frame.Complete (f : Frame) : Prop := f.type = 1 → 4 ≤ f.payload.length

instance (f : Frame) : Decidable f.Complete :=
  inferInstanceAs (Decidable (f.type = 1 → 4 ≤ f.payload.length))

lemma uint16_eq_iff {bs : GoString} (h : bs.length = 2) (c : UInt16) :
    uint16 bs = c ↔ bs = BigEndian.bytes 2 c.toNat := by
  constructor
  · rintro rfl
    exact (bytes_uint16 h).symm
  · rintro rfl
    exact uint16_bytes c

lemma methodParts_eq (payload : GoString) :
    methodParts payload =
      if 4 ≤ payload.length then
        .ok (uint16 (payload.take 2), uint16 ((payload.drop 2).take 2), payload.drop 4)
      else .error .sliceBounds := by
  match payload with
  | [] => rfl
  | [_] => rfl
  | [_, _] => rfl
  | [_, _, _] => rfl
  | a :: b :: c :: d :: args =>
    have hclass : slice (a :: b :: c :: d :: args) 0 2 = .ok [a, b] :=
      slice_append [] [a, b] (c :: d :: args) rfl rfl
    have hmethod : slice (a :: b :: c :: d :: args) 2 4 = .ok [c, d] :=
      slice_append [a, b] [c, d] args rfl rfl
    have hargs : slice (a :: b :: c :: d :: args) 4 (a :: b :: c :: d :: args).length =
        .ok args :=
      slice_to_end (by simp : 4 ≤ (a :: b :: c :: d :: args).length)
    rw [if_pos (by simp), methodParts, hclass, hmethod, hargs]
    rfl

def Method.bytes (m : Method) : GoString :=
  BigEndian.bytes 2 m.id.1.toNat ++ BigEndian.bytes 2 m.id.2.toNat

lemma Method.of_uint16_iff {payload : GoString} (h : 4 ≤ payload.length) (m : Method) :
    of (uint16 (payload.take 2)) (uint16 ((payload.drop 2).take 2)) = some m ↔
      payload.take 4 = m.bytes := by
  match payload, h with
  | a :: b :: c :: d :: args, _ =>
    have hclass := uint16_eq_iff (show [a, b].length = 2 from rfl) m.id.1
    have hmethod := uint16_eq_iff (show [c, d].length = 2 from rfl) m.id.2
    change of (uint16 [a, b]) (uint16 [c, d]) = some m ↔ [a, b] ++ [c, d] = m.bytes
    rw [of_eq_some_iff, eq_comm, Prod.ext_iff]
    refine (and_congr hclass hmethod).trans ?_
    constructor
    · rintro ⟨h₁, h₂⟩
      rw [h₁, h₂, bytes]
    · intro h
      exact append_inj h (by simp)

variable (c : Conn)

/-- **A method frame** is handled as the method in its first four bytes says. -/
lemma onMethod_cases (γ : Moment) (channel : UInt16) (payload : GoString) :
    (¬4 ≤ payload.length ∧ onMethod c γ channel payload = ⟨[], .panicked .sliceBounds⟩) ∨
      4 ≤ payload.length ∧ ∃ classID methodID,
        (∀ m, of classID methodID = some m ↔ payload.take 4 = m.bytes) ∧
          onMethod c γ channel payload =
            handleMethod c γ channel classID methodID (payload.drop 4) := by
  rw [onMethod, methodParts_eq]
  by_cases hlen : 4 ≤ payload.length
  · rw [if_pos hlen]
    exact Or.inr ⟨hlen, _, _, of_uint16_iff hlen, rfl⟩
  · rw [if_neg hlen]
    exact Or.inl ⟨hlen, rfl⟩

lemma onMethod_of_bytes (γ : Moment) (channel : UInt16) {payload : GoString} {m : Method}
    (h : payload.take 4 = m.bytes) :
    ∃ classID methodID, of classID methodID = some m ∧
      onMethod c γ channel payload =
        handleMethod c γ channel classID methodID (payload.drop 4) := by
  rcases onMethod_cases c γ channel payload with ⟨hlen, -⟩ | ⟨-, classID, methodID, hof, hon⟩
  · have hfour := congrArg List.length h
    simp only [bytes, length_take, length_append, BigEndian.length_bytes] at hfour
    omega
  · exact ⟨classID, methodID, (hof m).mpr h, hon⟩

lemma handleMethod_next (γ : Moment) (channel classID methodID : UInt16) (args : GoString) :
    (of classID methodID = some .connectionClose ∧
        (handleMethod c γ channel classID methodID args).next = .closed) ∨
      (of classID methodID ≠ some .connectionClose ∧
        ∃ c', (handleMethod c γ channel classID methodID args).next = .continue c') := by
  rw [handleMethod]
  cases of classID methodID with
  | none => exact Or.inr ⟨by simp, _, rfl⟩
  | some m =>
    cases m with
    | connectionClose => exact Or.inl ⟨rfl, rfl⟩
    | _ => exact Or.inr ⟨by simp, _, rfl⟩

lemma onHeader_next (channel : UInt16) (payload : GoString) :
    ∃ ps, onHeader c channel payload = ⟨[], .continue { c with publishes := ps }⟩ := by
  unfold onHeader
  cases c.publishes channel with
  | none => exact ⟨_, rfl⟩
  | some pub =>
    dsimp only
    split_ifs with h
    · rw [slice_of_le (by omega) (by omega) (by omega)]
      exact ⟨_, rfl⟩
    · exact ⟨_, rfl⟩

lemma onBody_next (srv : Server) (c : Conn) (γ : Moment) (channel : UInt16) (payload : GoString) :
    ∃ ps, (onBody srv c γ channel payload).next = .continue { c with publishes := ps } := by
  unfold onBody
  cases c.publishes channel with
  | none => exact ⟨_, rfl⟩
  | some pub =>
    dsimp only
    split_ifs <;> exact ⟨_, rfl⟩

/-- **What a frame leads to**: a panic if it is a method frame without class and method, the end if
it closes the connection, and else the next frame. -/
lemma handleFrame_next (srv : Server) (c : Conn) (γ : Moment) (f : Frame) :
    (¬f.Complete ∧ (handleFrame srv c γ f).next = .panicked .sliceBounds) ∨
      (f.Complete ∧ f.IsClose ∧ (handleFrame srv c γ f).next = .closed) ∨
      (f.Complete ∧ ¬f.IsClose ∧ ∃ c', (handleFrame srv c γ f).next = .continue c') := by
  unfold handleFrame Frame.Complete Frame.IsClose
  split_ifs with h1 h2 h3
  · simp only [h1, true_imp_iff, true_and]
    rcases onMethod_cases c γ f.channel f.payload with ⟨hlen, h⟩ | ⟨hlen, classID, methodID, hof, h⟩
    · rw [h]
      exact Or.inl ⟨hlen, rfl⟩
    · have hclose : f.payload.take 4 = [0, 10, 0, 50] ↔ _ := (hof .connectionClose).symm
      rw [h, hclose]
      rcases handleMethod_next c γ f.channel classID methodID (f.payload.drop 4) with
        ⟨hid, h⟩ | ⟨hid, h⟩
      · exact Or.inr (Or.inl ⟨hlen, hid, h⟩)
      · exact Or.inr (Or.inr ⟨hlen, hid, h⟩)
  · obtain ⟨ps, h⟩ := onHeader_next c f.channel f.payload
    exact Or.inr (Or.inr ⟨fun h => absurd h h1, fun h => h1 h.1, _, by rw [h]⟩)
  · obtain ⟨ps, h⟩ := onBody_next srv c γ f.channel f.payload
    exact Or.inr (Or.inr ⟨fun h => absurd h h1, fun h => h1 h.1, _, h⟩)
  · exact Or.inr (Or.inr ⟨fun h => absurd h h1, fun h => h1 h.1, c, rfl⟩)

/-! ## Whether the server panics -/

/-- The frames on a connection, up to the first that is incomplete, too large or not well
formed. -/
def framesIn : ℕ → GoString → List Frame
  | 0, _ => []
  | turns + 1, r =>
    match readFrame r with
    | .ok (some (f, r)) => f :: framesIn turns r
    | _ => []

/-- The frames up to the one that closes the connection. -/
def untilClose : List Frame → List Frame
  | [] => []
  | f :: fs => if f.IsClose then [f] else f :: untilClose fs

lemma frameLoop_safe_iff (srv : Server) (γ : ℕ → Moment) (turns i : ℕ) (c : Conn)
    (r : GoString) :
    (frameLoop srv γ turns i c r).2 = none ↔ ∀ f ∈ untilClose (framesIn turns r), f.Complete := by
  induction turns generalizing i c r with
  | zero => simp [frameLoop, framesIn, untilClose]
  | succ turns ih =>
    rw [frameLoop, framesIn]
    cases hread : readFrame r with
    | error e => exact absurd hread (readFrame_ne_error r e)
    | ok o =>
      cases o with
      | none => simp [untilClose]
      | some fr =>
        obtain ⟨f, r'⟩ := fr
        dsimp only
        rw [untilClose]
        rcases handleFrame_next srv c (γ i) f with ⟨hbad, h⟩ | ⟨hok, hclose, h⟩ |
          ⟨hok, hclose, c', h⟩
        · refine iff_of_false (by simp [h]) fun hall => hbad (hall f ?_)
          split_ifs <;> simp
        · simp [h, hclose, hok]
        · simp [h, hclose, hok, ih]

/-- The frames the loop gets to see of the bytes of a connection. -/
def framesSeen (r : GoString) : List Frame :=
  if r.take 8 = protocolHeader then untilClose (framesIn r.length (r.drop 8)) else []

/-- **Which bytes make the server panic.** -/
theorem handleConn_safe_iff (srv : Server) (γ : ℕ → Moment) (r : GoString) :
    (handleConn srv γ r).2 = none ↔ ∀ f ∈ framesSeen r, f.Complete := by
  unfold handleConn framesSeen
  by_cases h : r.take 8 = protocolHeader
  · rw [if_neg (not_not.mpr h), if_pos h]
    exact frameLoop_safe_iff srv γ r.length 0 {} (r.drop 8)
  · simp [h]

/-- A method frame without a payload, right after the protocol header. -/
theorem handleConn_empty_method :
    (handleConn {} (fun _ => .plain) (protocolHeader ++ [1, 0, 0, 0, 0, 0, 0, 0xCE])).2 =
      some .sliceBounds := by
  decide

/-! ## Frames one after the other -/

section Frames

variable (srv : Server) (γ : ℕ → Moment)

variable {f : Frame}

lemma readFrame_of_large (hsize : f.payload.length < 2 ^ 32) (hlarge : maxFrame < f.payload.length)
    (r : GoString) : readFrame (writeFrame f ++ r) = .ok none := by
  rw [readFrame_writeFrame hsize, if_neg (not_le.mpr hlarge)]

lemma frameLoop_of_continue (hsize : f.payload.length ≤ maxFrame) {turns i : ℕ} {c c' : Conn}
    (hnext : (handleFrame srv c (γ i) f).next = .continue c') (r : GoString) :
    (frameLoop srv γ (turns + 1) i c (writeFrame f ++ r)).1 =
      (handleFrame srv c (γ i) f).effects ++ (frameLoop srv γ turns (i + 1) c' r).1 := by
  simp [frameLoop, readFrame_eq_some_iff.mpr ⟨hsize, rfl⟩, hnext]

lemma frameLoop_of_end (hsize : f.payload.length < 2 ^ 32) {turns i : ℕ} {c : Conn}
    (hend : maxFrame < f.payload.length ∨ ¬f.Complete ∨ f.IsClose) (r : GoString) :
    (frameLoop srv γ (turns + 1) i c (writeFrame f ++ r)).1 =
      if maxFrame < f.payload.length then [] else (handleFrame srv c (γ i) f).effects := by
  by_cases hlarge : maxFrame < f.payload.length
  · simp [frameLoop, readFrame_of_large hsize hlarge, hlarge]
  · rw [if_neg hlarge]
    have hread : readFrame (writeFrame f ++ r) = .ok (some (f, r)) :=
      readFrame_eq_some_iff.mpr ⟨not_lt.mp hlarge, rfl⟩
    rcases handleFrame_next srv c (γ i) f with ⟨-, h⟩ | ⟨-, -, h⟩ | ⟨hok, hclose, -⟩
    · simp [frameLoop, hread, h]
    · simp [frameLoop, hread, h]
    · exact absurd hend (by tauto)

end Frames

def connection (fs : List Frame) : GoString := protocolHeader ++ fs.flatMap writeFrame

lemma handleConn_connection (srv : Server) (γ : ℕ → Moment) (fs : List Frame) :
    ∃ turns, fs.length ≤ turns ∧ (handleConn srv γ (connection fs)).1 =
      .send (methodFrame 0 10 10 buildConnectionStart) ::
        (frameLoop srv γ turns 0 {} (fs.flatMap writeFrame)).1 := by
  refine ⟨(connection fs).length, ?_, ?_⟩
  · have hle := length_le_sum_of_one_le (fs.map fun f => (writeFrame f).length) (by simp)
    rw [length_map] at hle
    rw [connection, length_append, length_flatMap]
    omega
  · have hhead : (connection fs).take 8 = protocolHeader := take_left' rfl
    have hrest : (connection fs).drop 8 = fs.flatMap writeFrame := drop_left' rfl
    rw [handleConn, if_neg (not_not.mpr hhead), hrest]

lemma framesIn_eq_iff (fs : List Frame) (rest : GoString) :
    framesIn fs.length (fs.flatMap writeFrame ++ rest) = fs ↔
      ∀ f ∈ fs, f.payload.length ≤ maxFrame := by
  induction fs with
  | nil => simp [framesIn]
  | cons f fs ih =>
    rw [length_cons, framesIn, flatMap_cons, append_assoc, forall_mem_cons]
    by_cases hsize : f.payload.length ≤ maxFrame
    · simp [readFrame_eq_some_iff.mpr ⟨hsize, rfl⟩, hsize, ih]
    · refine iff_of_false (fun h => hsize ?_) fun h => hsize h.1
      split at h
      · rename_i hread
        obtain ⟨rfl, -⟩ := cons.inj h
        exact (readFrame_eq_some_iff.mp hread).1
      · cases h

/-- **Deliveries are read back frame by frame exactly if each body is within the limit**: none is
split. -/
theorem deliveries_read_back_iff (ds : List (Delivery × ℕ)) (rest : GoString) :
    let fs := ds.flatMap fun d => d.1.frames d.2
    framesIn fs.length (fs.flatMap writeFrame ++ rest) = fs ↔
      ∀ d ∈ ds, d.1.response.body.length ≤ maxFrame := by
  intro fs
  rw [framesIn_eq_iff, forall_mem_flatMap]
  refine forall₂_congr fun d _ => ?_
  -- A short string takes 256 bytes at most, so that the other two frames are small.
  simp only [Delivery.frames, bodyFrame, forall_mem_cons, maxFrame]
  grind [methodFrame, headerFrame, encodeShortStr, encodeLongLong, BigEndian.length_bytes]

end Mockly.AMQP
