import Mockly.Go.Strings
import Mockly.Go.Slices
import Mockly.Lib.BigEndian

/-!
# AMQP frames

A frame is read with a buffer of its own, so that all its slices are in range whatever the bytes
are. The arguments of a method are read with errors ignored: what is missing is empty, or zero.
-/

namespace Mockly.AMQP

open BigEndian List

structure Frame where
  type : UInt8
  channel : UInt16
  payload : GoString

def uint16 (bs : GoString) : UInt16 := UInt16.ofNat (value bs)

/-- The limit of a frame, `10*1024*1024`. -/
def maxFrame : ℕ := 10 * 1024 * 1024

def frameEnd : UInt8 := 0xCE

/-! ## Frames on the wire -/

/-- `readFrame`: the frame and what follows it; nothing if there is an error. -/
def readFrame (r : GoString) : Except Panic (Option (Frame × GoString)) :=
  if r.length < 7 then .ok none
  else do
    let head := r.take 7
    let channel ← slice head 1 3
    let size := value (← slice head 3 7)
    if maxFrame < size then return none
    else if (r.drop 7).length < size + 1 then return none
    else
      let payload := (r.drop 7).take (size + 1)
      let last ← slice payload (payload.length - 1) payload.length
      if last ≠ [frameEnd] then return none
      else
        let body ← slice payload 0 (payload.length - 1)
        return some (⟨head.headD 0, uint16 channel, body⟩, (r.drop 7).drop (size + 1))

/-- The size a frame declares: the last four of its first seven bytes. -/
def declaredSize (r : GoString) : ℕ := value ((r.drop 3).take 4)

/-- Type, channel, length, payload and the end octet. -/
def writeFrame (f : Frame) : GoString :=
  [f.type] ++ bytes 2 f.channel.toNat ++ bytes 4 f.payload.length ++
    f.payload ++ [frameEnd]

/-- The frame of `writeMethodFrame`. -/
def methodFrame (channel classID methodID : UInt16) (args : GoString) : Frame :=
  ⟨1, channel, bytes 2 classID.toNat ++ bytes 2 methodID.toNat ++ args⟩

/-- The frame of `writeHeaderFrame`. -/
def headerFrame (channel classID : UInt16) (bodySize : ℕ) : Frame :=
  ⟨2, channel, bytes 2 classID.toNat ++ [0, 0] ++ bytes 8 bodySize ++ [0, 0]⟩

/-- The frame of `writeBodyFrame`. -/
def bodyFrame (channel : UInt16) (body : GoString) : Frame := ⟨3, channel, body⟩

@[simp] lemma length_writeFrame (f : Frame) : (writeFrame f).length = f.payload.length + 8 := by
  simp only [writeFrame, length_append, length_singleton, length_bytes]
  omega

lemma exists_head {r : GoString} (h : 7 ≤ r.length) :
    ∃ type channel size rest, channel.length = 2 ∧ size.length = 4 ∧
      r = type :: (channel ++ (size ++ rest)) := by
  obtain ⟨type, r, rfl⟩ :=
    exists_cons_of_ne_nil (ne_nil_of_length_pos (by omega : 0 < r.length))
  rw [length_cons] at h
  refine ⟨type, r.take 2, (r.drop 2).take 4, (r.drop 2).drop 4, ?_, ?_, ?_⟩
  · rw [length_take]
    omega
  · rw [length_take, length_drop]
    omega
  · rw [take_append_drop, take_append_drop]

lemma slice_payload {rest : GoString} {n : ℕ} (hn : n < rest.length) :
    slice (rest.take (n + 1)) (((n + 1 : ℕ) : ℤ) - 1) ((n + 1 : ℕ) : ℤ) = .ok [rest[n]] ∧
      slice (rest.take (n + 1)) 0 (((n + 1 : ℕ) : ℤ) - 1) = .ok (rest.take n) := by
  have hlen : (rest.take n).length = n := length_take_of_le hn.le
  have hbuffer : rest.take (n + 1) = rest.take n ++ ([rest[n]] ++ []) := by
    rw [take_add_one, List.getElem?_eq_getElem hn]
    rfl
  rw [hbuffer]
  constructor
  · exact slice_append _ _ _ (by rw [hlen]; omega) (by rw [hlen, length_singleton]; omega)
  · exact slice_append [] _ _ rfl (by rw [hlen, length_nil]; omega)

lemma readFrame_head (type : UInt8) {channel size : GoString} (hc : channel.length = 2)
    (hs : size.length = 4) (rest : GoString) :
    readFrame (type :: (channel ++ (size ++ rest))) =
      .ok (if value size ≤ maxFrame ∧ rest[value size]? = some frameEnd then
        some (⟨type, uint16 channel, rest.take (value size)⟩,
          rest.drop (value size + 1)) else none) := by
  obtain ⟨a, b, rfl⟩ := length_eq_two.mp hc
  match size, hs with
  | [c, d, e, f], _ =>
    have hlen : ¬(type :: ([a, b] ++ ([c, d, e, f] ++ rest))).length < 7 := by simp
    have htake : (type :: ([a, b] ++ ([c, d, e, f] ++ rest))).take 7 = [type, a, b, c, d, e, f] :=
      rfl
    have hdrop : (type :: ([a, b] ++ ([c, d, e, f] ++ rest))).drop 7 = rest := rfl
    have hchannel : slice [type, a, b, c, d, e, f] 1 3 = .ok [a, b] := rfl
    have hsize : slice [type, a, b, c, d, e, f] 3 7 = .ok [c, d, e, f] := rfl
    simp only [readFrame, if_neg hlen, htake, hdrop, hchannel, hsize, bind, Except.bind]
    generalize value [c, d, e, f] = n
    by_cases hmax : maxFrame < n
    · simp [hmax, not_le.mpr hmax, pure, Except.pure]
    cases hlast : rest[n]? with
    | none =>
      have hshort : rest.length < n + 1 :=
        Nat.lt_succ_of_le (List.getElem?_eq_none_iff.mp hlast)
      simp [hmax, hshort, pure, Except.pure]
    | some last =>
      obtain ⟨hn, rfl⟩ := List.getElem?_eq_some_iff.mp hlast
      have hlen : (rest.take (n + 1)).length = n + 1 := length_take_of_le hn
      obtain ⟨hone, hbody⟩ := slice_payload hn
      simp only [hmax, Nat.not_lt.mpr (Nat.succ_le_of_lt hn), if_false, hlen, hone, hbody,
        not_lt.mp hmax, true_and, Option.some.injEq]
      by_cases hend : rest[n] = frameEnd
      · simp [hend, pure, Except.pure]
      · simp [hend, pure, Except.pure]

lemma uint16_bytes (c : UInt16) : uint16 (bytes 2 c.toNat) = c := by
  rw [uint16, value_bytes_of_lt (by simpa using c.toNat_lt)]
  exact UInt16.ofNat_toNat

lemma bytes_uint16 {bs : GoString} (h : bs.length = 2) :
    bytes 2 (uint16 bs).toNat = bs := by
  have hlt : value bs < 2 ^ 16 := by simpa [h] using value_lt bs
  rw [uint16, UInt16.toNat_ofNat_of_lt' hlt, ← h, bytes_value]

lemma readFrame_ne_error (r : GoString) (e : Panic) : readFrame r ≠ .error e := by
  by_cases h : r.length < 7
  · simp [readFrame, h]
  · obtain ⟨type, channel, size, rest, hc, hs, rfl⟩ := exists_head (not_lt.mp h)
    simp [readFrame_head type hc hs rest]

/-- No frame is read where the size that is declared does not lead to the end octet. -/
lemma readFrame_of_not_end {r : GoString} (h : r[7 + declaredSize r]? ≠ some frameEnd) :
    readFrame r = .ok none := by
  by_cases hshort : r.length < 7
  · simp [readFrame, hshort]
  · obtain ⟨type, channel, size, rest, hc, hs, rfl⟩ := exists_head (not_lt.mp hshort)
    have hsize : declaredSize (type :: (channel ++ (size ++ rest))) = value size := by
      obtain ⟨a, b, rfl⟩ := length_eq_two.mp hc
      simp [declaredSize, ← hs]
    have hafter : (type :: (channel ++ (size ++ rest)))[7 + value size]? = rest[value size]? := by
      rw [← append_assoc, ← cons_append, List.getElem?_append_right]
      · simp [hc, hs]
      · simp [hc, hs]
    rw [hsize, hafter] at h
    rw [readFrame_head type hc hs rest, if_neg fun hok => h hok.2]

/-- A frame is read as it was written, unless it is too large. -/
lemma readFrame_writeFrame {f : Frame} (h : f.payload.length < 2 ^ 32) (rest : GoString) :
    readFrame (writeFrame f ++ rest) =
      .ok (if f.payload.length ≤ maxFrame then some (f, rest) else none) := by
  have hvalue : value (bytes 4 f.payload.length) = f.payload.length :=
    value_bytes_of_lt (by omega)
  have hwrite : writeFrame f ++ rest = f.type :: (bytes 2 f.channel.toNat ++
      (bytes 4 f.payload.length ++ (f.payload ++ frameEnd :: rest))) := by
    simp [writeFrame]
  rw [hwrite, readFrame_head f.type (length_bytes 2 _) (length_bytes 4 _), hvalue, uint16_bytes]
  simp

/-- **Reading is the inverse of writing**, up to the limit. -/
lemma readFrame_eq_some_iff {r rest : GoString} {f : Frame} :
    readFrame r = .ok (some (f, rest)) ↔
      f.payload.length ≤ maxFrame ∧ r = writeFrame f ++ rest := by
  constructor
  · intro h
    by_cases hshort : r.length < 7
    · simp [readFrame, hshort] at h
    · obtain ⟨type, channel, size, tail, hc, hs, rfl⟩ := exists_head (not_lt.mp hshort)
      rw [readFrame_head type hc hs tail] at h
      split_ifs at h with hok
      · obtain ⟨hmax, hend⟩ := hok
        obtain ⟨hn, hlast⟩ := List.getElem?_eq_some_iff.mp hend
        simp only [Except.ok.injEq, Option.some.injEq, Prod.mk.injEq] at h
        obtain ⟨rfl, rfl⟩ := h
        have hlen : (tail.take (value size)).length = value size :=
          length_take_of_le hn.le
        have htail : tail.take (value size) ++ frameEnd :: tail.drop (value size + 1) = tail := by
          rw [← hlast, getElem_cons_drop, take_append_drop]
        refine ⟨by rw [hlen]; exact hmax, ?_⟩
        simp only [writeFrame, bytes_uint16 hc, hlen]
        rw [← hs, bytes_value]
        simp [htail]
      · simp at h
  · rintro ⟨hmax, rfl⟩
    have hlt : f.payload.length < 2 ^ 32 := by
      simp only [maxFrame] at hmax
      omega
    rw [readFrame_writeFrame hlt, if_pos hmax]

/-! ## Arguments -/

def readShort (r : GoString) : UInt16 × GoString :=
  if r.length < 2 then (0, []) else (uint16 (r.take 2), r.drop 2)

/-- `readShortStr`: a string that is cut short is filled up with zeros. -/
def readShortStr : GoString → GoString × GoString
  | [] => ([], [])
  | n :: r => (copySlice (List.replicate n.toNat 0) r, r.drop n.toNat)

def encodeShortStr (s : GoString) : GoString :=
  let s := s.take 255
  UInt8.ofNat s.length :: s

def encodeLongStr (s : GoString) : GoString := bytes 4 s.length ++ s

def encodeLongLong (v : ℕ) : GoString := bytes 8 v

/-- Two strings after a short: the arguments the server looks at in a method. -/
def parseTwo (args : GoString) : GoString × GoString :=
  let (_, r) := readShort args
  let (first, r) := readShortStr r
  let (second, _) := readShortStr r
  (first, second)

/-- `parseConsume`: queue and consumer tag. -/
def parseConsume (args : GoString) : GoString × GoString := parseTwo args

/-- `parsePublish`: exchange and routing key. -/
def parsePublish (args : GoString) : GoString × GoString := parseTwo args

def buildQueueDeclareOK (args : GoString) : GoString :=
  encodeShortStr (readShortStr (readShort args).2).1 ++ List.replicate 8 0

def buildConnectionStart : GoString :=
  [0, 9] ++ [0, 0, 0, 0] ++ encodeLongStr (go "PLAIN") ++ encodeLongStr (go "en_US")

def buildConnectionTune : GoString :=
  bytes 2 0 ++ bytes 4 131072 ++ bytes 2 0

lemma readShort_append {short : GoString} (h : short.length = 2) (r : GoString) :
    (readShort (short ++ r)).2 = r := by
  obtain ⟨a, b, rfl⟩ := length_eq_two.mp h
  simp [readShort]

lemma readShortStr_encodeShortStr {s : GoString} (h : s.length ≤ 255) (r : GoString) :
    readShortStr (encodeShortStr s ++ r) = (s, r) := by
  have hlen : (UInt8.ofNat s.length).toNat = s.length := by
    rw [UInt8.toNat_ofNat']
    omega
  simp [encodeShortStr, take_of_length_le h, readShortStr, hlen, copySlice]

/-- **The wire format of the server is read back as it was written**: a frame up to the limit and a
short string, each with what follows left over. And no bytes are taken for a frame unless the end
octet stands where the declared size says. -/
theorem readFrame_writeFrame_and_short_strings :
    (∀ (type : UInt8) (channel : UInt16) (payload rest : GoString), payload.length ≤ maxFrame →
      readFrame (writeFrame ⟨type, channel, payload⟩ ++ rest) =
        .ok (some (⟨type, channel, payload⟩, rest))) ∧
    (∀ s rest : GoString, s.length ≤ 255 → readShortStr (encodeShortStr s ++ rest) = (s, rest)) ∧
    ∀ r : GoString, r[7 + declaredSize r]? ≠ some frameEnd → readFrame r = .ok none := by
  refine ⟨?_, fun s rest hs => readShortStr_encodeShortStr hs rest,
    fun r hr => readFrame_of_not_end hr⟩
  intro type channel payload rest hmax
  exact readFrame_eq_some_iff.mpr ⟨hmax, rfl⟩

theorem read_frame_with_one_byte :
    readFrame (writeFrame ⟨1, 2, [7]⟩ ++ [8]) = .ok (some (⟨1, 2, [7]⟩, [8])) ∧
      readShortStr (encodeShortStr (go "q") ++ [8]) = (go "q", [8]) ∧ readFrame [8] = .ok none := by
  obtain ⟨hframe, hstring, hnone⟩ := readFrame_writeFrame_and_short_strings
  exact ⟨hframe 1 2 [7] [8] (by decide), hstring (go "q") [8] (by decide), hnone [8] (by decide)⟩

lemma parseTwo_eq {short first second : GoString} (hshort : short.length = 2)
    (hfirst : first.length ≤ 255) (hsecond : second.length ≤ 255) (r : GoString) :
    parseTwo (short ++ (encodeShortStr first ++ (encodeShortStr second ++ r))) =
      (first, second) := by
  simp [parseTwo, readShort_append hshort, readShortStr_encodeShortStr hfirst,
    readShortStr_encodeShortStr hsecond]

end Mockly.AMQP
