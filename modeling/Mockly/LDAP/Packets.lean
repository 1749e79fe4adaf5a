import Mockly.LDAP.Session
import Mockly.Go.Slices
import Mockly.Lib.BigEndian
import Mockly.Lib.Pieces

/-!
# LDAP packets from a connection

`readBERPacket` reads only the content in a loop; the other two reads take what has arrived.

Main result: **`packets_eq_iff`**.
-/

namespace Mockly.LDAP

open Pieces List

/-! ## Reading a packet -/

/-- The limit of a packet, `10*1024*1024`. -/
def maxPacket : ℤ := 10 * 1024 * 1024

/-- A new buffer of `k` bytes after a read that has returned `got`. -/
def filled (k : ℕ) (got : GoString) : GoString := copySlice (List.replicate k 0) got

/-- The end of `readBERPacket`. -/
def readBody (head : GoString) (length : ℤ) (net : List GoString) :
    Except Panic (Option (GoString × List GoString)) :=
  if maxPacket < length then .ok none
  else do
    let body ← makeSlice (0 : UInt8) length
    match readFull body.length net with
    | none => return none
    | some (body, net) => return some (head ++ body, net)

/-- The branch of `readBERPacket` for a length of `extra` bytes. -/
def readLong (head : GoString) (extra : ℕ) (net : List GoString) :
    Except Panic (Option (GoString × List GoString)) :=
  match read extra net with
  | none => .ok none
  | some (got, net) => readBody (head ++ filled extra got) (bigEndian (filled extra got)) net

/-- The packet and what is left on the connection; nothing if there is an error. -/
def readBERPacket (net : List GoString) : Except Panic (Option (GoString × List GoString)) :=
  match read 2 net with
  | none => .ok none
  | some (got, net) =>
    let head := filled 2 got
    let first := head.getD 1 0
    if first &&& 0x80 = 0 then readBody head first.toNat net
    else readLong head (first &&& 0x7F).toNat net

/-- Packet after packet, as long as there are no errors; and the panic that ends it, if one does. -/
def receive : ℕ → List GoString → List GoString × Option Panic
  | 0, _ => ([], none)
  | turns + 1, net =>
    match readBERPacket net with
    | .error e => ([], some e)
    | .ok none => ([], none)
    | .ok (some (p, net)) =>
      let (ps, e) := receive turns net
      (p :: ps, e)

def received (net : List GoString) : List GoString × Option Panic :=
  receive net.flatten.length net

def packets (net : List GoString) : List GoString := (received net).1

def replies (cfg : Config) (mocks : List LDAPMock) (store : State.Store) (now : ℤ)
    (net : List GoString) : List GoString :=
  handleConn cfg mocks store now ((packets net).map fun p => .request 0 { packet := p })

/-! ## What is read -/

lemma filled_of_length_le {k : ℕ} {got : GoString} (h : got.length ≤ k) :
    filled k got = got ++ List.replicate (k - got.length) 0 := by
  simp [filled, copySlice, take_of_length_le h]

@[simp] lemma length_filled (k : ℕ) (got : GoString) : (filled k got).length = k := by
  simp only [filled, copySlice, length_append, length_take, length_drop, length_replicate]
  omega

lemma filled_of_length_eq {k : ℕ} {got : GoString} (h : got.length = k) : filled k got = got := by
  simp [filled_of_length_le h.le, h]

lemma readBody_eq (head : GoString) (length : ℤ) (net : List GoString) :
    readBody head length net =
      if maxPacket < length then .ok none
      else if length < 0 then .error .makeslice
      else if length.toNat ≤ net.flatten.length then
        .ok (some (head ++ net.flatten.take length.toNat, advance length.toNat net))
      else .ok none := by
  unfold readBody
  split_ifs with hmax hneg hlen
  · rfl
  · rw [makeSlice_of_neg _ hneg]
    rfl
  · simp only [makeSlice_of_nonneg _ (not_lt.mp hneg), Bind.bind, Except.bind,
      length_replicate, readFull_eq, if_pos hlen]
    rfl
  · simp only [makeSlice_of_nonneg _ (not_lt.mp hneg), Bind.bind, Except.bind,
      length_replicate, readFull_eq, if_neg hlen]
    rfl

variable {p : GoString} {net net' : List GoString}

variable {head : GoString}

lemma readBody_eq_packet {length : ℤ} (h : readBody head length net = .ok (some (p, net'))) :
    length.toNat ≤ net.flatten.length ∧ p = head ++ net.flatten.take length.toNat ∧
      net' = advance length.toNat net := by
  rw [readBody_eq] at h
  split_ifs at h with hmax hneg hlen <;>
    simp only [Except.ok.injEq, Option.some.injEq, Prod.mk.injEq, reduceCtorEq] at h
  exact ⟨hlen, h.1.symm, h.2.symm⟩

lemma bigEndian_eq (bs : GoString) : bigEndian bs = int64 (BigEndian.value bs) := by
  induction bs using List.reverseRecOn with
  | nil => rfl
  | append_singleton bs b ih =>
    have hstep : bigEndian (bs ++ [b]) = int64 (bigEndian bs * 256 + b.toNat) := by
      simp [bigEndian]
    rw [hstep, ih, BigEndian.value_concat]
    simp only [int64]
    push_cast
    rw [← Int.bmod_add_bmod, Int.bmod_mul_bmod, Int.bmod_add_bmod]

/-! ## Messages -/

/-- A message of definite length: a sequence whose first element is the message ID. -/
structure Message where
  lengthBytes : GoString
  content : GoString
  starts : content.head? = some 0x02
  size : (content.length : ℤ) ≤ maxPacket
  form : if lengthBytes = [] then content.length < 128
    else lengthBytes.length < 128 ∧ BigEndian.value lengthBytes = content.length

namespace Message

variable (m : Message)

def first : UInt8 :=
  if m.lengthBytes = [] then UInt8.ofNat m.content.length
  else UInt8.ofNat (128 + m.lengthBytes.length)

def encode : GoString := 0x30 :: m.first :: (m.lengthBytes ++ m.content)

/-- The parts of a message that are read in one go, where it begins at `o`. -/
def fields (o : ℕ) : List (ℕ × ℕ) := [(o, 2), (o + 2, m.lengthBytes.length)]

lemma content_ne_nil : m.content ≠ [] := by
  intro h
  simpa [h] using m.starts

lemma content_length_pos : 0 < m.content.length := length_pos_iff.mpr m.content_ne_nil

lemma length_encode : m.encode.length = 2 + m.lengthBytes.length + m.content.length := by
  simp only [encode, length_cons, length_append]
  omega

lemma ofNat_and_low {n : ℕ} (h : n < 128) :
    UInt8.ofNat n &&& 0x80 = 0 ∧ (UInt8.ofNat n).toNat = n ∧
      UInt8.ofNat (128 + n) &&& 0x80 ≠ 0 ∧ (UInt8.ofNat (128 + n) &&& 0x7F).toNat = n := by
  have hall : ∀ k : Fin 128, UInt8.ofNat k &&& 0x80 = 0 ∧ (UInt8.ofNat k).toNat = k ∧
      UInt8.ofNat (128 + k) &&& 0x80 ≠ 0 ∧ (UInt8.ofNat (128 + k) &&& 0x7F).toNat = k := by
    decide
  exact hall ⟨n, h⟩

lemma first_ne_zero : m.first ≠ 0 := by
  have hform := m.form
  unfold first
  split_ifs at hform ⊢ with hshort
  · intro h
    have hnat := (ofNat_and_low hform).2.1
    rw [h] at hnat
    exact m.content_length_pos.ne hnat
  · intro h
    exact (ofNat_and_low hform.1).2.2.1 (by rw [h]; rfl)

end Message

def stream (ms : List Message) : GoString := ms.flatMap Message.encode

/-- The parts that are read in one go, where the first message begins at `o`. -/
def fieldsFrom : ℕ → List Message → List (ℕ × ℕ)
  | _, [] => []
  | o, m :: ms => m.fields o ++ fieldsFrom (o + m.encode.length) ms

lemma fieldsFrom_add (n o : ℕ) (ms : List Message) :
    fieldsFrom (n + o) ms = (fieldsFrom o ms).map fun f => (n + f.1, f.2) := by
  induction ms generalizing o with
  | nil => rfl
  | cons m ms ih => simp [fieldsFrom, Message.fields, Nat.add_assoc, ih]

lemma le_of_mem_fieldsFrom {o : ℕ} {ms : List Message} {f : ℕ × ℕ} (h : f ∈ fieldsFrom o ms) :
    f.1 + f.2 ≤ o + (stream ms).length := by
  induction ms generalizing o with
  | nil => simp [fieldsFrom] at h
  | cons m ms ih =>
    have hlen : (stream (m :: ms)).length = m.encode.length + (stream ms).length := by
      simp [stream]
    have henc := m.length_encode
    simp only [fieldsFrom, Message.fields, cons_append, nil_append, mem_cons] at h
    rcases h with rfl | rfl | h
    · simp only
      omega
    · simp only
      omega
    · have := ih h
      omega

/-! ## Reading a message -/

section

variable {m : Message} {net net' : List GoString} {rest : GoString}

lemma readBERPacket_head (hflat : net.flatten = m.encode ++ rest)
    (hhead : Pieces.Undivided net 0 2) :
    readBERPacket net =
      if m.lengthBytes = [] then
        readBody [0x30, m.first] m.content.length (advance 2 net)
      else readLong [0x30, m.first] m.lengthBytes.length (advance 2 net) := by
  have htwo : net.flatten.take 2 = [0x30, m.first] := by rw [hflat]; rfl
  have hlen : 2 ≤ net.flatten.length := by
    rw [hflat, length_append, m.length_encode]
    omega
  have hread := read_of_undivided hlen hhead
  have hform := m.form
  rw [htwo] at hread
  simp only [readBERPacket, hread,
    filled_of_length_eq (show [(0x30 : UInt8), m.first].length = 2 from rfl),
    getD_cons_succ, getD_cons_zero]
  by_cases hshort : m.lengthBytes = []
  · have hfirst : m.first = UInt8.ofNat m.content.length := if_pos hshort
    rw [if_pos hshort] at hform
    obtain ⟨hlow, hnat, -, -⟩ := Message.ofNat_and_low hform
    rw [if_pos hshort, hfirst, if_pos hlow, hnat]
  · have hfirst : m.first = UInt8.ofNat (128 + m.lengthBytes.length) := if_neg hshort
    rw [if_neg hshort] at hform
    obtain ⟨-, -, hhigh, hextra⟩ := Message.ofNat_and_low hform.1
    rw [if_neg hshort, hfirst, if_neg hhigh, hextra]

lemma flatten_advance_two (hflat : net.flatten = m.encode ++ rest) :
    (advance 2 net).flatten = m.lengthBytes ++ (m.content ++ rest) := by
  rw [flatten_advance, hflat]
  simp [Message.encode]

lemma readBody_content (hflat : net.flatten = m.content ++ rest) :
    readBody head m.content.length net =
      .ok (some (head ++ m.content, advance m.content.length net)) := by
  have hsize := m.size
  have hlen : m.content.length ≤ net.flatten.length := by
    rw [hflat, length_append]
    omega
  rw [readBody_eq, if_neg (by omega), if_neg (by omega), Int.toNat_natCast, if_pos hlen, hflat,
    take_left]

/-- **A message that is not divided where it matters.** -/
lemma readBERPacket_of_undivided (hflat : net.flatten = m.encode ++ rest)
    (hhead : Pieces.Undivided net 0 2) (hlong : Pieces.Undivided net 2 m.lengthBytes.length) :
    readBERPacket net = .ok (some (m.encode, advance m.encode.length net)) := by
  have htwo := flatten_advance_two hflat
  have hform := m.form
  rw [readBERPacket_head hflat hhead]
  by_cases hshort : m.lengthBytes = []
  · rw [hshort, nil_append] at htwo
    rw [if_pos hshort, readBody_content htwo, advance_advance, m.length_encode]
    simp [Message.encode, hshort]
  · rw [if_neg hshort] at hform
    have hlen : m.lengthBytes.length ≤ (advance 2 net).flatten.length := by
      rw [htwo, length_append]
      omega
    have hread := read_of_undivided hlen ((undivided_advance 2 0 _ net).mpr hlong)
    have hvalue : bigEndian m.lengthBytes = m.content.length := by
      have hsize := m.size
      simp only [maxPacket] at hsize
      rw [bigEndian_eq, hform.2, int64]
      exact Int.bmod_eq_of_le_mul_two (by omega) (by omega)
    have hrest : (advance m.lengthBytes.length (advance 2 net)).flatten = m.content ++ rest := by
      rw [flatten_advance, htwo, drop_left]
    rw [htwo, take_left] at hread
    simp only [if_neg hshort, readLong, hread, filled_of_length_eq rfl, hvalue]
    rw [readBody_content hrest, advance_advance, advance_advance, m.length_encode]
    simp [Message.encode, Nat.add_assoc]

lemma undivided_head_of_packet (hflat : net.flatten = m.encode ++ rest)
    (h : readBERPacket net = .ok (some (m.encode, net'))) : Pieces.Undivided net 0 2 := by
  by_contra hdiv
  have hlen : 2 ≤ net.flatten.length := by
    rw [hflat, length_append, m.length_encode]
    omega
  obtain ⟨c, hpos, hlt, hread⟩ := read_of_divided hlen hdiv
  obtain rfl : c = 1 := by omega
  have hone : filled 2 (net.flatten.take 1) = [0x30, 0] := by rw [hflat]; rfl
  simp only [readBERPacket, hread, hone, getD_cons_succ, getD_cons_zero,
    UInt8.zero_and, if_true] at h
  obtain ⟨-, hpacket, -⟩ := readBody_eq_packet h
  simp only [Message.encode, cons_append, List.cons.injEq] at hpacket
  exact m.first_ne_zero hpacket.2.1

/-- Zeros are taken for the rest of the length bytes, and the rest of them for the content. -/
lemma undivided_long_of_packet (hflat : net.flatten = m.encode ++ rest)
    (h : readBERPacket net = .ok (some (m.encode, net'))) :
    Pieces.Undivided net 2 m.lengthBytes.length := by
  have htwo := flatten_advance_two hflat
  rw [readBERPacket_head hflat (undivided_head_of_packet hflat h)] at h
  by_contra hdiv
  have hshort : m.lengthBytes ≠ [] := by
    intro hnil
    exact hdiv fun c _ => by simp [hnil]; omega
  rw [if_neg hshort] at h
  have hthere : m.lengthBytes.length ≤ (advance 2 net).flatten.length := by
    rw [htwo, length_append]
    omega
  obtain ⟨c, hpos, hlt, hread⟩ := read_of_divided hthere
    fun hund => hdiv ((undivided_advance 2 0 _ net).mp hund)
  have hgot : (advance 2 net).flatten.take c = m.lengthBytes.take c := by
    rw [htwo, take_append_of_le_length hlt.le]
  have hleft : (advance c (advance 2 net)).flatten =
      m.lengthBytes.drop c ++ (m.content ++ rest) := by
    rw [flatten_advance, htwo, drop_append_of_le_length hlt.le]
  rw [hgot] at hread
  simp only [readLong, hread] at h
  obtain ⟨hlen, hpacket, -⟩ := readBody_eq_packet h
  simp only [Message.encode, cons_append, nil_append, List.cons.injEq, true_and, hleft] at hpacket
  obtain ⟨hbytes, hcontent⟩ := append_inj hpacket (length_filled _ _).symm
  -- The byte after the cut is one of the zeros of the buffer, and the first of the content.
  have hzero : m.lengthBytes[c]? = some 0 := by
    rw [hbytes, filled_of_length_le (by simp), length_take_of_le hlt.le,
      List.getElem?_append_right (by simp [hlt.le])]
    simp [hlt.le, hlt]
  have hstarts := m.starts
  rw [hcontent, List.head?_take] at hstarts
  split_ifs at hstarts
  rw [List.head?_append, List.head?_drop, hzero] at hstarts
  simp at hstarts

end

/-! ## All packets -/

lemma flatten_of_readBody {length : ℤ} (h : readBody head length net = .ok (some (p, net'))) :
    net'.flatten.length ≤ net.flatten.length := by
  obtain ⟨-, -, rfl⟩ := readBody_eq_packet h
  rw [flatten_advance, length_drop]
  omega

lemma flatten_of_readLong {extra : ℕ} (h : readLong head extra net = .ok (some (p, net'))) :
    net'.flatten.length ≤ net.flatten.length := by
  unfold readLong at h
  cases hread : read extra net with
  | none => simp [hread] at h
  | some r =>
    obtain ⟨got, net₁⟩ := r
    obtain ⟨c, -, -, -, -, rfl⟩ := eq_of_read hread
    simp only [hread] at h
    refine (flatten_of_readBody h).trans ?_
    rw [flatten_advance, length_drop]
    omega

lemma flatten_length_lt_of_packet (h : readBERPacket net = .ok (some (p, net'))) :
    net'.flatten.length < net.flatten.length := by
  unfold readBERPacket at h
  cases hread : read 2 net with
  | none => simp [hread] at h
  | some r =>
    obtain ⟨got, net₁⟩ := r
    obtain ⟨c, -, hlen, hpos, -, rfl⟩ := eq_of_read hread
    have hfirst : (advance c net).flatten.length < net.flatten.length := by
      have := hpos (by decide)
      rw [flatten_advance, length_drop]
      omega
    simp only [hread] at h
    split_ifs at h
    · exact (flatten_of_readBody h).trans_lt hfirst
    · exact (flatten_of_readLong h).trans_lt hfirst

lemma readBERPacket_of_nil (h : net.flatten = []) : readBERPacket net = .ok none := by
  simp [readBERPacket, read_of_flatten_eq_nil (by decide : 0 < 2) h]

lemma receive_eq_of_le (n m : ℕ) (net : List GoString) (hn : net.flatten.length ≤ n)
    (hm : net.flatten.length ≤ m) : receive n net = receive m net := by
  induction n generalizing m net with
  | zero =>
    have hnil : net.flatten = [] := length_eq_zero_iff.mp (Nat.le_zero.mp hn)
    cases m with
    | zero => rfl
    | succ m => simp [receive, readBERPacket_of_nil hnil]
  | succ n ih =>
    cases m with
    | zero =>
      have hnil : net.flatten = [] := length_eq_zero_iff.mp (Nat.le_zero.mp hm)
      simp [receive, readBERPacket_of_nil hnil]
    | succ m =>
      simp only [receive]
      cases hread : readBERPacket net with
      | error e => rfl
      | ok r =>
        cases r with
        | none => rfl
        | some r =>
          have hlt := flatten_length_lt_of_packet hread
          simp [ih m r.2 (by omega) (by omega)]

lemma received_of_packet (h : readBERPacket net = .ok (some (p, net'))) :
    received net = (p :: (received net').1, (received net').2) := by
  have hlt := flatten_length_lt_of_packet h
  obtain ⟨n, hn⟩ : ∃ n, net.flatten.length = n + 1 := ⟨net.flatten.length - 1, by omega⟩
  simp only [received, hn, receive, h]
  rw [receive_eq_of_le n net'.flatten.length net' (by omega) le_rfl]

lemma received_of_none (h : readBERPacket net = .ok none) : received net = ([], none) := by
  unfold received
  cases net.flatten.length with
  | zero => rfl
  | succ n => simp [receive, h]

lemma received_of_error {e : Panic} (h : readBERPacket net = .error e) :
    received net = ([], some e) := by
  unfold received
  cases hlen : net.flatten.length with
  | zero =>
    rw [readBERPacket_of_nil (length_eq_zero_iff.mp hlen)] at h
    cases h
  | succ n => simp [receive, h]

lemma packets_eq_cons_iff {ps : List GoString} :
    packets net = p :: ps ↔
      ∃ net', readBERPacket net = .ok (some (p, net')) ∧ packets net' = ps := by
  simp only [packets]
  cases hread : readBERPacket net with
  | error e => simp [received_of_error hread]
  | ok r =>
    cases r with
    | none => simp [received_of_none hread]
    | some r =>
      obtain ⟨q, net'⟩ := r
      simp [received_of_packet hread]

variable (ms : List Message)

/-- By induction on the messages: the rest of them begin where the first one ends, also for the
cuts. -/
lemma packets_eq_map_encode_iff (net : List GoString) (hflat : net.flatten = stream ms) :
    packets net = ms.map Message.encode ↔ ∀ f ∈ fieldsFrom 0 ms, Pieces.Undivided net f.1 f.2 := by
  induction ms generalizing net with
  | nil =>
    have hnone : packets net = [] := by
      rw [packets, received_of_none (readBERPacket_of_nil hflat)]
    simp [hnone, fieldsFrom]
  | cons m ms ih =>
    have hcons : net.flatten = m.encode ++ stream ms := hflat
    have hrest : (advance m.encode.length net).flatten = stream ms := by
      rw [flatten_advance, hcons, drop_left]
    have hfields : (∀ f ∈ fieldsFrom (0 + m.encode.length) ms, Pieces.Undivided net f.1 f.2) ↔
        ∀ f ∈ fieldsFrom 0 ms, Pieces.Undivided (advance m.encode.length net) f.1 f.2 := by
      rw [Nat.zero_add, ← Nat.add_zero m.encode.length, fieldsFrom_add, forall_mem_map]
      exact forall₂_congr fun f _ => by rw [Nat.add_zero, undivided_advance]
    rw [map_cons, packets_eq_cons_iff, fieldsFrom, Message.fields]
    simp only [cons_append, nil_append, forall_mem_cons, hfields, ← ih _ hrest]
    constructor
    · rintro ⟨net', hread, hps⟩
      have hhead := undivided_head_of_packet hcons hread
      have hlong := undivided_long_of_packet hcons hread
      rw [readBERPacket_of_undivided hcons hhead hlong] at hread
      simp only [Except.ok.injEq, Option.some.injEq, Prod.mk.injEq, true_and] at hread
      exact ⟨hhead, by simpa using hlong, by rw [hread]; exact hps⟩
    · rintro ⟨hhead, hlong, hps⟩
      exact ⟨_, readBERPacket_of_undivided hcons hhead (by simpa using hlong), hps⟩

lemma packets_one_piece : packets [stream ms] = ms.map Message.encode := by
  refine (packets_eq_map_encode_iff ms [stream ms] (by simp)).mpr fun f hf c hc => ?_
  have hend := le_of_mem_fieldsFrom hf
  simp only [cuts, map_nil, mem_singleton] at hc
  omega

/-- **The packets depend on how the stream arrives.** They are those of the stream in one piece
exactly if it is nowhere divided between the two first bytes of a message or inside its length
bytes; and then so are the replies. -/
theorem packets_eq_iff (ms : List Message) (net : List GoString)
    (hflat : net.flatten = stream ms) :
    (packets net = packets [stream ms] ↔
        ∀ f ∈ fieldsFrom 0 ms, Pieces.Undivided net f.1 f.2) ∧
      ((∀ f ∈ fieldsFrom 0 ms, Pieces.Undivided net f.1 f.2) → ∀ cfg mocks store now,
        replies cfg mocks store now net = replies cfg mocks store now [stream ms]) := by
  have hiff := packets_eq_map_encode_iff ms net hflat
  rw [← packets_one_piece] at hiff
  refine ⟨hiff, fun h cfg mocks store now => ?_⟩
  rw [replies, replies, hiff.mpr h]

def anonymousBind : Message where
  lengthBytes := []
  content := [0x02, 1, 1, 0x60, 7, 0x02, 1, 3, 0x04, 0, 0x80, 0]
  starts := rfl
  size := by decide
  form := by decide

/-- The bind divided inside its content. -/
theorem packets_of_divided_content :
    packets [[0x30, 12, 0x02, 1], [1, 0x60, 7, 0x02, 1], [3, 0x04, 0, 0x80, 0]] =
      packets [stream [anonymousBind]] :=
  (packets_eq_iff [anonymousBind] _ rfl).1.mpr (by decide)

theorem packets_of_divided_head :
    packets [[0x30], [12, 0x02, 1, 1, 0x60, 7, 0x02, 1, 3, 0x04, 0, 0x80, 0]] =
        [[0x30, 0], [12, 0x02, 1, 1], [0x60, 7, 0x02, 1, 3, 0x04, 0, 0x80, 0]] ∧
      packets [stream [anonymousBind]] = [anonymousBind.encode] ∧
      replies ⟨[], asciiTable⟩ [] State.new 0
        [[0x30], [12, 0x02, 1, 1, 0x60, 7, 0x02, 1, 3, 0x04, 0, 0x80, 0]] = [] ∧
      replies ⟨[], asciiTable⟩ [] State.new 0 [stream [anonymousBind]] =
        [buildLDAPMessage 1 0x61 bindSuccessContent] := by
  decide

end Mockly.LDAP
