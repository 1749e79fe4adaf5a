import Mockly.LDAP.Packets
import Mockly.Lib.Process

/-!
# LDAP requests that make the server panic

A length that is out of range comes out negative, and the readers only guard against lengths that
are too large.

Main result: **`serve_ne_error_iff`**.
-/

namespace Mockly.LDAP

open List Option Pieces

/-! ## Elements -/

/-- An element whose length bytes are all there, and whose end is beyond the largest `int` or, if
the length is too long for an `int`, would come out so. -/
def Overflows : GoString → Prop
  | _ :: first :: rest =>
    first &&& 0x80 ≠ 0 ∧ (first &&& 0x7F).toNat ≤ rest.length ∧
      2 ^ 63 ≤ 2 + (first &&& 0x7F).toNat +
        BigEndian.value (rest.take (first &&& 0x7F).toNat) % 2 ^ 64
  | _ => False

lemma and_low_lt (b : UInt8) : (b &&& 0x7F).toNat < 128 := by
  have hle : (b.toNat &&& 127) ≤ 127 := Nat.and_le_right
  simpa using Nat.lt_succ_of_le hle

lemma int64_lt_iff {start v : ℕ} (hstart : start < 2 ^ 62) :
    int64 (start + int64 v) < start ↔ 2 ^ 63 ≤ start + v % 2 ^ 64 := by
  have hadd : int64 (start + int64 v) = int64 ((start + v : ℕ) : ℤ) := by
    simp only [int64, Int.add_bmod_bmod]
    push_cast
    rfl
  rw [hadd, int64, Int.bmod_def]
  split_ifs <;> omega

/-- **The elements that make `readTLV` panic.** -/
lemma readTLV_eq_none_iff (b : GoString) : readTLV b = none ↔ Overflows b := by
  match b with
  | [] | [_] => simp [readTLV, Overflows]
  | tag :: first :: rest =>
    by_cases hshort : first &&& 0x80 = 0
    · have hend : ¬int64 (((1 + 1 : ℕ) : ℤ) + (first.toNat : ℤ)) < ((1 + 1 : ℕ) : ℤ) := by
        have hfirst := first.toNat_lt
        rw [int64, Int.bmod_eq_of_le_mul_two (by omega) (by omega)]
        omega
      simp only [readTLV, tlvLength, Overflows, hshort]
      split_ifs <;> simp
    · have hlow := and_low_lt first
      simp only [readTLV, tlvLength, Overflows, if_neg hshort, bigEndian_eq]
      rw [← int64_lt_iff (by omega), length_cons, length_cons]
      have hstart : 1 + (1 + (first &&& 0x7F).toNat) = 2 + (first &&& 0x7F).toNat := by omega
      rw [hstart]
      split_ifs with hcut hlong hneg
      · exact iff_of_false (by simp) fun h => by omega
      · exact iff_of_false (by simp) fun h => by omega
      · exact iff_of_true rfl ⟨hshort, by omega, hneg⟩
      · exact iff_of_false (by simp) fun h => hneg h.2.2

/-- One of the first `n` elements overflows. -/
def OverflowsAmong : ℕ → GoString → Prop
  | 0, _ => False
  | n + 1, b => Overflows b ∨ ∃ t ∈ readTLV b, OverflowsAmong n (b.drop t.consumed)

lemma readTLV_bind_eq_none_iff {β : Type} (b : GoString) (f : TLV → Option β) :
    (readTLV b).bind f = none ↔ Overflows b ∨ ∃ t ∈ readTLV b, f t = none := by
  rw [← readTLV_eq_none_iff]
  cases readTLV b with
  | none => simp
  | some t => simp

lemma parseBindRequest_eq_none_iff (content : GoString) :
    parseBindRequest content = none ↔ OverflowsAmong 3 content := by
  simp only [parseBindRequest, Option.bind_eq_bind, readTLV_bind_eq_none_iff, Option.pure_def,
    OverflowsAmong, reduceCtorEq, and_false, exists_false, or_false]

lemma parseSearchRequest_eq_none_iff (content : GoString) :
    parseSearchRequest content = none ↔ OverflowsAmong 7 content := by
  have hrange : List.range 5 = [0, 1, 2, 3, 4] := rfl
  simp only [parseSearchRequest, hrange, List.foldlM_cons, List.foldlM_nil, Option.bind_eq_bind,
    Option.bind_assoc, Option.pure_def, Option.bind_some, readTLV_bind_eq_none_iff,
    OverflowsAmong, reduceCtorEq, and_false, exists_false, or_false]

/-! ## Packets -/

/-- The bytes of a long length as they are read from the connection, if the packet has one. -/
def lengthRead (net : List GoString) : Option GoString := do
  let (got, net) ← read 2 net
  let first := (filled 2 got).getD 1 0
  if first &&& 0x80 = 0 then none
  else
    let (got, _) ← read (first &&& 0x7F).toNat net
    return filled (first &&& 0x7F).toNat got

/-- A length that is out of range. -/
def NegativeLength (net : List GoString) : Prop :=
  ∃ bs ∈ lengthRead net, 2 ^ 63 ≤ BigEndian.value bs % 2 ^ 64

lemma readBody_eq_error_iff (head : GoString) (length : ℤ) (net : List GoString) :
    (∃ e, readBody head length net = .error e) ↔ length < 0 := by
  rw [readBody_eq, maxPacket]
  split_ifs with hmax hneg hlen
  · exact iff_of_false (by simp) (by omega)
  · exact iff_of_true ⟨_, rfl⟩ hneg
  · exact iff_of_false (by simp) hneg
  · exact iff_of_false (by simp) hneg

lemma int64_neg_iff (v : ℕ) : int64 v < 0 ↔ 2 ^ 63 ≤ v % 2 ^ 64 := by
  rw [int64, Int.bmod_def]
  split_ifs <;> omega

/-- **The packets that make `readBERPacket` panic.** -/
lemma readBERPacket_eq_error_iff (net : List GoString) :
    (∃ e, readBERPacket net = .error e) ↔ NegativeLength net := by
  unfold readBERPacket NegativeLength lengthRead
  cases hread : read 2 net with
  | none => simp
  | some r =>
    obtain ⟨got, net₁⟩ := r
    simp only [bind_eq_bind, bind_some]
    by_cases hshort : (filled 2 got).getD 1 0 &&& 0x80 = 0
    · rw [if_pos hshort, if_pos hshort, readBody_eq_error_iff]
      simp
    · rw [if_neg hshort, if_neg hshort, readLong]
      cases hlong : read ((filled 2 got).getD 1 0 &&& 0x7F).toNat net₁ with
      | none => simp
      | some r =>
        simp [readBody_eq_error_iff, bigEndian_eq, int64_neg_iff]

lemma header_le_of_packet {net net' : List GoString} {p : GoString}
    (h : readBERPacket net = .ok (some (p, net'))) : 1 + (tlvLength p.tail).2 ≤ p.length := by
  unfold readBERPacket at h
  cases hread : read 2 net with
  | none => simp [hread] at h
  | some r =>
    obtain ⟨got, net₁⟩ := r
    obtain ⟨tag, first, hhead⟩ := length_eq_two.mp (length_filled 2 got)
    simp only [hread, hhead, getD_cons_succ, getD_cons_zero] at h
    split_ifs at h with hshort
    · obtain ⟨-, rfl, -⟩ := readBody_eq_packet h
      simp [tlvLength, hshort]
    · unfold readLong at h
      cases hlong : read (first &&& 0x7F).toNat net₁ with
      | none => simp only [hlong, Except.ok.injEq, reduceCtorEq] at h
      | some r =>
        simp only [hlong] at h
        obtain ⟨-, rfl, -⟩ := readBody_eq_packet h
        simp [tlvLength, hshort]
        omega

def packetContent (p : GoString) : GoString := p.drop (1 + (tlvLength p.tail).2)

/-- What is read of a packet has an element that overflows: of the message itself, of a bind
request if there are users, or of a search request. -/
def Malformed (cfg : Config) (p : GoString) : Prop :=
  Overflows (packetContent p) ∨
    ∃ id ∈ readTLV (packetContent p), id.tag = 0x02 ∧
      (Overflows ((packetContent p).drop id.consumed) ∨
        ∃ op ∈ readTLV ((packetContent p).drop id.consumed),
          op.tag = 0x60 ∧ cfg.users ≠ [] ∧ OverflowsAmong 3 op.content ∨
            op.tag = 0x63 ∧ OverflowsAmong 7 op.content)

section

variable (cfg : Config) (mocks : List LDAPMock) (c : Conn)

lemma bind_panicked_iff (msgID : ℤ) (content : GoString) :
    (bind cfg c msgID content).next = .panicked ↔ cfg.users ≠ [] ∧ OverflowsAmong 3 content := by
  rw [← parseBindRequest_eq_none_iff]
  simp only [bind]
  split_ifs with husers
  · simp [husers]
  · cases hreq : parseBindRequest content with
    | none => simp [husers]
    | some req =>
      dsimp only
      cases req.password.bind (findUser cfg req.name) <;> simp

lemma search_panicked_iff (r : Request) (msgID : ℤ) (content : GoString) :
    (search cfg mocks c r msgID content).next = .panicked ↔ OverflowsAmong 7 content := by
  rw [← parseSearchRequest_eq_none_iff]
  simp only [search]
  cases hreq : parseSearchRequest content with
  | none => simp
  | some q =>
    dsimp only
    split_ifs
    · simp
    · cases faultDone r <;> simp

/-- **The packets that make the loop panic**, among those that `readBERPacket` returns. -/
lemma handleRequest_panicked_iff (r : Request)
    (hhdr : 1 + (tlvLength r.packet.tail).2 ≤ r.packet.length) :
    (handleRequest cfg mocks c r).next = .panicked ↔ Malformed cfg r.packet := by
  have henv : parseLDAPEnvelope r.packet =
      (readTLV (packetContent r.packet)).bind fun id =>
        if id.tag ≠ 0x02 then some ⟨0, 0, []⟩
        else (readTLV ((packetContent r.packet).drop id.consumed)).bind fun op =>
          some ⟨bigEndian id.content, op.tag, op.content⟩ := by
    simp only [parseLDAPEnvelope, if_neg (not_lt.mpr hhdr)]
    rfl
  unfold handleRequest Malformed
  rw [henv, ← readTLV_eq_none_iff]
  cases hid : readTLV (packetContent r.packet) with
  | none => simp
  | some id =>
    simp only [bind_some, reduceCtorEq, false_or, mem_def, Option.some.injEq, exists_eq_left']
    by_cases htag : id.tag = 0x02
    · simp only [htag, ne_eq, not_true_eq_false, if_false, true_and, ← readTLV_eq_none_iff]
      cases hop : readTLV ((packetContent r.packet).drop id.consumed) with
      | none => simp
      | some op =>
        simp only [bind_some, reduceCtorEq, false_or, Option.some.injEq, exists_eq_left']
        split_ifs with hbind hunbind hsearch
        · simp [bind_panicked_iff, hbind]
        · simp [hunbind]
        · simp [search_panicked_iff, hsearch]
        · simp [hbind, hsearch]
    · simp [htag]

/-! ## The connection -/

/-- The loop of a connection, and what is still to come on it. -/
structure Line where
  conn : Conn
  net : List GoString

/-- What happens next, after some time: the loop takes the next packet, with the fault in force
then, or the state store is written to. -/
inductive Event
  | packet (elapsed : ℕ) (fault : Option LDAPFault) (roll : Bool)
  | write (elapsed : ℕ) (w : State.Write)

def Next.line (net : List GoString) : Next → Except Panic (Option Line)
  | .continue c => .ok (some ⟨c, net⟩)
  | .closed => .ok none
  | .panicked => .error .sliceBounds

def turn (l : Line) : Event → Except Panic (Option Line)
  | .packet elapsed fault roll => do
      match ← readBERPacket l.net with
      | none => return none
      | some (p, net) =>
        (handleRequest cfg mocks { l.conn with clock := l.conn.clock + elapsed }
          ⟨p, fault, roll⟩).next.line net
  | .write elapsed w =>
    .ok (some { l with conn := { l.conn with
      clock := l.conn.clock + elapsed
      store := l.conn.store.apply (l.conn.clock + elapsed) w } })

/-- A connection that is served for a while: a panic, the end, or where it stands. -/
def serve : Line → List Event → Except Panic (Option Line) := Process.run (turn cfg mocks)

/-- The next packet has no length out of range, neither its own nor in anything that is read of
it. -/
def Sound (net : List GoString) : Prop :=
  ¬NegativeLength net ∧ ∀ p net', readBERPacket net = .ok (some (p, net')) → ¬Malformed cfg p

/-- Whenever a packet is taken, it is sound. -/
def SoundAt (l : Line) : Event → Prop
  | .packet _ _ _ => Sound cfg l.net
  | .write _ _ => True

lemma line_eq_error_iff (net : List GoString) (n : Next) :
    (∃ e, n.line net = .error e) ↔ n = .panicked := by
  cases n <;> simp [Next.line]

lemma turn_ne_error_iff (l : Line) (ev : Event) :
    (∀ e, turn cfg mocks l ev ≠ .error e) ↔ SoundAt cfg l ev := by
  cases ev with
  | write elapsed w => simp [turn, SoundAt]
  | packet elapsed fault roll =>
    rw [SoundAt, Sound, ← readBERPacket_eq_error_iff]
    cases hread : readBERPacket l.net with
    | error e =>
      have hturn : turn cfg mocks l (.packet elapsed fault roll) = .error e := by
        simp [turn, hread, Bind.bind, Except.bind]
      exact iff_of_false (fun h => h e hturn) fun h => h.1 ⟨e, rfl⟩
    | ok r =>
      cases r with
      | none => simp [turn, hread, Bind.bind, Except.bind, pure, Except.pure]
      | some r =>
        obtain ⟨p, net'⟩ := r
        have hhdr := header_le_of_packet hread
        have hturn : turn cfg mocks l (.packet elapsed fault roll) =
            (handleRequest cfg mocks { l.conn with clock := l.conn.clock + elapsed }
              ⟨p, fault, roll⟩).next.line net' := by
          simp [turn, hread, Bind.bind, Except.bind]
        rw [hturn, ← not_exists, line_eq_error_iff,
          handleRequest_panicked_iff cfg mocks _ ⟨p, fault, roll⟩ hhdr]
        simp

/-- **Whether a connection survives.** -/
theorem serve_ne_error_iff (l : Line) (evs : List Event) :
    (∀ e, serve cfg mocks l evs ≠ .error e) ↔
      Process.Along (turn cfg mocks) (SoundAt cfg) l evs :=
  Process.run_ne_error_iff (turn_ne_error_iff cfg mocks) l evs

end

/-- A packet whose length has its highest bit set, and a search for a base DN whose length has. -/
theorem serve_negative_length :
    serve ⟨[], asciiTable⟩ [] ⟨.start ⟨[], asciiTable⟩ State.new 0,
        [[0x30, 0x88, 0x80, 0, 0, 0, 0, 0, 0, 0]]⟩ [.packet 0 none false] =
      .error .makeslice ∧
    serve ⟨[], asciiTable⟩ [] ⟨.start ⟨[], asciiTable⟩ State.new 0,
        [[0x30, 15, 0x02, 1, 1, 0x63, 10, 0x04, 0x88, 0x80, 0, 0, 0, 0, 0, 0, 0]]⟩
        [.packet 0 none false] =
      .error .sliceBounds :=
  ⟨rfl, rfl⟩

end Mockly.LDAP
