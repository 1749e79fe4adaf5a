import Mockly.Go.Slices
import Mockly.Go.Strings
import Mockly.Lib.BigEndian

/-!
# CoAP packets

In an option 13 and 14 stand for numbers that follow in bytes of their own. `parseCoAPPacket` takes
13 and 14 as they are.

Main results: **`parse_encode`**, **`parseCoAPPacket_within`**.
-/

namespace Mockly.CoAP

open BigEndian List

/-! ## The parser -/

def coapMethod (code : UInt8) : GoString :=
  if code = 0x01 then go "GET"
  else if code = 0x02 then go "POST"
  else if code = 0x03 then go "PUT"
  else if code = 0x04 then go "DELETE"
  else []

/-- What `parseCoAPPacket` returns. -/
structure Packet where
  method : GoString := []
  path : GoString := []
  msgID : ℕ := 0
  token : GoString := []
  payload : GoString := []
  deriving DecidableEq

/-- `data[i]`; an index out of range panics. -/
def byteAt (data : GoString) (i : ℕ) : Except Panic UInt8 :=
  match data[i]? with
  | some b => .ok b
  | none => .error .sliceBounds

/-- How the loop over the options ends: within an option, or at the payload. -/
inductive Options
  | truncated (pathParts : List GoString)
  | upTo (idx : ℕ) (pathParts : List GoString)

/-- Option 11 is `Uri-Path`; it has one part of the path. -/
def addPart (optNum : ℕ) (val : GoString) (pathParts : List GoString) : List GoString :=
  if optNum = 11 then pathParts ++ [val] else pathParts

/-- The loop over the options, with the path so far. -/
def readOptions (data : GoString) :
    ℕ → ℕ → ℕ → List GoString → Except Panic Options
  | 0, idx, _, pathParts => .ok (.upTo idx pathParts)
  | fuel + 1, idx, lastOpt, pathParts =>
    if idx < data.length then do
      let head ← byteAt data idx
      if head = 0xFF then return .upTo (idx + 1) pathParts
      else
        let idx := idx + 1
        let delta := (head >>> 4).toNat
        let length := (head &&& 0x0F).toNat
        if data.length < idx + length then return .truncated pathParts
        else
          let optNum := lastOpt + delta
          let val ← slice data idx (idx + length : ℕ)
          readOptions data fuel (idx + length) optNum (addPart optNum val pathParts)
    else return .upTo idx pathParts

def parseCoAPPacket (data : GoString) : Except Panic Packet :=
  if data.length < 4 then .ok {}
  else do
    let first ← byteAt data 0
    if first >>> 6 ≠ 1 then return {}
    else
      let tkl := (first &&& 0x0F).toNat
      if data.length < 4 + tkl then return {}
      else
        let code ← byteAt data 1
        let msgID ← slice data 2 4
        let token ← slice data 4 (4 + tkl : ℕ)
        match ← readOptions data data.length (4 + tkl) 0 [] with
        | .truncated pathParts =>
          return ⟨coapMethod code, join pathParts (go "/"), value msgID, token, []⟩
        | .upTo idx pathParts =>
          let payload ← if idx ≤ data.length then slice data idx data.length else .ok []
          return ⟨coapMethod code, go "/" ++ join pathParts (go "/"), value msgID,
            token, payload⟩

/-! ## What is unread -/

/-- The parts of the path, and the payload unless an option is cut short. -/
def scan : ℕ → GoString → ℕ → List GoString → List GoString × Option GoString
  | 0, r, _, parts => (parts, some r)
  | _ + 1, [], _, parts => (parts, some [])
  | fuel + 1, head :: r, lastOpt, parts =>
    if head = 0xFF then (parts, some r)
    else if r.length < (head &&& 0x0F).toNat then (parts, none)
    else
      let optNum := lastOpt + (head >>> 4).toNat
      let val := r.take (head &&& 0x0F).toNat
      scan fuel (r.drop (head &&& 0x0F).toNat) optNum (addPart optNum val parts)

/-- What `readOptions` finds, given what `scan` does in the last `n` bytes. -/
def Options.Means (data : GoString) (o : Options) (s : List GoString × Option GoString) : Prop :=
  match o with
  | .truncated parts => s = (parts, none)
  | .upTo idx parts => idx ≤ data.length ∧ s = (parts, some (data.drop idx))

lemma readOptions_spec (data : GoString) (fuel idx lastOpt : ℕ) (parts : List GoString)
    (h : idx ≤ data.length) :
    ∃ o, readOptions data fuel idx lastOpt parts = .ok o ∧
      o.Means data (scan fuel (data.drop idx) lastOpt parts) := by
  induction fuel generalizing idx lastOpt parts with
  | zero => exact ⟨_, rfl, h, rfl⟩
  | succ fuel ih =>
    by_cases hidx : idx < data.length
    · have hat : byteAt data idx = .ok data[idx] := by
        simp [byteAt, hidx]
      rw [drop_eq_getElem_cons hidx]
      simp only [readOptions, if_pos hidx, hat, Bind.bind, Except.bind, scan, length_drop]
      by_cases hmarker : data[idx] = 0xFF
      · rw [if_pos hmarker, if_pos hmarker]
        exact ⟨_, rfl, hidx, rfl⟩
      rw [if_neg hmarker, if_neg hmarker]
      by_cases hcut : data.length < idx + 1 + (data[idx] &&& 0x0F).toNat
      · rw [if_pos hcut, if_pos (by omega)]
        exact ⟨_, rfl, rfl⟩
      rw [if_neg hcut, if_neg (by omega), slice_of_le (by omega) (by omega) (by omega)]
      have hval : (data.take (idx + 1 + (data[idx] &&& 0x0F).toNat)).drop (idx + 1) =
          (data.drop (idx + 1)).take (data[idx] &&& 0x0F).toNat := by
        rw [drop_take]
        congr 1
        omega
      rw [drop_drop, Int.toNat_natCast, Int.toNat_natCast, hval]
      exact ih _ _ _ (by omega)
    · have hend : idx = data.length := by omega
      refine ⟨.upTo idx parts, ?_, h, ?_⟩
      · rw [readOptions, if_neg hidx]
        rfl
      · rw [hend, drop_length]
        rfl

variable {r : GoString}

lemma scan_eq {n m : ℕ} (hn : r.length ≤ n) (hm : r.length ≤ m) (lastOpt : ℕ)
    (parts : List GoString) : scan n r lastOpt parts = scan m r lastOpt parts := by
  induction n generalizing m r lastOpt parts with
  | zero =>
    rw [length_eq_zero_iff.mp (Nat.le_zero.mp hn)]
    cases m <;> rfl
  | succ n ih =>
    cases r with
    | nil => cases m <;> rfl
    | cons head r =>
      rw [length_cons] at hn hm
      obtain ⟨m, rfl⟩ : ∃ k, m = k + 1 := ⟨m - 1, by omega⟩
      have hdrop : (r.drop (head &&& 0x0F).toNat).length ≤ r.length := by simp
      have hrec := ih (m := m) (hdrop.trans (by omega)) (hdrop.trans (by omega))
      simp only [scan, hrec]

/-- The loop over the options until the bytes are used up. -/
def unread (r : GoString) (lastOpt : ℕ) (parts : List GoString) :
    List GoString × Option GoString :=
  scan r.length r lastOpt parts

/-- What is returned for a packet whose options have been read. -/
def packetOf (code : UInt8) (msgID token : GoString) (s : List GoString × Option GoString) :
    Packet :=
  match s.2 with
  | none => ⟨coapMethod code, join s.1 (go "/"), value msgID, token, []⟩
  | some payload =>
    ⟨coapMethod code, go "/" ++ join s.1 (go "/"), value msgID, token, payload⟩

/-- **The parser on a packet with a head and a token.** -/
lemma parseCoAPPacket_eq {first code : UInt8} {msgID token : GoString} (rest : GoString)
    (hversion : first >>> 6 = 1) (htkl : (first &&& 0x0F).toNat = token.length)
    (hid : msgID.length = 2) :
    parseCoAPPacket (first :: code :: (msgID ++ (token ++ rest))) =
      .ok (packetOf code msgID token (unread rest 0 [])) := by
  obtain ⟨i, j, rfl⟩ := length_eq_two.mp hid
  set data := first :: code :: ([i, j] ++ (token ++ rest)) with hdata
  have hlen : data.length = 4 + token.length + rest.length := by
    rw [hdata]
    simp
    omega
  have hfirst : byteAt data 0 = .ok first := rfl
  have hcode : byteAt data 1 = .ok code := rfl
  have hmsgID : slice data 2 4 = .ok [i, j] :=
    slice_append [first, code] [i, j] (token ++ rest) rfl rfl
  have htoken : slice data 4 (4 + token.length : ℕ) = .ok token :=
    slice_append [first, code, i, j] token rest rfl (by simp)
  have hdrop : data.drop (4 + token.length) = rest := by
    rw [← drop_drop]
    exact drop_left
  obtain ⟨o, ho, hmeans⟩ := readOptions_spec data data.length (4 + token.length) 0 [] (by omega)
  rw [hdrop, scan_eq (by omega) le_rfl] at hmeans
  have hunread : scan rest.length rest 0 [] = unread rest 0 [] := rfl
  rw [hunread] at hmeans
  rw [parseCoAPPacket, if_neg (by omega)]
  simp only [Bind.bind, Except.bind, hfirst, hversion, ne_eq, not_true_eq_false, if_false, htkl,
    hcode, hmsgID, htoken, ho]
  rw [if_neg (by omega)]
  cases o with
  | truncated parts =>
    have h : unread rest 0 [] = (parts, none) := hmeans
    rw [h]
    rfl
  | upTo idx parts =>
    obtain ⟨hidx, h⟩ : idx ≤ data.length ∧ unread rest 0 [] = (parts, some (data.drop idx)) :=
      hmeans
    rw [h]
    simp only [if_pos hidx, slice_to_end hidx]
    rfl

/-! ## Within the datagram -/

/-- Every turn of the loop advances by a byte or more, and ends the loop behind the last one. -/
lemma readOptions_succ (data : GoString) (fuel idx lastOpt : ℕ) (parts : List GoString)
    (h : data.length ≤ idx + fuel) :
    readOptions data (fuel + 1) idx lastOpt parts = readOptions data fuel idx lastOpt parts := by
  induction fuel generalizing idx lastOpt parts with
  | zero => simp [readOptions, show ¬idx < data.length by omega, pure, Except.pure]
  | succ fuel ih =>
    have hrec (length optNum : ℕ) (parts : List GoString) :=
      ih (idx + 1 + length) optNum parts (by omega)
    rw [readOptions.eq_2 data idx lastOpt parts fuel]
    simp [readOptions.eq_2 data idx lastOpt parts (fuel + 1), hrec]

lemma isInfix_of_mem_scan {fuel lastOpt : ℕ} {part : GoString} {parts : List GoString}
    (h : part ∈ (scan fuel r lastOpt parts).1) : part ∈ parts ∨ part <:+: r := by
  fun_induction scan fuel r lastOpt parts with
  | case1 | case2 | case3 | case4 => exact .inl h
  | case5 fuel head r lastOpt parts hmarker hcut optNum val ih =>
    rcases ih h with hmem | hpiece
    · rw [addPart] at hmem
      split_ifs at hmem
      · rcases mem_append.mp hmem with hmem | hmem
        · exact .inl hmem
        · rw [mem_singleton.mp hmem]
          exact .inr ((List.take_prefix _ r).isInfix.trans (suffix_cons head r).isInfix)
      · exact .inl hmem
    · exact .inr (hpiece.trans ((drop_suffix _ r).trans (suffix_cons head r)).isInfix)

/-- The token and the parts of the path are pieces of the datagram. -/
def Packet.Within (p : Packet) (data : GoString) : Prop :=
  p.token <:+: data ∧ ∃ parts : List GoString, (∀ part ∈ parts, part <:+: data) ∧
    (p.path = join parts (go "/") ∨ p.path = go "/" ++ join parts (go "/"))

lemma packetOf_within {code : UInt8} {msgID token rest data : GoString} (htoken : token <:+: data)
    (hrest : rest <:+ data) : (packetOf code msgID token (unread rest 0 [])).Within data := by
  have hparts : ∀ part ∈ (unread rest 0 []).1, part <:+: data := by
    intro part hpart
    rcases isInfix_of_mem_scan hpart with hnil | hpiece
    · cases hnil
    · exact hpiece.trans hrest.isInfix
  rw [packetOf]
  split
  · exact ⟨htoken, _, hparts, .inl rfl⟩
  · exact ⟨htoken, _, hparts, .inr rfl⟩

/-- **No datagram leads the parser out of its bounds**: more turns than it has bytes change nothing,
and what is returned are pieces of it. -/
theorem parseCoAPPacket_within (data : GoString) :
    (∀ fuel idx lastOpt parts, data.length ≤ idx + fuel →
      readOptions data (fuel + 1) idx lastOpt parts = readOptions data fuel idx lastOpt parts) ∧
      ∃ p, parseCoAPPacket data = .ok p ∧ p.Within data := by
  refine ⟨readOptions_succ data, ?_⟩
  have hempty : ∃ p, (.ok {} : Except Panic Packet) = .ok p ∧ p.Within data :=
    ⟨{}, rfl, nil_infix, [], by simp, .inl rfl⟩
  match data with
  | [] | [_] | [_, _] | [_, _, _] => exact hempty
  | first :: code :: i :: j :: tail =>
    by_cases hversion : first >>> 6 = 1
    · by_cases htkl : (first &&& 0x0F).toNat ≤ tail.length
      · have hparse := @parseCoAPPacket_eq first code [i, j] (tail.take (first &&& 0x0F).toNat)
          (tail.drop (first &&& 0x0F).toNat) hversion
          (by rw [length_take, Nat.min_eq_left htkl]) rfl
        rw [take_append_drop] at hparse
        have htail : tail <:+ first :: code :: i :: j :: tail := ⟨[first, code, i, j], rfl⟩
        exact ⟨_, hparse, packetOf_within ((List.take_prefix _ tail).isInfix.trans htail.isInfix)
          ((drop_suffix _ tail).trans htail)⟩
      · have hshort : parseCoAPPacket (first :: code :: i :: j :: tail) = .ok {} := by
          simp [parseCoAPPacket, byteAt, hversion, Bind.bind, Except.bind, pure, Except.pure,
            -UInt8.toNat_and]
          omega
        rwa [hshort]
    · have hother : parseCoAPPacket (first :: code :: i :: j :: tail) = .ok {} := by
        simp [parseCoAPPacket, byteAt, hversion, Bind.bind, Except.bind, pure, Except.pure]
      rwa [hother]

/-! ## The protocol -/

def nibble (n : ℕ) : ℕ := if n < 13 then n else if n < 269 then 13 else 14

/-- The bytes that follow for a number that does not fit. -/
def extension (n : ℕ) : GoString :=
  if n < 13 then [] else if n < 269 then [UInt8.ofNat (n - 13)] else bytes 2 (n - 269)

/-- The difference of its number to the one before, and its value. -/
structure Opt where
  delta : ℕ
  value : GoString
  delta_lt : delta < 269 + 2 ^ 16
  length_lt : value.length < 269 + 2 ^ 16

/-- Neither number takes bytes of its own. -/
def Opt.Plain (o : Opt) : Prop := o.delta < 13 ∧ o.value.length < 13

def Opt.head (o : Opt) : UInt8 := UInt8.ofNat (16 * nibble o.delta + nibble o.value.length)

def Opt.encode (o : Opt) : GoString :=
  o.head :: (extension o.delta ++ (extension o.value.length ++ o.value))

inductive Method
  | get
  | post
  | put
  | delete

def Method.code : Method → UInt8
  | .get => 0x01
  | .post => 0x02
  | .put => 0x03
  | .delete => 0x04

def Method.name : Method → GoString
  | .get => go "GET"
  | .post => go "POST"
  | .put => go "PUT"
  | .delete => go "DELETE"

structure Request where
  type : Fin 4
  method : Method
  msgID : UInt16
  token : GoString
  options : List Opt
  payload : GoString
  token_le : token.length ≤ 8

def encodePayload (payload : GoString) : GoString := if payload = [] then [] else 0xFF :: payload

def Request.encode (r : Request) : GoString :=
  UInt8.ofNat (64 + 16 * r.type + r.token.length) :: r.method.code ::
    (bytes 2 r.msgID.toNat ++
      (r.token ++ (r.options.flatMap Opt.encode ++ encodePayload r.payload)))

def uriPath : ℕ → List Opt → List GoString
  | _, [] => []
  | lastOpt, o :: os =>
    (if lastOpt + o.delta = 11 then [o.value] else []) ++ uriPath (lastOpt + o.delta) os

/-- The parser returns what the packet was made of. -/
def ReadBack (r : Request) : Prop :=
  parseCoAPPacket r.encode =
    .ok ⟨r.method.name, go "/" ++ join (uriPath 0 r.options) (go "/"), r.msgID.toNat, r.token,
      r.payload⟩

/-! ## Options -/

lemma nibble_le (n : ℕ) : nibble n ≤ 14 := by
  unfold nibble
  split_ifs <;> omega

lemma toNat_head (o : Opt) : o.head.toNat = 16 * nibble o.delta + nibble o.value.length := by
  have h := nibble_le o.delta
  have h' := nibble_le o.value.length
  rw [Opt.head, UInt8.toNat_ofNat']
  omega

lemma head_ne_marker (o : Opt) : o.head ≠ 0xFF := by
  intro h
  have hnat := toNat_head o
  have h' := nibble_le o.value.length
  have hd := nibble_le o.delta
  rw [h] at hnat
  have hmarker : (0xFF : UInt8).toNat = 255 := rfl
  omega

lemma and_low (b : UInt8) : (b &&& 0x0F).toNat = b.toNat % 16 := by
  have h : (0x0F : UInt8).toNat = 2 ^ 4 - 1 := rfl
  rw [UInt8.toNat_and, h, Nat.and_two_pow_sub_one_eq_mod]

lemma shift_high (b : UInt8) : (b >>> 4).toNat = b.toNat / 16 := by
  rw [UInt8.toNat_shiftRight]
  simp [Nat.shiftRight_eq_div_pow]

lemma head_length (o : Opt) : (o.head &&& 0x0F).toNat = nibble o.value.length := by
  have h := nibble_le o.value.length
  rw [and_low, toNat_head]
  omega

lemma head_delta (o : Opt) : (o.head >>> 4).toNat = nibble o.delta := by
  have h := nibble_le o.value.length
  rw [shift_high, toNat_head]
  omega

/-- One option, plain or not: as many bytes as its head says are its value. -/
lemma unread_cons {head : UInt8} (hmarker : head ≠ 0xFF) (hle : (head &&& 0x0F).toNat ≤ r.length)
    (lastOpt : ℕ) (parts : List GoString) :
    unread (head :: r) lastOpt parts =
      unread (r.drop (head &&& 0x0F).toNat) (lastOpt + (head >>> 4).toNat)
        (addPart (lastOpt + (head >>> 4).toNat) (r.take (head &&& 0x0F).toNat) parts) := by
  rw [unread, length_cons, scan, if_neg hmarker, if_neg (by omega)]
  exact scan_eq (by simp) le_rfl _ _

variable {o : Opt}

lemma unread_plain (h : o.Plain) (rest : GoString) (lastOpt : ℕ) (parts : List GoString) :
    unread (o.encode ++ rest) lastOpt parts =
      unread rest (lastOpt + o.delta) (addPart (lastOpt + o.delta) o.value parts) := by
  have hdelta : nibble o.delta = o.delta := if_pos h.1
  have hlength : nibble o.value.length = o.value.length := if_pos h.2
  have hencode : o.encode ++ rest = o.head :: (o.value ++ rest) := by
    rw [Opt.encode, extension, extension, if_pos h.1, if_pos h.2]
    rfl
  rw [hencode, unread_cons (head_ne_marker o) (by rw [head_length, hlength]; simp), head_length,
    head_delta, hdelta, hlength, take_left, drop_left]

lemma unread_plains {os : List Opt} (h : ∀ o ∈ os, o.Plain) (rest : GoString) (lastOpt : ℕ)
    (parts : List GoString) :
    unread (os.flatMap Opt.encode ++ rest) lastOpt parts =
      unread rest (lastOpt + (os.map Opt.delta).sum) (parts ++ uriPath lastOpt os) := by
  induction os generalizing lastOpt parts with
  | nil => simp [uriPath]
  | cons o os ih =>
    rw [forall_mem_cons] at h
    rw [flatMap_cons, append_assoc, unread_plain h.1, ih h.2, map_cons,
      sum_cons, Nat.add_assoc, uriPath, addPart]
    split_ifs <;> simp

lemma unread_payload (payload : GoString) (lastOpt : ℕ) (parts : List GoString) :
    unread (encodePayload payload) lastOpt parts = (parts, some payload) := by
  rw [encodePayload]
  split_ifs with h
  · rw [h]
    rfl
  · rfl

/-! ## A request -/

lemma first_version (r : Request) :
    UInt8.ofNat (64 + 16 * r.type + r.token.length) >>> 6 = 1 := by
  have htype := r.type.isLt
  have htoken := r.token_le
  rw [← UInt8.toNat_inj, UInt8.toNat_shiftRight, UInt8.toNat_ofNat']
  simp [Nat.shiftRight_eq_div_pow]
  omega

lemma first_token (r : Request) :
    (UInt8.ofNat (64 + 16 * r.type + r.token.length) &&& 0x0F).toNat = r.token.length := by
  have htype := r.type.isLt
  have htoken := r.token_le
  rw [and_low, UInt8.toNat_ofNat']
  omega

lemma coapMethod_code (m : Method) : coapMethod m.code = m.name := by
  cases m <;> rfl

lemma parse_request (r : Request) :
    parseCoAPPacket r.encode =
      .ok (packetOf r.method.code (bytes 2 r.msgID.toNat) r.token
        (unread (r.options.flatMap Opt.encode ++ encodePayload r.payload) 0 [])) :=
  parseCoAPPacket_eq _ (first_version r) (first_token r) (length_bytes 2 _)

lemma readBack_of_plain {r : Request} (h : ∀ o ∈ r.options, o.Plain) : ReadBack r := by
  have hid : value (bytes 2 r.msgID.toNat) = r.msgID.toNat :=
    value_bytes_of_lt r.msgID.toNat_lt
  rw [ReadBack, parse_request, unread_plains h, unread_payload, packetOf, coapMethod_code, hid,
    nil_append]

/-! ## An option that is not plain -/

def Opt.withValue (o : Opt) (value : GoString) (h : value.length = o.value.length) : Opt where
  delta := o.delta
  value := value
  delta_lt := o.delta_lt
  length_lt := h ▸ o.length_lt

/-- The bytes between the head of an option and its value. -/
def Opt.extensions (o : Opt) : GoString := extension o.delta ++ extension o.value.length

lemma length_extension_le (n : ℕ) : (extension n).length ≤ 2 := by
  unfold extension
  split_ifs <;> simp

lemma length_extension_pos {n : ℕ} (h : ¬n < 13) : 1 ≤ (extension n).length := by
  unfold extension
  rw [if_neg h]
  split_ifs <;> simp

lemma extensions_le_nibble (hlen : 2 ≤ o.value.length) (h : ¬o.Plain) :
    o.extensions.length ≤ nibble o.value.length ∧
      nibble o.value.length < o.extensions.length + o.value.length := by
  have hd := length_extension_le o.delta
  have hl := length_extension_le o.value.length
  rw [Opt.extensions, length_append]
  by_cases hlength : o.value.length < 13
  · have hdelta := length_extension_pos fun hdelta => h ⟨hdelta, hlength⟩
    have hnone : extension o.value.length = [] := if_pos hlength
    rw [nibble, if_pos hlength, hnone, length_nil]
    omega
  · have hpos := length_extension_pos hlength
    rw [nibble, if_neg hlength]
    split_ifs <;> omega

variable {j : ℕ}

/-- **A value that is misread.** The byte after the first `j` is taken for the head of an option. -/
lemma unread_withValue {k : ℕ} (hj : o.extensions.length + j = nibble o.value.length) (b : UInt8)
    (h : (List.replicate j 0 ++ b :: List.replicate k 0).length = o.value.length) (rest : GoString)
    (lastOpt : ℕ) (parts : List GoString) :
    unread ((o.withValue _ h).encode ++ rest) lastOpt parts =
      unread (b :: (List.replicate k 0 ++ rest)) (lastOpt + nibble o.delta)
        (addPart (lastOpt + nibble o.delta) (o.extensions ++ List.replicate j 0) parts) := by
  set o' := o.withValue _ h with ho'
  have hbytes : o'.encode ++ rest =
      o'.head :: ((o.extensions ++ List.replicate j 0) ++ b :: (List.replicate k 0 ++ rest)) := by
    have hext : extension o'.value.length = extension o.value.length := by
      rw [ho', Opt.withValue, h]
    rw [Opt.encode, hext, Opt.extensions]
    simp [ho', Opt.withValue]
  have hlength : (o'.head &&& 0x0F).toNat = (o.extensions ++ List.replicate j 0).length := by
    rw [head_length, length_append, length_replicate, hj, ho', Opt.withValue, h]
  have hdelta : (o'.head >>> 4).toNat = nibble o.delta := head_delta o'
  rw [hbytes, unread_cons (head_ne_marker o') (by rw [hlength]; simp), hlength, hdelta,
    take_left, drop_left]

lemma uriPath_append (lastOpt : ℕ) (os os' : List Opt) :
    uriPath lastOpt (os ++ os') =
      uriPath lastOpt os ++ uriPath (lastOpt + (os.map Opt.delta).sum) os' := by
  induction os generalizing lastOpt with
  | nil => rfl
  | cons o os ih =>
    rw [cons_append, uriPath, ih, uriPath, map_cons, sum_cons, append_assoc, Nat.add_assoc]

lemma length_join (parts : List GoString) (sep : GoString) :
    (join parts sep).length = (parts.map List.length).sum + (parts.length - 1) * sep.length := by
  unfold join
  induction parts with
  | nil => simp
  | cons p parts ih =>
    cases parts with
    | nil => simp
    | cons q parts =>
      rw [intercalate_cons_cons, length_append, length_append, ih]
      simp
      ring

lemma length_join_congr {parts parts' : List GoString}
    (h : parts.map List.length = parts'.map List.length) (sep : GoString) :
    (join parts sep).length = (join parts' sep).length := by
  have hlength : parts.length = parts'.length := by simpa using congrArg List.length h
  rw [length_join, length_join, h, hlength]

lemma nibble_eq_length (hj : nibble o.value.length = o.extensions.length + j)
    (hlen : o.value.length = j + 1) (hlong : 13 ≤ o.value.length) :
    nibble o.value.length = o.value.length := by
  have hpos := length_extension_pos (Nat.not_lt.mpr hlong)
  rw [Opt.extensions, length_append] at hj
  revert hj
  rw [nibble, if_neg (by omega)]
  split_ifs <;> omega

lemma length_addPart (h : ¬o.Plain) (lastOpt : ℕ) (parts : List GoString) {val : GoString}
    (hval : 13 ≤ o.value.length → val.length = o.value.length) :
    (addPart (lastOpt + nibble o.delta) val parts).map List.length =
      (parts ++ uriPath lastOpt [o]).map List.length := by
  rw [addPart, uriPath, uriPath, append_nil]
  by_cases hdelta : o.delta < 13
  · have hlong : 13 ≤ o.value.length := by
      by_contra hlt
      exact h ⟨hdelta, by omega⟩
    rw [nibble, if_pos hdelta]
    split_ifs <;> simp [hval hlong]
  · have hnibble : 13 ≤ nibble o.delta := by
      rw [nibble, if_neg hdelta]
      split_ifs <;> omega
    rw [if_neg (by omega), if_neg (by omega), append_nil]

/-- Within a truncated option the path that is returned lacks its first slash. -/
lemma truncated_path_ne {pre : List Opt} (o' : Opt) (h : ¬o.Plain)
    (hj : nibble o.value.length = o.extensions.length + j) (hlen : o.value.length = j + 1)
    (hdelta : o'.delta = o.delta) (hvalue : o'.value.length = o.value.length) :
    join (addPart ((pre.map Opt.delta).sum + nibble o.delta)
        (o.extensions ++ List.replicate j 0) (uriPath 0 pre)) (go "/") ≠
      go "/" ++ join (uriPath 0 (pre ++ [o'])) (go "/") := by
  intro hpath
  have hplain : ¬o'.Plain := by
    rw [Opt.Plain, hdelta, hvalue]
    exact h
  have hsame : (addPart ((pre.map Opt.delta).sum + nibble o.delta)
        (o.extensions ++ List.replicate j 0) (uriPath 0 pre)).map List.length =
      (uriPath 0 (pre ++ [o'])).map List.length := by
    rw [uriPath_append, Nat.zero_add, ← hdelta]
    refine length_addPart hplain _ _ fun hlong => ?_
    rw [hvalue] at hlong ⊢
    rw [← nibble_eq_length hj hlen hlong, length_append, length_replicate, hj]
  have hlonger := congrArg List.length hpath
  rw [length_append, length_join_congr hsame] at hlonger
  have hslash : (go "/").length = 1 := rfl
  omega

lemma marked_ne_payload (zeros options : GoString) {payload : GoString}
    (h : zeros ++ (options ++ encodePayload payload) ≠ []) :
    zeros ++ (options ++ encodePayload payload) ≠ payload := by
  intro heq
  by_cases hnone : payload = []
  · exact h (heq.trans hnone)
  · have hlonger := congrArg List.length heq
    rw [encodePayload, if_neg hnone] at hlonger
    simp only [length_append, length_cons] at hlonger
    omega

lemma not_readBack {r : Request} {pre post : List Opt} (hpre : ∀ o ∈ pre, o.Plain) (h : ¬o.Plain)
    (hlen : 2 ≤ o.value.length) :
    ∃ (value : GoString) (hvalue : value.length = o.value.length),
      ¬ReadBack { r with options := pre ++ o.withValue value hvalue :: post } := by
  obtain ⟨hle, hlt⟩ := extensions_le_nibble hlen h
  obtain ⟨j, hj⟩ := Nat.exists_eq_add_of_le hle
  obtain ⟨k, hk⟩ : ∃ k, o.value.length = j + (k + 1) := ⟨o.value.length - (j + 1), by omega⟩
  have hvalue (b : UInt8) :
      (List.replicate j 0 ++ b :: List.replicate k 0).length = o.value.length := by
    simp [hk]
  set rest := post.flatMap Opt.encode ++ encodePayload r.payload with hrest
  set lastOpt := (pre.map Opt.delta).sum + nibble o.delta
  set parts := addPart lastOpt (o.extensions ++ List.replicate j 0) (uriPath 0 pre) with hparts
  have hread (b : UInt8) :
      parseCoAPPacket
          ({ r with options := pre ++ o.withValue _ (hvalue b) :: post } : Request).encode =
        .ok (packetOf r.method.code (bytes 2 r.msgID.toNat) r.token
          (unread (b :: (List.replicate k 0 ++ rest)) lastOpt parts)) := by
    rw [parse_request]
    dsimp only
    rw [flatMap_append, flatMap_cons, append_assoc, append_assoc,
      unread_plains hpre, unread_withValue hj.symm b, Nat.zero_add, nil_append]
  by_cases hend : List.replicate k 0 ++ rest = []
  · -- nothing follows: the byte announces a value that is not there
    refine ⟨_, hvalue 0x0F, fun hback => ?_⟩
    have htruncated : unread (0x0F :: (List.replicate k 0 ++ rest)) lastOpt parts =
        (parts, none) := by
      rw [hend]
      rfl
    obtain ⟨hzero, hempty⟩ := append_eq_nil_iff.mp hend
    have hk0 : k = 0 := by simpa using hzero
    have hpost : post = [] := by
      cases post with
      | nil => rfl
      | cons o post => simp [hrest, Opt.encode] at hempty
    rw [ReadBack, hread, htruncated] at hback
    subst hk0 hpost
    exact truncated_path_ne (o.withValue _ (hvalue 0x0F)) h hj hk rfl (hvalue 0x0F)
      (congrArg Packet.path (Except.ok.inj hback))
  · -- something follows: the byte marks it as the payload
    refine ⟨_, hvalue 0xFF, fun hback => ?_⟩
    have hmarked : unread (0xFF :: (List.replicate k 0 ++ rest)) lastOpt parts =
        (parts, some (List.replicate k 0 ++ rest)) := rfl
    rw [ReadBack, hread, hmarked] at hback
    exact marked_ne_payload _ _ hend (congrArg Packet.payload (Except.ok.inj hback))

/-- **What is read back of a request.** One whose options are all plain is. Where the first option
that is not plain has a value of two bytes or more, the request is misread for one value of that
length. -/
theorem parse_encode (r : Request) :
    ((∀ o ∈ r.options, o.Plain) → ReadBack r) ∧
      ∀ pre o post, r.options = pre ++ o :: post → (∀ o ∈ pre, o.Plain) → ¬o.Plain →
        2 ≤ o.value.length →
          ∃ (value : GoString) (hvalue : value.length = o.value.length),
            ¬ReadBack { r with options := pre ++ o.withValue value hvalue :: post } := by
  refine ⟨readBack_of_plain, fun pre o post _ hpre h hlen => ?_⟩
  exact not_readBack hpre h hlen

def longSegment : Request where
  type := 0
  method := .get
  msgID := 1
  token := []
  options := [⟨11, go "temperature12", by decide, by decide⟩, ⟨0, go "x", by decide, by decide⟩]
  payload := []
  token_le := by decide

/-- The length of a part with 13 bytes is read as a byte of it. -/
theorem long_segment_misread :
    parseCoAPPacket longSegment.encode =
        .ok ⟨go "GET", go "/" ++ 0x00 :: go "temperature1", 1, [], []⟩ ∧
      ¬ReadBack longSegment := by
  unfold ReadBack
  decide +kernel

end Mockly.CoAP
