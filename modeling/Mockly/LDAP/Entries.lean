import Mockly.LDAP.Packets
import Mockly.Lib.BER
import Mockly.Go.Sort

/-!
# The entries of a search

The server writes lengths in at most two bytes, and numbers without regard to their sign.

Main result: **`decodeEntry_iff`**.
-/

namespace Mockly.LDAP

open BER BigEndian List

/-! ## Lengths -/

variable (n : ℕ)

lemma toNat_ofNat : (UInt8.ofNat n).toNat = n % 256 := by simp

variable (rest : GoString)

/-- **A length of more than two bytes loses the others.** -/
lemma length_berLen : BER.length (berLen n ++ rest) = some (n % 2 ^ 16, rest) := by
  rw [berLen]
  split_ifs with hshort hone
  · rw [singleton_append, length_short hshort, Nat.mod_eq_of_lt (by omega)]
  · rw [length_long [UInt8.ofNat n] (by simp) rfl (by simp)]
    simp only [value, foldl_cons, foldl_nil, toNat_ofNat]
    congr 2
    omega
  · rw [length_long [UInt8.ofNat (n / 256), UInt8.ofNat n] (by simp) rfl (by simp)]
    simp only [value, foldl_cons, foldl_nil, toNat_ofNat]
    congr 2
    omega

lemma tlvLength_long {first : UInt8} (bs : GoString) (hbit : first &&& 0x80 ≠ 0)
    (hcount : (first &&& 0x7F).toNat = bs.length) (hlt : value bs < 2 ^ 16)
    (rest : GoString) :
    tlvLength (first :: bs ++ rest) = ((value bs : ℤ), 1 + bs.length) := by
  have hint : int64 (value bs) = value bs :=
    Int.bmod_eq_of_le_mul_two (by omega) (by omega)
  simp only [cons_append, tlvLength, if_neg hbit, hcount, take_left, bigEndian_eq, hint]

lemma clear_of_lt {n : ℕ} (h : n < 0x80) : UInt8.ofNat n &&& 0x80 = 0 := by
  have hall : ∀ i : Fin 0x80, UInt8.ofNat i &&& 0x80 = 0 := by decide
  exact hall ⟨n, h⟩

lemma tlvLength_berLen :
    tlvLength (berLen n ++ rest) = (((n % 2 ^ 16 : ℕ) : ℤ), (berLen n).length) := by
  rw [berLen]
  split_ifs with hshort hone
  · rw [singleton_append, tlvLength, if_pos (clear_of_lt hshort), toNat_ofNat,
      Nat.mod_eq_of_lt (by omega), Nat.mod_eq_of_lt (by omega)]
    rfl
  · have hvalue : value [UInt8.ofNat n] = n % 2 ^ 16 := by
      simp only [value, foldl_cons, foldl_nil, toNat_ofNat]
      omega
    rw [tlvLength_long [UInt8.ofNat n] (by decide) rfl (by omega), hvalue]
    rfl
  · have hvalue : value [UInt8.ofNat (n / 256), UInt8.ofNat n] = n % 2 ^ 16 := by
      simp only [value, foldl_cons, foldl_nil, toNat_ofNat]
      omega
    have hcount : (0x82 &&& 0x7F : UInt8).toNat = 2 := by decide
    rw [tlvLength_long [UInt8.ofNat (n / 256), UInt8.ofNat n] (by decide) hcount (by omega), hvalue]
    rfl

lemma length_berTLV (tag : UInt8) (content : GoString) :
    (berTLV tag content).length = 1 + (berLen content.length).length + content.length := by
  rw [berTLV, cons_append, length_cons, length_append]
  omega

lemma berLen_ne_nil : berLen n ≠ [] := by
  rw [berLen]
  split_ifs <;> simp

lemma length_berLen_le : (berLen n).length ≤ 3 := by
  rw [berLen]
  split_ifs <;> simp

variable {tag : UInt8}

lemma readTLV_eq {bs : GoString} {length hdr : ℕ} (hne : bs ≠ [])
    (htlv : tlvLength bs = ((length : ℤ), hdr)) (hfits : hdr + length ≤ bs.length)
    (hsmall : hdr + length < 2 ^ 62) :
    readTLV (tag :: bs) = some ⟨tag, (bs.drop hdr).take length, 1 + hdr + length⟩ := by
  obtain ⟨b, bs, rfl⟩ := exists_cons_of_ne_nil hne
  have hstop : int64 ((1 + hdr : ℕ) + (length : ℤ)) = (1 + hdr + length : ℕ) := by
    rw [int64, Int.bmod_eq_of_le_mul_two (by omega) (by omega)]
    push_cast
    rfl
  have htake : 1 + hdr + length - (1 + hdr) = length := by omega
  simp only [readTLV, htlv, hstop, length_cons] at hfits ⊢
  rw [if_neg (by omega), if_neg (by omega), if_neg (by omega), Int.toNat_natCast, htake,
    Nat.add_comm 1 hdr, drop_succ_cons]

lemma readTLV_berTLV (tag : UInt8) (content rest : GoString) :
    readTLV (berTLV tag content ++ rest) =
      some ⟨tag, content.take (content.length % 2 ^ 16),
        1 + (berLen content.length).length + content.length % 2 ^ 16⟩ := by
  have hhdr := length_berLen_le content.length
  have hle := Nat.mod_le content.length (2 ^ 16)
  have hlt := Nat.mod_lt content.length (show 0 < 2 ^ 16 by norm_num)
  rw [berTLV, cons_append, cons_append, append_assoc,
    readTLV_eq (by simp [berLen_ne_nil]) (tlvLength_berLen _ _) (by simp; omega) (by omega),
    drop_left, take_append_of_le_length hle]

/-- **The elements `readTLV` takes apart again.** -/
lemma readTLV_berTLV_iff (tag : UInt8) (content rest : GoString) :
    readTLV (berTLV tag content ++ rest) = some ⟨tag, content, (berTLV tag content).length⟩ ↔
      content.length < 2 ^ 16 := by
  rw [readTLV_berTLV, length_berTLV]
  constructor
  · intro h
    have hcontent := congrArg List.length (TLV.mk.inj (Option.some.inj h)).2.1
    rw [length_take] at hcontent
    omega
  · intro h
    rw [Nat.mod_eq_of_lt h, take_length]

/-- What a client makes of an element, and what it takes for the next one. -/
lemma element_berTLV (htag : tag &&& 0x1F ≠ 0x1F) (content rest : GoString) :
    element (berTLV tag content ++ rest) =
      some (⟨tag, content.take (content.length % 2 ^ 16)⟩,
        content.drop (content.length % 2 ^ 16) ++ rest) := by
  have hle := Nat.mod_le content.length (2 ^ 16)
  rw [berTLV, cons_append, cons_append, append_assoc,
    element_of_length htag (length_berLen _ _) (by simp; omega),
    take_append_of_le_length hle, drop_append_of_le_length hle]

variable {content : GoString}

lemma elements_berTLV (htag : tag &&& 0x1F ≠ 0x1F) (hfits : content.length < 2 ^ 16)
    (rest : GoString) :
    elements (berTLV tag content ++ rest) = (elements rest).map (⟨tag, content⟩ :: ·) := by
  have helem := element_berTLV htag content rest
  rw [Nat.mod_eq_of_lt hfits, take_length, drop_length, nil_append] at helem
  exact elements_of_element helem

lemma elements_berTLV_ne (htag : tag &&& 0x1F ≠ 0x1F) (hlong : 2 ^ 16 ≤ content.length)
    (e : Element) : elements (berTLV tag content) ≠ some [e] := by
  have helem := element_berTLV htag content []
  have hlt := Nat.mod_lt content.length (show 0 < 2 ^ 16 by norm_num)
  rw [append_nil, append_nil] at helem
  rw [elements_of_element helem]
  intro h
  obtain ⟨es, hes, heq⟩ := Option.map_eq_some_iff.mp h
  cases heq
  refine elements_ne_nil ?_ hes
  simp
  omega

variable {α : Type}

variable {xs : List α}

lemma elements_flatMap {f : α → GoString} (htag : tag &&& 0x1F ≠ 0x1F)
    (hfits : ∀ x ∈ xs, (f x).length < 2 ^ 16) :
    elements (xs.flatMap fun x => berTLV tag (f x)) = some (xs.map fun x => ⟨tag, f x⟩) := by
  induction xs with
  | nil => rfl
  | cons x xs ih =>
    rw [forall_mem_cons] at hfits
    rw [flatMap_cons, elements_berTLV htag hfits.1, ih hfits.2]
    rfl

/-! ## Numbers -/

/-- The numbers below 2^31 whose bytes start with a one. -/
def HighBit (n : ℕ) : Prop :=
  2 ^ 7 ≤ n ∧ n < 2 ^ 8 ∨ 2 ^ 15 ≤ n ∧ n < 2 ^ 16 ∨ 2 ^ 23 ≤ n ∧ n < 2 ^ 24

instance : DecidablePred HighBit := fun n =>
  inferInstanceAs (Decidable (2 ^ 7 ≤ n ∧ n < 2 ^ 8 ∨ 2 ^ 15 ≤ n ∧ n < 2 ^ 16 ∨ _))

variable {v : ℕ}

lemma encodePositive_eq {fuel k : ℕ} (hk : k ≤ fuel) (hlt : v < 256 ^ k)
    (hge : ∀ j, k = j + 1 → 256 ^ j ≤ v) : encodePositive fuel v = bytes k v := by
  induction k generalizing fuel v with
  | zero =>
    rw [pow_zero, Nat.lt_one_iff] at hlt
    subst hlt
    cases fuel <;> rfl
  | succ k ih =>
    obtain ⟨fuel, rfl⟩ : ∃ n, fuel = n + 1 := ⟨fuel - 1, by omega⟩
    have hpos : v ≠ 0 := by
      have hpow : 0 < 256 ^ k := by positivity
      have := hge k rfl
      omega
    have hdiv : v / 256 < 256 ^ k := by
      rw [Nat.div_lt_iff_lt_mul (by norm_num), ← pow_succ]
      exact hlt
    have hnext : ∀ j, k = j + 1 → 256 ^ j ≤ v / 256 := by
      intro j hj
      rw [Nat.le_div_iff_mul_le (by norm_num), ← pow_succ, ← hj]
      exact hge k rfl
    rw [encodePositive, if_neg hpos, ih (by omega) hdiv hnext, bytes]

lemma integer_bytes {k : ℕ} (hk : 0 < k) (hlt : v < 256 ^ k) :
    integer (bytes k v) = some ((v : ℤ).bmod (256 ^ k)) := by
  have hne : bytes k v ≠ [] := by
    intro h
    have hlen := congrArg List.length h
    rw [length_bytes, length_nil] at hlen
    omega
  rw [integer, if_neg hne, signed, length_bytes, value_bytes_of_lt hlt]

/-- **The numbers that are read back.** -/
lemma integer_encodeInt_iff (hv : v < 2 ^ 31) :
    integer (encodeInt v) = some (v : ℤ) ↔ ¬HighBit v := by
  by_cases hzero : v = 0
  · subst hzero
    decide
  · obtain ⟨k, hpos, hle, hlt, hge⟩ : ∃ k, 0 < k ∧ k ≤ 4 ∧ v < 256 ^ k ∧ 256 ^ (k - 1) ≤ v := by
      rcases Nat.lt_or_ge v (2 ^ 8) with h | h
      · exact ⟨1, by omega⟩
      rcases Nat.lt_or_ge v (2 ^ 16) with h' | h'
      · exact ⟨2, by omega⟩
      rcases Nat.lt_or_ge v (2 ^ 24) with h'' | h''
      · exact ⟨3, by omega⟩
      · exact ⟨4, by omega⟩
    have hencode : encodeInt v = bytes k v := by
      rw [encodeInt, if_neg (by exact_mod_cast hzero), Int.toNat_natCast,
        encodePositive_eq (by omega) hlt fun j hj => by rwa [hj] at hge]
    rw [hencode, integer_bytes hpos hlt, Option.some_inj, HighBit, Int.bmod_def]
    interval_cases k <;> split_ifs <;> omega

/-! ## Entries -/

/-- A name, and attributes with their values. -/
structure SearchEntry where
  msgID : ℤ
  tag : UInt8
  baseDN : GoString
  attributes : List (GoString × List GoString)
  deriving DecidableEq

def components (tag : UInt8) (e : Element) : Option (List Element) :=
  if e.tag = tag then elements e.content else none

def octetString (e : Element) : Option GoString := if e.tag = 0x04 then some e.content else none

def decodeAttribute (e : Element) : Option (GoString × List GoString) := do
  let [type, vals] ← components 0x30 e | none
  let vals ← components 0x31 vals
  return (← octetString type, ← vals.mapM octetString)

/-- What a client reads. -/
def decodeEntry (bs : GoString) : Option SearchEntry := do
  let [msg] ← elements bs | none
  let [id, op] ← components 0x30 msg | none
  let msgID ← if id.tag = 0x02 then integer id.content else none
  let [dn, attrs] ← elements op.content | none
  let attrs ← components 0x30 attrs
  return ⟨msgID, op.tag, ← octetString dn, ← attrs.mapM decodeAttribute⟩

lemma components_mk (tag : UInt8) (content : GoString) :
    components tag ⟨tag, content⟩ = elements content :=
  if_pos rfl

lemma mapM_map_eq_some {β γ : Type} {f : β → Option γ} {g : α → β} {h : α → γ}
    (hf : ∀ x ∈ xs, f (g x) = some (h x)) : (xs.map g).mapM f = some (xs.map h) := by
  induction xs with
  | nil => rfl
  | cons x xs ih =>
    rw [forall_mem_cons] at hf
    rw [map_cons, mapM_cons, hf.1, ih hf.2]
    rfl

/-! ### What fits as a whole fits in its parts -/

lemma length_lt_berTLV (tag : UInt8) (content : GoString) :
    content.length < (berTLV tag content).length := by
  rw [length_berTLV]
  omega

lemma length_lt_flatMap {x : α} (hx : x ∈ xs) (tag : UInt8) (f : α → GoString) :
    (f x).length < (xs.flatMap fun x => berTLV tag (f x)).length := by
  have hsub : (berTLV tag (f x)).Sublist (xs.flatMap fun x => berTLV tag (f x)) := by
    rw [flatMap_def]
    exact sublist_flatten_of_mem (mem_map_of_mem hx)
  exact (length_lt_berTLV tag (f x)).trans_le hsub.length_le

lemma elements_pair {tag' : UInt8} (htag : tag &&& 0x1F ≠ 0x1F) (htag' : tag' &&& 0x1F ≠ 0x1F)
    {content' : GoString} (hfits : (berTLV tag content ++ berTLV tag' content').length < 2 ^ 16) :
    elements (berTLV tag content ++ berTLV tag' content') =
      some [⟨tag, content⟩, ⟨tag', content'⟩] := by
  have hlt := length_lt_berTLV tag content
  have hlt' := length_lt_berTLV tag' content'
  rw [length_append] at hfits
  have hlast := elements_berTLV htag' (show content'.length < 2 ^ 16 by omega) []
  rw [append_nil] at hlast
  rw [elements_berTLV htag (by omega), hlast]
  rfl

/-- An attribute as `searchEntryContent` writes it. -/
def attributeContent (key : GoString) (vals : List GoString) : GoString :=
  berTLV 0x04 key ++ berTLV 0x31 (vals.flatMap fun v => berTLV 0x04 v)

lemma decodeAttribute_mk {key : GoString} {vals : List GoString}
    (hfits : (attributeContent key vals).length < 2 ^ 16) :
    decodeAttribute ⟨0x30, attributeContent key vals⟩ = some (key, vals) := by
  have hvals : ∀ v ∈ vals, v.length < 2 ^ 16 := by
    intro v hv
    have hlt := length_lt_flatMap hv 0x04 fun v => v
    have hlt' := length_lt_berTLV 0x31 (vals.flatMap fun v => berTLV 0x04 v)
    rw [attributeContent, length_append] at hfits
    omega
  have hset : elements (vals.flatMap fun v => berTLV 0x04 v) =
      some (vals.map fun v => ⟨0x04, v⟩) :=
    elements_flatMap (by decide) hvals
  have hstrings : (vals.map fun v => (⟨0x04, v⟩ : Element)).mapM octetString =
      some (vals.map fun v => v) :=
    mapM_map_eq_some fun v _ => rfl
  rw [map_id'] at hstrings
  rw [decodeAttribute, components_mk, attributeContent, elements_pair (by decide) (by decide) hfits]
  simp [components_mk, hset, hstrings, octetString]

def sortedAttributes (attrs : GoMap (List GoString)) : List (GoString × List GoString) :=
  ((attrs.toList.map Prod.fst).insertionSort fun a b => bytesLE a b).map fun key =>
    (key, (attrs.get? key).getD [])

/-- The content of an entry, with its attributes as a list. -/
def entryContent (baseDN : GoString) (attrs : List (GoString × List GoString)) : GoString :=
  berTLV 0x04 baseDN ++
    berTLV 0x30 (attrs.flatMap fun a => berTLV 0x30 (attributeContent a.1 a.2))

lemma searchEntryContent_eq (baseDN : GoString) (attrs : GoMap (List GoString)) :
    searchEntryContent baseDN attrs = entryContent baseDN (sortedAttributes attrs) := by
  rw [entryContent, sortedAttributes, flatMap_map]
  rfl

def messageContent (msgID : ℤ) (tag : UInt8) (content : GoString) : GoString :=
  berTLV 0x02 (encodeInt msgID) ++ berTLV tag content

/-- **An entry that fits.** -/
lemma decodeEntry_of_fits {msgID : ℤ} {baseDN : GoString}
    {attrs : List (GoString × List GoString)}
    (hfits : (messageContent msgID 0x64 (entryContent baseDN attrs)).length < 2 ^ 16) :
    decodeEntry (buildLDAPMessage msgID 0x64 (entryContent baseDN attrs)) =
      (integer (encodeInt msgID)).map fun id => ⟨id, 0x64, baseDN, attrs⟩ := by
  have hentry : (entryContent baseDN attrs).length < 2 ^ 16 := by
    have hlt := length_lt_berTLV 0x64 (entryContent baseDN attrs)
    rw [messageContent, length_append] at hfits
    omega
  have hattrs : ∀ a ∈ attrs, (attributeContent a.1 a.2).length < 2 ^ 16 := by
    intro a ha
    have hlt := length_lt_flatMap ha 0x30 fun a => attributeContent a.1 a.2
    have hlt' := length_lt_berTLV 0x30
      (attrs.flatMap fun a => berTLV 0x30 (attributeContent a.1 a.2))
    rw [entryContent, length_append] at hentry
    omega
  have hmsg : elements (buildLDAPMessage msgID 0x64 (entryContent baseDN attrs)) =
      some [⟨0x30, messageContent msgID 0x64 (entryContent baseDN attrs)⟩] := by
    have h := elements_berTLV (by decide : (0x30 : UInt8) &&& 0x1F ≠ 0x1F) hfits []
    rwa [append_nil] at h
  have hseq : elements (attrs.flatMap fun a => berTLV 0x30 (attributeContent a.1 a.2)) =
      some (attrs.map fun a => ⟨0x30, attributeContent a.1 a.2⟩) :=
    elements_flatMap (by decide) hattrs
  have hdecoded : (attrs.map fun a => (⟨0x30, attributeContent a.1 a.2⟩ : Element)).mapM
      decodeAttribute = some (attrs.map fun a => a) :=
    mapM_map_eq_some fun a ha => decodeAttribute_mk (hattrs a ha)
  rw [map_id'] at hdecoded
  have hparts : elements (messageContent msgID 0x64 (entryContent baseDN attrs)) =
      some [⟨0x02, encodeInt msgID⟩, ⟨0x64, entryContent baseDN attrs⟩] :=
    elements_pair (by decide) (by decide) hfits
  have hop : elements (entryContent baseDN attrs) = some [⟨0x04, baseDN⟩, ⟨0x30, _⟩] :=
    elements_pair (by decide) (by decide) hentry
  rw [decodeEntry, hmsg]
  cases hid : integer (encodeInt msgID) <;>
    simp [octetString, components_mk, hparts, hid, hop, hseq, hdecoded]

lemma decodeEntry_of_long {msgID : ℤ} (hlong : 2 ^ 16 ≤ (messageContent msgID tag content).length) :
    decodeEntry (buildLDAPMessage msgID tag content) = none := by
  have hne := elements_berTLV_ne (by decide : (0x30 : UInt8) &&& 0x1F ≠ 0x1F) hlong
  rw [decodeEntry, buildLDAPMessage, ← messageContent]
  rcases h : elements (berTLV 0x30 (messageContent msgID tag content)) with _ | (_ | ⟨e, _ | es⟩)
  · rfl
  · rfl
  · exact absurd h (hne e)
  · rfl

/-! ### The order of the attributes -/

lemma bytesLE_iff (a b : GoString) : bytesLE a b = true ↔ a ≤ b := by
  induction a generalizing b with
  | nil => simp [bytesLE]
  | cons x a ih =>
    cases b with
    | nil => simp [bytesLE]
    | cons y b =>
      rw [bytesLE, cons_le_cons_iff, ← ih b]
      by_cases hlt : x < y
      · simp [hlt]
      by_cases hgt : y < x
      · have hne : x ≠ y := by
          rintro rfl
          exact hlt hgt
        simp [hlt, hgt, hne]
      · simp [UInt8.le_antisymm (UInt8.not_lt.mp hgt) (UInt8.not_lt.mp hlt)]

variable (attrs : GoMap (List GoString))

lemma sortedAttributes_perm : (sortedAttributes attrs).Perm attrs.toList := by
  have hkeys := perm_insertionSort (fun a b => bytesLE a b = true) (attrs.toList.map Prod.fst)
  refine (hkeys.map fun key => (key, (attrs.get? key).getD [])).trans (.of_eq ?_)
  rw [map_map]
  refine (map_congr_left fun a ha => ?_).trans (map_id _)
  obtain ⟨key, vals⟩ := a
  simp [GoMap.mem_toList.mp ha]

lemma sortedAttributes_sorted : (sortedAttributes attrs).Pairwise fun a b => a.1 ≤ b.1 := by
  have htotal : Std.Total fun a b => bytesLE a b = true :=
    ⟨fun a b => by simpa [bytesLE_iff] using List.le_total a b⟩
  have htrans : IsTrans GoString fun a b => bytesLE a b = true :=
    ⟨fun a b c => by simpa [bytesLE_iff] using List.le_trans⟩
  rw [sortedAttributes, List.pairwise_map]
  refine (List.pairwise_insertionSort (fun a b => bytesLE a b = true) _).imp ?_
  exact fun h => (bytesLE_iff _ _).mp h

/-- **What is read back of an entry.** A client reads one message with just the ID, name and
attributes exactly if the message ID does not start with a one and the message has a content of less
than 2^16 bytes. And the server itself takes an element apart again exactly if its content is as
short. -/
theorem decodeEntry_iff (id : Fin (2 ^ 31)) (baseDN : GoString) (attrs : GoMap (List GoString)) :
    ((∃ as : List (GoString × List GoString), as.Perm attrs.toList ∧
        as.Pairwise (fun a b => a.1 ≤ b.1) ∧
        decodeEntry (buildLDAPMessage id 0x64 (searchEntryContent baseDN attrs)) =
          some ⟨id, 0x64, baseDN, as⟩) ↔
      ¬HighBit id ∧ (messageContent id 0x64 (searchEntryContent baseDN attrs)).length < 2 ^ 16) ∧
    ∀ (tag : UInt8) (content rest : GoString),
      readTLV (berTLV tag content ++ rest) = some ⟨tag, content, (berTLV tag content).length⟩ ↔
        content.length < 2 ^ 16 := by
  refine ⟨?_, readTLV_berTLV_iff⟩
  rw [searchEntryContent_eq, ← integer_encodeInt_iff id.isLt]
  constructor
  · rintro ⟨as, -, -, hdecode⟩
    by_cases hfits : (messageContent id 0x64
        (entryContent baseDN (sortedAttributes attrs))).length < 2 ^ 16
    · rw [decodeEntry_of_fits hfits] at hdecode
      obtain ⟨n, hn, heq⟩ := Option.map_eq_some_iff.mp hdecode
      cases heq
      exact ⟨hn, hfits⟩
    · rw [decodeEntry_of_long (Nat.le_of_not_lt hfits)] at hdecode
      cases hdecode
  · rintro ⟨hid, hfits⟩
    refine ⟨sortedAttributes attrs, sortedAttributes_perm attrs, sortedAttributes_sorted attrs, ?_⟩
    rw [decodeEntry_of_fits hfits, hid]
    rfl

/-- Message 128 arrives as message -128, and of 65536 bytes nothing is left. -/
theorem entry_not_read_back :
    decodeEntry (buildLDAPMessage 128 0x64 (searchEntryContent [] ∅)) =
        some ⟨-128, 0x64, [], []⟩ ∧
      readTLV (berTLV 0x04 (List.replicate (2 ^ 16) 0)) = some ⟨0x04, [], 4⟩ := by
  refine ⟨by decide +kernel, ?_⟩
  have h := readTLV_berTLV 0x04 (List.replicate (2 ^ 16) 0) []
  rwa [append_nil, length_replicate] at h

end Mockly.LDAP
