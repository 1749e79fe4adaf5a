import Mockly.Go.Maps

/-!
# LDAP messages on the wire

Lengths and message IDs are accumulated in a Go `int`, which has 64 bits and wraps around. Where a
slice panics the functions below return nothing.
-/

namespace Mockly.LDAP

/-- The value of a 64-bit `int` after an operation. -/
def int64 (n : ℤ) : ℤ := n.bmod (2 ^ 64)

/-- `n = (n << 8) | int(b)`, over the bytes of a number. -/
def bigEndian (bs : GoString) : ℤ := bs.foldl (fun n b => int64 (n * 256 + b.toNat)) 0

/-! ## Reading -/

/-- `tlvLength`: the length, and the number of bytes it is written in. -/
def tlvLength : GoString → ℤ × ℕ
  | [] => (0, 0)
  | b :: rest =>
    if b &&& 0x80 = 0 then (b.toNat, 1)
    else
      let n := (b &&& 0x7F).toNat
      (bigEndian (rest.take n), 1 + n)

/-- An element: its tag, its content, and the number of bytes read. -/
structure TLV where
  tag : UInt8
  content : GoString
  consumed : ℕ

/-- `readTLV`.  A content that is cut short is returned as far as it goes; a length that comes out
negative makes the slice panic. -/
def readTLV (b : GoString) : Option TLV :=
  match b with
  | tag :: rest@(_ :: _) =>
    let (length, hdr) := tlvLength rest
    let start := 1 + hdr
    if b.length < start then some ⟨tag, [], b.length⟩
    else
      let stop := int64 (start + length)
      if (b.length : ℤ) < stop then some ⟨tag, b.drop start, b.length⟩
      else if stop < start then none
      else some ⟨tag, (b.drop start).take (stop.toNat - start), stop.toNat⟩
  | _ => some ⟨0, [], b.length⟩

/-- A request: message ID, tag of the operation and its content. -/
structure Envelope where
  msgID : ℤ
  opTag : UInt8
  opContent : GoString

def parseLDAPEnvelope (packet : GoString) : Option Envelope := do
  let (_, hdr) := tlvLength packet.tail
  -- `packet[1:]` and `packet[1+hdr:]`.
  if packet.length < 1 + hdr then none
  else
    let content := packet.drop (1 + hdr)
    let id ← readTLV content
    if id.tag ≠ 0x02 then return ⟨0, 0, []⟩
    else
      let op ← readTLV (content.drop id.consumed)
      return ⟨bigEndian id.content, op.tag, op.content⟩

/-- What a bind request says: the name, and the password if the authentication is simple. -/
structure BindRequest where
  name : GoString
  password : Option GoString

def parseBindRequest (content : GoString) : Option BindRequest := do
  let version ← readTLV content
  let rest := content.drop version.consumed
  let name ← readTLV rest
  let auth ← readTLV (rest.drop name.consumed)
  return ⟨name.content, if auth.tag = 0x80 then some auth.content else none⟩

/-! ## Writing -/

def berLen (n : ℕ) : GoString :=
  if n < 0x80 then [UInt8.ofNat n]
  else if n < 0x100 then [0x81, UInt8.ofNat n]
  else [0x82, UInt8.ofNat (n / 256), UInt8.ofNat n]

def berTLV (tag : UInt8) (content : GoString) : GoString := tag :: berLen content.length ++ content

/-- The bytes of a positive number, the loop of `encodeInt`; an `int` has at most eight. -/
def encodePositive : ℕ → ℕ → GoString
  | 0, _ => []
  | fuel + 1, v => if v = 0 then [] else encodePositive fuel (v / 256) ++ [UInt8.ofNat v]

/-- `encodeInt`: a negative number has no bytes at all. -/
def encodeInt (v : ℤ) : GoString := if v = 0 then [0] else encodePositive 8 v.toNat

def buildLDAPMessage (msgID : ℤ) (tag : UInt8) (content : GoString) : GoString :=
  berTLV 0x30 (berTLV 0x02 (encodeInt msgID) ++ berTLV tag content)

def ldapResultContent (code : UInt8) (message : GoString) : GoString :=
  berTLV 0x0A [code] ++ berTLV 0x04 [] ++ berTLV 0x04 message

def bindSuccessContent : GoString := ldapResultContent 0 []

def searchDoneContent (code : UInt8) (message : GoString) : GoString :=
  ldapResultContent code message

/-- The order of `sort.Strings`: byte by byte. -/
def bytesLE : GoString → GoString → Bool
  | [], _ => true
  | _ :: _, [] => false
  | a :: as, b :: bs => if a < b then true else if b < a then false else bytesLE as bs

/-- `searchEntryContent`: the attributes in the order of their keys. -/
def searchEntryContent (baseDN : GoString) (attrs : GoMap (List GoString)) : GoString :=
  let keys := (attrs.toList.map Prod.fst).insertionSort fun a b => bytesLE a b
  let attrSeq := keys.flatMap fun key =>
    let vals := ((attrs.get? key).getD []).flatMap fun v => berTLV 0x04 v
    berTLV 0x30 (berTLV 0x04 key ++ berTLV 0x31 vals)
  berTLV 0x04 baseDN ++ berTLV 0x30 attrSeq

/-- `parseSearchRequest`: the base DN and the filter, encoded anew. -/
def parseSearchRequest (content : GoString) : Option (GoString × GoString) := do
  let base ← readTLV content
  -- Scope, aliases, two limits and the flag for types only are skipped.
  let rest ← (List.range 5).foldlM (fun rest _ => return rest.drop (← readTLV rest).consumed)
    (content.drop base.consumed)
  let filter ← readTLV rest
  return (base.content, filter.tag :: berLen filter.content.length ++ filter.content)

end Mockly.LDAP
