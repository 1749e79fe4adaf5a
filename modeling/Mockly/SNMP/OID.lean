import Mockly.Go.Strconv
import Mockly.Config.HTTP

/-!
# The OID table

An OID is compared by its numeric components. Looking one up is a binary search: it returns the
item, or the place where a walk goes on. The callbacks of an item read and change a state `W` of the
server, and may fail or panic.
-/

namespace Mockly.SNMP

/-! ## Values and mocks -/

/-- The values of variables: an empty interface in the source. -/
inductive Value
  | nil
  | int (n : ℤ)
  | uint (n : ℕ)
  | uint32 (n : ℕ)
  | uint64 (n : ℕ)
  | float64 (x : Float64)
  | string (s : GoString)
  | bytes (b : GoString)
  deriving DecidableEq

/-- `gosnmp.Asn1BER`: the types the server gives to its variables, and those it does not. -/
inductive Asn1BER
  | integer
  | octetString
  | null
  | objectIdentifier
  | ipAddress
  | counter32
  | gauge32
  | timeTicks
  | counter64
  | noSuchObject
  | noSuchInstance
  | endOfMibView
  | other (tag : UInt8)
  deriving DecidableEq

structure SNMPMock where
  id : GoString := []
  oid : GoString
  type : GoString := []
  value : Value
  state : Option StateCondition := none
  deriving DecidableEq

inductive CallResult (α : Type)
  | ok (a : α)
  | error (msg : GoString)
  | panic (msg : GoString)

/-- `pduItem`; `onSet` is absent for an item that cannot be written. -/
structure PduItem (W : Type) where
  oid : GoString
  typ : Asn1BER
  document : GoString := []
  onGet : W → CallResult Value × W
  onSet : Option (Value → W → CallResult Unit × W) := none

/-! ## Parsing and comparing -/

/-- `strconv.ParseUint(s, 10, 32)`. -/
def parseUint32 (s : GoString) : Option ℕ :=
  match parseUint s with
  | .ok n => if n < 2 ^ 32 then some n else none
  | .error _ => none

/-- The component loop of `oidToByteString`. -/
def parseComponents : List GoString → Option (List ℕ)
  | [] => some []
  | p :: ps =>
    if p = [] then none
    else
      match parseUint32 p with
      | none => none
      | some n => (parseComponents ps).map (n :: ·)

/-- `oidToByteString`; what the callers do with an error does not depend on its text.  A leading
dot is tolerated. -/
def oidToByteString (oid : GoString) : Option (List ℕ) :=
  match split oid 46 with
  | [] :: ps => parseComponents ps
  | ps => parseComponents ps

def compareByteString : List ℕ → List ℕ → Ordering
  | [], [] => .eq
  | [], _ :: _ => .lt
  | _ :: _, [] => .gt
  | a :: as, b :: bs => if a < b then .lt else if b < a then .gt else compareByteString as bs

/-! ## Looking up -/

/-- The loop of `sort.Search`: the answer is in `i, …, j`. -/
def searchBetween (f : ℕ → Bool) : ℕ → ℕ → ℕ → ℕ
  | 0, i, _ => i
  | fuel + 1, i, j =>
    if i < j then
      let h := (i + j) / 2
      if f h then searchBetween f fuel i h else searchBetween f fuel (h + 1) j
    else i

/-- `sort.Search`.  Every round of the loop makes the interval shorter, so `n` rounds are enough. -/
def search (n : ℕ) (f : ℕ → Bool) : ℕ := searchBetween f n 0 n

/-- The position of the item in the table, as `findOID` compares it: an OID that cannot be parsed
counts as the empty one. -/
def PduItem.key {W : Type} (item : PduItem W) : List ℕ := (oidToByteString item.oid).getD []

/-- `findOID`: the item, if there is one, and the index at which it is or would be inserted. -/
def findOID {W : Type} (items : List (PduItem W)) (oid : GoString) : Option (PduItem W) × ℕ :=
  match oidToByteString oid with
  | none => (none, items.length)
  | some query =>
    let idx := search items.length fun i =>
      match items[i]? with
      | some item => compareByteString item.key query != .lt
      | none => true
    match items[idx]? with
    | some item =>
      if compareByteString item.key query = .eq then (some item, idx) else (none, idx)
    | none => (none, idx)

end Mockly.SNMP
