import Mockly.Go.Maps
import Mockly.Go.Strconv

/-!
# The Redis data store

A key whose TTL has elapsed stays in the map until an operation looks at it (`getLocked`). Every
operation holds the store's mutex. `τ i` is the instant at which it reads the clock for the `i`-th
time. `LRange` is in `Redis.Commands`.
-/

namespace Mockly.Redis

/-- `kind`: what a key holds. -/
inductive Kind
  | none
  | string
  | hash
  | list
  deriving DecidableEq

/-- `entry`.  Only the content its kind selects is meaningful. -/
structure Entry where
  kind : Kind
  str : GoString := []
  hash : GoMap GoString := ∅
  list : List GoString := []
  /-- The zero `Time` means "never expires". -/
  expiresAt : ℤ := 0

def Entry.expired (e : Entry) (now : ℤ) : Bool := deadlinePassed e.expiresAt now

/-- The errors of the operations: `wrongTypeErr`, or that of `strconv.ParseInt`. -/
inductive Err
  | wrongType
  | num (e : NumError)

/-- `Error()`.  The number package quotes the text it could not parse. -/
def Err.message (quote : GoString → GoString) : Err → GoString
  | .wrongType => go "WRONGTYPE Operation against a key holding the wrong kind of value"
  | .num e =>
    go "strconv.ParseInt: parsing " ++ quote e.num ++ go ": " ++
      match e.kind with
      | .syntaxError => go "invalid syntax"
      | .rangeError => go "value out of range"

inductive Result
  | done
  | value (v : GoString) (ok : Bool)
  | count (n : ℤ)
  | flag (b : Bool)
  | fields (m : Finmap fun _ : GoString => GoString)

abbrev Reply := Except Err Result

/-- `dataStore`, without its mutex. -/
structure DataStore where
  data : GoMap Entry

def newDataStore : DataStore := ⟨∅⟩

namespace DataStore

/-- `getLocked`: the live entry at the key.  An expired one is deleted on the way. -/
def getLocked (s : DataStore) (key : GoString) (now : Clock) : Option Entry × DataStore :=
  match s.data.get? key with
  | none => (none, s)
  | some e => if e.expired now then (none, ⟨s.data.del key⟩) else (some e, s)

/-- `s.data[key] = e`, and equally a change of the entry that is already there: the map holds
pointers. -/
def put (s : DataStore) (key : GoString) (e : Entry) : DataStore := ⟨s.data.set key e⟩

@[simp] lemma put_put (s : DataStore) (key : GoString) (e₀ e : Entry) :
    (s.put key e₀).put key e = s.put key e := by
  simp [put, GoMap.set]

/-- `getLocked`, and when nothing is found the `fresh` entry is stored first: how every operation
that may create its key begins. -/
def getOrCreate (s : DataStore) (key : GoString) (now : Clock) (fresh : Entry) :
    Entry × DataStore :=
  match s.getLocked key now with
  | (some e, s) => (e, s)
  | (none, s) => (fresh, s.put key fresh)

def flush (_ : DataStore) : DataStore := ⟨∅⟩

/-! ## Strings, counters and deadlines -/

/-- The entry `Set` stores. -/
def stringEntry (value : GoString) (ttl : ℤ) (now : Clock) : Entry :=
  { kind := .string, str := value, expiresAt := if ttl > 0 then now + ttl else 0 }

def set (s : DataStore) (key value : GoString) (ttl : ℤ) (now : Clock) : DataStore :=
  s.put key (stringEntry value ttl now)

def get (s : DataStore) (key : GoString) (now : Clock) : Reply × DataStore :=
  match s.getLocked key now with
  | (none, s) => (.ok (.value [] false), s)
  | (some e, s) => (if e.kind ≠ .string then .error .wrongType else .ok (.value e.str true), s)

/-- The loop of `Del`; `n` keys have been removed so far. -/
def del (s : DataStore) (n : ℕ) (τ : ℕ → Clock) : List GoString → ℕ × DataStore
  | [] => (n, s)
  | k :: ks =>
    match s.getLocked k (τ 0) with
    | (none, s) => del s n (fun i => τ (i + 1)) ks
    | (some _, s) => del ⟨s.data.del k⟩ (n + 1) (fun i => τ (i + 1)) ks

/-- The loop of `Exists`; `n` keys have been found so far. -/
def «exists» (s : DataStore) (n : ℕ) (τ : ℕ → Clock) : List GoString → ℕ × DataStore
  | [] => (n, s)
  | k :: ks =>
    match s.getLocked k (τ 0) with
    | (none, s) => «exists» s n (fun i => τ (i + 1)) ks
    | (some _, s) => «exists» s (n + 1) (fun i => τ (i + 1)) ks

/-- `Expire`.  The product with `time.Second` wraps around. -/
def expire (s : DataStore) (key : GoString) (seconds : ℤ) (τ : ℕ → Clock) : Bool × DataStore :=
  match s.getLocked key (τ 0) with
  | (none, s) => (false, s)
  | (some e, s) =>
    (true, s.put key { e with expiresAt := τ 1 + wrap64 (seconds * second) })

def ttl (s : DataStore) (key : GoString) (τ : ℕ → Clock) : ℤ × DataStore :=
  match s.getLocked key (τ 0) with
  | (none, s) => (-2, s)
  | (some e, s) =>
    if isZero e.expiresAt then (-1, s)
    else
      let remaining := sub e.expiresAt (τ 1)
      (if remaining < 0 then -2 else wholeSeconds (round remaining second), s)

def persist (s : DataStore) (key : GoString) (now : Clock) : Bool × DataStore :=
  match s.getLocked key now with
  | (none, s) => (false, s)
  | (some e, s) =>
    if isZero e.expiresAt then (false, s) else (true, s.put key { e with expiresAt := 0 })

def incrBy (s : DataStore) (key : GoString) (delta : ℤ) (now : Clock) : Reply × DataStore :=
  let (e, s) := s.getOrCreate key now { kind := .string, str := go "0" }
  if e.kind ≠ .string then (.error .wrongType, s)
  else
    match parseInt e.str with
    | .error err => (.error (.num err), s)
    | .ok n =>
      let n := wrap64 (n + delta)
      (.ok (.count n), s.put key { e with str := formatInt n })

def append (s : DataStore) (key value : GoString) (now : Clock) : Reply × DataStore :=
  let (e, s) := s.getOrCreate key now { kind := .string }
  if e.kind ≠ .string then (.error .wrongType, s)
  else
    let str := e.str ++ value
    (.ok (.count str.length), s.put key { e with str := str })

/-! ## Hashes -/

/-- The loop of `HSet` over the fields, in whatever order they come. -/
def hSetLoop (hash : GoMap GoString) (added : ℕ) :
    List (GoString × GoString) → ℕ × GoMap GoString
  | [] => (added, hash)
  | (f, v) :: rest =>
    let added := if (hash.get? f).isNone then added + 1 else added
    hSetLoop (hash.set f v) added rest

def hSet (s : DataStore) (key : GoString) (fields : GoMap GoString) (now : Clock) :
    Reply × DataStore :=
  let (e, s) := s.getOrCreate key now { kind := .hash }
  if e.kind ≠ .hash then (.error .wrongType, s)
  else
    let (added, hash) := hSetLoop e.hash 0 fields.toList
    (.ok (.count added), s.put key { e with hash := hash })

def hGet (s : DataStore) (key field : GoString) (now : Clock) : Reply × DataStore :=
  match s.getLocked key now with
  | (none, s) => (.ok (.value [] false), s)
  | (some e, s) =>
    (if e.kind ≠ .hash then .error .wrongType
      else .ok (.value (e.hash.getD field) (e.hash.get? field).isSome), s)

/-- `HGetAll`: a copy of the fields. -/
def hGetAll (s : DataStore) (key : GoString) (now : Clock) : Reply × DataStore :=
  match s.getLocked key now with
  | (none, s) => (.ok (.fields ∅), s)
  | (some e, s) =>
    (if e.kind ≠ .hash then .error .wrongType
      else .ok (.fields (GoMap.ofList e.hash.toList).toFinmap), s)

/-- The loop of `HDel`. -/
def hDelLoop (hash : GoMap GoString) (n : ℕ) : List GoString → ℕ × GoMap GoString
  | [] => (n, hash)
  | f :: fs =>
    if (hash.get? f).isSome then hDelLoop (hash.del f) (n + 1) fs else hDelLoop hash n fs

def hDel (s : DataStore) (key : GoString) (fields : List GoString) (now : Clock) :
    Reply × DataStore :=
  match s.getLocked key now with
  | (none, s) => (.ok (.count 0), s)
  | (some e, s) =>
    if e.kind ≠ .hash then (.error .wrongType, s)
    else
      let (n, hash) := hDelLoop e.hash 0 fields
      (.ok (.count n), s.put key { e with hash := hash })

def hExists (s : DataStore) (key field : GoString) (now : Clock) : Reply × DataStore :=
  match s.getLocked key now with
  | (none, s) => (.ok (.flag false), s)
  | (some e, s) =>
    (if e.kind ≠ .hash then .error .wrongType else .ok (.flag (e.hash.get? field).isSome), s)

/-! ## Lists -/

def push (s : DataStore) (key : GoString) (left : Bool) (values : List GoString) (now : Clock) :
    Reply × DataStore :=
  let (e, s) := s.getOrCreate key now { kind := .list }
  if e.kind ≠ .list then (.error .wrongType, s)
  else
    let list := if left then values.foldl (fun l v => v :: l) e.list else e.list ++ values
    (.ok (.count list.length), s.put key { e with list := list })

def lPush (s : DataStore) (key : GoString) (values : List GoString) (now : Clock) :
    Reply × DataStore :=
  s.push key true values now

def rPush (s : DataStore) (key : GoString) (values : List GoString) (now : Clock) :
    Reply × DataStore :=
  s.push key false values now

def lLen (s : DataStore) (key : GoString) (now : Clock) : Reply × DataStore :=
  match s.getLocked key now with
  | (none, s) => (.ok (.count 0), s)
  | (some e, s) =>
    (if e.kind ≠ .list then .error .wrongType else .ok (.count e.list.length), s)

end DataStore

/-! ## Operations as data -/

/-- The operations. -/
inductive Op
  | set (key value : GoString) (ttl : ℤ)
  | get (key : GoString)
  | del (keys : List GoString)
  | exists (keys : List GoString)
  | expire (key : GoString) (seconds : ℤ)
  | ttl (key : GoString)
  | persist (key : GoString)
  | incrBy (key : GoString) (delta : ℤ)
  | append (key value : GoString)
  | hSet (key : GoString) (fields : GoMap GoString)
  | hGet (key field : GoString)
  | hGetAll (key : GoString)
  | hDel (key : GoString) (fields : List GoString)
  | hExists (key field : GoString)
  | lPush (key : GoString) (values : List GoString)
  | rPush (key : GoString) (values : List GoString)
  | lLen (key : GoString)
  | flush

/-- How often, at most, the operation reads the clock. -/
def Op.readings : Op → ℕ
  | .del keys => keys.length
  | .exists keys => keys.length
  | .expire _ _ => 2
  | .ttl _ => 2
  | _ => 1

/-- The operation, the clock being read at `τ 0`, `τ 1`, … -/
def DataStore.exec (s : DataStore) (τ : ℕ → Clock) : Op → Reply × DataStore
  | .set key value ttl => (.ok .done, s.set key value ttl (τ 0))
  | .get key => s.get key (τ 0)
  | .del keys => let (n, s) := s.del 0 τ keys; (.ok (.count n), s)
  | .exists keys => let (n, s) := s.exists 0 τ keys; (.ok (.count n), s)
  | .expire key seconds => let (b, s) := s.expire key seconds τ; (.ok (.flag b), s)
  | .ttl key => let (n, s) := s.ttl key τ; (.ok (.count n), s)
  | .persist key => let (b, s) := s.persist key (τ 0); (.ok (.flag b), s)
  | .incrBy key delta => s.incrBy key delta (τ 0)
  | .append key value => s.append key value (τ 0)
  | .hSet key fields => s.hSet key fields (τ 0)
  | .hGet key field => s.hGet key field (τ 0)
  | .hGetAll key => s.hGetAll key (τ 0)
  | .hDel key fields => s.hDel key fields (τ 0)
  | .hExists key field => s.hExists key field (τ 0)
  | .lPush key values => s.lPush key values (τ 0)
  | .rPush key values => s.rPush key values (τ 0)
  | .lLen key => s.lLen key (τ 0)
  | .flush => (.ok .done, s.flush)

end Mockly.Redis
