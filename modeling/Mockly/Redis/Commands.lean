import Mockly.Redis.DataStore
import Mockly.Go.Slices

/-!
# The stateful commands

`LRange` moves the start up to the head of the list last: a range that lies before the head
altogether asks for a slice of negative length.

Main result: **`cmdLRange_eq_iff`**.
-/

namespace Mockly.Redis

open List

/-! ## Ranges of a list -/

/-- `normalizeListIndex`.  The sum of a negative index and a length does not overflow. -/
def normalizeListIndex (i n : ℤ) : ℤ := if i < 0 then i + n else i

/-- `LRange` once the list is found and the indices are normalised. -/
def cutRange (list : List GoString) (start stop : ℤ) : Except Panic (List GoString) :=
  let n : ℤ := list.length
  if start > stop ∨ start ≥ n ∨ n = 0 then .ok []
  else do
    let stop := if stop ≥ n then n - 1 else stop
    let start := if start < 0 then 0 else start
    let out ← makeSlice [] (stop - start + 1)
    return copySlice out (← slice list start (stop + 1))

/-- `LRange` once the list is found. -/
def listRange (list : List GoString) (start stop : ℤ) : Except Panic (List GoString) :=
  cutRange list (normalizeListIndex start list.length) (normalizeListIndex stop list.length)

def DataStore.lRange (s : DataStore) (key : GoString) (start stop : ℤ) (now : Clock) :
    Except Panic (Except Err (List GoString) × DataStore) :=
  match s.getLocked key now with
  | (none, s) => .ok (.ok [], s)
  | (some e, s) =>
    if e.kind ≠ .list then .ok (.error .wrongType, s)
    else (listRange e.list start stop).map fun vals => (.ok vals, s)

/-! ## Replies -/

inductive Resp
  | error (msg : GoString)
  | string (s : GoString)
  | bulk (s : GoString)
  | null
  | int (n : ℤ)
  | array (items : List GoString)
  /-- An array of fields and values, in the order in which a map happens to be ranged over. -/
  | pairs (m : Finmap fun _ : GoString => GoString)

def wrongArgsErr (command : String) : Resp :=
  .error (go "ERR wrong number of arguments for '" ++ go command ++ go "' command")

def notAnInteger : Resp := .error (go "ERR value is not an integer or out of range")

def writeDataErr : Err → Resp
  | .wrongType => .error (Err.wrongType.message id)
  | .num _ => notAnInteger

def Result.resp : Result → Resp
  | .done => .string (go "OK")
  | .value v ok => if ok then .bulk v else .null
  | .count n => .int n
  | .flag b => .int (if b then 1 else 0)
  | .fields m => .pairs m

def Reply.resp : Reply → Resp
  | .ok r => r.resp
  | .error err => writeDataErr err

/-! ## The commands -/

/-- `statefulCommands`. -/
inductive Command
  | set
  | get
  | del
  | exists
  | expire
  | ttl
  | persist
  | incr
  | decr
  | incrBy
  | decrBy
  | append
  | hSet
  | hGet
  | hGetAll
  | hDel
  | hExists
  | lPush
  | rPush
  | lRange
  | lLen

def millisecond : ℤ := 1000000

/-- The option loop of `cmdSet`: the TTL, or the error that is written.  The product with the unit
wraps around. -/
def setOptions (ut : UpperTable) (ttl : ℤ) : List GoString → Except Resp ℤ
  | [] => .ok ttl
  | [opt] =>
    if toUpper ut opt = go "EX" ∨ toUpper ut opt = go "PX" then .error (wrongArgsErr "set")
    else .ok ttl
  | opt :: amount :: rest =>
    if toUpper ut opt = go "EX" then
      match parseInt amount with
      | .error _ => .error notAnInteger
      | .ok secs => setOptions ut (wrap64 (secs * second)) rest
    else if toUpper ut opt = go "PX" then
      match parseInt amount with
      | .error _ => .error notAnInteger
      | .ok ms => setOptions ut (wrap64 (ms * millisecond)) rest
    else setOptions ut ttl (amount :: rest)

/-- The loop of `cmdHSet` over fields and values. -/
def fieldsOf (fields : GoMap GoString) : List GoString → GoMap GoString
  | f :: v :: rest => fieldsOf (fields.set f v) rest
  | _ => fields

namespace DataStore

/-- Calling the data store and writing what it returns. -/
def call (s : DataStore) (τ : ℕ → Clock) (op : Op) : Resp × DataStore :=
  ((s.exec τ op).1.resp, (s.exec τ op).2)

def cmdSet (ut : UpperTable) (s : DataStore) (τ : ℕ → Clock) (args : List GoString) :
    Resp × DataStore :=
  match args with
  | key :: value :: options =>
    match setOptions ut 0 options with
    | .error resp => (resp, s)
    | .ok ttl => s.call τ (.set key value ttl)
  | _ => (wrongArgsErr "set", s)

def cmdGet (s : DataStore) (τ : ℕ → Clock) (args : List GoString) : Resp × DataStore :=
  match args with
  | key :: _ => s.call τ (.get key)
  | _ => (wrongArgsErr "get", s)

def cmdDel (s : DataStore) (τ : ℕ → Clock) (args : List GoString) : Resp × DataStore :=
  match args with
  | [] => (wrongArgsErr "del", s)
  | keys => s.call τ (.del keys)

def cmdExists (s : DataStore) (τ : ℕ → Clock) (args : List GoString) : Resp × DataStore :=
  match args with
  | [] => (wrongArgsErr "exists", s)
  | keys => s.call τ (.exists keys)

def cmdExpire (s : DataStore) (τ : ℕ → Clock) (args : List GoString) : Resp × DataStore :=
  match args with
  | [key, amount] =>
    match parseInt amount with
    | .error _ => (notAnInteger, s)
    | .ok secs => s.call τ (.expire key secs)
  | _ => (wrongArgsErr "expire", s)

def cmdTTL (s : DataStore) (τ : ℕ → Clock) (args : List GoString) : Resp × DataStore :=
  match args with
  | [key] => s.call τ (.ttl key)
  | _ => (wrongArgsErr "ttl", s)

def cmdPersist (s : DataStore) (τ : ℕ → Clock) (args : List GoString) : Resp × DataStore :=
  match args with
  | [key] => s.call τ (.persist key)
  | _ => (wrongArgsErr "persist", s)

/-- `cmdIncrBy`, for the commands that name an amount and for those that do not. -/
def cmdIncrBy (s : DataStore) (τ : ℕ → Clock) (args : List GoString) (sign : ℤ)
    (explicit : Bool) : Resp × DataStore :=
  match explicit, args with
  | false, [key] => s.call τ (.incrBy key sign)
  | true, [key, amount] =>
    match parseInt amount with
    | .error _ => (notAnInteger, s)
    | .ok n => s.call τ (.incrBy key (wrap64 (sign * n)))
  | _, _ => (wrongArgsErr "incrby", s)

def cmdAppend (s : DataStore) (τ : ℕ → Clock) (args : List GoString) : Resp × DataStore :=
  match args with
  | [key, value] => s.call τ (.append key value)
  | _ => (wrongArgsErr "append", s)

def cmdHSet (s : DataStore) (τ : ℕ → Clock) (args : List GoString) : Resp × DataStore :=
  match args with
  | key :: f :: v :: rest =>
    if rest.length % 2 = 0 then s.call τ (.hSet key (fieldsOf ∅ (f :: v :: rest)))
    else (wrongArgsErr "hset", s)
  | _ => (wrongArgsErr "hset", s)

def cmdHGet (s : DataStore) (τ : ℕ → Clock) (args : List GoString) : Resp × DataStore :=
  match args with
  | [key, field] => s.call τ (.hGet key field)
  | _ => (wrongArgsErr "hget", s)

def cmdHGetAll (s : DataStore) (τ : ℕ → Clock) (args : List GoString) : Resp × DataStore :=
  match args with
  | [key] => s.call τ (.hGetAll key)
  | _ => (wrongArgsErr "hgetall", s)

def cmdHDel (s : DataStore) (τ : ℕ → Clock) (args : List GoString) : Resp × DataStore :=
  match args with
  | key :: f :: fields => s.call τ (.hDel key (f :: fields))
  | _ => (wrongArgsErr "hdel", s)

def cmdHExists (s : DataStore) (τ : ℕ → Clock) (args : List GoString) : Resp × DataStore :=
  match args with
  | [key, field] => s.call τ (.hExists key field)
  | _ => (wrongArgsErr "hexists", s)

/-- `cmdPush`, whose error names the same command for both directions. -/
def cmdPush (s : DataStore) (τ : ℕ → Clock) (args : List GoString) (left : Bool) :
    Resp × DataStore :=
  match args with
  | key :: v :: values =>
    s.call τ (if left then .lPush key (v :: values) else .rPush key (v :: values))
  | _ => (wrongArgsErr "lpush", s)

def cmdLRange (s : DataStore) (τ : ℕ → Clock) (args : List GoString) :
    Except Panic (Resp × DataStore) :=
  match args with
  | [key, start, stop] =>
    match parseInt start, parseInt stop with
    | .ok start, .ok stop =>
      (s.lRange key start stop (τ 0)).map fun (r, s) =>
        match r with
        | .error err => (writeDataErr err, s)
        | .ok vals => (.array vals, s)
    | _, _ => .ok (notAnInteger, s)
  | _ => .ok (wrongArgsErr "lrange", s)

def cmdLLen (s : DataStore) (τ : ℕ → Clock) (args : List GoString) : Resp × DataStore :=
  match args with
  | [key] => s.call τ (.lLen key)
  | _ => (wrongArgsErr "llen", s)

def handleStateful (ut : UpperTable) (s : DataStore) (τ : ℕ → Clock) (args : List GoString) :
    Command → Except Panic (Resp × DataStore)
  | .set => .ok (cmdSet ut s τ args)
  | .get => .ok (s.cmdGet τ args)
  | .del => .ok (s.cmdDel τ args)
  | .exists => .ok (s.cmdExists τ args)
  | .expire => .ok (s.cmdExpire τ args)
  | .ttl => .ok (s.cmdTTL τ args)
  | .persist => .ok (s.cmdPersist τ args)
  | .incr => .ok (s.cmdIncrBy τ args 1 false)
  | .decr => .ok (s.cmdIncrBy τ args (-1) false)
  | .incrBy => .ok (s.cmdIncrBy τ args 1 true)
  | .decrBy => .ok (s.cmdIncrBy τ args (-1) true)
  | .append => .ok (s.cmdAppend τ args)
  | .hSet => .ok (s.cmdHSet τ args)
  | .hGet => .ok (s.cmdHGet τ args)
  | .hGetAll => .ok (s.cmdHGetAll τ args)
  | .hDel => .ok (s.cmdHDel τ args)
  | .hExists => .ok (s.cmdHExists τ args)
  | .lPush => .ok (s.cmdPush τ args true)
  | .rPush => .ok (s.cmdPush τ args false)
  | .lRange => s.cmdLRange τ args
  | .lLen => .ok (s.cmdLLen τ args)

end DataStore

/-! ## What a range is -/

/-- The elements from position `lo` to position `hi`, both included, in order. -/
def elementsAt {α : Type*} (list : List α) (lo hi : ℤ) : List α :=
  (list.zipIdx.filter fun p => decide (lo ≤ p.2 ∧ p.2 ≤ hi)).map Prod.fst

/-- The elements `LRANGE` is to return. -/
def rangeElements (list : List GoString) (start stop : ℤ) : List GoString :=
  elementsAt list (max (normalizeListIndex start list.length) 0)
    (min (normalizeListIndex stop list.length) (list.length - 1))

lemma elementsAt_cons {α : Type*} (a : α) (l : List α) (lo hi : ℤ) :
    elementsAt (a :: l) lo hi =
      (if lo ≤ 0 ∧ 0 ≤ hi then [a] else []) ++ elementsAt l (lo - 1) (hi - 1) := by
  have hshift : ∀ p : α × ℕ, decide (lo ≤ ((p.2 + 1 : ℕ) : ℤ) ∧ ((p.2 + 1 : ℕ) : ℤ) ≤ hi) =
      decide (lo - 1 ≤ p.2 ∧ p.2 ≤ hi - 1) := by
    intro p
    rw [decide_eq_decide]
    omega
  simp only [elementsAt, zipIdx_cons, zipIdx_succ, filter_cons, filter_map,
    Nat.cast_zero, decide_eq_true_eq, Function.comp_def, hshift]
  split <;> simp [map_map, Function.comp_def]

/-- A range is what is left of the list when the elements behind it and before it are cut off. -/
lemma elementsAt_eq {α : Type*} (l : List α) (lo hi : ℤ) :
    elementsAt l lo hi = (l.take (hi + 1).toNat).drop lo.toNat := by
  induction l generalizing lo hi with
  | nil => simp [elementsAt]
  | cons a l ih =>
    rw [elementsAt_cons, ih]
    by_cases hhi : 0 ≤ hi
    · obtain ⟨h, rfl⟩ := Int.eq_ofNat_of_zero_le hhi
      have hsucc : ((h : ℤ) + 1).toNat = h + 1 := by omega
      have hpred : ((h : ℤ) - 1 + 1).toNat = h := by omega
      by_cases hlo : lo ≤ 0
      · have h0 : lo.toNat = 0 := by omega
        have h1 : (lo - 1).toNat = 0 := by omega
        simp [hlo, hsucc, h0, h1]
      · have h1 : lo.toNat = (lo - 1).toNat + 1 := by omega
        rw [if_neg (by omega), hsucc, hpred, h1, take_succ_cons, drop_succ_cons, nil_append]
    · have h0 : (hi + 1).toNat = 0 := by omega
      have h1 : (hi - 1 + 1).toNat = 0 := by omega
      rw [if_neg (by omega), h0, h1, take_zero, take_zero, drop_nil, drop_nil, nil_append]

/-! ## When a range is returned -/

/-- The range ends before the place in front of the head, and the list is not empty. -/
def EndsBeforeHead (list : List GoString) (start stop : ℤ) : Prop :=
  list ≠ [] ∧ normalizeListIndex start list.length ≤ normalizeListIndex stop list.length ∧
    normalizeListIndex stop list.length < -1

instance (list : List GoString) (start stop : ℤ) : Decidable (EndsBeforeHead list start stop) := by
  unfold EndsBeforeHead
  infer_instance

lemma cutRange_of_lt {list : List GoString} {a b : ℤ} (hne : list ≠ []) (hle : a ≤ b)
    (hend : b < -1) : cutRange list a b = .error .makeslice := by
  have hpos : 0 < list.length := length_pos_of_ne_nil hne
  simp only [cutRange]
  rw [if_neg (by omega), if_neg (by omega : ¬ b ≥ list.length), if_pos (by omega : a < 0),
    makeSlice_of_neg [] (by omega)]
  rfl

lemma cutRange_of_not_lt {list : List GoString} {a b : ℤ}
    (h : ¬ (list ≠ [] ∧ a ≤ b ∧ b < -1)) :
    cutRange list a b = .ok (elementsAt list (max a 0) (min b (list.length - 1))) := by
  simp only [cutRange, elementsAt_eq]
  by_cases hempty : a > b ∨ a ≥ list.length ∨ (list.length : ℤ) = 0
  · -- Nothing lies between the ends.
    have hnil : (list.take (min b (list.length - 1) + 1).toNat).drop (max a 0).toNat = [] := by
      rw [drop_eq_nil_iff, length_take]
      omega
    rw [if_pos hempty, hnil]
  · have hne : list ≠ [] := by
      rintro rfl
      simp at hempty
    have hb : -1 ≤ b := by
      by_contra hb
      exact h ⟨hne, by omega, by omega⟩
    have hlo : (if a < 0 then 0 else a) = max a 0 := by split <;> omega
    have hhi : (if b ≥ list.length then (list.length : ℤ) - 1 else b) =
        min b (list.length - 1) := by
      split <;> omega
    rw [if_neg hempty, hlo, hhi, makeSlice_of_nonneg [] (by omega),
      slice_of_le (by omega) (by omega) (by omega)]
    refine congrArg Except.ok (copySlice_of_length_eq ?_)
    rw [length_replicate, length_drop, length_take]
    omega

/-- **`LRANGE` replies with the elements of the range**, for a list that is stored and any two
numbers the command reads, exactly unless the range ends before the place in front of the head;
there it panics. -/
theorem cmdLRange_eq_iff {s : DataStore} {τ : ℕ → Clock} {key a b : GoString} {start stop : ℤ}
    {e : Entry} (hlive : s.getLocked key (τ 0) = (some e, s)) (hlist : e.kind = .list)
    (hstart : parseInt a = .ok start) (hstop : parseInt b = .ok stop) :
    s.cmdLRange τ [key, a, b] = .ok (.array (rangeElements e.list start stop), s) ↔
      ¬ EndsBeforeHead e.list start stop := by
  have hcmd : s.cmdLRange τ [key, a, b] =
      (listRange e.list start stop).map fun vals => (Resp.array vals, s) := by
    simp only [DataStore.cmdLRange, hstart, hstop, DataStore.lRange, hlive, hlist, ne_eq,
      not_true_eq_false, if_false]
    cases listRange e.list start stop <;> rfl
  rw [hcmd]
  constructor
  · rintro h ⟨hne, hle, hend⟩
    rw [listRange, cutRange_of_lt hne hle hend] at h
    cases h
  · intro h
    rw [listRange, cutRange_of_not_lt h]
    rfl

def oneElement : DataStore :=
  newDataStore.put (go "k") { kind := .list, list := [go "x"] }

/-- The last two of three places, on a list that has one. -/
theorem cmdLRange_eq_iff_lastTwo :
    oneElement.cmdLRange (fun _ => Clock.epochPlus 0) [go "k", go "-2", go "-1"] =
      .ok (.array (rangeElements [go "x"] (-2) (-1)), oneElement) :=
  (cmdLRange_eq_iff (e := { kind := .list, list := [go "x"] }) rfl rfl rfl rfl).mpr (by decide)

/-- **A range before the head makes the handler panic.** -/
theorem lrange_before_head_panics :
    oneElement.cmdLRange (fun _ => Clock.epochPlus 0) [go "k", go "-5", go "-3"] =
      .error .makeslice := by
  rfl

end Mockly.Redis
