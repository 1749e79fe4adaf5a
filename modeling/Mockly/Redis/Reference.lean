import Mockly.Redis.DataStore

/-!
# The reference store

The data store without the laziness: a key is gone at the first instant after its deadline
(`Ref.advance`). `Ref.exec` lets time pass up to each instant at which the operation looks at the
store.
-/

namespace Mockly.Redis

inductive Value
  | string (s : GoString)
  | hash (m : Finmap fun _ : GoString => GoString)
  | list (l : List GoString)

/-- A value, and the last instant at which it is there. -/
structure Cell where
  value : Value
  deadline : Option ℤ

def Cell.lives (c : Cell) (now : ℤ) : Bool :=
  match c.deadline with
  | none => true
  | some d => decide (now ≤ d)

/-- Keys with their values and deadlines. -/
abbrev Ref := GoString → Option Cell

namespace Ref

def empty : Ref := fun _ => none

/-- Time passes: every key whose deadline lies strictly before `now` is removed. -/
def advance (now : ℤ) (r : Ref) : Ref := fun k => (r k).filter fun c => c.lives now

def put (r : Ref) (key : GoString) (c : Cell) : Ref := Function.update r key (some c)

def remove (r : Ref) (key : GoString) : Ref := Function.update r key none

/-! ## The operations

A reading operation is its answer for an absent key and its answer for a value; an operation that
changes the value at a key keeps the deadline that is there. -/

def read (r : Ref) (key : GoString) (absent : Reply) (answer : Value → Reply) : Reply :=
  match r key with
  | none => absent
  | some c => answer c.value

/-- The new value and the answer are computed from the old value, `fresh` standing in for it when
the key is absent; an error changes nothing. -/
def modify (r : Ref) (key : GoString) (fresh : Value) (f : Value → Except Err (Result × Value)) :
    Reply × Ref :=
  let c := (r key).getD ⟨fresh, none⟩
  match f c.value with
  | .error e => (.error e, r)
  | .ok (answer, v) => (.ok answer, r.put key { c with value := v })

def set (r : Ref) (key value : GoString) (ttl now : ℤ) : Ref :=
  r.put key ⟨.string value, if ttl > 0 then some (now + ttl) else none⟩

def get (r : Ref) (key : GoString) : Reply :=
  r.read key (.ok (.value [] false)) fun
    | .string s => .ok (.value s true)
    | _ => .error .wrongType

def del (r : Ref) (n : ℕ) (τ : ℕ → Clock) : List GoString → ℕ × Ref
  | [] => (n, r)
  | k :: ks =>
    let r := r.advance (τ 0)
    match r k with
    | none => del r n (fun i => τ (i + 1)) ks
    | some _ => del (r.remove k) (n + 1) (fun i => τ (i + 1)) ks

def «exists» (r : Ref) (n : ℕ) (τ : ℕ → Clock) : List GoString → ℕ × Ref
  | [] => (n, r)
  | k :: ks =>
    let r := r.advance (τ 0)
    match r k with
    | none => «exists» r n (fun i => τ (i + 1)) ks
    | some _ => «exists» r (n + 1) (fun i => τ (i + 1)) ks

def expire (r : Ref) (key : GoString) (seconds : ℤ) (now : ℤ) : Bool × Ref :=
  match r key with
  | none => (false, r)
  | some c => (true, r.put key { c with deadline := some (now + wrap64 (seconds * second)) })

def ttl (r : Ref) (key : GoString) (now : ℤ) : ℤ :=
  match r key with
  | none => -2
  | some c =>
    match c.deadline with
    | none => -1
    | some d => wholeSeconds (round (sub d now) second)

def persist (r : Ref) (key : GoString) : Bool × Ref :=
  match r key with
  | some ⟨v, some _⟩ => (true, r.put key ⟨v, none⟩)
  | _ => (false, r)

def incrBy (r : Ref) (key : GoString) (delta : ℤ) : Reply × Ref :=
  r.modify key (.string (go "0")) fun
    | .string s =>
      match parseInt s with
      | .error e => .error (.num e)
      | .ok n => .ok (.count (wrap64 (n + delta)), .string (formatInt (wrap64 (n + delta))))
    | _ => .error .wrongType

def append (r : Ref) (key value : GoString) : Reply × Ref :=
  r.modify key (.string []) fun
    | .string s => .ok (.count (s.length + value.length), .string (s ++ value))
    | _ => .error .wrongType

/-- The fields win over those that are there; what counts is how many were not. -/
def hSet (r : Ref) (key : GoString) (fields : Finmap fun _ : GoString => GoString) :
    Reply × Ref :=
  r.modify key (.hash ∅) fun
    | .hash m => .ok (.count (fields.keys \ m.keys).card, .hash (fields ∪ m))
    | _ => .error .wrongType

def hGet (r : Ref) (key field : GoString) : Reply :=
  r.read key (.ok (.value [] false)) fun
    | .hash m => .ok (.value ((m.lookup field).getD []) (m.lookup field).isSome)
    | _ => .error .wrongType

def hGetAll (r : Ref) (key : GoString) : Reply :=
  r.read key (.ok (.fields ∅)) fun
    | .hash m => .ok (.fields m)
    | _ => .error .wrongType

/-- The fields go; what counts is how many of them were there. -/
def hDel (r : Ref) (key : GoString) (fields : List GoString) : Reply × Ref :=
  match r key with
  | none => (.ok (.count 0), r)
  | some c =>
    match c.value with
    | .hash m =>
      (.ok (.count (fields.toFinset ∩ m.keys).card),
        r.put key { c with value := .hash (fields.foldl (fun m f => m.erase f) m) })
    | _ => (.error .wrongType, r)

def hExists (r : Ref) (key field : GoString) : Reply :=
  r.read key (.ok (.flag false)) fun
    | .hash m => .ok (.flag (m.lookup field).isSome)
    | _ => .error .wrongType

/-- The last value pushed on the left ends up at the head. -/
def lPush (r : Ref) (key : GoString) (values : List GoString) : Reply × Ref :=
  r.modify key (.list []) fun
    | .list l => .ok (.count (values.length + l.length), .list (values.reverse ++ l))
    | _ => .error .wrongType

def rPush (r : Ref) (key : GoString) (values : List GoString) : Reply × Ref :=
  r.modify key (.list []) fun
    | .list l => .ok (.count (l.length + values.length), .list (l ++ values))
    | _ => .error .wrongType

def lLen (r : Ref) (key : GoString) : Reply :=
  r.read key (.ok (.count 0)) fun
    | .list l => .ok (.count l.length)
    | _ => .error .wrongType

/-- The operation on a store that is purged at every instant `τ 0`, `τ 1`, … it looks at. -/
def act (r : Ref) (τ : ℕ → Clock) : Op → Reply × Ref
  | .set key value ttl => (.ok .done, (r.advance (τ 0)).set key value ttl (τ 0))
  | .get key => ((r.advance (τ 0)).get key, r.advance (τ 0))
  | .del keys => let (n, r) := r.del 0 τ keys; (.ok (.count n), r)
  | .exists keys => let (n, r) := r.exists 0 τ keys; (.ok (.count n), r)
  | .expire key seconds =>
    let (b, r) := (r.advance (τ 0)).expire key seconds (τ 1)
    (.ok (.flag b), r)
  | .ttl key =>
    let r := r.advance (τ 1)
    (.ok (.count (r.ttl key (τ 1))), r)
  | .persist key => let (b, r) := (r.advance (τ 0)).persist key; (.ok (.flag b), r)
  | .incrBy key delta => (r.advance (τ 0)).incrBy key delta
  | .append key value => (r.advance (τ 0)).append key value
  | .hSet key fields => (r.advance (τ 0)).hSet key fields.toFinmap
  | .hGet key field => ((r.advance (τ 0)).hGet key field, r.advance (τ 0))
  | .hGetAll key => ((r.advance (τ 0)).hGetAll key, r.advance (τ 0))
  | .hDel key fields => (r.advance (τ 0)).hDel key fields
  | .hExists key field => ((r.advance (τ 0)).hExists key field, r.advance (τ 0))
  | .lPush key values => (r.advance (τ 0)).lPush key values
  | .rPush key values => (r.advance (τ 0)).rPush key values
  | .lLen key => ((r.advance (τ 0)).lLen key, r.advance (τ 0))
  | .flush => (.ok .done, empty)

/-- The operation, and the purge that time brings by its end. -/
def exec (r : Ref) (τ : ℕ → Clock) (op : Op) : Reply × Ref :=
  ((r.act τ op).1, (r.act τ op).2.advance (τ op.readings))

/-! ## Time and the other operations -/

lemma lives_mono {c : Cell} {t t' : ℤ} (h : t ≤ t') (hl : c.lives t' = true) :
    c.lives t = true := by
  simp only [Cell.lives] at hl ⊢
  split
  · rfl
  · rename_i d hd
    simp only [hd, decide_eq_true_eq] at hl ⊢
    omega

lemma advance_advance {t t' : ℤ} (h : t ≤ t') (r : Ref) :
    (r.advance t).advance t' = r.advance t' := by
  funext k
  show ((r k).filter _).filter _ = (r k).filter _
  cases r k with
  | none => rfl
  | some c =>
    by_cases hl : c.lives t' = true
    · simp [Option.filter, hl, lives_mono h hl]
    · by_cases hl' : c.lives t = true <;> simp [Option.filter, hl, hl']

lemma advance_put (r : Ref) (key : GoString) (c : Cell) (t : ℤ) :
    (r.put key c).advance t =
      Function.update (r.advance t) key ((some c).filter fun c => c.lives t) := by
  funext k
  by_cases h : k = key
  · subst h
    simp [advance, put]
  · simp [advance, put, h]

lemma advance_remove (r : Ref) (key : GoString) (t : ℤ) :
    (r.remove key).advance t = (r.advance t).remove key := by
  funext k
  by_cases h : k = key
  · subst h
    simp [advance, remove]
  · simp [advance, remove, h]

end Ref

end Mockly.Redis
