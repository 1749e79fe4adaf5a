import Mockly.Go.Maps
import Mockly.Go.Strconv
import Mockly.Lib.Transition

/-!
# The request log

`Log` stores the entry and copies the channels out of the table in one critical section, and sends
to them afterwards. The cancel function of a subscriber removes the table entry under the lock and
then closes the channel without it. An event of `System` is what a goroutine does between two
moments at which another may run.
-/

namespace Mockly

namespace Logger

/-! ## Entries -/

structure NearMiss where
  mockID : GoString
  reason : GoString

structure Entry where
  id : GoString := []
  timestamp : ℤ := 0
  protocol : GoString := []
  method : GoString := []
  path : GoString := []
  status : ℤ := 0
  duration : ℤ := 0
  headers : GoMap GoString := ∅
  body : GoString := []
  matchedID : GoString := []
  pathParams : GoMap GoString := ∅
  nearMisses : List NearMiss := []

/-- What `Log` fills in: an ID from the time since the Unix epoch, and the time itself. -/
def Entry.stamp (e : Entry) (unixNano now : ℤ) : Entry :=
  { e with
    id := if e.id = [] then formatInt unixNano else e.id
    timestamp := if e.timestamp = 0 then now else e.timestamp }

/-! ## The log -/

end Logger

/-- `Logger`, without its mutex; `κ` stands for the channels. -/
structure Logger (κ : Type) where
  entries : List Logger.Entry := []
  maxEntries : ℕ
  subscribers : GoMap κ := ∅

namespace Logger

section Operations

variable {κ : Type}

def new (maxEntries : ℤ) : Logger κ :=
  { maxEntries := if maxEntries ≤ 0 then 500 else maxEntries.toNat }

/-- What `Log` stores: of too many entries the oldest go. -/
def append (l : Logger κ) (e : Entry) : Logger κ :=
  let entries := l.entries ++ [e]
  { l with
    entries :=
      if entries.length > l.maxEntries then entries.drop (entries.length - l.maxEntries)
      else entries }

/-- The channels `Log` copies out of the table. -/
def channels (l : Logger κ) : List κ := l.subscribers.toList.map Prod.snd

def clear (l : Logger κ) : Logger κ := { l with entries := [] }

def clearByMockID (l : Logger κ) (mockID : GoString) : Logger κ :=
  { l with entries := l.entries.filter fun e => e.matchedID ≠ mockID }

def entriesByMockID (l : Logger κ) (mockID : GoString) : List Entry :=
  l.entries.filter fun e => e.matchedID = mockID

lemma mem_channels {l : Logger κ} {k : κ} :
    k ∈ l.channels ↔ ∃ id, l.subscribers.get? id = some k := by
  simp [channels, GoMap.mem_toList]

end Operations

/-! ## Channels -/

structure Channel where
  buffer : List Entry := []
  closed : Bool := false

/-- The capacity `Subscribe` gives to a channel. -/
def channelSize : ℕ := 64

/-- `select { case ch <- e: default: }` on an open channel. -/
def Channel.trySend (c : Channel) (e : Entry) : Channel :=
  if c.buffer.length < channelSize then { c with buffer := c.buffer ++ [e] } else c

/-- Whether the entry went in or not, the channel is not empty afterwards. -/
lemma Channel.trySend_buffer_ne (c : Channel) (e : Entry) : (c.trySend e).buffer ≠ [] := by
  simp only [trySend]
  split
  · simp
  · rename_i hfull
    intro hnil
    rw [hnil] at hfull
    exact hfull (by simp [channelSize])

@[simp] lemma Channel.trySend_closed (c : Channel) (e : Entry) :
    (c.trySend e).closed = c.closed := by
  simp only [trySend]
  split <;> rfl

/-! ## Goroutines sharing the log -/

/-- A subscriber: the ID it registers under, and what it waits for if it is a `WaitFor`. -/
structure Subscriber where
  id : GoString
  waitsFor : Option (GoString × ℤ) := none

inductive Phase
  | absent
  /-- A `WaitFor` that is about to count the entries of its mock. -/
  | checking
  /-- In the `select`: blocked until there is something to receive or the context is done. -/
  | waiting
  | leaving
  /-- The table entry is removed; the channel is closed next. -/
  | closing
  | gone
  deriving DecidableEq

/-- The registration of a subscriber is in force until its own cancel function runs. -/
def Phase.Subscribed (p : Phase) : Prop := p = .checking ∨ p = .waiting ∨ p = .leaving

/-- A call of `Log` after its critical section: the entry and the channels it has yet to send to.
The order in which they come out of the table is left open. -/
structure Sending (κ : Type) where
  entry : Entry
  pending : List κ

/-- The log, the subscribers, and the goroutines inside a call of `Log`. -/
structure System (ι κ : Type) where
  log : Logger κ
  chan : κ → Channel
  phase : κ → Phase
  expired : κ → Bool
  calls : ι → Option (Sending κ)
  panicked : Bool

/-- What a goroutine does between two switches. -/
inductive Event (ι κ : Type)
  | log (g : ι) (e : Entry) (unixNano now : ℤ)
  | send (g : ι) (k : κ)
  | logReturn (g : ι)
  | subscribe (k : κ)
  | check (k : κ)
  | receive (k : κ)
  | expire (k : κ)
  | giveUp (k : κ)
  | unregister (k : κ)
  | close (k : κ)
  | clear
  | clearByMockID (mockID : GoString)

def System.init {ι κ : Type} (maxEntries : ℤ) : System ι κ where
  log := .new maxEntries
  chan := fun _ => {}
  phase := fun _ => .absent
  expired := fun _ => false
  calls := fun _ => none
  panicked := false

section Step

variable {ι κ : Type} [DecidableEq ι] [DecidableEq κ] (subs : κ → Subscriber)

def System.setPhase (s : System ι κ) (k : κ) (p : Phase) : System ι κ :=
  { s with phase := Function.update s.phase k p }

def System.setChan (s : System ι κ) (k : κ) (c : Channel) : System ι κ :=
  { s with chan := Function.update s.chan k c }

def System.setCall (s : System ι κ) (g : ι) (c : Option (Sending κ)) : System ι κ :=
  { s with calls := Function.update s.calls g c }

/-- The channels the call of goroutine `g` has yet to send to. -/
def System.pending (s : System ι κ) (g : ι) : List κ := ((s.calls g).map Sending.pending).getD []

/-- Where a subscriber goes from outside the `select`: a `WaitFor` counts first. -/
def Subscriber.entersAt (sub : Subscriber) : Phase :=
  if sub.waitsFor.isSome then .checking else .waiting

def step (s : System ι κ) (ev : Event ι κ) : Option (System ι κ) :=
  if s.panicked then none
  else
    match ev with
    | .log g e unixNano now =>
      match s.calls g with
      | some _ => none
      | none =>
        let e := e.stamp unixNano now
        some { s.setCall g (some ⟨e, s.log.channels⟩) with log := s.log.append e }
    | .send g k =>
      match s.calls g with
      | none => none
      | some c =>
        if k ∈ c.pending then
          if (s.chan k).closed then some { s with panicked := true }
          else
            some ((s.setCall g (some { c with pending := c.pending.erase k })).setChan k
              ((s.chan k).trySend c.entry))
        else none
    | .logReturn g =>
      match s.calls g with
      | some ⟨_, []⟩ => some (s.setCall g none)
      | _ => none
    | .subscribe k =>
      if s.phase k = .absent then
        some { (s.setPhase k (subs k).entersAt).setChan k {} with
          log := { s.log with subscribers := s.log.subscribers.set (subs k).id k } }
      else none
    | .check k =>
      match s.phase k, (subs k).waitsFor with
      | .checking, some (mockID, count) =>
        if count ≤ (s.log.entriesByMockID mockID).length then some (s.setPhase k .leaving)
        else some (s.setPhase k .waiting)
      | _, _ => none
    | .receive k =>
      match s.phase k, (s.chan k).buffer with
      | .waiting, _ :: rest =>
        some ((s.setPhase k (subs k).entersAt).setChan k { s.chan k with buffer := rest })
      | .waiting, [] =>
        if (s.chan k).closed then some (s.setPhase k .leaving) else none
      | _, _ => none
    | .expire k => some { s with expired := Function.update s.expired k true }
    | .giveUp k =>
      if s.phase k = .waiting ∧ s.expired k then some (s.setPhase k .leaving) else none
    | .unregister k =>
      if s.phase k = .leaving then
        some { s.setPhase k .closing with
          log := { s.log with subscribers := s.log.subscribers.del (subs k).id } }
      else none
    | .close k =>
      if s.phase k = .closing then
        some ((s.setPhase k .gone).setChan k { s.chan k with closed := true })
      else none
    | .clear => some { s with log := s.log.clear }
    | .clearByMockID mockID => some { s with log := s.log.clearByMockID mockID }

/-- What a step does, one case for each way it can go.  The proofs about runs start from here. -/
inductive Effect (s : System ι κ) : Event ι κ → System ι κ → Prop
  | log {g e unixNano now} (hg : s.calls g = none) :
      Effect s (.log g e unixNano now)
        { s.setCall g (some ⟨e.stamp unixNano now, s.log.channels⟩) with
          log := s.log.append (e.stamp unixNano now) }
  | panic {g k c} (hg : s.calls g = some c) (hk : k ∈ c.pending) (hclosed : (s.chan k).closed) :
      Effect s (.send g k) { s with panicked := true }
  | send {g k c} (hg : s.calls g = some c) (hk : k ∈ c.pending)
      (hopen : (s.chan k).closed = false) :
      Effect s (.send g k)
        ((s.setCall g (some { c with pending := c.pending.erase k })).setChan k
          ((s.chan k).trySend c.entry))
  | logReturn {g e} (hg : s.calls g = some ⟨e, []⟩) : Effect s (.logReturn g) (s.setCall g none)
  | subscribe {k} (hk : s.phase k = .absent) :
      Effect s (.subscribe k)
        { (s.setPhase k (subs k).entersAt).setChan k {} with
          log := { s.log with subscribers := s.log.subscribers.set (subs k).id k } }
  | enough {k mockID count} (hk : s.phase k = .checking)
      (hw : (subs k).waitsFor = some (mockID, count))
      (hle : count ≤ (s.log.entriesByMockID mockID).length) :
      Effect s (.check k) (s.setPhase k .leaving)
  | short {k mockID count} (hk : s.phase k = .checking)
      (hw : (subs k).waitsFor = some (mockID, count))
      (hlt : (s.log.entriesByMockID mockID).length < count) :
      Effect s (.check k) (s.setPhase k .waiting)
  | receive {k e rest} (hk : s.phase k = .waiting) (hbuf : (s.chan k).buffer = e :: rest) :
      Effect s (.receive k)
        ((s.setPhase k (subs k).entersAt).setChan k { s.chan k with buffer := rest })
  | receiveClosed {k} (hk : s.phase k = .waiting) (hclosed : (s.chan k).closed) :
      Effect s (.receive k) (s.setPhase k .leaving)
  | expire {k} : Effect s (.expire k) { s with expired := Function.update s.expired k true }
  | giveUp {k} (hk : s.phase k = .waiting) : Effect s (.giveUp k) (s.setPhase k .leaving)
  | unregister {k} (hk : s.phase k = .leaving) :
      Effect s (.unregister k)
        { s.setPhase k .closing with
          log := { s.log with subscribers := s.log.subscribers.del (subs k).id } }
  | close {k} (hk : s.phase k = .closing) :
      Effect s (.close k) ((s.setPhase k .gone).setChan k { s.chan k with closed := true })
  | clear : Effect s .clear { s with log := s.log.clear }
  | clearByMockID {mockID} :
      Effect s (.clearByMockID mockID) { s with log := s.log.clearByMockID mockID }

variable {subs}

lemma step_effect {s s' : System ι κ} {ev : Event ι κ} (h : step subs s ev = some s') :
    s.panicked = false ∧ Effect subs s ev s' := by
  simp only [step] at h
  split at h
  · simp at h
  · rename_i hp
    refine ⟨by simpa using hp, ?_⟩
    split at h
    case h_1 =>
      split at h
      · simp at h
      · cases h
        exact .log (by assumption)
    case h_2 =>
      split at h
      · simp at h
      · rename_i hg
        split_ifs at h with hk hc
        · cases h
          exact .panic hg hk hc
        · cases h
          exact .send hg hk (by simpa using hc)
    case h_3 =>
      split at h
      · cases h
        exact .logReturn (by assumption)
      · simp at h
    case h_4 =>
      split_ifs at h with hk
      cases h
      exact .subscribe hk
    case h_5 =>
      split at h
      · rename_i hk hw
        split_ifs at h with hle
        · cases h
          exact .enough hk hw hle
        · cases h
          exact .short hk hw (by omega)
      · simp at h
    case h_6 =>
      split at h
      · cases h
        exact .receive (by assumption) (by assumption)
      · rename_i hk _
        split_ifs at h with hc
        cases h
        exact .receiveClosed hk hc
      · simp at h
    case h_7 =>
      cases h
      exact .expire
    case h_8 =>
      split_ifs at h with hk
      cases h
      exact .giveUp hk.1
    case h_9 =>
      split_ifs at h with hk
      cases h
      exact .unregister hk
    case h_10 =>
      split_ifs at h with hk
      cases h
      exact .close hk
    case h_11 =>
      cases h
      exact .clear
    case h_12 =>
      cases h
      exact .clearByMockID

end Step

end Logger

end Mockly
