import Mockly.Engine.Explain
import Mockly.Engine.Wildcard
import Mockly.STOMP.Frames

/-!
# The STOMP server

The clients share one table of subscriptions by destination; each has a map of its own from ids to
destinations. What is done to either is done under one lock, so an interleaving of the loops is a
list of events. Delays and the log are left out.
-/

namespace Mockly.STOMP

open Transition

/-! ## Configuration -/

structure STOMPResponse where
  destination : GoString := []
  body : GoString := []
  contentType : GoString := []
  headers : GoMap GoString := ∅

structure STOMPMock where
  destination : GoString := []
  response : Option STOMPResponse := none
  state : Option StateCondition := none

/-- `STOMPFault`; its delay passes without a trace, and the error rate only goes into the roll. -/
structure STOMPFault where
  message : GoString := []

structure ReceivedSTOMPMessage where
  id : GoString
  destination : GoString
  body : GoString
  headers : GoMap GoString
  timestamp : GoString

/-- `MessageStore.Add`, for the capacity `New` asks for. -/
def addMessage (messages : List ReceivedSTOMPMessage) (msg : ReceivedSTOMPMessage) :
    List ReceivedSTOMPMessage :=
  (if 1000 ≤ messages.length then messages.drop 1 else messages) ++ [msg]

/-! ## The state of the server -/

/-- `subscription`.  A client is known by the instant it was accepted at, in nanoseconds. -/
structure Subscription where
  id : GoString
  client : ℕ

inductive Status
  | reading
  | sending (dest : GoString) (resp : STOMPResponse)
  /-- In `removeClient`. -/
  | leaving
  | gone

structure ClientConn where
  subs : GoMap GoString := ∅
  status : Status := .reading

/-- The clients, the table and what was sent. -/
structure State where
  clients : ℕ → Option ClientConn := fun _ => none
  subscriptions : GoMap (GoMap Subscription) := ∅
  messages : List ReceivedSTOMPMessage := []
  sent : List (ℕ × Frame) := []

/-- The key of a subscription: `client.id+":"+id`. -/
def subKey (client : ℕ) (id : GoString) : GoString := formatNat client ++ go ":" ++ id

def State.setClient (s : State) (client : ℕ) (c : ClientConn) : State :=
  { s with clients := Function.update s.clients client (some c) }

def State.setStatus (s : State) (client : ℕ) (c : ClientConn) (status : Status) : State :=
  s.setClient client { c with status := status }

def State.write (s : State) (client : ℕ) (f : Frame) : State :=
  { s with sent := s.sent ++ [(client, f)] }

/-! ## Subscriptions -/

def addSubscription (s : State) (client : ℕ) (c : ClientConn) (id dest : GoString) : State :=
  let inner := (s.subscriptions.get? dest).getD ∅
  { s.setClient client { c with subs := c.subs.set id dest } with
    subscriptions := s.subscriptions.set dest (inner.set (subKey client id) ⟨id, client⟩) }

/-- The table without a subscription; a destination without any is dropped. -/
def removeKey (subscriptions : GoMap (GoMap Subscription)) (dest key : GoString) :
    GoMap (GoMap Subscription) :=
  match subscriptions.get? dest with
  | none => subscriptions
  | some inner =>
    if (inner.del key).size = 0 then subscriptions.del dest
    else subscriptions.set dest (inner.del key)

def removeSubscription (s : State) (client : ℕ) (c : ClientConn) (id : GoString) : State :=
  { s.setClient client { c with subs := c.subs.del id } with
    subscriptions := removeKey s.subscriptions (c.subs.getD id) (subKey client id) }

/-! ## Answers -/

structure Moment where
  mocks : List STOMPMock := []
  content : GoString → GoString := fun _ => []
  /-- The fault that strikes: it is in force, and `RollFault` has its error rate come true. -/
  fault : Option STOMPFault := none
  /-- The id and the timestamp of the message that is recorded. -/
  id : GoString := []
  timestamp : GoString := []
  env : Env := .basic

def matchDestination (env : Env) (pattern dest : GoString) : Bool := matchWildcard env pattern dest

def matchMock (γ : Moment) (dest : GoString) : Option STOMPMock :=
  γ.mocks.find? fun m => stateHolds (some γ.content) m.state &&
    matchDestination γ.env m.destination dest

/-- The subscriptions `deliver` finds. -/
def recipients (ord : RangeOrder Subscription) (s : State) (dest : GoString) : List Subscription :=
  (ord.seq ((s.subscriptions.get? dest).getD ∅)).map Prod.snd

def messageFrame (dest : GoString) (resp : STOMPResponse) (sub : Subscription)
    (messageID : GoString) : Frame where
  cmd := go "MESSAGE"
  headers :=
    let headers : GoMap GoString := .ofList
      [(go "subscription", sub.id), (go "message-id", messageID), (go "destination", dest)]
    let headers :=
      if resp.contentType = [] then headers
      else headers.set (go "content-type") resp.contentType
    headers.setAll resp.headers.toList
  body := resp.body

/-- `deliver`: what is written to the clients.  `nanos` is the clock at each of the frames. -/
def deliver (ord : RangeOrder Subscription) (nanos : ℕ → ℕ) (s : State) (dest : GoString)
    (resp : STOMPResponse) : List (ℕ × Frame) :=
  (recipients ord s dest).zipIdx.map fun p =>
    (p.1.client, messageFrame dest resp p.1 (formatNat (nanos p.2)))

def writeReceipt (s : State) (client : ℕ) (f : Frame) : State :=
  let receipt := f.headers.getD (go "receipt")
  if receipt = [] then s
  else s.write client ⟨go "RECEIPT", .ofList [(go "receipt-id", receipt)], []⟩

/-- `SEND`: the message is recorded; then a fault puts an end to the connection, or the response of
the mock is to be delivered. -/
def handleSend (γ : Moment) (s : State) (client : ℕ) (c : ClientConn) (f : Frame) : State :=
  let dest := f.headers.getD (go "destination")
  let s := { s with messages := addMessage s.messages ⟨γ.id, dest, f.body, f.headers, γ.timestamp⟩ }
  match γ.fault with
  | some fault =>
    let msg := if fault.message = [] then go "fault injected" else fault.message
    (s.write client ⟨go "ERROR", .ofList [(go "message", msg)], []⟩).setStatus client c .leaving
  | none =>
    match (matchMock γ dest).bind STOMPMock.response with
    | none => s
    | some resp =>
      let responseDest := if resp.destination = [] then dest else resp.destination
      s.setStatus client c (.sending responseDest resp)

/-- One round of the loop of `handleConn`. -/
def handleFrame (γ : Moment) (s : State) (client : ℕ) (c : ClientConn) (f : Frame) : State :=
  if f.cmd = go "CONNECT" ∨ f.cmd = go "STOMP" then
    s.write client ⟨go "CONNECTED",
      .ofList [(go "version", go "1.2"), (go "heart-beat", go "0,0")], []⟩
  else if f.cmd = go "SUBSCRIBE" then
    addSubscription s client c (f.headers.getD (go "id")) (f.headers.getD (go "destination"))
  else if f.cmd = go "UNSUBSCRIBE" then
    removeSubscription s client c (f.headers.getD (go "id"))
  else if f.cmd = go "SEND" then handleSend γ s client c f
  else if f.cmd = go "ACK" ∨ f.cmd = go "NACK" then writeReceipt s client f
  else if f.cmd = go "DISCONNECT" then (writeReceipt s client f).setStatus client c .leaving
  else s

/-! ## Interleavings -/

/-- What can happen to a client or the table. -/
inductive Event
  | connect (client : ℕ)
  | frame (client : ℕ) (f : Frame) (γ : Moment)
  /-- `readSTOMPFrame` has failed. -/
  | fail (client : ℕ)
  /-- The loop of a client delivers a response. -/
  | deliver (client : ℕ) (ord : RangeOrder Subscription) (nanos : ℕ → ℕ)
  /-- One turn of the loop of `removeClient`. -/
  | remove (client : ℕ) (id : GoString)
  /-- The loop of `removeClient` has ended. -/
  | finish (client : ℕ)

/-- One event.  No two clients have the same id; the loop of `removeClient` ranges over the ids that
are left. -/
def step (s : State) : Event → Option State
  | .connect client =>
    match s.clients client with
    | none => some (s.setClient client {})
    | some _ => none
  | .frame client f γ =>
    match s.clients client with
    | some ⟨subs, .reading⟩ => some (handleFrame γ s client ⟨subs, .reading⟩ f)
    | _ => none
  | .fail client =>
    match s.clients client with
    | some ⟨subs, .reading⟩ => some (s.setClient client ⟨subs, .leaving⟩)
    | _ => none
  | .deliver client ord nanos =>
    match s.clients client with
    | some ⟨subs, .sending dest resp⟩ =>
      some { s.setClient client ⟨subs, .reading⟩ with
        sent := s.sent ++ deliver ord nanos s dest resp }
    | _ => none
  | .remove client id =>
    match s.clients client with
    | some ⟨subs, .leaving⟩ =>
      if (subs.get? id).isSome then some (removeSubscription s client ⟨subs, .leaving⟩ id)
      else none
    | _ => none
  | .finish client =>
    match s.clients client with
    | some ⟨subs, .leaving⟩ =>
      if subs.size = 0 then some (s.setClient client ⟨subs, .gone⟩) else none
    | _ => none

def new : State := {}

end Mockly.STOMP
