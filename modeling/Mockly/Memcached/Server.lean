import Mockly.Engine.Explain
import Mockly.Engine.Wildcard
import Mockly.Go.Strconv

/-!
# The memcached server

A loop reads a line, answers it, and goes on with whatever bytes come next. Delays pass without a
trace, and so does an error when a reply is written.
-/

namespace Mockly.Memcached

/-! ## Configuration -/

structure MemcachedResponse where
  value : GoString := []
  flags : UInt32 := 0
  status : GoString := []

structure MemcachedMock where
  command : GoString
  key : GoString := []
  response : MemcachedResponse := {}
  state : Option StateCondition := none

/-- `MemcachedFault`; the error rate only goes into the roll. -/
structure MemcachedFault where
  errorType : GoString := []
  message : GoString := []

/-- The mocks as they are at the time, and the packages the server relies on. -/
structure Server where
  mocks : List MemcachedMock := []
  env : Env

structure Moment where
  /-- What the state store has when the `i`-th key is looked up. -/
  content : ℕ → GoString → GoString := fun _ _ => []
  /-- The fault that strikes: it is in force, and `RollFault` has its error rate come true. -/
  fault : Option MemcachedFault := none

/-! ## Answers -/

/-- What `maybeInjectFault` writes. -/
def MemcachedFault.reply (fault : MemcachedFault) : GoString :=
  (if fault.errorType = [] then go "SERVER_ERROR" else fault.errorType) ++ go " " ++
    (if fault.message = [] then go "fault injected" else fault.message) ++ go "\r\n"

section Answers

variable (srv : Server) (γ : Moment)

def matchMock (i : ℕ) (command key : GoString) : Option MemcachedMock :=
  srv.mocks.find? fun m => stateHolds (some (γ.content i)) m.state &&
    (m.command == go "*" || equalFold srv.env.caseTable m.command command) &&
    (m.key == [] || matchMemcachedKey srv.env m.key key)

/-- The value for one key of a `get`. -/
def getValue (key : GoString × ℕ) : GoString :=
  match matchMock srv γ key.2 (go "get") key.1 with
  | none => []
  | some mock =>
    if mock.response.value = [] then []
    else
      go "VALUE " ++ key.1 ++ go " " ++ formatInt mock.response.flags.toNat ++ go " " ++
        formatInt mock.response.value.length ++ go "\r\n" ++ mock.response.value ++ go "\r\n"

def handleGet (keys : List GoString) : GoString :=
  match γ.fault with
  | some fault => fault.reply
  | none => keys.zipIdx.flatMap (getValue srv γ) ++ go "END\r\n"

def statusLine (command key status : GoString) (noreply : Bool) : GoString :=
  let status :=
    match matchMock srv γ 0 command key with
    | none => status
    | some mock => if mock.response.status = [] then status else mock.response.status
  if noreply then [] else status ++ go "\r\n"

def isNoreply (s : GoString) : Bool := equalFold srv.env.caseTable s (go "noreply")

def maxData : ℤ := 1024 * 1024

/-- `handleStore`: what is written, and what is left to read. -/
def handleStore (command : GoString) (parts : List GoString) (behind : GoString) :
    GoString × GoString :=
  match γ.fault with
  | some fault => (fault.reply, behind)
  | none =>
    if parts.length < 5 then (go "ERROR\r\n", behind)
    else
      let bytesLen := atoi (parts.getD 4 [])
      if bytesLen < 0 ∨ bytesLen > maxData then (go "CLIENT_ERROR bad data chunk\r\n", behind)
      -- A block that is cut short is read as far as it goes, and not answered.
      else if behind.length < bytesLen.toNat + 2 then ([], [])
      else
        (statusLine srv γ command (parts.getD 1 []) (go "STORED")
            (decide (5 < parts.length) && isNoreply srv (parts.getD 5 [])),
          behind.drop (bytesLen.toNat + 2))

def handleSimpleMutation (command : GoString) (parts : List GoString) : GoString :=
  match γ.fault with
  | some fault => fault.reply
  | none =>
    if parts.length < 2 then go "ERROR\r\n"
    else
      statusLine srv γ command (parts.getD 1 [])
        (if command = go "delete" then go "DELETED" else go "NOT_FOUND")
        (decide (2 < parts.length) && isNoreply srv (parts.getLastD []))

/-! ## The loop -/

def storageCommands : List GoString := [go "set", go "add", go "replace"]

/-- The cases of the loop: what is written, and what is left to read unless the connection is
closed. -/
def handleCommand (command : GoString) (parts : List GoString) (behind : GoString) :
    GoString × Option GoString :=
  if command = go "quit" then ([], none)
  else if command = go "version" then (go "VERSION 1.6.0\r\n", some behind)
  else if command = go "stats" then
    (go "STAT pid 1\r\nSTAT version 1.6.0\r\nEND\r\n", some behind)
  else if command = go "flush_all" then (go "OK\r\n", some behind)
  else if command = go "get" then (handleGet srv γ (parts.drop 1), some behind)
  else if command ∈ storageCommands then
    let (reply, rest) := handleStore srv γ command parts behind
    (reply, some rest)
  else if command ∈ [go "delete", go "incr", go "decr"] then
    (handleSimpleMutation srv γ command parts, some behind)
  else (go "ERROR\r\n", some behind)

def lineParts (text : GoString) : List GoString := fields (trimRight text [0x0D, 0x0A])

/-- One round of the loop of `handleConn`; an empty line has no words. -/
def handleLine (text behind : GoString) : GoString × Option GoString :=
  match lineParts text with
  | [] => ([], some behind)
  | name :: args =>
    handleCommand srv γ (toLower srv.env.caseTable name) (name :: args) behind

end Answers

def newline : UInt8 := 0x0A

/-- `ReadString('\n')`: the line with its end, and what is behind it.  There is an error if there is
no end. -/
def readLine (r : GoString) : Option (GoString × GoString) :=
  if newline ∈ r then
    some (r.takeWhile (· ≠ newline) ++ [newline], (r.dropWhile (· ≠ newline)).drop 1)
  else none

/-- A round of the loop: the line, what is behind it, whether a fault strikes, and the answer. -/
structure Turn where
  text : GoString
  behind : GoString
  struck : Bool
  reply : GoString

def Turn.start (x : Turn) : GoString := x.text ++ x.behind

/-- The rounds of `handleConn` from the `i`-th line on. -/
def turns (srv : Server) (γ : ℕ → Moment) : ℕ → ℕ → GoString → List Turn
  | 0, _, _ => []
  | fuel + 1, i, r =>
    match readLine r with
    | none => []
    | some (text, behind) =>
      let answer := handleLine srv (γ i) text behind
      ⟨text, behind, (γ i).fault.isSome, answer.1⟩ ::
        match answer.2 with
        | none => []
        | some rest => turns srv γ fuel (i + 1) rest

/-- `handleConn`; a line takes at least one byte. -/
def handleConn (srv : Server) (γ : ℕ → Moment) (r : GoString) : List Turn :=
  turns srv γ r.length 0 r

end Mockly.Memcached
