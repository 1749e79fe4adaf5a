import Mockly.SNMP.OID

/-!
# The SNMP agent

Packets and the keys of the user-based security model are the business of the `gosnmp` library, a
parameter here (`Library`). Every run of a callback is recorded.

Main result: **`unauthorised_reply_independent_of_oids`**.
-/

namespace Mockly.SNMP

/-! ## Packets -/

inductive SnmpVersion
  | version1
  | version2c
  | version3
  | other (n : UInt8)
  deriving DecidableEq

inductive PDUType
  | getRequest
  | getNextRequest
  | getResponse
  | setRequest
  | getBulkRequest
  | report
  | other (tag : UInt8)

inductive SNMPError
  | noError
  | noSuchName
  | readOnly
  | notWritable
  | other (n : UInt8)
  deriving DecidableEq

/-- `SnmpV3AuthProtocol`, in ascending order; the zero value comes before `NoAuth`. -/
inductive AuthProtocol
  | unset
  | noAuth
  | md5
  | sha
  | sha224
  | sha256
  | sha384
  | sha512
  deriving DecidableEq

/-- `SnmpV3PrivProtocol`, in ascending order. -/
inductive PrivProtocol
  | unset
  | noPriv
  | des
  | aes
  | aes192
  | aes256
  deriving DecidableEq

/-- `proto > gosnmp.NoAuth`. -/
def AuthProtocol.aboveNoAuth (p : AuthProtocol) : Bool := p != .unset && p != .noAuth

/-- `proto > gosnmp.NoPriv`. -/
def PrivProtocol.aboveNoPriv (p : PrivProtocol) : Bool := p != .unset && p != .noPriv

structure UsmSecurityParameters where
  authoritativeEngineID : GoString := []
  authoritativeEngineBoots : UInt32 := 0
  authoritativeEngineTime : UInt32 := 0
  userName : GoString := []
  authenticationParameters : GoString := []
  privacyParameters : GoString := []
  authenticationProtocol : AuthProtocol := .unset
  privacyProtocol : PrivProtocol := .unset
  authenticationPassphrase : GoString := []
  privacyPassphrase : GoString := []
  secretKey : GoString := []
  privacyKey : GoString := []

inductive SecurityParameters
  | usm (p : UsmSecurityParameters)
  | other

/-- `gosnmp.SnmpPDU`: a variable binding. -/
structure SnmpPDU where
  name : GoString
  type : Asn1BER
  value : Value := .nil

structure SnmpPacket where
  version : SnmpVersion
  msgFlags : UInt8 := 0
  securityModel : UInt8 := 0
  securityParameters : Option SecurityParameters := none
  contextEngineID : GoString := []
  contextName : GoString := []
  community : GoString := []
  pduType : PDUType
  msgID : UInt32 := 0
  requestID : UInt32 := 0
  msgMaxSize : UInt32 := 0
  error : SNMPError := .noError
  errorIndex : UInt8 := 0
  nonRepeaters : UInt8 := 0
  maxRepetitions : UInt32 := 0
  /-- `Variables`. -/
  vars : List SnmpPDU := []

def authNoPriv : UInt8 := 1

/-- `gosnmp.AuthPriv`, which also serves as the mask of the level bits. -/
def authPriv : UInt8 := 3

/-- `SnmpDecodePacket` may return a packet together with an error. -/
structure Decoded where
  packet : Option SnmpPacket
  err : Option GoString

/-- `gosnmp` and the keyed hashes of the standard library. -/
structure Library where
  decode : UsmSecurityParameters → GoString → Decoded
  marshalMsg : SnmpPacket → Except GoString GoString
  initSecurityKeys : UsmSecurityParameters → Except GoString UsmSecurityParameters
  /-- `InitPacket`: the parameters with the next salt. -/
  initPacket : UsmSecurityParameters → SnmpPacket → Except GoString UsmSecurityParameters
  hmac : AuthProtocol → GoString → GoString → GoString
  versionString : SnmpVersion → GoString

/-! ## Variables the agent makes up -/

def helloVariable : SnmpPDU := ⟨go "1.3.6.1.6.3.15.1.1.4.0", .counter32, .uint32 0⟩

def notInTimeWindowsVariable : SnmpPDU := ⟨go "1.3.6.1.6.3.15.1.1.2.0", .counter32, .uint32 0⟩

def endOfMibView (name : GoString) : SnmpPDU := ⟨name, .endOfMibView, .nil⟩

def noSuchInstance (name : GoString) : SnmpPDU := ⟨name, .noSuchInstance, .nil⟩

def noSuchObject (name : GoString) : SnmpPDU := ⟨name, .noSuchObject, .nil⟩

def nilPDU (name : GoString) : SnmpPDU := ⟨name, .null, .nil⟩

def octetStringPDU (name s : GoString) : SnmpPDU := ⟨name, .octetString, .string s⟩

/-! ## Running callbacks -/

inductive Callback
  | get (oid : GoString)
  | set (oid : GoString) (value : Value)

/-- The state the callbacks work on, and the callbacks that have run. -/
structure World (W : Type) where
  state : W
  ran : List Callback := []

/-- An error or a recovered panic, as `safeGet` and `safeSet` report it. -/
def CallResult.recovered {α : Type} : CallResult α → Except GoString α
  | .ok a => .ok a
  | .error msg => .error msg
  | .panic msg => .error (go "panic: " ++ msg)

section Serve

variable {W : Type}

def safeGet (item : PduItem W) : StateM (World W) (Except GoString Value) := fun w =>
  let (r, state) := item.onGet w.state
  (r.recovered, ⟨state, w.ran ++ [.get item.oid]⟩)

def safeSet (item : PduItem W) (onSet : Value → W → CallResult Unit × W) (value : Value) :
    StateM (World W) (Except GoString Unit) := fun w =>
  let (r, state) := onSet value w.state
  (r.recovered, ⟨state, w.ran ++ [.set item.oid value]⟩)

def get (item : PduItem W) : StateM (World W) SnmpPDU := do
  match ← safeGet item with
  | .error err => return octetStringPDU item.oid (go "ERROR: " ++ err)
  | .ok val => return ⟨item.oid, item.typ, val⟩

/-! ## Dispatch -/

def responseFor (req : SnmpPacket) : SnmpPacket where
  version := req.version
  msgFlags := req.msgFlags
  securityModel := req.securityModel
  securityParameters := req.securityParameters
  contextEngineID := req.contextEngineID
  contextName := req.contextName
  community := req.community
  pduType := .getResponse
  msgID := req.msgID
  requestID := req.requestID

/-- `resp.Variables = append(resp.Variables, v)`. -/
def SnmpPacket.append (resp : SnmpPacket) (v : SnmpPDU) : SnmpPacket :=
  { resp with vars := resp.vars ++ [v] }

/-- Only the first error of a packet is reported, with its position counted from 1. -/
def SnmpPacket.fail (resp : SnmpPacket) (err : SNMPError) (idx : ℕ) : SnmpPacket :=
  if resp.error = .noError then { resp with error := err, errorIndex := UInt8.ofNat (idx + 1) }
  else resp

def serveGet (oids : List (PduItem W)) (req : SnmpPacket) : StateM (World W) SnmpPacket :=
  req.vars.zipIdx.foldlM
    (fun resp (v, idx) => do
      match (findOID oids v.name).1 with
      | none =>
        if req.version = .version1 then
          return (resp.fail .noSuchName idx).append (noSuchInstance v.name)
        else return resp.append (noSuchObject v.name)
      | some item => return resp.append (← get item))
    (responseFor req)

def walkFrom (oids : List (PduItem W)) (query : GoString) : ℕ :=
  match findOID oids query with
  | (some _, idx) => idx + 1
  | (none, idx) => idx

def endOfWalk (req resp : SnmpPacket) (query : GoString) : SnmpPacket :=
  if req.version = .version1 then { resp with error := .noSuchName, errorIndex := 1 }
  else resp.append (endOfMibView query)

/-- `serveGetNext`: only the last variable counts. -/
def serveGetNext (oids : List (PduItem W)) (req : SnmpPacket) : StateM (World W) SnmpPacket := do
  let resp := responseFor req
  match req.vars.getLast? with
  | none => return resp
  | some last =>
    let query := last.name
    let idx := walkFrom oids query
    if oids.length ≤ idx then return endOfWalk req resp query
    else
      let limit := if req.maxRepetitions = 0 then 1 else req.maxRepetitions.toNat
      let limit := if oids.length < idx + limit then oids.length - idx else limit
      let resp ← ((oids.drop idx).take limit).foldlM
        (fun resp item => return resp.append (← get item)) resp
      if resp.vars = [] then return endOfWalk req resp query else return resp

/-- Each repeater contributes the item `rep` places further on, or, once, the end of the table.
`eomSent` holds those that have reached the end. -/
def bulkRound (oids : List (PduItem W)) (repeaters : List (SnmpPDU × ℕ)) (rep : ℕ)
    (acc : SnmpPacket × List ℕ) : StateM (World W) (SnmpPacket × List ℕ) :=
  repeaters.foldlM
    (fun (resp, eomSent) (v, k) => do
      match oids[walkFrom oids v.name + rep]? with
      | none =>
        if k ∈ eomSent then return (resp, eomSent)
        else return (resp.append (endOfMibView v.name), k :: eomSent)
      | some item => return (resp.append (← get item), eomSent))
    acc

/-- The rounds from `rep` on; they end early when every repeater has reached the end. -/
def bulkRounds (oids : List (PduItem W)) (repeaters : List (SnmpPDU × ℕ)) :
    ℕ → ℕ → SnmpPacket × List ℕ → StateM (World W) SnmpPacket
  | 0, _, acc => return acc.1
  | left + 1, rep, acc => do
      let acc ← bulkRound oids repeaters rep acc
      if acc.2.length = repeaters.length then return acc.1
      else bulkRounds oids repeaters left (rep + 1) acc

/-- The non-repeaters, then row by row. -/
def serveGetBulk (oids : List (PduItem W)) (req : SnmpPacket) : StateM (World W) SnmpPacket := do
  let nonRepeaters := min req.nonRepeaters.toNat req.vars.length
  let resp ← (req.vars.take nonRepeaters).foldlM
    (fun resp v => do
      match oids[walkFrom oids v.name]? with
      | none => return resp.append (endOfMibView v.name)
      | some item => return resp.append (← get item))
    (responseFor req)
  let maxReps := min req.maxRepetitions.toNat oids.length
  bulkRounds oids (req.vars.zipIdx.drop nonRepeaters) maxReps 0 (resp, [])

/-- Variable by variable. -/
def serveSet (oids : List (PduItem W)) (req : SnmpPacket) : StateM (World W) SnmpPacket :=
  let v1 := req.version = .version1
  req.vars.zipIdx.foldlM
    (fun resp (v, idx) => do
      match (findOID oids v.name).1 with
      | none =>
        return (resp.fail (if v1 then .noSuchName else .notWritable) idx).append
          (noSuchInstance v.name)
      | some item =>
        match item.onSet with
        | none =>
          return (resp.fail (if v1 then .readOnly else .notWritable) idx).append (nilPDU v.name)
        | some onSet =>
          match ← safeSet item onSet v.value with
          | .error err => return resp.append (octetStringPDU v.name (go "ERROR: " ++ err))
          | .ok () => return resp.append v)
    (responseFor req)

/-- `agent.serve`; absent stands for the error of an unsupported PDU type. -/
def serve (oids : List (PduItem W)) (req : SnmpPacket) : StateM (World W) (Option SnmpPacket) := do
  -- In version 1 an error response echoes the variables of the request.
  let echoed (resp : SnmpPacket) : Option SnmpPacket :=
    some (if req.version = .version1 ∧ resp.error ≠ .noError then { resp with vars := req.vars }
      else resp)
  match req.pduType with
  | .getRequest => return echoed (← serveGet oids req)
  | .getNextRequest => return echoed (← serveGetNext oids req)
  | .getBulkRequest => return echoed (← serveGetBulk oids req)
  | .setRequest => return echoed (← serveSet oids req)
  | _ => return none

end Serve

/-! ## Authentication -/

def authDigestLen : AuthProtocol → ℕ
  | .sha224 => 16
  | .sha256 => 24
  | .sha384 => 32
  | .sha512 => 48
  | _ => 12

/-- The digest is recomputed over the message with its first occurrence zeroed. -/
def verifyAuthDigest (lib : Library) (raw : GoString) (proto : AuthProtocol)
    (secretKey received : GoString) : Bool :=
  let n := authDigestLen proto
  if received.length ≠ n then false
  else
    match index raw received with
    | none => false
    | some idx =>
      let zeroed := raw.take idx ++ List.replicate n 0 ++ raw.drop (idx + n)
      let digest := lib.hmac proto secretKey zeroed
      if digest.length < n then false else digest.take n == received

/-- The security level of a user: `wantAuth` in `respondV3`. -/
def UsmSecurityParameters.level (user : UsmSecurityParameters) : UInt8 :=
  if user.privacyProtocol.aboveNoPriv then authPriv
  else if user.authenticationProtocol.aboveNoAuth then authNoPriv
  else 0

/-- `agent`, without the function `engineTime`. -/
structure Agent (W : Type) where
  community : GoString
  snmpV3Only : Bool
  users : List UsmSecurityParameters
  engineID : GoString
  engineBoots : UInt32 := 1
  oids : List (PduItem W)
  usmLastTime : GoMap UInt32 := ∅

/-- What `engineTime` returns at each of its calls while one datagram is answered. -/
structure EngineTime where
  probe : UInt32
  hello : UInt32
  localise : UInt32
  check : UInt32
  report : UInt32
  reply : UInt32

def usmTimeWindow : ℤ := 150

/-- The reply, possibly none; the times of the last messages accepted; what the callbacks did. -/
structure Outcome (W : Type) where
  reply : Except GoString (Option GoString)
  usmLastTime : GoMap UInt32
  world : World W

namespace Agent

variable {W : Type}

/-- `checkTimeliness`: the times to remember if the message is in time. -/
def checkTimeliness (a : Agent W) (now : UInt32) (usp : UsmSecurityParameters) :
    Option (GoMap UInt32) :=
  if usp.authoritativeEngineBoots ≠ a.engineBoots then none
  else if usmTimeWindow < |(now.toNat : ℤ) - usp.authoritativeEngineTime.toNat| then none
  else
    let accepted := some (a.usmLastTime.set usp.userName usp.authoritativeEngineTime)
    match a.usmLastTime.get? usp.userName with
    | some last => if usp.authoritativeEngineTime < last then none else accepted
    | none => accepted

def blankUSM (a : Agent W) (engineTime : UInt32) : UsmSecurityParameters where
  authoritativeEngineID := a.engineID
  authoritativeEngineBoots := a.engineBoots
  authoritativeEngineTime := engineTime

def findUser (a : Agent W) (name : GoString) : Option UsmSecurityParameters :=
  a.users.find? fun u => u.userName = name

/-- The keys of a user for this agent's engine: `localUser` in `respondV3`. -/
def localUser (lib : Library) (a : Agent W) (engineTime : UInt32) (user : UsmSecurityParameters) :
    Except GoString UsmSecurityParameters :=
  lib.initSecurityKeys
    { user with
      authoritativeEngineID := a.engineID
      authoritativeEngineBoots := a.engineBoots
      authoritativeEngineTime := engineTime
      secretKey := []
      privacyKey := [] }

def answer (a : Agent W) (w : World W) (reply : Except GoString (Option GoString)) : Outcome W :=
  ⟨reply, a.usmLastTime, w⟩

def helloReport (a : Agent W) (engineTime : UInt32) (req : SnmpPacket) : SnmpPacket where
  version := .version3
  msgID := req.msgID
  msgMaxSize := req.msgMaxSize
  securityModel := req.securityModel
  securityParameters := some (.usm (a.blankUSM engineTime))
  contextEngineID := req.contextEngineID
  contextName := req.contextName
  pduType := .report
  requestID := req.requestID
  vars := [helloVariable]

/-- The reply to a message that is not in time, before its security parameters are added. -/
def timeReport (req : SnmpPacket) : SnmpPacket where
  version := .version3
  msgID := req.msgID
  msgMaxSize := req.msgMaxSize
  securityModel := req.securityModel
  msgFlags := authNoPriv
  contextEngineID := req.contextEngineID
  contextName := req.contextName
  pduType := .report
  requestID := req.requestID
  vars := [notInTimeWindowsVariable]

def signed (lib : Library) (user : UsmSecurityParameters) (engineTime : UInt32)
    (salted resp : SnmpPacket) (what : GoString) : Except GoString (Option GoString) := do
  let user := { user with authoritativeEngineTime := engineTime }
  let user ← (lib.initPacket user salted).mapError (what ++ ·)
  return some (← lib.marshalMsg { resp with securityParameters := some (.usm user) })

def respondCommunity (lib : Library) (a : Agent W) (req : SnmpPacket) (w : World W) : Outcome W :=
  if a.snmpV3Only ∨ req.community ≠ a.community then a.answer w (.ok none)
  else
    match serve a.oids req w with
    | (none, w') => a.answer w' (.ok none)
    | (some resp, w') => a.answer w' ((lib.marshalMsg resp).map some)

def wrapped (what : String) (err : Option GoString) : GoString :=
  go what ++ err.getD (go "%!w(<nil>)")

/-- The rest of `respondV3` once the request is known to come from its user. -/
def serveUser (lib : Library) (a : Agent W) (t : EngineTime) (user keys : UsmSecurityParameters)
    (req : SnmpPacket) (raw : GoString) (decodeErr : Option GoString) (w : World W) : Outcome W :=
  -- The first attempt to decode had no keys; with an error it is made again with the user's.  The
  -- library returns a packet whenever it returns no error.
  let decoded : Except GoString SnmpPacket :=
    match decodeErr with
    | none => .ok req
    | some _ =>
      let d := lib.decode
        { userName := user.userName
          authenticationProtocol := user.authenticationProtocol
          privacyProtocol := user.privacyProtocol
          authenticationPassphrase := user.authenticationPassphrase
          privacyPassphrase := user.privacyPassphrase } raw
      match d.err, d.packet with
      | none, some req => .ok req
      | err, _ => .error (wrapped "decode authenticated snmpv3 packet: " err)
  match decoded with
  | .error err => a.answer w (.error err)
  | .ok req =>
    match serve a.oids req w with
    | (none, w') => a.answer w' (.ok none)
    | (some resp, w') =>
      let dummy : SnmpPacket :=
        { version := .version1, pduType := .other 0, msgFlags := authPriv
          securityParameters :=
            some (.usm { keys with authoritativeEngineTime := t.reply }) }
      a.answer w' (signed lib keys t.reply dummy resp (go "init packet salt: "))

def respondV3 (lib : Library) (a : Agent W) (t : EngineTime) (req : SnmpPacket) (raw : GoString)
    (decodeErr : Option GoString) (w : World W) : Outcome W :=
  if decodeErr = none ∧ req.vars = [] then
    a.answer w ((lib.marshalMsg (a.helloReport t.hello req)).map some)
  else
    match req.securityParameters with
    | none => a.answer w (.error (wrapped "decode v3 packet: " decodeErr))
    | some .other => a.answer w (.error (go "unsupported snmpv3 security model"))
    | some (.usm usp) =>
      match a.findUser usp.userName with
      | none => a.answer w (.ok none)
      | some user =>
        if req.msgFlags &&& authPriv ≠ user.level then a.answer w (.ok none)
        else
          match a.localUser lib t.localise user with
          | .error err => a.answer w (.error (go "init security keys: " ++ err))
          | .ok keys =>
            if user.authenticationProtocol.aboveNoAuth then
              if !verifyAuthDigest lib raw user.authenticationProtocol keys.secretKey
                  usp.authenticationParameters then a.answer w (.ok none)
              else
                match a.checkTimeliness t.check usp with
                | none =>
                  a.answer w (signed lib keys t.report (timeReport req) (timeReport req)
                    (go "init report packet salt: "))
                | some times =>
                  serveUser lib { a with usmLastTime := times } t user keys req raw
                    decodeErr w
            else serveUser lib a t user keys req raw decodeErr w

/-- The reply to a datagram, if any. -/
def respond (lib : Library) (a : Agent W) (t : EngineTime) (raw : GoString) (w : World W) :
    Outcome W :=
  let d := lib.decode (a.blankUSM t.probe) raw
  match d.packet with
  | none => a.answer w (.error (wrapped "decode snmp packet: " d.err))
  | some req =>
    match req.version with
    | .version1 | .version2c => respondCommunity lib a req w
    | .version3 => respondV3 lib a t req raw d.err w
    | v => a.answer w (.error (go "unsupported snmp version " ++ lib.versionString v))

/-! ## Requests that are not authorised -/

/-- One case for each way to fall short. Nothing in it looks at the OID table. -/
inductive Unauthorised (lib : Library) (a : Agent W) (t : EngineTime) (raw : GoString) : Prop
  | community {req} (hreq : (lib.decode (a.blankUSM t.probe) raw).packet = some req)
      (hv : req.version = .version1 ∨ req.version = .version2c)
      (h : a.snmpV3Only = true ∨ req.community ≠ a.community)
  | unknownUser {req usp} (hreq : (lib.decode (a.blankUSM t.probe) raw).packet = some req)
      (hv : req.version = .version3) (husp : req.securityParameters = some (.usm usp))
      (h : a.findUser usp.userName = none)
  | level {req usp user} (hreq : (lib.decode (a.blankUSM t.probe) raw).packet = some req)
      (hv : req.version = .version3) (husp : req.securityParameters = some (.usm usp))
      (huser : a.findUser usp.userName = some user)
      (h : req.msgFlags &&& authPriv ≠ user.level)
  | digest {req usp user} (hreq : (lib.decode (a.blankUSM t.probe) raw).packet = some req)
      (hv : req.version = .version3) (husp : req.securityParameters = some (.usm usp))
      (huser : a.findUser usp.userName = some user)
      (hauth : user.authenticationProtocol.aboveNoAuth = true)
      (h : ∀ keys, a.localUser lib t.localise user = .ok keys →
        verifyAuthDigest lib raw user.authenticationProtocol keys.secretKey
          usp.authenticationParameters = false)
  | timeliness {req usp user} (hreq : (lib.decode (a.blankUSM t.probe) raw).packet = some req)
      (hv : req.version = .version3) (husp : req.securityParameters = some (.usm usp))
      (huser : a.findUser usp.userName = some user)
      (hauth : user.authenticationProtocol.aboveNoAuth = true)
      (h : a.checkTimeliness t.check usp = none)

def withOids (a : Agent W) (oids : List (PduItem W)) : Agent W := { a with oids := oids }

section WithOids

variable (a : Agent W) (oids : List (PduItem W))

@[simp] lemma blankUSM_withOids (now : UInt32) : (a.withOids oids).blankUSM now = a.blankUSM now :=
  rfl

@[simp] lemma findUser_withOids (name : GoString) :
    (a.withOids oids).findUser name = a.findUser name := rfl

@[simp] lemma localUser_withOids (lib : Library) (now : UInt32) (user : UsmSecurityParameters) :
    (a.withOids oids).localUser lib now user = a.localUser lib now user := rfl

@[simp] lemma checkTimeliness_withOids (now : UInt32) (usp : UsmSecurityParameters) :
    (a.withOids oids).checkTimeliness now usp = a.checkTimeliness now usp := rfl

@[simp] lemma helloReport_withOids (now : UInt32) (req : SnmpPacket) :
    (a.withOids oids).helloReport now req = a.helloReport now req := rfl

@[simp] lemma answer_withOids (w : World W) (reply : Except GoString (Option GoString)) :
    (a.withOids oids).answer w reply = a.answer w reply := rfl

end WithOids

/-- `respondV3` answers with a reply in which neither the OID table nor the callbacks have a part.
-/
def Refuses (lib : Library) (a : Agent W) (t : EngineTime) (req : SnmpPacket) (raw : GoString)
    (err : Option GoString) : Prop :=
  ∃ reply, ∀ oids w, respondV3 lib (a.withOids oids) t req raw err w = a.answer w reply

section V3

variable {lib : Library} {a : Agent W} {t : EngineTime} {req : SnmpPacket} {raw : GoString}
  {err : Option GoString} {usp user : UsmSecurityParameters}

lemma refuses_hello (hhello : err = none ∧ req.vars = []) : Refuses lib a t req raw err := by
  refine ⟨(lib.marshalMsg (a.helloReport t.hello req)).map some, fun oids w => ?_⟩
  simp [respondV3, if_pos hhello, helloReport_withOids, answer_withOids]

variable (husp : req.securityParameters = some (.usm usp))
include husp

lemma refuses_unknownUser (h : a.findUser usp.userName = none) : Refuses lib a t req raw err := by
  by_cases hhello : err = none ∧ req.vars = []
  · exact refuses_hello hhello
  · refine ⟨.ok none, fun oids w => ?_⟩
    simp [respondV3, if_neg hhello, husp, findUser_withOids, h, answer_withOids]

variable (huser : a.findUser usp.userName = some user)
include huser

lemma refuses_level (h : req.msgFlags &&& authPriv ≠ user.level) :
    Refuses lib a t req raw err := by
  by_cases hhello : err = none ∧ req.vars = []
  · exact refuses_hello hhello
  · refine ⟨.ok none, fun oids w => ?_⟩
    simp [respondV3, if_neg hhello, husp, findUser_withOids, huser, if_pos h, answer_withOids]

lemma refuses_auth (hauth : user.authenticationProtocol.aboveNoAuth = true)
    (h : (∀ keys, a.localUser lib t.localise user = .ok keys →
        verifyAuthDigest lib raw user.authenticationProtocol keys.secretKey
          usp.authenticationParameters = false) ∨ a.checkTimeliness t.check usp = none) :
    Refuses lib a t req raw err := by
  by_cases hhello : err = none ∧ req.vars = []
  · exact refuses_hello hhello
  by_cases hlevel : req.msgFlags &&& authPriv ≠ user.level
  · exact refuses_level husp huser hlevel
  cases hkeys : a.localUser lib t.localise user with
  | error e =>
    refine ⟨.error (go "init security keys: " ++ e), fun oids w => ?_⟩
    simp [respondV3, if_neg hhello, husp, findUser_withOids, huser, if_neg hlevel,
      localUser_withOids, hkeys, answer_withOids]
  | ok keys =>
    cases hdigest : verifyAuthDigest lib raw user.authenticationProtocol keys.secretKey
        usp.authenticationParameters with
    | false =>
      refine ⟨.ok none, fun oids w => ?_⟩
      simp only [respondV3, if_neg hhello, husp, findUser_withOids, huser, if_neg hlevel,
        localUser_withOids, hkeys, hauth, hdigest, if_true, Bool.not_false, answer_withOids]
    | true =>
      have htime : a.checkTimeliness t.check usp = none := by
        rcases h with h | h
        · simp [h keys hkeys] at hdigest
        · exact h
      refine ⟨signed lib keys t.report (timeReport req) (timeReport req)
        (go "init report packet salt: "), fun oids w => ?_⟩
      simp [respondV3, if_neg hhello, husp, findUser_withOids, huser, if_neg hlevel,
        localUser_withOids, hkeys, hauth, hdigest, checkTimeliness_withOids, htime, answer_withOids]

end V3

lemma respond_of_unauthorised {lib : Library} {a : Agent W} {t : EngineTime} {raw : GoString}
    (h : Unauthorised lib a t raw) :
    ∃ reply, ∀ oids w, respond lib (a.withOids oids) t raw w = a.answer w reply := by
  have v3 : ∀ {req}, (lib.decode (a.blankUSM t.probe) raw).packet = some req →
      req.version = .version3 →
      Refuses lib a t req raw (lib.decode (a.blankUSM t.probe) raw).err →
      ∃ reply, ∀ oids w, respond lib (a.withOids oids) t raw w = a.answer w reply := by
    rintro req hreq hv ⟨reply, hreply⟩
    refine ⟨reply, fun oids w => ?_⟩
    simp [respond, blankUSM_withOids, hreq, hv, hreply oids w]
  cases h with
  | @community req hreq hv h =>
    refine ⟨.ok none, fun oids w => ?_⟩
    have h' : (a.withOids oids).snmpV3Only = true ∨ req.community ≠ (a.withOids oids).community :=
      h
    rcases hv with hv | hv <;>
      simp [respond, blankUSM_withOids, hreq, hv, respondCommunity, if_pos h', answer_withOids]
  | unknownUser hreq hv husp h => exact v3 hreq hv (refuses_unknownUser husp h)
  | level hreq hv husp huser h => exact v3 hreq hv (refuses_level husp huser h)
  | digest hreq hv husp huser hauth h =>
    exact v3 hreq hv (refuses_auth husp huser hauth (Or.inl h))
  | timeliness hreq hv husp huser hauth h =>
    exact v3 hreq hv (refuses_auth husp huser hauth (Or.inr h))

/-- **Agents that differ only in their OID tables** send the same reply, if any, to a request that
is not authorised; and no callback of any item runs. -/
theorem unauthorised_reply_independent_of_oids (lib : Library) {a b : Agent W}
    (hab : b = a.withOids b.oids) (t : EngineTime) (raw : GoString)
    (h : Unauthorised lib a t raw) (w w' : World W) :
    (respond lib a t raw w).reply = (respond lib b t raw w').reply ∧
      (respond lib a t raw w).world = w ∧ (respond lib b t raw w').world = w' := by
  obtain ⟨reply, hreply⟩ := respond_of_unauthorised h
  have ha : respond lib a t raw w = a.answer w reply := hreply a.oids w
  have hb : respond lib b t raw w' = a.answer w' reply := by
    rw [hab]
    exact hreply b.oids w'
  rw [ha, hb]
  exact ⟨rfl, rfl, rfl⟩

def toyLibrary : Library where
  decode := fun _ raw =>
    ⟨some
      { version := .version3, msgFlags := authNoPriv, pduType := .getRequest
        securityParameters := some (.usm
          { userName := go "u", authoritativeEngineBoots := 1, authenticationParameters := raw })
        vars := [⟨go "1.3", .null, .nil⟩] }, none⟩
  marshalMsg := fun p => .ok (p.vars.flatMap SnmpPDU.name)
  initSecurityKeys := .ok
  initPacket := fun user _ => .ok user
  hmac := fun _ _ _ => List.replicate 12 7
  versionString := fun _ => []

def toyAgent : Agent ℕ where
  community := go "public"
  snmpV3Only := false
  users := [{ userName := go "u", authenticationProtocol := .md5 }]
  engineID := go "engine"
  oids := [{ oid := go "1.3", typ := .integer, onGet := fun n => (.ok (.int n), n + 1) }]

/-- A message with the right digest that is a quarter of an hour old. -/
theorem unauthorised_reply_independent_of_oids_stale :
    (respond toyLibrary toyAgent ⟨900, 900, 900, 900, 900, 900⟩ (List.replicate 12 7)
        ⟨0, []⟩).reply =
      (respond toyLibrary (toyAgent.withOids []) ⟨900, 900, 900, 900, 900, 900⟩
        (List.replicate 12 7) ⟨5, []⟩).reply ∧
    (respond toyLibrary toyAgent ⟨900, 900, 900, 900, 900, 900⟩ (List.replicate 12 7)
      ⟨0, []⟩).world = ⟨0, []⟩ ∧
    (respond toyLibrary (toyAgent.withOids []) ⟨900, 900, 900, 900, 900, 900⟩
      (List.replicate 12 7) ⟨5, []⟩).world = ⟨5, []⟩ :=
  unauthorised_reply_independent_of_oids toyLibrary rfl _ _
    (.timeliness rfl rfl rfl rfl rfl (by decide)) _ _

end Agent

end Mockly.SNMP
