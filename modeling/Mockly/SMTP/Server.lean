import Mockly.API.Reset
import Mockly.Engine.Wildcard
import Mockly.Lib.Recent
import Mockly.Logger.Log

/-!
# The SMTP server

For each recipient the first rule counts that fits the sender, the recipient and the subject. What
`mail.ReadMessage` makes of the header, the ID and the time of the message are left open.

Main result: **`data_kept_iff`**.
-/

namespace Mockly.SMTP

open API (SMTPRule)

structure ReceivedEmail where
  id : GoString
  from_ : GoString
  to_ : List GoString
  subject : GoString
  body : GoString
  receivedAt : GoString

structure Server where
  rules : List SMTPRule
  inbox : Recent.RingBuffer ReceivedEmail
  /-- What `Log` has been called with. -/
  log : List Logger.Entry := []

structure Session where
  from_ : GoString
  to_ : List GoString

structure SMTPFault where
  code : ℤ := 0
  message : GoString := []

inductive DataError
  /-- What reading the message has ended with. -/
  | read (err : GoString)
  /-- An `SMTPError`. -/
  | smtp (code : ℤ) (enhancedCode : ℤ × ℤ × ℤ) (message : GoString)

/-- What a call of `Data` finds. -/
structure Moment where
  env : Env
  fault : Option SMTPFault := none
  /-- `RollFault` for the error rate of the fault. -/
  roll : Bool := false
  /-- The header `Subject`, of a message that `mail.ReadMessage` accepts. -/
  readSubject : GoString → Option GoString := fun _ => none
  id : GoString := []
  now : GoString := []

section Rules

variable (env : Env)

/-- `matchRule`: the action and the message. -/
def matchRule (from_ to_ subject : GoString) : List SMTPRule → GoString × GoString
  | [] => (go "accept", [])
  | rule :: rules =>
    if rule.sender ≠ [] ∧ !matchSMTPPattern env rule.sender from_ then
      matchRule from_ to_ subject rules
    else if rule.recipient ≠ [] ∧ !matchSMTPPattern env rule.recipient to_ then
      matchRule from_ to_ subject rules
    else if rule.subject ≠ [] ∧ !matchSMTPPattern env rule.subject subject then
      matchRule from_ to_ subject rules
    else (rule.action, rule.message)

/-- The loop over the recipients: the message of the first rejection. -/
def rejection (rules : List SMTPRule) (from_ subject : GoString) : List GoString → Option GoString
  | [] => none
  | to_ :: tos =>
    let (action, message) := matchRule env from_ to_ subject rules
    if action = go "reject" then
      some (if message = [] then go "Message rejected by policy" else message)
    else rejection rules from_ subject tos

end Rules

def maxEmailSize : ℕ := 25 * 1024 * 1024

def Moment.subject (mo : Moment) (raw : GoString) : GoString := (mo.readSubject raw).getD []

/-- The mail goes into the inbox, and a line into the log. -/
def Server.keep (s : Server) (mo : Moment) (sess : Session) (raw : GoString) : Server :=
  { s with
    inbox := s.inbox.add ⟨mo.id, sess.from_, sess.to_, mo.subject raw, raw, mo.now⟩
    log := s.log ++
      [{ protocol := go "smtp"
         method := go "DATA"
         path := sess.from_ ++ go " → " ++ join sess.to_ (go ", ")
         status := 250
         body := mo.subject raw }] }

/-- `Data`, for a reader with these bytes, or one that fails within the first `maxEmailSize`. -/
def data (mo : Moment) (s : Server) (sess : Session) :
    Except GoString GoString → Option DataError × Server
  | .error err => (some (.read err), s)
  | .ok bytes =>
    let raw := bytes.take maxEmailSize
    match mo.fault.filter fun _ => mo.roll with
    | some fault =>
      (some (.smtp (if fault.code = 0 then 421 else fault.code) (4, 3, 0)
        (if fault.message = [] then go "fault injected" else fault.message)), s)
    | none =>
      match rejection mo.env s.rules sess.from_ (mo.subject raw) sess.to_ with
      | some message => (some (.smtp 550 (5, 7, 1) message), s)
      | none => (none, s.keep mo sess raw)

/-! ## Kept or refused -/

/-- Sender, recipient and subject fit the rule; what it leaves out fits anything. -/
def Fits (env : Env) (from_ to_ subject : GoString) (rule : SMTPRule) : Bool :=
  (rule.sender == [] || matchSMTPPattern env rule.sender from_) &&
    (rule.recipient == [] || matchSMTPPattern env rule.recipient to_) &&
    (rule.subject == [] || matchSMTPPattern env rule.subject subject)

/-- The first rule that fits rejects. -/
def Rejected (env : Env) (rules : List SMTPRule) (from_ subject to_ : GoString) : Prop :=
  ∃ rule, rules.find? (Fits env from_ to_ subject) = some rule ∧ rule.action = go "reject"

variable {env : Env} {from_ to_ subject : GoString}

lemma matchRule_eq (rules : List SMTPRule) :
    matchRule env from_ to_ subject rules =
      ((rules.find? (Fits env from_ to_ subject)).map fun rule =>
        (rule.action, rule.message)).getD (go "accept", []) := by
  induction rules with
  | nil => rfl
  | cons rule rules ih =>
    have hfits : Fits env from_ to_ subject rule = true ↔
        ¬(rule.sender ≠ [] ∧ !matchSMTPPattern env rule.sender from_) ∧
          ¬(rule.recipient ≠ [] ∧ !matchSMTPPattern env rule.recipient to_) ∧
          ¬(rule.subject ≠ [] ∧ !matchSMTPPattern env rule.subject subject) := by
      simp [Fits, or_iff_not_imp_left, and_assoc]
    rw [matchRule, List.find?_cons]
    split_ifs with hfrom hto hsubject
    · simp [Bool.eq_false_iff.mpr fun h => (hfits.mp h).1 hfrom, ih]
    · simp [Bool.eq_false_iff.mpr fun h => (hfits.mp h).2.1 hto, ih]
    · simp [Bool.eq_false_iff.mpr fun h => (hfits.mp h).2.2 hsubject, ih]
    · simp [hfits.mpr ⟨hfrom, hto, hsubject⟩]

lemma matchRule_reject_iff {rules : List SMTPRule} :
    (matchRule env from_ to_ subject rules).1 = go "reject" ↔
      Rejected env rules from_ subject to_ := by
  rw [matchRule_eq, Rejected]
  cases rules.find? (Fits env from_ to_ subject) with
  | none => simpa using by decide
  | some rule => simp

lemma rejection_eq_none_iff {rules : List SMTPRule} (tos : List GoString) :
    rejection env rules from_ subject tos = none ↔
      ∀ to_ ∈ tos, ¬Rejected env rules from_ subject to_ := by
  induction tos with
  | nil => simp [rejection]
  | cons to_ tos ih =>
    rw [List.forall_mem_cons, ← matchRule_reject_iff, ← ih, rejection]
    by_cases h : (matchRule env from_ to_ subject rules).1 = go "reject" <;> simp [h]

/-- The server has one mail more, the oldest giving way if the inbox is full, and one line in its
log. -/
def KeptBy (s s' : Server) (mo : Moment) (sess : Session) (raw : GoString) : Prop :=
  let mail : ReceivedEmail := ⟨mo.id, sess.from_, sess.to_, mo.subject raw, raw, mo.now⟩
  s'.rules = s.rules ∧
    s'.inbox.all = (s.inbox.all ++ [mail]).rtake s.inbox.maxSize ∧
    s'.log = s.log ++
      [{ protocol := go "smtp"
         method := go "DATA"
         path := sess.from_ ++ go " → " ++ join sess.to_ (go ", ")
         status := 250
         body := mo.subject raw }]

lemma keptBy_keep (s : Server) (mo : Moment) (sess : Session) (raw : GoString) :
    KeptBy s (s.keep mo sess raw) mo sess raw :=
  ⟨rfl, (Recent.RingBuffer.keeps _ _).all_add s.inbox _ rfl, rfl⟩

/-- **A message is kept as a whole or not at all.** Without a fault it is added to the inbox, once
and with all recipients, unless the first rule that fits one of them rejects; then nothing changes,
and the error is a 550. -/
theorem data_kept_iff (mo : Moment) (s : Server) (sess : Session) (bytes : GoString)
    (hfault : mo.fault = none) :
    let raw := bytes.take maxEmailSize
    ((∃ s', data mo s sess (.ok bytes) = (none, s') ∧ KeptBy s s' mo sess raw) ↔
      ∀ to_ ∈ sess.to_, ¬Rejected mo.env s.rules sess.from_ (mo.subject raw) to_) ∧
    ((∃ to_ ∈ sess.to_, Rejected mo.env s.rules sess.from_ (mo.subject raw) to_) →
      ∃ message, data mo s sess (.ok bytes) = (some (.smtp 550 (5, 7, 1) message), s)) := by
  intro raw
  have hiff : rejection mo.env s.rules sess.from_ (mo.subject raw) sess.to_ = none ↔ _ :=
    rejection_eq_none_iff sess.to_
  simp only [data, hfault, Option.filter_none]
  cases hrej : rejection mo.env s.rules sess.from_ (mo.subject raw) sess.to_ with
  | none =>
    have hall := hiff.mp hrej
    refine ⟨⟨fun _ => hall, fun _ => ⟨_, rfl, keptBy_keep s mo sess raw⟩⟩, ?_⟩
    rintro ⟨to_, hto, h⟩
    exact absurd h (hall to_ hto)
  | some message =>
    refine ⟨⟨?_, fun hall => ?_⟩, fun _ => ⟨message, rfl⟩⟩
    · rintro ⟨s', h, -⟩
      cases h
    · rw [hiff.mpr hall] at hrej
      cases hrej

def spamRule : SMTPRule := { id := [], recipient := go "*@spam", action := go "reject" }

/-- A message for two recipients is kept, and one for a third who is refused is not. -/
theorem data_kept_iff_spam :
    let s : Server := ⟨[spamRule], .make ⟨[], [], [], [], [], []⟩ 1 Nat.one_pos, []⟩
    let mo : Moment := { env := Env.basic }
    (∃ s', data mo s ⟨go "a", [go "b", go "c"]⟩ (.ok (go "hi")) = (none, s') ∧
      s'.inbox.all = [⟨[], go "a", [go "b", go "c"], [], go "hi", []⟩]) ∧
    ∃ message, data mo s ⟨go "a", [go "b", go "c@spam"]⟩ (.ok []) =
      (some (.smtp 550 (5, 7, 1) message), s) := by
  intro s mo
  have hfits : ∀ to_ ∈ [go "b", go "c"], Fits Env.basic (go "a") to_ [] spamRule = false := by
    decide
  have hkept : ∀ to_ ∈ [go "b", go "c"], ¬Rejected Env.basic [spamRule] (go "a") [] to_ := by
    rintro to_ hto ⟨rule, hfind, -⟩
    simp [hfits to_ hto] at hfind
  constructor
  · obtain ⟨s', hdata, -, hinbox, -⟩ :=
      (data_kept_iff mo s ⟨go "a", [go "b", go "c"]⟩ (go "hi") rfl).1.mpr hkept
    exact ⟨s', hdata, hinbox⟩
  · exact (data_kept_iff mo s ⟨go "a", [go "b", go "c@spam"]⟩ [] rfl).2
      ⟨go "c@spam", by simp, spamRule, rfl, rfl⟩

end Mockly.SMTP
