import Mockly.Go.Strconv
import Mockly.Config.HTTP
import Mockly.Lib.Session

/-!
# IMAP sessions

`SELECT`, `FETCH` and `SEARCH` check the state of the session each for itself. `LIST` does not.

Main result: **`output_independent_iff`**.
-/

namespace Mockly.IMAP

open List

open Session (related_ite)

/-! ## Configuration -/

structure IMAPUser where
  username : GoString
  password : GoString

/-- `IMAPMessage`, without the UID, which nothing reads. -/
structure IMAPMessage where
  seqNum : ℤ
  fromAddr : GoString := []
  toAddr : GoString := []
  subject : GoString := []
  body : GoString := []
  flags : List GoString := []
  date : GoString := []

structure IMAPMailbox where
  id : GoString := []
  name : GoString := []
  messages : List IMAPMessage := []

/-- Its delay passes without a trace, and the error rate only goes into the roll. -/
structure IMAPFault where
  response : GoString := []
  message : GoString := []
  deriving DecidableEq

/-- What the server is started with, apart from its mailboxes. -/
structure Config where
  users : List IMAPUser
  caseTable : CaseTable
  upperTable : UpperTable

/-! ## Fetching -/

/-- The mailbox name in quotes, unless it starts with one. -/
def quoteMailbox (name : GoString) : GoString :=
  if hasPrefix name (go "\"") then name else go "\"" ++ name ++ go "\""

def fetchMessages (messages : List IMAPMessage) (seq : GoString) : List IMAPMessage :=
  if seq = go "1:*" ∨ seq = go "*" ∨ seq = [] then messages
  else (messages.find? fun msg => msg.seqNum = atoi seq).toList

/-- `{n}` and a line break before the `n` bytes of a literal. -/
def literal (content : GoString) : GoString :=
  go "\x7b" ++ formatNat content.length ++ go "\x7d\r\n" ++ content

def buildFetchResponse (ut : UpperTable) (msg : IMAPMessage) (items : GoString) : GoString :=
  let headers := go "From: " ++ msg.fromAddr ++ go "\r\nTo: " ++ msg.toAddr ++ go "\r\nSubject: " ++
    msg.subject ++ go "\r\nDate: " ++ msg.date ++ go "\r\n"
  let full := headers ++ go "\r\n" ++ msg.body
  let items := toUpper ut items
  let parts : List GoString :=
    (if contains items (go "FLAGS") then [go "FLAGS (" ++ join msg.flags (go " ") ++ go ")"]
      else []) ++
    (if contains items (go "RFC822.SIZE") then [go "RFC822.SIZE " ++ formatNat full.length]
      else []) ++
    (if contains items (go "BODY[HEADER.FIELDS") then
        [go "BODY[HEADER.FIELDS (FROM TO SUBJECT DATE)] " ++ literal headers]
      else []) ++
    (if contains items (go "BODY[]") || contains items (go "RFC822") then
        [go "BODY[] " ++ literal full]
      else if contains items (go "BODY[TEXT]") then [go "BODY[TEXT] " ++ literal msg.body]
      else [])
  go "* " ++ formatInt msg.seqNum ++ go " FETCH (" ++ join parts (go " ") ++ go ")\r\n"

/-! ## The session -/

/-- The state of a session. -/
inductive State
  | notAuthenticated
  | authenticated
  | selected
  deriving DecidableEq

/-- What the loop keeps: the state and the mailbox selected last. -/
structure Conn where
  state : State := .notAuthenticated
  selected : IMAPMailbox := {}

/-- A line of the client, with the fault in force when it is handled and whether it strikes. -/
structure Line where
  text : GoString
  fault : Option IMAPFault := none
  roll : Bool := false
  deriving DecidableEq

structure Command where
  tag : GoString
  cmd : GoString
  args : List GoString

/-- The session goes on, or is over. -/
inductive Next
  | continue (c : Conn)
  | closed
  | panicked

/-- What is sent in answer to a line, and how the loop goes on. -/
structure Answer where
  sent : GoString
  next : Next

section Handle

variable (cfg : Config) (mailboxes : List IMAPMailbox)

/-- A line with fewer than two fields is no command. -/
def parseCommand (line : GoString) : Option Command :=
  match fields (trimRight line [13, 10]) with
  | tag :: cmd :: args => some ⟨tag, toUpper cfg.upperTable cmd, args⟩
  | _ => none

def authenticate (args : List GoString) : Bool :=
  if cfg.users = [] then true
  else
    match args with
    | user :: pass :: _ =>
      cfg.users.any fun u => u.username == trim user [34] && u.password == trim pass [34]
    | _ => false

def findMailbox (name : GoString) : Option IMAPMailbox :=
  mailboxes.find? fun mb => equalFold cfg.caseTable mb.name (trim name [34])

def faultLine (line : Line) (tag : GoString) : Option GoString :=
  match line.fault with
  | none => none
  | some fault =>
    if line.roll then
      let resp := if fault.response = [] then go "NO" else fault.response
      let msg := if fault.message = [] then go "fault injected" else fault.message
      some (tag ++ go " " ++ resp ++ go " " ++ msg ++ go "\r\n")
    else none

def tagged (tag : GoString) (text : String) : GoString := tag ++ go text ++ go "\r\n"

/-- Without a second argument `args[1:]` is out of range when there is no first one either, but it
is evaluated only if there is something to fetch. -/
def fetch (c : Conn) (command : Command) : Answer :=
  let messages := fetchMessages c.selected.messages (command.args.headD [])
  if messages ≠ [] ∧ command.args = [] then ⟨[], .panicked⟩
  else
    let items := join command.args.tail (go " ")
    ⟨messages.flatMap (fun msg => buildFetchResponse cfg.upperTable msg items) ++
      tagged command.tag " OK FETCH completed", .continue c⟩

/-- One round of the loop of `handleConn`, for a line that is a command. -/
def handleCommand (c : Conn) (line : Line) (command : Command) : Answer :=
  let tag := command.tag
  if command.cmd = go "CAPABILITY" then
    ⟨go "* CAPABILITY IMAP4rev1\r\n" ++ tagged tag " OK CAPABILITY completed", .continue c⟩
  else if command.cmd = go "NOOP" then ⟨tagged tag " OK NOOP completed", .continue c⟩
  else if command.cmd = go "LOGIN" then
    if authenticate cfg command.args then
      ⟨tagged tag " OK LOGIN completed", .continue { c with state := .authenticated }⟩
    else ⟨tagged tag " NO LOGIN failed", .continue c⟩
  else if command.cmd = go "LIST" then
    ⟨mailboxes.flatMap (fun mb =>
        go "* LIST (\\HasNoChildren) \"/\" " ++ quoteMailbox mb.name ++ go "\r\n") ++
      tagged tag " OK LIST completed", .continue c⟩
  else if command.cmd = go "SELECT" then
    if c.state = .notAuthenticated then ⟨tagged tag " NO Authenticate first", .continue c⟩
    else
      match findMailbox cfg mailboxes (join command.args (go " ")) with
      | none => ⟨tagged tag " NO Mailbox not found", .continue c⟩
      | some mb =>
        ⟨go "* " ++ formatNat mb.messages.length ++ go " EXISTS\r\n* 0 RECENT\r\n" ++
          go "* OK [UNSEEN 1]\r\n* OK [UIDVALIDITY 1]\r\n" ++
          go "* FLAGS (\\Answered \\Flagged \\Deleted \\Seen \\Draft)\r\n" ++
          tagged tag " OK [READ-WRITE] SELECT completed",
          .continue { state := .selected, selected := mb }⟩
  else if command.cmd = go "FETCH" then
    if c.state ≠ .selected then ⟨tagged tag " NO Select mailbox first", .continue c⟩
    else
      match faultLine line tag with
      | some reply => ⟨reply, .continue c⟩
      | none => fetch cfg c command
  else if command.cmd = go "SEARCH" then
    if c.state ≠ .selected then ⟨tagged tag " NO Select mailbox first", .continue c⟩
    else
      match faultLine line tag with
      | some reply => ⟨reply, .continue c⟩
      | none =>
        let seqs := c.selected.messages.map fun msg => formatInt msg.seqNum
        ⟨go "* SEARCH " ++ join seqs (go " ") ++ go "\r\n" ++ tagged tag " OK SEARCH completed",
          .continue c⟩
  else if command.cmd = go "LOGOUT" then
    ⟨go "* BYE IMAP4rev1 Server logging out\r\n" ++ tagged tag " OK LOGOUT completed", .closed⟩
  else ⟨tagged tag " BAD Unknown command", .continue c⟩

/-- One round of the loop of `handleConn`. -/
def handleLine (c : Conn) (line : Line) : Answer :=
  match parseCommand cfg line.text with
  | none => ⟨[], .continue c⟩
  | some command => handleCommand cfg mailboxes c line command

def Next.conn : Next → Option Conn
  | .continue c => some c
  | .closed => none
  | .panicked => none

/-- `handleConn`: everything that is sent in answer to the lines of a client. -/
def handleConn (lines : List Line) : GoString :=
  go "* OK IMAP4rev1 Mockly IMAP Server ready\r\n" ++
    Session.run (fun c line =>
      ((handleLine cfg mailboxes c line).sent, (handleLine cfg mailboxes c line).next.conn))
      (some {}) lines

/-! ## Before the login -/

/-- The line is the command `name`. -/
def isCommand (name : String) (line : Line) : Bool :=
  (parseCommand cfg line.text).any fun command => command.cmd = go name

/-- The line is a `LOGIN` that succeeds. -/
def loginSucceeds (line : Line) : Bool :=
  (parseCommand cfg line.text).any fun command =>
    command.cmd = go "LOGIN" && authenticate cfg command.args

/-- The lines of a session before the first `LOGIN` that succeeds. -/
def untilLogin (lines : List Line) : List Line :=
  lines.takeWhile fun line => !loginSucceeds cfg line

/-- The lines the server reads: those up to the first `LOGOUT`. -/
def answered : List Line → List Line
  | [] => []
  | line :: lines =>
    if isCommand cfg "LOGOUT" line then [line] else line :: answered lines

/-- What `LIST` says of a mailbox. -/
def listLine (mb : IMAPMailbox) : GoString :=
  go "* LIST (\\HasNoChildren) \"/\" " ++ quoteMailbox mb.name ++ go "\r\n"

def replyBeforeLogin (line : Line) : GoString :=
  (if isCommand cfg "LIST" line then mailboxes.flatMap listLine else []) ++
    (handleLine cfg [] {} line).sent

variable {cfg}

/-- Before the login only `LIST` looks at the mailboxes, and nothing but `LOGOUT` changes the
session. -/
def BeforeLogin (command : Command) (a a' : Answer) : Prop :=
  a.sent = (if command.cmd = go "LIST" then mailboxes.flatMap listLine else []) ++ a'.sent ∧
    a.next.conn = if command.cmd = go "LOGOUT" then none else some {}

variable {mailboxes} in
lemma BeforeLogin.same {command : Command} {name : GoString} (hcmd : command.cmd = name)
    (hlist : name ≠ go "LIST") (hlogout : name ≠ go "LOGOUT") {a : Answer}
    (ha : a.next.conn = some {}) : BeforeLogin mailboxes command a a :=
  ⟨by rw [if_neg (hcmd.trans_ne hlist), nil_append],
    by rw [if_neg (hcmd.trans_ne hlogout), ha]⟩

variable {mailboxes} in
lemma BeforeLogin.stopped {command : Command} {p : Prop} [Decidable p] (hp : p) {a b b' : Answer}
    (h : BeforeLogin mailboxes command a a) :
    BeforeLogin mailboxes command (if p then a else b) (if p then a else b') := by
  rw [if_pos hp, if_pos hp]
  exact h

/-- **One command before the login.** -/
lemma handleCommand_beforeLogin (line : Line) {command : Command}
    (h : ¬ (command.cmd = go "LOGIN" ∧ authenticate cfg command.args = true)) :
    BeforeLogin mailboxes command (handleCommand cfg mailboxes {} line command)
      (handleCommand cfg [] {} line command) := by
  unfold handleCommand
  refine related_ite (fun hcmd => .same hcmd (by decide) (by decide) rfl) fun _ => ?_
  refine related_ite (fun hcmd => .same hcmd (by decide) (by decide) rfl) fun _ => ?_
  -- A `LOGIN` that fails.
  refine related_ite (fun hcmd => related_ite (fun hauth => absurd ⟨hcmd, hauth⟩ h) fun _ =>
    .same hcmd (by decide) (by decide) rfl) fun _ => ?_
  refine related_ite (fun hcmd => ⟨?_, ?_⟩) fun hlist => ?_
  · rw [if_pos hcmd]
    rfl
  · rw [if_neg (hcmd.trans_ne (by decide))]
    rfl
  -- `SELECT`, `FETCH` and `SEARCH` check the state, which is still that of a new session.
  refine related_ite (fun hcmd => .stopped rfl (.same hcmd (by decide) (by decide) rfl)) fun _ => ?_
  refine related_ite (fun hcmd => .stopped nofun (.same hcmd (by decide) (by decide) rfl))
    fun _ => ?_
  refine related_ite (fun hcmd => .stopped nofun (.same hcmd (by decide) (by decide) rfl))
    fun _ => ?_
  refine related_ite (fun hcmd => ⟨?_, ?_⟩) fun hlogout => .same rfl hlist hlogout rfl
  · rw [if_neg hlist, nil_append]
  · rw [if_pos hcmd]
    rfl

lemma handleLine_beforeLogin {line : Line} (h : loginSucceeds cfg line = false) :
    (handleLine cfg mailboxes {} line).sent = replyBeforeLogin cfg mailboxes line ∧
      (handleLine cfg mailboxes {} line).next.conn =
        if isCommand cfg "LOGOUT" line then none else some {} := by
  cases hp : parseCommand cfg line.text with
  | none => simp [replyBeforeLogin, isCommand, handleLine, hp, Next.conn]
  | some command =>
    have hlogin : ¬ (command.cmd = go "LOGIN" ∧ authenticate cfg command.args = true) := by
      simpa [loginSucceeds, hp] using h
    obtain ⟨hsent, hnext⟩ := handleCommand_beforeLogin mailboxes line hlogin
    simp only [replyBeforeLogin, isCommand, handleLine, hp, Option.any_some, decide_eq_true_eq]
    exact ⟨hsent, hnext⟩

/-- **A session before the login**: each line that is read gets its reply. -/
lemma run_beforeLogin {lines : List Line} (h : ∀ line ∈ lines, loginSucceeds cfg line = false) :
    Session.run (fun c line =>
      ((handleLine cfg mailboxes c line).sent, (handleLine cfg mailboxes c line).next.conn))
      (some {}) lines = (answered cfg lines).flatMap (replyBeforeLogin cfg mailboxes) := by
  induction lines with
  | nil => rfl
  | cons line lines ih =>
    obtain ⟨hline, hlines⟩ := forall_mem_cons.mp h
    obtain ⟨hsent, hnext⟩ := handleLine_beforeLogin mailboxes hline
    rw [Session.run_some_cons, hsent, hnext, answered]
    split_ifs with hlogout
    · simp
    · rw [ih hlines, flatMap_cons]

variable (cfg) in
lemma handleConn_untilLogin (lines : List Line) :
    handleConn cfg mailboxes (untilLogin cfg lines) =
      go "* OK IMAP4rev1 Mockly IMAP Server ready\r\n" ++
        (answered cfg (untilLogin cfg lines)).flatMap (replyBeforeLogin cfg mailboxes) := by
  rw [handleConn, run_beforeLogin]
  intro line hline
  simpa using mem_takeWhile_imp hline

end Handle

/-- **What is sent before a `LOGIN` succeeds does not depend on the mailboxes** exactly when the
client sends no `LIST` before — and before a `LOGOUT`. -/
theorem output_independent_iff (cfg : Config) (lines : List Line) :
    (∀ mailboxes mailboxes', handleConn cfg mailboxes (untilLogin cfg lines) =
        handleConn cfg mailboxes' (untilLogin cfg lines)) ↔
      ∀ line ∈ answered cfg (untilLogin cfg lines), isCommand cfg "LIST" line = false := by
  constructor
  · intro h line hline
    by_contra hlist
    rw [Bool.not_eq_false] at hlist
    -- One mailbox more makes the answer to the `LIST` longer, and no other answer shorter.
    have hle : ∀ l ∈ answered cfg (untilLogin cfg lines),
        (replyBeforeLogin cfg [] l).length ≤ (replyBeforeLogin cfg [{}] l).length := by
      intro l _
      simp [replyBeforeLogin]
    have hlt : (replyBeforeLogin cfg [] line).length < (replyBeforeLogin cfg [{}] line).length := by
      have hpos : 0 < (listLine {}).length := by decide
      simpa [replyBeforeLogin, hlist] using hpos
    have hsum := sum_lt_sum _ _ hle ⟨line, hline, hlt⟩
    have heq := h [] [{}]
    rw [handleConn_untilLogin, handleConn_untilLogin, append_cancel_left_eq] at heq
    rw [← length_flatMap, ← length_flatMap, heq] at hsum
    exact lt_irrefl _ hsum
  · intro h mailboxes mailboxes'
    rw [handleConn_untilLogin, handleConn_untilLogin]
    congr 1
    refine flatMap_congr fun line hline => ?_
    simp [replyBeforeLogin, h line hline]

def oneUser : Config where
  users := [⟨go "u", go "p"⟩]
  caseTable := asciiTable
  upperTable := asciiUpperTable

theorem list_reveals_mailboxes :
    ∃ mailboxes mailboxes' lines, oneUser.users ≠ [] ∧ untilLogin oneUser lines = lines ∧
      handleConn oneUser mailboxes lines ≠ handleConn oneUser mailboxes' lines :=
  ⟨[], [{ name := go "INBOX" }], [{ text := go "a LIST \"\" *" }], by decide⟩

end Mockly.IMAP
