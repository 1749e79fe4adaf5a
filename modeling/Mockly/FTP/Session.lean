import Mockly.API.Reset
import Mockly.Go.Path
import Mockly.Lib.Session
import Mockly.Lib.Records

/-!
# FTP sessions

The session keeps the *name* of the user who has logged in, and looks the record up again for every
command. Ports, connections and the fault in force come with the line.

Main result: **`output_eq_of_agree`**.
-/

namespace Mockly.FTP

open List

open API (FTPFile normalizeFTPFiles)
open Session (related_ite)

/-! ## Configuration -/

structure FTPUser where
  username : GoString
  password : GoString
  allowedFiles : List GoString := []
  deriving DecidableEq

/-- Its delay passes without a trace, and the error rate only goes into the roll. -/
structure FTPFault where
  code : ℤ := 0
  message : GoString := []

/-- What the server is started with, apart from its files. -/
structure Config where
  users : List FTPUser
  upperTable : UpperTable
  /-- `strconv.Quote`. -/
  quote : GoString → GoString

/-! ## Files -/

def findUser (cfg : Config) (username password : GoString) : Option FTPUser :=
  cfg.users.find? fun u => u.username = username ∧ u.password = password

/-- The files the user may see, if they are restricted. -/
def allowedFiles (cfg : Config) (username : GoString) : Option (List GoString) :=
  if cfg.users = [] then none
  else
    match cfg.users.find? fun u => u.username = username with
    | none => none
    | some u => if u.allowedFiles = [] then none else some u.allowedFiles

/-- `allowed == nil || allowed[file.ID]`. -/
def isAllowed (allowed : Option (List GoString)) (file : FTPFile) : Bool :=
  match allowed with
  | none => true
  | some ids => decide (file.id ∈ ids)

/-- The path a client means, seen from its directory. -/
def ftpAbsPath (cwd p : GoString) : GoString :=
  if p = [] then cwd
  else if hasPrefix p (go "/") then pathClean p
  else pathClean (pathJoin cwd p)

def slashed (dir : GoString) : GoString := if hasSuffix dir (go "/") then dir else dir ++ go "/"

def listingLine (namesOnly : Bool) (file : FTPFile) : GoString :=
  if namesOnly then pathBase file.path ++ go "\r\n"
  else
    file.permissions ++ go " 1 ftp ftp " ++ formatInt file.size ++ go " Jan 01 00:00 " ++
      pathBase file.path ++ go "\r\n"

/-- The files of a directory that are allowed, one line each. -/
def listing (files : List FTPFile) (target : GoString) (namesOnly : Bool)
    (allowed : Option (List GoString)) : GoString :=
  let dir := slashed (if target = [] then go "/" else target)
  files.flatMap fun file =>
    if isAllowed allowed file = false then []
    else if slashed (pathDir file.path) ≠ dir then []
    else listingLine namesOnly file

/-- `findFile`: the first file with the path, if it is allowed. -/
def findFile (files : List FTPFile) (path : GoString) (allowed : Option (List GoString)) :
    Option FTPFile :=
  match files.find? fun file => file.path = path with
  | none => none
  | some file => if isAllowed allowed file then some file else none

def deleteFile (files : List FTPFile) (path : GoString) : List FTPFile :=
  files.filter fun file => file.path ≠ path

/-! ## The session -/

structure Conn where
  cwd : GoString := go "/"
  /-- There is a listener for the data connection. -/
  passive : Bool := false
  pendingUser : GoString := []
  authedUser : GoString := []
  authenticated : Bool
  files : List FTPFile

/-- A line of the client, and what the environment has in store for it. -/
structure Line where
  text : GoString
  /-- The port a new listener gets, unless it cannot be opened. -/
  port : Option ℕ := none
  connects : Bool := true
  fault : Option FTPFault := none
  roll : Bool := false

inductive Sent
  | control (b : GoString)
  | data (b : GoString)

/-- What is sent in answer to a line, and the session after it unless it ends. -/
abbrev Answer := List Sent × Option Conn

def reply (text : String) : Sent := .control (go text ++ go "\r\n")

def requiresAuth (cmd : GoString) : Bool :=
  decide (cmd ∈ [go "LIST", go "NLST", go "RETR", go "STOR", go "DELE", go "SIZE"])

/-- `maybeInjectFault`: the reply of a fault that strikes.  It ends the session. -/
def injectedFault (line : Line) : Option Sent :=
  match line.fault with
  | none => none
  | some fault =>
    if line.roll then
      let code := if fault.code = 0 then 421 else fault.code
      let msg := if fault.message = [] then go "Service not available" else fault.message
      some (.control (formatInt code ++ go " " ++ msg ++ go "\r\n"))
    else none

section Commands

variable (cfg : Config) (c : Conn) (line : Line) (arg : GoString)

def allowed : Option (List GoString) := allowedFiles cfg c.authedUser

def pass : Answer :=
  if cfg.users = [] then
    ([reply "230 User logged in"],
      some { c with authedUser := c.pendingUser, authenticated := true })
  else
    match findUser cfg c.pendingUser arg with
    | some u =>
      ([reply "230 User logged in"],
        some { c with authedUser := u.username, authenticated := true })
    | none => ([reply "530 Login incorrect"], some { c with authenticated := false })

def pasv : Answer :=
  match line.port with
  | none => ([reply "425 Can't open data connection"], some { c with passive := false })
  | some port =>
    ([.control (go "227 Entering Passive Mode (127,0,0,1," ++ formatNat (port / 256) ++ go "," ++
        formatNat (port % 256) ++ go ")\r\n")], some { c with passive := true })

/-- The data connection is opened once it is needed, and then used up. -/
def transfer (opening : String) (content : GoString) : Answer :=
  let c' := { c with passive := false }
  if line.connects then
    ([reply opening, .data content, reply "226 Transfer complete"], some c')
  else ([reply opening, reply "425 Can't open data connection"], some c')

/-- What the transfer commands check before anything else. -/
def guarded (body : Answer) : Answer :=
  match injectedFault line with
  | some fault => ([fault], none)
  | none => if c.passive then body else ([reply "425 Use PASV first"], some c)

def list (namesOnly : Bool) : Answer :=
  guarded c line (transfer c line "125 Data connection open"
    (listing c.files (ftpAbsPath c.cwd arg) namesOnly (allowed cfg c)))

def retr : Answer :=
  guarded c line
    (match findFile c.files (ftpAbsPath c.cwd arg) (allowed cfg c) with
    | none => ([reply "550 No such file"], some c)
    | some file => transfer c line "150 Opening data connection" file.content)

/-- `STOR` takes what the client sends and drops it. -/
def stor : Answer :=
  guarded c line ([reply "150 Opening data connection", reply "226 Transfer complete"],
    some { c with passive := false })

def dele : Answer :=
  match findFile c.files (ftpAbsPath c.cwd arg) (allowed cfg c) with
  | none => ([reply "550 No such file"], some c)
  | some _ =>
    ([reply "250 Deleted"],
      some { c with files := deleteFile c.files (ftpAbsPath c.cwd arg) })

def size : Answer :=
  match findFile c.files (ftpAbsPath c.cwd arg) (allowed cfg c) with
  | none => ([reply "550 Not found"], some c)
  | some file => ([.control (go "213 " ++ formatInt file.size ++ go "\r\n")], some c)

/-- One round of the loop of `handleConn`. -/
def handleCommand (cmd : GoString) : Answer :=
  if requiresAuth cmd ∧ !c.authenticated then
    ([reply "530 Please login with USER and PASS"], some c)
  else if cmd = go "USER" then ([reply "331 Password required"], some { c with pendingUser := arg })
  else if cmd = go "PASS" then pass cfg c arg
  else if cmd = go "SYST" then ([reply "215 UNIX Type: L8"], some c)
  else if cmd = go "FEAT" then
    ([.control (go "211 Features:\r\n PASV\r\n211 End\r\n")], some c)
  else if cmd = go "PWD" then
    ([.control (go "257 " ++ cfg.quote c.cwd ++ go " is current directory\r\n")], some c)
  else if cmd = go "CWD" then
    ([reply "250 Directory changed"], some { c with cwd := ftpAbsPath c.cwd arg })
  else if cmd = go "TYPE" then ([reply "200 Type set"], some c)
  else if cmd = go "PASV" then pasv c line
  else if cmd = go "LIST" then list cfg c line arg false
  else if cmd = go "NLST" then list cfg c line arg true
  else if cmd = go "RETR" then retr cfg c line arg
  else if cmd = go "STOR" then stor c line
  else if cmd = go "DELE" then dele cfg c arg
  else if cmd = go "SIZE" then size cfg c arg
  else if cmd = go "QUIT" then ([reply "221 Goodbye"], none)
  else ([reply "502 Command not implemented"], some c)

/-- Command and argument of a line; a blank line has none. -/
def parseLine (text : GoString) : Option (GoString × GoString) :=
  match fields (trimRight text [13, 10]) with
  | [] => none
  | cmd :: args => some (toUpper cfg.upperTable cmd, join args (go " "))

def handleLine : Answer :=
  match parseLine cfg line.text with
  | none => ([], some c)
  | some (cmd, arg) => handleCommand cfg c line arg cmd

end Commands

/-- The session of a client with a server that has the given files configured. -/
def Conn.start (cfg : Config) (files : List FTPFile) : Conn where
  authenticated := decide (cfg.users = [])
  files := normalizeFTPFiles files

/-- `handleConn`: everything that is sent in answer to the lines of a client. -/
def handleConn (cfg : Config) (files : List FTPFile) (lines : List Line) : List Sent :=
  reply "220 Mockly FTP Server ready" ::
    Session.run (handleLine cfg) (some (.start cfg files)) lines

/-! ## Who is permitted what -/

/-- The record that a line logs in with. -/
def loggedInBy (cfg : Config) (c : Conn) (line : Line) : List FTPUser :=
  match parseLine cfg line.text with
  | none => []
  | some (cmd, arg) => if cmd = go "PASS" then (findUser cfg c.pendingUser arg).toList else []

def loggedIn (cfg : Config) (files : List FTPFile) (lines : List Line) : List FTPUser :=
  Session.collect (handleLine cfg) (loggedInBy cfg) (some (.start cfg files)) lines

/-- It is listed in one of the records, or the list is empty. Where there are no users everything is
permitted. -/
def permitted (cfg : Config) (records : List FTPUser) (file : FTPFile) : Bool :=
  decide (cfg.users = []) ||
    records.any fun u => decide (u.allowedFiles = []) || decide (file.id ∈ u.allowedFiles)

lemma permitted_nil {cfg : Config} (husers : cfg.users ≠ []) :
    permitted cfg [] = fun _ => false := by
  funext file
  simp [permitted, husers]

/-- Two sessions that differ at most in files that are not permitted to the records. Paths are
distinct, and whoever is logged in is one of the records. -/
structure Alike (cfg : Config) (records : List FTPUser) (c c' : Conn) : Prop where
  conn : c' = { c with files := c'.files }
  agree : c.files.filter (permitted cfg records) = c'.files.filter (permitted cfg records)
  paths : (c.files.map FTPFile.path).Nodup
  paths' : (c'.files.map FTPFile.path).Nodup
  user : c.authenticated = true → cfg.users = [] ∨ ∃ u ∈ records, u ∈ cfg.users ∧
    u.username = c.authedUser

section Alike

variable {cfg : Config} {records : List FTPUser} {c c' : Conn}

lemma permitted_of_isAllowed (hnames : (cfg.users.map FTPUser.username).Nodup)
    (huser : cfg.users = [] ∨ ∃ u ∈ records, u ∈ cfg.users ∧ u.username = c.authedUser)
    (file : FTPFile) (h : isAllowed (allowed cfg c) file = true) :
    permitted cfg records file = true := by
  rcases huser with hnone | ⟨u, hu, hmem, hname⟩
  · simp [permitted, hnone]
  · have hfind : cfg.users.find? (fun v => v.username = c.authedUser) = some u :=
      (Records.find?_key_eq_some hnames).mpr ⟨hmem, hname⟩
    have hsome : cfg.users ≠ [] := ne_nil_of_mem hmem
    rw [permitted, Bool.or_eq_true]
    right
    rw [any_eq_true]
    refine ⟨u, hu, ?_⟩
    by_cases hall : u.allowedFiles = []
    · simp [hall]
    · simpa [allowed, allowedFiles, hsome, hfind, hall, isAllowed] using h

lemma findFile_eq {files : List FTPFile} (hpaths : (files.map FTPFile.path).Nodup) (path : GoString)
    (ids : Option (List GoString)) :
    findFile files path ids =
      (files.filter (isAllowed ids)).find? fun file => file.path = path := by
  rw [Records.find?_key_filter hpaths, findFile]
  cases files.find? fun file => file.path = path with
  | none => rfl
  | some file => simp [Option.filter]

lemma listing_eq (files : List FTPFile) (target : GoString) (namesOnly : Bool)
    (ids : Option (List GoString)) :
    listing files target namesOnly ids =
      listing (files.filter (isAllowed ids)) target namesOnly ids := by
  induction files with
  | nil => rfl
  | cons file files ih =>
    simp only [listing, flatMap_cons] at ih ⊢
    cases hfile : isAllowed ids file with
    | false | true => simpa [filter_cons, hfile] using ih

/-- Two sessions answer a line alike. -/
def SameAnswer (cfg : Config) (records : List FTPUser) (a a' : Answer) : Prop :=
  a.1 = a'.1 ∧ Option.Rel (Alike cfg records) a.2 a'.2

lemma mem_loggedInBy {line : Line} {cmd arg : GoString}
    (hparse : parseLine cfg line.text = some (cmd, arg)) (hpass : cmd = go "PASS") {u : FTPUser}
    (hu : findUser cfg c.pendingUser arg = some u) : u ∈ loggedInBy cfg c line := by
  simp [loggedInBy, hparse, hpass, hu]

variable (h : Alike cfg records c c')

include h

lemma Alike.exists_files : ∃ files', c' = { c with files := files' } := ⟨_, h.conn⟩

lemma Alike.update {d : Conn} (hfiles : d.files = c.files)
    (huser : d.authenticated = true → cfg.users = [] ∨ ∃ u ∈ records, u ∈ cfg.users ∧
      u.username = d.authedUser) :
    Alike cfg records d { d with files := c'.files } where
  conn := rfl
  agree := hfiles ▸ h.agree
  paths := hfiles ▸ h.paths
  paths' := h.paths'
  user := huser

lemma SameAnswer.same (sent : List Sent) {d : Conn} (hfiles : d.files = c.files)
    (hauth : d.authenticated = c.authenticated) (huser : d.authedUser = c.authedUser) :
    SameAnswer cfg records (sent, some d) (sent, some { d with files := c'.files }) :=
  ⟨rfl, .some (h.update hfiles (by rw [hauth, huser]; exact h.user))⟩

variable (line : Line) {arg : GoString}

lemma transfer_alike (opening : String) (content : GoString) :
    SameAnswer cfg records (transfer c line opening content)
      (transfer c' line opening content) := by
  obtain ⟨files', rfl⟩ := h.exists_files
  simp only [transfer]
  split_ifs
  · exact .same h _ rfl rfl rfl
  · exact .same h _ rfl rfl rfl

lemma guarded_alike {body body' : Answer} (hbody : SameAnswer cfg records body body') :
    SameAnswer cfg records (guarded c line body) (guarded c' line body') := by
  obtain ⟨files', rfl⟩ := h.exists_files
  simp only [guarded]
  cases injectedFault line with
  | some fault => exact ⟨rfl, .none⟩
  | none =>
    dsimp only
    split_ifs
    · exact hbody
    · exact .same h _ rfl rfl rfl

lemma pass_alike (hlogin : ∀ u, findUser cfg c.pendingUser arg = some u → u ∈ records) :
    SameAnswer cfg records (pass cfg c arg) (pass cfg c' arg) := by
  obtain ⟨files', rfl⟩ := h.exists_files
  simp only [pass]
  split_ifs with hnone
  · exact ⟨rfl, .some (h.update rfl fun _ => Or.inl hnone)⟩
  · cases hfind : findUser cfg c.pendingUser arg with
    | none => exact ⟨rfl, .some (h.update rfl (by simp))⟩
    | some u =>
      exact ⟨rfl, .some (h.update rfl fun _ =>
        Or.inr ⟨u, hlogin u hfind, mem_of_find?_eq_some hfind, rfl⟩)⟩

lemma stor_alike : SameAnswer cfg records (stor c line) (stor c' line) := by
  refine guarded_alike h line ?_
  obtain ⟨files', rfl⟩ := h.exists_files
  exact .same h _ rfl rfl rfl

variable (hnames : (cfg.users.map FTPUser.username).Nodup)

include hnames

section LoggedIn

variable (hauth : c.authenticated = true)

include hauth

lemma Alike.allowed_eq :
    c.files.filter (isAllowed (allowed cfg c)) = c'.files.filter (isAllowed (allowed cfg c)) :=
  Records.filter_eq_of_imp (permitted_of_isAllowed hnames (h.user hauth)) h.agree

lemma Alike.findFile (path : GoString) :
    findFile c.files path (allowed cfg c) = FTP.findFile c'.files path (allowed cfg c) := by
  rw [findFile_eq h.paths, findFile_eq h.paths', h.allowed_eq hnames hauth]

lemma list_alike (namesOnly : Bool) :
    SameAnswer cfg records (list cfg c line arg namesOnly) (list cfg c' line arg namesOnly) := by
  have hlisting : listing c.files (ftpAbsPath c.cwd arg) namesOnly (allowed cfg c) =
      listing c'.files (ftpAbsPath c.cwd arg) namesOnly (allowed cfg c) := by
    rw [listing_eq c.files, listing_eq c'.files, h.allowed_eq hnames hauth]
  refine guarded_alike h line ?_
  obtain ⟨files', rfl⟩ := h.exists_files
  rw [hlisting]
  exact transfer_alike h line _ _

lemma retr_alike : SameAnswer cfg records (retr cfg c line arg) (retr cfg c' line arg) := by
  have hfind := h.findFile hnames hauth (ftpAbsPath c.cwd arg)
  refine guarded_alike h line ?_
  obtain ⟨files', rfl⟩ := h.exists_files
  simp only [allowed] at hfind ⊢
  rw [hfind]
  cases FTP.findFile files' (ftpAbsPath c.cwd arg) (allowedFiles cfg c.authedUser) with
  | none => exact .same h _ rfl rfl rfl
  | some file => exact transfer_alike h line _ _

lemma dele_alike : SameAnswer cfg records (dele cfg c arg) (dele cfg c' arg) := by
  have hfind := h.findFile hnames hauth (ftpAbsPath c.cwd arg)
  obtain ⟨files', rfl⟩ := h.exists_files
  simp only [dele, allowed] at hfind ⊢
  rw [hfind]
  cases FTP.findFile files' (ftpAbsPath c.cwd arg) (allowedFiles cfg c.authedUser) with
  | none => exact .same h _ rfl rfl rfl
  | some file =>
    refine ⟨rfl, .some ⟨rfl, ?_, ?_, ?_, h.user⟩⟩
    · simp only [deleteFile, filter_filter, Bool.and_comm]
      rw [← filter_filter, ← filter_filter, h.agree]
    · exact h.paths.sublist (filter_sublist.map _)
    · exact h.paths'.sublist (filter_sublist.map _)

lemma size_alike : SameAnswer cfg records (size cfg c arg) (size cfg c' arg) := by
  have hfind := h.findFile hnames hauth (ftpAbsPath c.cwd arg)
  obtain ⟨files', rfl⟩ := h.exists_files
  simp only [size, allowed] at hfind ⊢
  rw [hfind]
  cases FTP.findFile files' (ftpAbsPath c.cwd arg) (allowedFiles cfg c.authedUser) with
  | none | some => exact .same h _ rfl rfl rfl

end LoggedIn

/-- **One command of two sessions that are alike.** -/
lemma handleCommand_alike {cmd : GoString}
    (hlogin : cmd = go "PASS" → ∀ u, findUser cfg c.pendingUser arg = some u → u ∈ records) :
    SameAnswer cfg records (handleCommand cfg c line arg cmd)
      (handleCommand cfg c' line arg cmd) := by
  -- The commands that need a login get here only with one.
  have hauth : ¬ (requiresAuth cmd ∧ !c.authenticated) → requiresAuth cmd = true →
      c.authenticated = true := by
    intro hguard hreq
    simpa [hreq] using hguard
  have hpass := fun hcmd => pass_alike h (hlogin hcmd)
  have hlist : c.authenticated = true → ∀ namesOnly, SameAnswer cfg records
      (list cfg c line arg namesOnly) (list cfg c' line arg namesOnly) :=
    fun hauth => list_alike h line hnames hauth
  obtain ⟨files', rfl⟩ := h.exists_files
  have hsame : ∀ sent, SameAnswer cfg records (sent, some c)
      (sent, some { c with files := files' }) :=
    fun sent => .same h sent rfl rfl rfl
  have hpasv : SameAnswer cfg records (pasv c line) (pasv { c with files := files' } line) := by
    simp only [pasv]
    cases line.port with
    | none | some => exact .same h _ rfl rfl rfl
  unfold handleCommand
  refine related_ite (fun _ => hsame _) fun hguard => ?_
  refine related_ite (fun _ => .same h _ rfl rfl rfl) fun _ => ?_
  refine related_ite hpass fun _ => ?_
  iterate 3 refine related_ite (fun _ => hsame _) fun _ => ?_
  refine related_ite (fun _ => .same h _ rfl rfl rfl) fun _ => ?_
  refine related_ite (fun _ => hsame _) fun _ => ?_
  refine related_ite (fun _ => hpasv) fun _ => ?_
  refine related_ite (fun hcmd => hlist (hauth hguard (hcmd ▸ rfl)) false) fun _ => ?_
  refine related_ite (fun hcmd => hlist (hauth hguard (hcmd ▸ rfl)) true) fun _ => ?_
  refine related_ite (fun hcmd => retr_alike h line hnames (hauth hguard (hcmd ▸ rfl))) fun _ => ?_
  refine related_ite (fun _ => stor_alike h line) fun _ => ?_
  refine related_ite (fun hcmd => dele_alike h hnames (hauth hguard (hcmd ▸ rfl))) fun _ => ?_
  refine related_ite (fun hcmd => size_alike h hnames (hauth hguard (hcmd ▸ rfl))) fun _ => ?_
  exact related_ite (fun _ => ⟨rfl, .none⟩) fun _ => hsame _

lemma handleLine_alike (hlogin : ∀ u ∈ loggedInBy cfg c line, u ∈ records) :
    SameAnswer cfg records (handleLine cfg c line) (handleLine cfg c' line) := by
  cases hparse : parseLine cfg line.text with
  | none =>
    simp only [handleLine, hparse]
    exact ⟨rfl, .some h⟩
  | some p =>
    obtain ⟨cmd, arg⟩ := p
    simp only [handleLine, hparse]
    exact handleCommand_alike h line hnames fun hpass u hu =>
      hlogin u (mem_loggedInBy hparse hpass hu)

end Alike

/-- **Files that nobody who logs in is permitted do not matter**, whatever the client does. -/
theorem output_eq_of_agree {cfg : Config} (hnames : (cfg.users.map FTPUser.username).Nodup)
    {files files' : List FTPFile}
    (hpaths : ((normalizeFTPFiles files).map FTPFile.path).Nodup)
    (hpaths' : ((normalizeFTPFiles files').map FTPFile.path).Nodup) (lines : List Line)
    (hagree : files.filter (permitted cfg (loggedIn cfg files lines)) =
      files'.filter (permitted cfg (loggedIn cfg files lines))) :
    handleConn cfg files lines = handleConn cfg files' lines := by
  have hstart : Alike cfg (loggedIn cfg files lines) (.start cfg files) (.start cfg files') := by
    refine ⟨rfl, ?_, hpaths, hpaths', fun hauth => Or.inl (by simpa [Conn.start] using hauth)⟩
    -- Normalising a file keeps its ID, hence whom it is permitted to.
    have hnorm : ∀ fs : List FTPFile,
        (normalizeFTPFiles fs).filter (permitted cfg (loggedIn cfg files lines)) =
          normalizeFTPFiles (fs.filter (permitted cfg (loggedIn cfg files lines))) :=
      fun fs => filter_map ..
    simp [Conn.start, hnorm, hagree]
  have hok := Session.along_of_forall_collect (P := (· ∈ loggedIn cfg files lines))
    (fun u hu => hu : ∀ u ∈ loggedIn cfg files lines, _)
  rw [handleConn, handleConn, Session.run_eq_of_related
    (fun c c' line (h : Alike cfg (loggedIn cfg files lines) c c') hlogin =>
      handleLine_alike h line hnames hlogin) (.some hstart) hok]

/-- In particular nothing depends on the files before somebody has logged in. -/
theorem output_eq_before_login {cfg : Config} (hnames : (cfg.users.map FTPUser.username).Nodup)
    (husers : cfg.users ≠ []) {files files' : List FTPFile}
    (hpaths : ((normalizeFTPFiles files).map FTPFile.path).Nodup)
    (hpaths' : ((normalizeFTPFiles files').map FTPFile.path).Nodup) (lines : List Line)
    (hlogin : loggedIn cfg files lines = []) :
    handleConn cfg files lines = handleConn cfg files' lines := by
  refine output_eq_of_agree hnames hpaths hpaths' lines ?_
  simp [hlogin, permitted_nil husers]

end Mockly.FTP
