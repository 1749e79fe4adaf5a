import Mockly.LDAP.BER
import Mockly.State.Observe
import Mockly.Config.HTTP
import Mockly.Lib.Session
import Mockly.Lib.Records

/-!
# LDAP sessions

The session keeps the *name* of the user, and looks the record up again for every search. A search
may remove expired keys from the state store (`AgreeFrom`).

Main result: **`output_eq_of_agree`**.
-/

namespace Mockly.LDAP

open State (Store Write)

/-! ## Configuration -/

structure LDAPUser where
  username : GoString
  password : GoString
  allowedMockIDs : List GoString := []
  deriving DecidableEq

/-- `LDAPMock`; its delay passes without a trace. -/
structure LDAPMock where
  id : GoString := []
  baseDN : GoString := []
  filter : GoString := []
  attributes : GoMap (List GoString) := ∅
  state : Option StateCondition := none

/-- Its delay passes without a trace, and the error rate only goes into the roll. -/
structure LDAPFault where
  resultCode : ℤ := 0
  message : GoString := []

/-- What the server is started with, apart from its mocks. -/
structure Config where
  users : List LDAPUser
  caseTable : CaseTable

/-! ## Searching -/

def findUser (cfg : Config) (name password : GoString) : Option LDAPUser :=
  cfg.users.find? fun u => u.username = name ∧ u.password = password

def findUserByUsername (cfg : Config) (name : GoString) : Option LDAPUser :=
  cfg.users.find? fun u => u.username = name

/-- What a search asks for, and the restriction it is under; an empty restriction is none. -/
structure Search where
  baseDN : GoString
  filterRaw : GoString
  allowedMockIDs : List GoString

def Search.selects (cfg : Config) (q : Search) (m : LDAPMock) : Bool :=
  contains (toLower cfg.caseTable q.baseDN) (toLower cfg.caseTable m.baseDN) &&
    (m.filter == [] || m.filter == q.filterRaw) &&
    (q.allowedMockIDs == [] || decide (m.id ∈ q.allowedMockIDs))

/-- The loop of `matchMocks`. -/
def matchMocks (cfg : Config) (q : Search) (now : ℤ) : Store → List LDAPMock → List LDAPMock × Store
  | store, [] => ([], store)
  | store, m :: ms =>
    match m.state with
    | none =>
      let (rest, store) := matchMocks cfg q now store ms
      (if q.selects cfg m then m :: rest else rest, store)
    | some cond =>
      let (v, store) := store.get cond.key now
      let (rest, store) := matchMocks cfg q now store ms
      (if v.1 = cond.value ∧ q.selects cfg m then m :: rest else rest, store)

/-! ## The session -/

/-- What the loop keeps, the state store it shares, and the time. -/
structure Conn where
  boundUser : GoString := []
  boundAny : Bool
  store : Store
  clock : ℤ

/-- A request as `readBERPacket` has read it, with the fault in force and whether it strikes. -/
structure Request where
  packet : GoString
  fault : Option LDAPFault := none
  roll : Bool := false

/-- The client sends a request, or the state store is written to. -/
inductive Input
  | request (elapsed : ℕ) (r : Request)
  | write (elapsed : ℕ) (w : Write)

inductive Next
  | continue (c : Conn)
  | closed
  | panicked

structure Answer where
  sent : List GoString
  next : Next

section Handle

variable (cfg : Config) (mocks : List LDAPMock)

def bind (c : Conn) (msgID : ℤ) (content : GoString) : Answer :=
  if cfg.users = [] then ⟨[buildLDAPMessage msgID 0x61 bindSuccessContent], .continue c⟩
  else
    match parseBindRequest content with
    | none => ⟨[], .panicked⟩
    | some req =>
      match req.password.bind (findUser cfg req.name) with
      | some u =>
        ⟨[buildLDAPMessage msgID 0x61 bindSuccessContent],
          .continue { c with boundUser := u.username, boundAny := true }⟩
      | none =>
        ⟨[buildLDAPMessage msgID 0x61 (ldapResultContent 49 (go "invalid credentials"))],
          .continue { c with boundUser := [], boundAny := false }⟩

def faultDone (r : Request) : Option GoString :=
  match r.fault with
  | none => none
  | some fault =>
    if r.roll then
      let rc := if fault.resultCode = 0 then 52 else fault.resultCode
      let message := if fault.message = [] then go "fault injected" else fault.message
      some (searchDoneContent (UInt8.ofInt rc) message)
    else none

def allowedMockIDs (c : Conn) : List GoString :=
  if cfg.users = [] then []
  else
    match findUserByUsername cfg c.boundUser with
    | some u => u.allowedMockIDs
    | none => []

def search (c : Conn) (r : Request) (msgID : ℤ) (content : GoString) : Answer :=
  match parseSearchRequest content with
  | none => ⟨[], .panicked⟩
  | some (baseDN, filterRaw) =>
    if !c.boundAny then
      ⟨[buildLDAPMessage msgID 0x65 (searchDoneContent 50 (go "insufficient access rights"))],
        .continue c⟩
    else
      match faultDone r with
      | some done => ⟨[buildLDAPMessage msgID 0x65 done], .continue c⟩
      | none =>
        let (matched, store) :=
          matchMocks cfg ⟨baseDN, filterRaw, allowedMockIDs cfg c⟩ c.clock c.store mocks
        ⟨(matched.map fun m =>
            buildLDAPMessage msgID 0x64 (searchEntryContent baseDN m.attributes)) ++
          [buildLDAPMessage msgID 0x65 (searchDoneContent 0 [])],
          .continue { c with store := store }⟩

/-- One round of the loop of `handleConn`. -/
def handleRequest (c : Conn) (r : Request) : Answer :=
  match parseLDAPEnvelope r.packet with
  | none => ⟨[], .panicked⟩
  | some env =>
    if env.opTag = 0x60 then bind cfg c env.msgID env.opContent
    else if env.opTag = 0x42 then ⟨[], .closed⟩
    else if env.opTag = 0x63 then search cfg mocks c r env.msgID env.opContent
    else ⟨[], .continue c⟩

def Next.conn : Next → Option Conn
  | .continue c => some c
  | .closed => none
  | .panicked => none

def step (c : Conn) : Input → List GoString × Option Conn
  | .request elapsed r =>
    let answer := handleRequest cfg mocks { c with clock := c.clock + elapsed } r
    (answer.sent, answer.next.conn)
  | .write elapsed w =>
    ([], some
      { c with clock := c.clock + elapsed, store := c.store.apply (c.clock + elapsed) w })

/-- The session of a client that connects at `now`. -/
def Conn.start (store : Store) (now : ℤ) : Conn where
  boundAny := decide (cfg.users = [])
  store := store
  clock := now

/-- `handleConn`: everything that is sent. -/
def handleConn (store : Store) (now : ℤ) (inputs : List Input) : List GoString :=
  Session.run (step cfg mocks) (some (.start cfg store now)) inputs

end Handle

/-! ## What a search sees -/

/-- A mock is returned by a search that finds the store as it is. -/
def Search.returns (cfg : Config) (q : Search) (store : Store) (now : ℤ) (m : LDAPMock) : Bool :=
  (match m.state with
    | none => true
    | some cond => decide ((store.get cond.key now).1.1 = cond.value)) && q.selects cfg m

lemma Search.returns_congr (cfg : Config) (q : Search) {store store' : Store} {now : ℤ}
    (h : store.AgreeFrom now store') (m : LDAPMock) :
    q.returns cfg store now m = q.returns cfg store' now m := by
  cases hm : m.state with
  | none => simp [returns, hm]
  | some cond => simp [returns, hm, h cond.key now le_rfl]

lemma matchMocks_agreeFrom (cfg : Config) (q : Search) (now : ℤ) (mocks : List LDAPMock) :
    ∀ store : Store, store.AgreeFrom now (matchMocks cfg q now store mocks).2 := by
  induction mocks with
  | nil => exact fun store key t _ => rfl
  | cons m ms ih =>
    intro store
    cases hm : m.state with
    | none => simpa [matchMocks, hm] using ih store
    | some cond =>
      simp only [matchMocks, hm]
      exact (store.agreeFrom_get cond.key now).trans (ih _)

/-- A search returns the mocks it would return one by one. -/
lemma matchMocks_eq_filter (cfg : Config) (q : Search) (now : ℤ) (mocks : List LDAPMock) :
    ∀ store : Store, (matchMocks cfg q now store mocks).1 =
      mocks.filter (q.returns cfg store now) := by
  induction mocks with
  | nil => exact fun _ => rfl
  | cons m ms ih =>
    intro store
    cases hm : m.state with
    | none => simp [matchMocks, hm, ih, List.filter_cons, Search.returns]
    | some cond =>
      -- The rest is searched after the key of this mock has been read.
      have hrest : ms.filter (q.returns cfg (store.get cond.key now).2 now) =
          ms.filter (q.returns cfg store now) :=
        List.filter_congr fun m' _ =>
          (q.returns_congr cfg (store.agreeFrom_get cond.key now) m').symm
      simp [matchMocks, hm, ih, hrest, List.filter_cons, Search.returns]

/-! ## Who is permitted what -/

/-- The record that a request binds with. -/
def boundBy (cfg : Config) : Input → List LDAPUser
  | .request _ r =>
    match parseLDAPEnvelope r.packet with
    | none => []
    | some env =>
      if env.opTag = 0x60 then
        ((parseBindRequest env.opContent).bind fun req =>
          req.password.bind (findUser cfg req.name)).toList
      else []
  | .write _ _ => []

def bound (cfg : Config) (mocks : List LDAPMock) (store : Store) (now : ℤ) (inputs : List Input) :
    List LDAPUser :=
  Session.collect (step cfg mocks) (fun _ => boundBy cfg) (some (.start cfg store now)) inputs

/-- It is listed in one of the records, or the list is empty. Where there are no users everything is
permitted. -/
def permitted (cfg : Config) (records : List LDAPUser) (m : LDAPMock) : Bool :=
  decide (cfg.users = []) ||
    records.any fun u => decide (u.allowedMockIDs = []) || decide (m.id ∈ u.allowedMockIDs)

lemma permitted_nil {cfg : Config} (husers : cfg.users ≠ []) :
    permitted cfg [] = fun _ => false := by
  funext m
  simp [permitted, husers]

/-- They differ in the store at most, and there in nothing that will be seen. Whoever has bound is
one of the records. -/
structure Alike (cfg : Config) (records : List LDAPUser) (c c' : Conn) : Prop where
  conn : c' = { c with store := c'.store }
  agree : c.store.AgreeFrom c.clock c'.store
  user : c.boundAny = true → cfg.users = [] ∨ ∃ u ∈ records, u ∈ cfg.users ∧
    u.username = c.boundUser

section Alike

variable {cfg : Config} {records : List LDAPUser} {c c' : Conn}

/-- The second look at the record, by its name, finds the one that has bound. -/
lemma permitted_of_returns (hnames : (cfg.users.map LDAPUser.username).Nodup)
    (huser : cfg.users = [] ∨ ∃ u ∈ records, u ∈ cfg.users ∧ u.username = c.boundUser)
    {baseDN filterRaw : GoString} {store : Store} {now : ℤ} (m : LDAPMock)
    (h : Search.returns cfg ⟨baseDN, filterRaw, allowedMockIDs cfg c⟩ store now m = true) :
    permitted cfg records m = true := by
  rcases huser with hnone | ⟨u, hu, hmem, hname⟩
  · simp [permitted, hnone]
  · have hfind : findUserByUsername cfg c.boundUser = some u :=
      (Records.find?_key_eq_some hnames).mpr ⟨hmem, hname⟩
    have hsome : cfg.users ≠ [] := List.ne_nil_of_mem hmem
    have hids : allowedMockIDs cfg c = u.allowedMockIDs := by
      simp [allowedMockIDs, hsome, hfind]
    have hallowed : u.allowedMockIDs = [] ∨ m.id ∈ u.allowedMockIDs := by
      simp only [Search.returns, Search.selects, hids, Bool.and_eq_true, Bool.or_eq_true,
        beq_iff_eq, decide_eq_true_eq] at h
      exact h.2.2
    rw [permitted, Bool.or_eq_true]
    right
    rw [List.any_eq_true]
    exact ⟨u, hu, by simpa using hallowed⟩

/-- Two sessions answer a request alike. -/
def SameAnswer (cfg : Config) (records : List LDAPUser) (a a' : Answer) : Prop :=
  a.sent = a'.sent ∧ Option.Rel (Alike cfg records) a.next.conn a'.next.conn

lemma bind_alike (h : Alike cfg records c c') (msgID : ℤ) {content : GoString}
    (hbind : ∀ req, parseBindRequest content = some req →
      ∀ u, req.password.bind (findUser cfg req.name) = some u → u ∈ records) :
    SameAnswer cfg records (bind cfg c msgID content) (bind cfg c' msgID content) := by
  obtain ⟨store', rfl⟩ : ∃ store', c' = { c with store := store' } := ⟨_, h.conn⟩
  simp only [bind]
  split_ifs with hnone
  · exact ⟨rfl, .some h⟩
  · cases hreq : parseBindRequest content with
    | none => exact ⟨rfl, .none⟩
    | some req =>
      dsimp only
      cases hfind : req.password.bind (findUser cfg req.name) with
      | none => exact ⟨rfl, .some ⟨rfl, h.agree, by simp⟩⟩
      | some u =>
        have hmem : u ∈ cfg.users := by
          obtain ⟨password, -, hu⟩ := Option.bind_eq_some_iff.mp hfind
          exact List.mem_of_find?_eq_some hu
        exact ⟨rfl, .some ⟨rfl, h.agree, fun _ =>
          Or.inr ⟨u, hbind req hreq u hfind, hmem, rfl⟩⟩⟩

variable (hnames : (cfg.users.map LDAPUser.username).Nodup) {mocks mocks' : List LDAPMock}
  (hmocks : mocks.filter (permitted cfg records) = mocks'.filter (permitted cfg records))

include hnames hmocks

lemma matchMocks_alike (h : Alike cfg records c c') (hbound : c.boundAny = true)
    (baseDN filterRaw : GoString) :
    (matchMocks cfg ⟨baseDN, filterRaw, allowedMockIDs cfg c⟩ c.clock c.store mocks).1 =
      (matchMocks cfg ⟨baseDN, filterRaw, allowedMockIDs cfg c⟩ c.clock c'.store mocks').1 := by
  rw [matchMocks_eq_filter, matchMocks_eq_filter,
    Records.filter_eq_of_imp (permitted_of_returns hnames (h.user hbound)) hmocks]
  exact List.filter_congr fun m _ => Search.returns_congr cfg _ h.agree m

lemma search_alike (h : Alike cfg records c c') (r : Request) (msgID : ℤ) (content : GoString) :
    SameAnswer cfg records (search cfg mocks c r msgID content)
      (search cfg mocks' c' r msgID content) := by
  have hmatch := fun hbound => matchMocks_alike hnames hmocks h hbound
  obtain ⟨store', rfl⟩ : ∃ store', c' = { c with store := store' } := ⟨_, h.conn⟩
  simp only [search]
  cases parseSearchRequest content with
  | none => exact ⟨rfl, .none⟩
  | some p =>
    obtain ⟨baseDN, filterRaw⟩ := p
    dsimp only
    split_ifs with hbound
    · exact ⟨rfl, .some h⟩
    · cases faultDone r with
      | some done => exact ⟨rfl, .some h⟩
      | none =>
        have hfound := hmatch (by simpa using hbound) baseDN filterRaw
        refine ⟨by simp [hfound]; rfl, .some ⟨rfl, ?_, h.user⟩⟩
        -- Each store shows what it showed before, so they still agree.
        exact ((matchMocks_agreeFrom cfg _ c.clock mocks c.store).symm.trans h.agree).trans
          (matchMocks_agreeFrom cfg _ c.clock mocks' store')

lemma handleRequest_alike (h : Alike cfg records c c') (elapsed : ℕ) (r : Request)
    (hbind : ∀ u ∈ boundBy cfg (.request elapsed r), u ∈ records) :
    SameAnswer cfg records (handleRequest cfg mocks c r) (handleRequest cfg mocks' c' r) := by
  simp only [handleRequest]
  cases henv : parseLDAPEnvelope r.packet with
  | none => exact ⟨rfl, .none⟩
  | some env =>
    dsimp only
    split_ifs with h60
    · refine bind_alike h _ fun req hreq u hu => hbind u ?_
      simp [boundBy, henv, h60, hreq, hu]
    · exact ⟨rfl, .none⟩
    · exact search_alike hnames hmocks h r _ _
    · exact ⟨rfl, .some h⟩

/-- **One step of two sessions that are alike.** -/
lemma step_alike (h : Alike cfg records c c') (input : Input)
    (hbind : ∀ u ∈ boundBy cfg input, u ∈ records) :
    (step cfg mocks c input).1 = (step cfg mocks' c' input).1 ∧
      Option.Rel (Alike cfg records) (step cfg mocks c input).2 (step cfg mocks' c' input).2 := by
  obtain ⟨store', rfl⟩ : ∃ store', c' = { c with store := store' } := ⟨_, h.conn⟩
  have hlater : ∀ elapsed : ℕ, c.store.AgreeFrom (c.clock + elapsed) store' :=
    fun elapsed => h.agree.later (by omega)
  cases input with
  | request elapsed r =>
    exact handleRequest_alike hnames hmocks
      (c := { c with clock := c.clock + elapsed }) ⟨rfl, hlater elapsed, h.user⟩ elapsed r hbind
  | write elapsed w => exact ⟨rfl, .some ⟨rfl, (hlater elapsed).apply w, h.user⟩⟩

end Alike

/-- **Mocks that nobody who binds is permitted do not matter**, whatever the client does and
whatever happens to the store. -/
theorem output_eq_of_agree {cfg : Config} (hnames : (cfg.users.map LDAPUser.username).Nodup)
    {mocks mocks' : List LDAPMock} (store : Store) (now : ℤ) (inputs : List Input)
    (hmocks : mocks.filter (permitted cfg (bound cfg mocks store now inputs)) =
      mocks'.filter (permitted cfg (bound cfg mocks store now inputs))) :
    handleConn cfg mocks store now inputs = handleConn cfg mocks' store now inputs := by
  have hstart : Alike cfg (bound cfg mocks store now inputs) (.start cfg store now)
      (.start cfg store now) :=
    ⟨rfl, fun _ _ _ => rfl, fun hbound => Or.inl (by simpa [Conn.start] using hbound)⟩
  have hok := Session.along_of_forall_collect (P := (· ∈ bound cfg mocks store now inputs))
    (fun u hu => hu : ∀ u ∈ bound cfg mocks store now inputs, _)
  exact Session.run_eq_of_related (R := Alike cfg (bound cfg mocks store now inputs))
    (fun c c' input h hbind => step_alike hnames hmocks h input hbind) (.some hstart) hok

/-- In particular nothing depends on the mocks before somebody has bound. -/
theorem output_eq_before_bind {cfg : Config} (hnames : (cfg.users.map LDAPUser.username).Nodup)
    (husers : cfg.users ≠ []) {mocks mocks' : List LDAPMock} (store : Store) (now : ℤ)
    (inputs : List Input) (hbound : bound cfg mocks store now inputs = []) :
    handleConn cfg mocks store now inputs = handleConn cfg mocks' store now inputs := by
  refine output_eq_of_agree hnames store now inputs ?_
  simp [hbound, permitted_nil husers]

end Mockly.LDAP
