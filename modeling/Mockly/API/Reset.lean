import Mockly.API.Handlers
import Mockly.Lib.ObjectHeap

/-!
# Resetting the mocks

The header map of a response and the `on_connect` object of a WebSocket mock are shared between the
configuration and the live list: they are references into a heap here.

Main result: **`reset_restores`**.
-/

namespace Mockly.API

open Transition
open ObjectHeap (Ref Unchanged)

/-! ## The mocks of the protocols

Where the handlers of a protocol look at no more than the ID, the rest of a mock is left open. -/

structure WebSocketAction where
  send : GoString := []
  sendBinary : GoString := []
  delay : ℤ := 0

/-- `WebSocketMock`; `A` stands for the `on_connect` pointer. -/
structure WebSocketMockOf (D A : Type) where
  id : GoString
  onConnect : A
  rest : D

structure GRPCError where
  code : ℤ
  message : GoString

structure GRPCMock (J D : Type) where
  id : GoString
  response : Option J
  error : Option GRPCError
  delay : ℤ
  rest : D

structure SMTPRule where
  id : GoString
  sender : GoString := []
  recipient : GoString := []
  subject : GoString := []
  action : GoString
  message : GoString := []

structure FTPFile where
  id : GoString
  path : GoString
  content : GoString
  permissions : GoString := []
  size : ℤ := 0
  deriving DecidableEq

structure Item (D : Type) where
  id : GoString
  rest : D

/-- The protocols whose handlers differ only in the type of the mock and the text new IDs start
with. -/
inductive PlainProtocol
  | graphql | tcp | redis | mqtt | nats | snmp | dns | amqp | kafka | ldap | imap | memcached
  | stomp | coap | sip
  deriving DecidableEq

def PlainProtocol.idPrefix : PlainProtocol → String
  | graphql => "gql-"
  | tcp => "tcp-"
  | redis => "redis-"
  | mqtt => "mqtt-"
  | nats => "nats-"
  | snmp => "snmp-"
  | dns => "dns-"
  | amqp => "amqp-"
  | kafka => "kafka-"
  | ldap => "ldap-"
  | imap => "imap-"
  | memcached => "memcached-"
  | stomp => "stomp-"
  | coap => "coap-"
  | sip => "sip-"

structure Payload where
  ws : Type
  grpc : Type
  grpcResponse : Type
  trap : Type
  plain : PlainProtocol → Type

/-- `H` stands for a header map, `A` for an `on_connect`. -/
structure MockLists (T : Payload) (H A : Type) where
  http : List (HTTPMockOf H)
  ws : List (WebSocketMockOf T.ws A)
  grpc : List (GRPCMock T.grpcResponse T.grpc)
  smtp : List SMTPRule
  ftp : List FTPFile
  traps : List (Item T.trap)
  plain : (p : PlainProtocol) → List (Item (T.plain p))

/-! ## The running server -/

structure Configuration (T : Payload) where
  http : List (HTTPMockOf (Option Ref))
  ws : List (WebSocketMockOf T.ws (Option Ref))
  services : List (List (GRPCMock T.grpcResponse T.grpc))
  smtp : List SMTPRule
  ftp : List FTPFile
  traps : List (Item T.trap)
  plain : (p : PlainProtocol) → List (Item (T.plain p))

/-- The header maps, the `on_connect` objects and the live lists. -/
structure Managed (T : Payload) where
  maps : ObjectHeap (GoMap GoString)
  actions : ObjectHeap WebSocketAction
  live : MockLists T (Option Ref) (Option Ref)

/-- The mock lists that the configuration has. -/
def Configuration.lists {T : Payload} (cfg : Configuration T) :
    MockLists T (Option Ref) (Option Ref) :=
  ⟨cfg.http, cfg.ws, cfg.services.flatten, cfg.smtp, cfg.ftp, cfg.traps, cfg.plain⟩

def Configuration.mapRefs {T : Payload} (cfg : Configuration T) : Set Ref :=
  { r | ∃ m ∈ cfg.http, m.response.headers = some r }

/-- The `on_connect` objects of the configuration. -/
def Configuration.actionRefs {T : Payload} (cfg : Configuration T) : Set Ref :=
  { r | ∃ m ∈ cfg.ws, m.onConnect = some r }

/-- One file of `normalizeFTPFiles`. -/
def normalizeFTPFile (f : FTPFile) : FTPFile :=
  { f with
    size := if f.size = 0 then f.content.length else f.size
    permissions := if f.permissions = [] then go "-rw-r--r--" else f.permissions
    path := if hasPrefix f.path (go "/") then f.path else go "/" ++ f.path }

def normalizeFTPFiles (files : List FTPFile) : List FTPFile := files.map normalizeFTPFile

/-- What `reset` installs. -/
def Configuration.installed {T : Payload} (cfg : Configuration T) :
    MockLists T (Option Ref) (Option Ref) :=
  { cfg.lists with ftp := normalizeFTPFiles cfg.ftp }

/-! ## The handlers -/

structure Keyed (M : Type) where
  idOf : M → GoString
  setID : GoString → M → M

inductive Edit (M : Type)
  | add (m : M) (now : ℤ)
  | update (id : GoString) (m : M)
  | delete (id : GoString)

/-- A mock without an ID gets one made up from the time. -/
def Keyed.named {M : Type} (k : Keyed M) (pre : String) (now : ℤ) (m : M) : M :=
  if k.idOf m = [] then k.setID (go pre ++ formatInt now) m else m

/-- `none` if the ID is not found. -/
def Keyed.edit {M : Type} (k : Keyed M) (pre : String) (mocks : List M) :
    Edit M → Option (List M)
  | .add m now => some (mocks ++ [k.named pre now m])
  | .update id m => changeFirst k.idOf id (fun _ => k.setID id m) mocks
  | .delete id => deleteByID k.idOf id mocks

/-- The list after the handler: a list that is not replaced stays. -/
def Keyed.edited {M : Type} (k : Keyed M) (pre : String) (mocks : List M) (e : Edit M) : List M :=
  (k.edit pre mocks e).getD mocks

def Item.keyed (D : Type) : Keyed (Item D) := ⟨Item.id, fun id m => { m with id := id }⟩

def GRPCMock.keyed (J D : Type) : Keyed (GRPCMock J D) :=
  ⟨GRPCMock.id, fun id m => { m with id := id }⟩

def SMTPRule.keyed : Keyed SMTPRule := ⟨SMTPRule.id, fun id m => { m with id := id }⟩

def FTPFile.keyed : Keyed FTPFile := ⟨FTPFile.id, fun id m => { m with id := id }⟩

def WebSocketMockOf.keyed (D A : Type) : Keyed (WebSocketMockOf D A) :=
  ⟨WebSocketMockOf.id, fun id m => { m with id := id }⟩

/-- `addSMTPRule` fills in the action; `updateSMTPRule` does not. -/
def SMTPRule.withAction : Edit SMTPRule → Edit SMTPRule
  | .add rule now =>
    .add { rule with action := if rule.action = [] then go "accept" else rule.action } now
  | e => e

structure WSOnConnectPatch where
  send : Option GoString := none
  delay : Option ℤ := none

structure GRPCResponsePatch (J : Type) where
  response : Option J := none
  error : Option GRPCError := none
  delay : Option ℤ := none

def GRPCResponsePatch.apply {J D : Type} (p : GRPCResponsePatch J) (m : GRPCMock J D) :
    GRPCMock J D :=
  { m with
    response := p.response.or m.response
    error := p.error.or m.error
    delay := p.delay.getD m.delay }

/-- What a request brings along is decoded from it and shared with nothing. -/
inductive Operation (T : Payload)
  | http (e : Edit (HTTPMockOf (Option (GoMap GoString))))
  | patchHTTP (id : GoString) (p : HTTPResponsePatch)
  | ws (e : Edit (WebSocketMockOf T.ws (Option WebSocketAction)))
  | patchWS (id : GoString) (p : WSOnConnectPatch)
  | grpc (e : Edit (GRPCMock T.grpcResponse T.grpc))
  | patchGRPC (id : GoString) (p : GRPCResponsePatch T.grpcResponse)
  | smtp (e : Edit SMTPRule)
  | ftp (e : Edit FTPFile)
  | addTrap (t : Item T.trap) (now : ℤ)
  | plain (p : PlainProtocol) (e : Edit (Item (T.plain p)))
  | reset

section Handlers

variable {T : Payload} (s : Managed T)

def loadHTTP (m : HTTPMockOf (Option (GoMap GoString))) :
    HTTPMockOf (Option Ref) × ObjectHeap (GoMap GoString) :=
  match m.response.headers with
  | none => ({ m with response := { m.response with headers := none } }, s.maps)
  | some h =>
    ({ m with response := { m.response with headers := some s.maps.next } }, s.maps.alloc h)

/-- A decoded `on_connect` is a new object. -/
def loadWS (m : WebSocketMockOf T.ws (Option WebSocketAction)) :
    WebSocketMockOf T.ws (Option Ref) × ObjectHeap WebSocketAction :=
  match m.onConnect with
  | none => ({ m with onConnect := none }, s.actions)
  | some a => ({ m with onConnect := some s.actions.next }, s.actions.alloc a)

/-- `addHTTPMock`, `updateHTTPMock` and `deleteHTTPMock`. -/
def editHTTP : Edit (HTTPMockOf (Option (GoMap GoString))) → Managed T
  | .add m now =>
    if (resolveAddedMockBody m).isSome then s
    else
      let (m, maps) := loadHTTP s (withID m now)
      { s with maps := maps, live := { s.live with http := upsert HTTPMockOf.id m s.live.http } }
  | .update id m =>
    if (resolveAddedMockBody m).isSome then s
    else
      let (m, maps) := loadHTTP s { m with id := id }
      { s with
        maps := maps
        live :=
          { s.live with
            http := (changeFirst HTTPMockOf.id id (fun _ => m) s.live.http).getD s.live.http } }
  | .delete id =>
    { s with
      live :=
        { s.live with
          http := (deleteByID HTTPMockOf.id id s.live.http).getD s.live.http } }

/-- The headers part of `patchHTTPMock`, which writes to a header map that is there. -/
def patchHeaders (maps : ObjectHeap (GoMap GoString)) (new : Option (GoMap GoString)) :
    Option Ref → Option Ref × ObjectHeap (GoMap GoString) :=
  match new with
  | none => fun old => (old, maps)
  | some h => fun
    | none => (some maps.next, maps.alloc ((∅ : GoMap GoString).setAll h.toList))
    | some r => (some r, maps.modify r fun old => old.setAll h.toList)

def patchHTTPMock (id : GoString) (p : HTTPResponsePatch) : Managed T :=
  match s.live.http.find? fun m => m.id = id with
  | none => s
  | some m =>
    let (headers, maps) := patchHeaders s.maps p.headers m.response.headers
    let patched : HTTPMockOf (Option Ref) :=
      { m with
        response :=
          { m.response with
            status := p.status.getD m.response.status
            body := (p.body.map newHTTPBodyLiteral).getD m.response.body
            headers := headers
            delay := p.delay.getD m.response.delay } }
    { s with
      maps := maps
      live :=
        { s.live with
          http := (changeFirst HTTPMockOf.id id (fun _ => patched) s.live.http).getD
            s.live.http } }

/-- `addWSMock`, `updateWSMock` and `deleteWSMock`. -/
def editWS : Edit (WebSocketMockOf T.ws (Option WebSocketAction)) → Managed T
  | .add m now =>
    let (m, actions) := loadWS s m
    { s with
      actions := actions
      live := { s.live with
        ws := (WebSocketMockOf.keyed _ _).edited "ws-" s.live.ws (.add m now) } }
  | .update id m =>
    let (m, actions) := loadWS s m
    { s with
      actions := actions
      live :=
        { s.live with ws := (WebSocketMockOf.keyed _ _).edited "ws-" s.live.ws (.update id m) } }
  | .delete id =>
    { s with
      live := { s.live with
        ws := (WebSocketMockOf.keyed _ _).edited "ws-" s.live.ws (.delete id) } }

/-- The fields `patchWSMock` sets. -/
def WSOnConnectPatch.apply (p : WSOnConnectPatch) (a : WebSocketAction) : WebSocketAction :=
  { a with send := p.send.getD a.send, delay := p.delay.getD a.delay }

/-- The object `patchWSMock` leaves in the mock; one that is there is written to. -/
def patchOnConnect (actions : ObjectHeap WebSocketAction) (p : WSOnConnectPatch) :
    Option Ref → Ref × ObjectHeap WebSocketAction
  | none => (actions.next, actions.alloc (p.apply {}))
  | some r => (r, actions.modify r p.apply)

def patchWSMock (id : GoString) (p : WSOnConnectPatch) : Managed T :=
  match s.live.ws.find? fun m => m.id = id with
  | none => s
  | some m =>
    let (onConnect, actions) := patchOnConnect s.actions p m.onConnect
    { s with
      actions := actions
      live :=
        { s.live with
          ws := (changeFirst WebSocketMockOf.id id
            (fun m => { m with onConnect := some onConnect }) s.live.ws).getD s.live.ws } }

/-- What a request of the management API does to the lists. -/
def manage (cfg : Configuration T) : Operation T → Managed T
  | .http e => editHTTP s e
  | .patchHTTP id p => patchHTTPMock s id p
  | .ws e => editWS s e
  | .patchWS id p => patchWSMock s id p
  | .grpc e =>
    { s with
      live := { s.live with grpc := (GRPCMock.keyed _ _).edited "grpc-" s.live.grpc e } }
  | .patchGRPC id p =>
    { s with
      live :=
        { s.live with
          grpc := (changeFirst GRPCMock.id id p.apply s.live.grpc).getD s.live.grpc } }
  | .smtp e =>
    { s with
      live :=
        { s.live with
          smtp := SMTPRule.keyed.edited "smtp-" s.live.smtp (SMTPRule.withAction e) } }
  | .ftp e =>
    { s with
      live :=
        { s.live with
          ftp := ((FTPFile.keyed.edit "ftp-" s.live.ftp e).map normalizeFTPFiles).getD
            s.live.ftp } }
  | .addTrap t now =>
    { s with
      live := { s.live with traps := (Item.keyed _).edited "trap-" s.live.traps (.add t now) } }
  | .plain p e =>
    { s with
      live :=
        { s.live with
          plain := Function.update s.live.plain p
            ((Item.keyed _).edited p.idPrefix (s.live.plain p) e) } }
  | .reset => { s with live := cfg.installed }

end Handlers

/-! ## Deep equality -/

section Deep

variable {T : Payload}

def deepHTTP (maps : ObjectHeap (GoMap GoString)) (m : HTTPMockOf (Option Ref)) :
    HTTPMockOf (Option (GoMap GoString)) :=
  { m with response := { m.response with headers := m.response.headers.bind maps.read } }

/-- A mock with the `on_connect` it refers to. -/
def deepWS (actions : ObjectHeap WebSocketAction) (m : WebSocketMockOf T.ws (Option Ref)) :
    WebSocketMockOf T.ws (Option WebSocketAction) :=
  { m with onConnect := m.onConnect.bind actions.read }

def MockLists.deep (maps : ObjectHeap (GoMap GoString)) (actions : ObjectHeap WebSocketAction)
    (l : MockLists T (Option Ref) (Option Ref)) :
    MockLists T (Option (GoMap GoString)) (Option WebSocketAction) :=
  { l with http := l.http.map (deepHTTP maps), ws := l.ws.map (deepWS actions) }

def Managed.deep (s : Managed T) : MockLists T (Option (GoMap GoString)) (Option WebSocketAction) :=
  s.live.deep s.maps s.actions

lemma Configuration.deep_eq (cfg : Configuration T) {maps maps' : ObjectHeap (GoMap GoString)}
    {actions actions' : ObjectHeap WebSocketAction} (hmaps : Unchanged cfg.mapRefs maps maps')
    (hactions : Unchanged cfg.actionRefs actions actions') :
    cfg.installed.deep maps' actions' = cfg.installed.deep maps actions := by
  have hhttp : cfg.http.map (deepHTTP maps') = cfg.http.map (deepHTTP maps) := by
    refine List.map_congr_left fun m hm => ?_
    have hread : m.response.headers.bind maps'.read = m.response.headers.bind maps.read :=
      Option.bind_congr fun r hr => hmaps.read_eq ⟨m, hm, hr⟩
    rw [deepHTTP, deepHTTP, hread]
  have hws : cfg.ws.map (deepWS actions') = cfg.ws.map (deepWS actions) := by
    refine List.map_congr_left fun m hm => ?_
    have hread : m.onConnect.bind actions'.read = m.onConnect.bind actions.read :=
      Option.bind_congr fun r hr => hactions.read_eq ⟨m, hm, hr⟩
    rw [deepWS, deepWS, hread]
  simp [MockLists.deep, Configuration.installed, Configuration.lists, hhttp, hws]

end Deep

/-! ## What an operation leaves alone -/

/-- A configuration and the objects it refers to, as they were loaded. -/
structure Loaded (T : Payload) where
  cfg : Configuration T
  maps : ObjectHeap (GoMap GoString)
  actions : ObjectHeap WebSocketAction
  maps_allocated : ∀ r ∈ cfg.mapRefs, ∃ h, maps.read r = some h
  actions_allocated : ∀ r ∈ cfg.actionRefs, ∃ a, actions.read r = some a

/-- The servers start with the mocks of the configuration. -/
def Loaded.start {T : Payload} (l : Loaded T) : Managed T := ⟨l.maps, l.actions, l.cfg.installed⟩

def manageConfigured {T : Payload} (cfg : Configuration T) (s : Managed T) (op : Operation T) :
    Option (Managed T) := some (manage s cfg op)

/-- A patch of headers finds a header map that is none of the configuration's, and a patch of the
`on_connect` an object that is none either. -/
def SparesConfiguration {T : Payload} (cfg : Configuration T) (s : Managed T) :
    Operation T → Prop
  | .patchHTTP id p => ∀ h, p.headers = some h → h.size ≠ 0 →
      ∀ m, (s.live.http.find? fun m => m.id = id) = some m →
      ∀ r, m.response.headers = some r → r ∉ cfg.mapRefs
  | .patchWS id p => p.send ≠ none ∨ p.delay ≠ none →
      ∀ m, (s.live.ws.find? fun m => m.id = id) = some m →
      ∀ r, m.onConnect = some r → r ∉ cfg.actionRefs
  | _ => True

section Frame

variable {T : Payload} {cfg : Configuration T} {s : Managed T} {h : ObjectHeap (GoMap GoString)}
  {a : ObjectHeap WebSocketAction}

lemma unchanged_loadHTTP (hu : Unchanged cfg.mapRefs h s.maps)
    (m : HTTPMockOf (Option (GoMap GoString))) : Unchanged cfg.mapRefs h (loadHTTP s m).2 := by
  simp only [loadHTTP]
  split
  · exact hu
  · exact hu.alloc _

lemma unchanged_loadWS (hu : Unchanged cfg.actionRefs a s.actions)
    (m : WebSocketMockOf T.ws (Option WebSocketAction)) :
    Unchanged cfg.actionRefs a (loadWS s m).2 := by
  simp only [loadWS]
  split
  · exact hu
  · exact hu.alloc _

lemma unchanged_editHTTP (hu : Unchanged cfg.mapRefs h s.maps)
    (e : Edit (HTTPMockOf (Option (GoMap GoString)))) :
    Unchanged cfg.mapRefs h (editHTTP s e).maps := by
  cases e with
  | add | update =>
    simp only [editHTTP]
    split
    · exact hu
    · exact unchanged_loadHTTP hu _
  | delete id => exact hu

lemma unchanged_editWS (hu : Unchanged cfg.actionRefs a s.actions)
    (e : Edit (WebSocketMockOf T.ws (Option WebSocketAction))) :
    Unchanged cfg.actionRefs a (editWS s e).actions := by
  cases e with
  | add m now | update id m => exact unchanged_loadWS hu m
  | delete id => exact hu

/-- A header patch writes to the map of the mock it finds and to no other. -/
lemma unchanged_patchHeaders (hu : Unchanged cfg.mapRefs h s.maps)
    (new : Option (GoMap GoString)) (old : Option Ref)
    (hok : ∀ n, new = some n → n.size ≠ 0 → ∀ r, old = some r → r ∉ cfg.mapRefs) :
    Unchanged cfg.mapRefs h (patchHeaders s.maps new old).2 := by
  cases new with
  | none => exact hu
  | some n =>
    cases old with
    | none => exact hu.alloc _
    | some r =>
      by_cases hsize : n.size = 0
      · have hnil : n.toList = [] := List.length_eq_zero_iff.mp (by simpa using hsize)
        exact hu.modify_of_id r fun m => by rw [hnil, GoMap.setAll_nil]
      · exact hu.modify (hok n rfl hsize r rfl) _

lemma unchanged_patchHTTPMock {id : GoString} {p : HTTPResponsePatch}
    (hu : Unchanged cfg.mapRefs h s.maps)
    (hok : SparesConfiguration cfg s (.patchHTTP id p)) :
    Unchanged cfg.mapRefs h (patchHTTPMock s id p).maps := by
  simp only [patchHTTPMock]
  cases hfind : s.live.http.find? fun m => m.id = id with
  | none => exact hu
  | some m =>
    exact unchanged_patchHeaders hu _ _ fun n hn hsize r hr => hok n hn hsize m hfind r hr

lemma unchanged_patchOnConnect (hu : Unchanged cfg.actionRefs a s.actions)
    (p : WSOnConnectPatch) (old : Option Ref)
    (hok : p.send ≠ none ∨ p.delay ≠ none → ∀ r, old = some r → r ∉ cfg.actionRefs) :
    Unchanged cfg.actionRefs a (patchOnConnect s.actions p old).2 := by
  cases old with
  | none => exact hu.alloc _
  | some r =>
    by_cases hset : p.send ≠ none ∨ p.delay ≠ none
    · exact hu.modify (hok hset r rfl) _
    · simp only [ne_eq, not_or, not_not] at hset
      exact hu.modify_of_id r fun m => by rw [WSOnConnectPatch.apply, hset.1, hset.2]; rfl

lemma unchanged_patchWSMock {id : GoString} {p : WSOnConnectPatch}
    (hu : Unchanged cfg.actionRefs a s.actions)
    (hok : SparesConfiguration cfg s (.patchWS id p)) :
    Unchanged cfg.actionRefs a (patchWSMock s id p).actions := by
  simp only [patchWSMock]
  cases hfind : s.live.ws.find? fun m => m.id = id with
  | none => exact hu
  | some m => exact unchanged_patchOnConnect hu p _ fun hset r hr => hok hset m hfind r hr

lemma editHTTP_actions (e : Edit (HTTPMockOf (Option (GoMap GoString)))) :
    (editHTTP s e).actions = s.actions := by
  cases e with
  | add | update => simp only [editHTTP]; split <;> rfl
  | delete id => rfl

lemma editWS_maps (e : Edit (WebSocketMockOf T.ws (Option WebSocketAction))) :
    (editWS s e).maps = s.maps := by
  cases e <;> rfl

lemma patchHTTPMock_actions (id : GoString) (p : HTTPResponsePatch) :
    (patchHTTPMock s id p).actions = s.actions := by
  simp only [patchHTTPMock]
  split <;> rfl

lemma patchWSMock_maps (id : GoString) (p : WSOnConnectPatch) :
    (patchWSMock s id p).maps = s.maps := by
  simp only [patchWSMock]
  split <;> rfl

/-- **An operation that spares the configuration changes none of its objects.** -/
theorem manage_unchanged {op : Operation T} (hmaps : Unchanged cfg.mapRefs h s.maps)
    (hactions : Unchanged cfg.actionRefs a s.actions) (hok : SparesConfiguration cfg s op) :
    Unchanged cfg.mapRefs h (manage s cfg op).maps ∧
      Unchanged cfg.actionRefs a (manage s cfg op).actions := by
  cases op with
  | http e => exact ⟨unchanged_editHTTP hmaps e, by rw [manage, editHTTP_actions]; exact hactions⟩
  | patchHTTP id p =>
    exact ⟨unchanged_patchHTTPMock hmaps hok, by rw [manage, patchHTTPMock_actions]; exact hactions⟩
  | ws e => exact ⟨by rw [manage, editWS_maps]; exact hmaps, unchanged_editWS hactions e⟩
  | patchWS id p =>
    exact ⟨by rw [manage, patchWSMock_maps]; exact hmaps, unchanged_patchWSMock hactions hok⟩
  | grpc | patchGRPC | smtp | ftp | addTrap | plain | reset => exact ⟨hmaps, hactions⟩

/-- **A reset restores the configuration**, after every sequence of operations that spare its
objects. -/
theorem reset_restores (l : Loaded T) (ops : List (Operation T)) (s : Managed T)
    (hok : Along (manageConfigured l.cfg) (SparesConfiguration l.cfg) l.start ops)
    (hrun : run (manageConfigured l.cfg) l.start ops = some s) :
    (manage s l.cfg .reset).deep =
      { l.cfg.lists.deep l.maps l.actions with ftp := normalizeFTPFiles l.cfg.ftp } := by
  have hstep : ∀ (t : Managed T) op t',
      Unchanged l.cfg.mapRefs l.maps t.maps ∧ Unchanged l.cfg.actionRefs l.actions t.actions →
      SparesConfiguration l.cfg t op → manageConfigured l.cfg t op = some t' →
      Unchanged l.cfg.mapRefs l.maps t'.maps ∧
        Unchanged l.cfg.actionRefs l.actions t'.actions := by
    rintro t op t' ⟨hmaps, hactions⟩ hspares heq
    cases heq
    exact manage_unchanged hmaps hactions hspares
  have hinit : Unchanged l.cfg.mapRefs l.maps l.start.maps ∧
      Unchanged l.cfg.actionRefs l.actions l.start.actions :=
    ⟨fun r hr => (l.maps_allocated r hr).imp fun _ hv => ⟨hv, hv⟩,
      fun r hr => (l.actions_allocated r hr).imp fun _ hv => ⟨hv, hv⟩⟩
  obtain ⟨hmaps, hactions⟩ := run_invariant hstep hinit hok hrun
  exact l.cfg.deep_eq hmaps hactions

end Frame

/-! ## A small configuration -/

section Greeting

def barePayload : Payload := ⟨Unit, Unit, Unit, Unit, fun _ => Unit⟩

def xHeader (v : String) : GoMap GoString := (∅ : GoMap GoString).set (go "X") (go v)

def greetingLoaded : Loaded barePayload where
  cfg :=
    { http := [{ id := go "m", response := { headers := some 0 } }]
      ws := [{ id := go "w", onConnect := some 0, rest := () }]
      services := []
      smtp := []
      ftp := [{ id := go "f", path := go "f", content := go "abc" }]
      traps := []
      plain := fun _ => [] }
  maps := ⟨[xHeader "a"]⟩
  actions := ⟨[{ send := go "hi" }]⟩
  maps_allocated := by
    rintro r ⟨m, hm, hr⟩
    cases List.mem_singleton.mp hm
    cases hr
    exact ⟨_, rfl⟩
  actions_allocated := by
    rintro r ⟨m, hm, hr⟩
    cases List.mem_singleton.mp hm
    cases hr
    exact ⟨_, rfl⟩

def sparingOperations : List (Operation barePayload) :=
  [.http (.add { id := go "n", response := { headers := some (xHeader "a") } } 0),
    .patchHTTP (go "n") { headers := some (xHeader "b") },
    .patchHTTP (go "m") { status := some 404 },
    .http (.delete (go "m"))]

def reachingOperations : List (Operation barePayload) :=
  [.patchHTTP (go "m") { headers := some (xHeader "b") },
    .patchWS (go "w") { send := some (go "bye") }]

theorem added_mock_leaves_configuration :
    ∃ s, run (manageConfigured greetingLoaded.cfg) greetingLoaded.start sparingOperations = some s ∧
      (manage s greetingLoaded.cfg .reset).deep =
        { greetingLoaded.cfg.lists.deep greetingLoaded.maps greetingLoaded.actions with
          ftp := normalizeFTPFiles greetingLoaded.cfg.ftp } := by
  refine ⟨_, rfl, reset_restores greetingLoaded sparingOperations _ ?_ rfl⟩
  refine ⟨trivial, fun s₁ h₁ => ⟨?_, fun s₂ h₂ => ⟨?_, fun s₃ h₃ => ⟨trivial, fun _ _ => trivial⟩⟩⟩⟩
  · rintro _ _ _ m hm r hr ⟨m', hm', hr'⟩
    cases h₁
    cases List.mem_singleton.mp hm'
    cases hr'
    cases hm
    cases hr
  · intro h hp
    cases hp

theorem reset_keeps_patches :
    ∃ s, run (manageConfigured greetingLoaded.cfg) greetingLoaded.start reachingOperations =
        some s ∧
      let restored := (manage s greetingLoaded.cfg .reset).deep
      let configured := greetingLoaded.cfg.lists.deep greetingLoaded.maps greetingLoaded.actions
      restored ≠ configured ∧
      restored.http.map (fun m => m.response.headers.bind (·.get? (go "X"))) = [some (go "b")] ∧
      configured.http.map (fun m => m.response.headers.bind (·.get? (go "X"))) = [some (go "a")] ∧
      restored.ws.map (fun m => m.onConnect.map (·.send)) = [some (go "bye")] ∧
      configured.ws.map (fun m => m.onConnect.map (·.send)) = [some (go "hi")] ∧
      restored.ftp.map (·.path) = [go "/f"] ∧ configured.ftp.map (·.path) = [go "f"] := by
  refine ⟨_, rfl, ?_, by decide, by decide, by decide, by decide, by decide, by decide⟩
  intro h
  exact absurd (congrArg (fun l => l.ftp.map (·.path)) h) (by decide)

end Greeting

end Mockly.API
