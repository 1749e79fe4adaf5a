import Mockly.Go.Strconv
import Mockly.TLS.Certificates

/-!
# Setting up the listeners

Without a certificate `WrapListener` returns a nil listener with the error: the HTTP server calls
`Close` on it, which panics; the WebSocket server forgets the socket.

Main result: **`start_clean_iff`**.
-/

namespace Mockly

/-- `httpListener`: a listener that is to be set up. -/
structure HTTPListener where
  name : GoString
  port : ℤ
  tls : Option TLSConfig

/-- What the outside has a say in when a listener is set up: the error of `net.Listen`, if any, and
what concerns the certificate. -/
structure Attempt where
  listenError : Option GoString
  occ : Occasion

abbrev Socket : Type := ℕ

/-- What a setup has done: the sockets that are open, and the disk. -/
structure SetupState where
  bound : List Socket
  disk : Disk

/-- How `Start` ends. -/
inductive SetupEnd
  | serving
  | returned (err : GoString)
  | panicked
  deriving DecidableEq

variable {Cert : Type} (crypto : Crypto Cert)

/-- `Close` of a listener; a nil listener panics. -/
def closeListener (ln : Option Socket) (bound : List Socket) : Option (List Socket) :=
  ln.map fun socket => bound.filter (· ≠ socket)

def closeOpened (lns : List Socket) (bound : List Socket) : List Socket :=
  bound.filter (· ∉ lns)

/-- `WrapListener`: the listener, which is nil if there is an error. -/
def wrapListener (ln : Socket) (cfg : Option TLSConfig) (occ : Occasion) (disk : Disk) :
    (Option Socket × Option GoString) × Disk :=
  match cfg with
  | none => ((some ln, none), disk)
  | some cfg =>
    if !cfg.enabled then ((some ln, none), disk)
    else
      match resolveCertificate crypto cfg occ disk with
      | (.error e, disk') => ((none, some e), disk')
      | (.ok _, disk') => ((some ln, none), disk')

def listenerLabel (name : GoString) : GoString :=
  if name = [] then go "default" else crypto.quote name

/-- The loop of `Start` of the HTTP server, with the listeners `lns` set up so far. -/
def setupListeners (lns : List Socket) (s : SetupState) :
    List (HTTPListener × Attempt) → SetupEnd × SetupState
  | [] => (.serving, s)
  | (l, a) :: rest =>
    let addr := go ":" ++ formatInt l.port
    match a.listenError with
    | some e =>
      (.returned (go "http mock server listen " ++ addr ++ go " (listener " ++
          listenerLabel crypto l.name ++ go "): " ++ e),
        { s with bound := closeOpened lns s.bound })
    | none =>
      let socket := lns.length
      match wrapListener crypto socket l.tls a.occ s.disk with
      | ((ln, some e), disk) =>
        match closeListener ln (socket :: s.bound) with
        | none => (.panicked, ⟨socket :: s.bound, disk⟩)
        | some bound =>
          (.returned (go "http mock server tls (listener " ++
              listenerLabel crypto l.name ++ go "): " ++ e),
            ⟨closeOpened lns bound, disk⟩)
      | ((_, none), disk) =>
        setupListeners (lns ++ [socket]) ⟨socket :: s.bound, disk⟩ rest

/-- The setup of the HTTP server: the listener of the port first, then the additional ones. -/
def httpStart (port : ℤ) (tls : Option TLSConfig) (first : Attempt)
    (listeners : List (HTTPListener × Attempt)) (disk : Disk) : SetupEnd × SetupState :=
  setupListeners crypto [] ⟨[], disk⟩ ((⟨[], port, tls⟩, first) :: listeners)

def wsStart (port : ℤ) (tls : Option TLSConfig) (a : Attempt) (disk : Disk) :
    SetupEnd × SetupState :=
  let addr := go ":" ++ formatInt port
  match a.listenError with
  | some e => (.returned (go "ws server listen " ++ addr ++ go ": " ++ e), ⟨[], disk⟩)
  | none =>
    match wrapListener crypto 0 tls a.occ disk with
    | ((_, some e), disk') => (.returned (go "ws server tls: " ++ e), ⟨[0], disk'⟩)
    | ((_, none), disk') => (.serving, ⟨[0], disk'⟩)

/-! ## Clean failures -/

def tlsStep (cfg : Option TLSConfig) (occ : Occasion) (disk : Disk) : Option GoString × Disk :=
  ((wrapListener crypto 0 cfg occ disk).1.2, (wrapListener crypto 0 cfg occ disk).2)

lemma wrapListener_eq (ln : Socket) (cfg : Option TLSConfig) (occ : Occasion) (disk : Disk) :
    wrapListener crypto ln cfg occ disk =
      ((if (tlsStep crypto cfg occ disk).1.isSome then none else some ln,
        (tlsStep crypto cfg occ disk).1), (tlsStep crypto cfg occ disk).2) := by
  unfold tlsStep wrapListener
  cases cfg with
  | none => rfl
  | some cfg =>
    cases hon : cfg.enabled with
    | false => simp [hon]
    | true =>
      rcases hcert : resolveCertificate crypto cfg occ disk with ⟨_ | _, disk'⟩ <;>
        simp [hon, hcert]

inductive SetupFailure
  | bind
  | certificate

def firstFailure (disk : Disk) : List (HTTPListener × Attempt) → Option SetupFailure
  | [] => none
  | (l, a) :: rest =>
    if a.listenError.isSome then some .bind
    else if (tlsStep crypto l.tls a.occ disk).1.isSome then some .certificate
    else firstFailure (tlsStep crypto l.tls a.occ disk).2 rest

/-- An error is returned and nothing is left open. -/
def Clean (r : SetupEnd × SetupState) : Prop :=
  (∃ err, r.1 = .returned err) ∧ r.2.bound = []

lemma not_clean_of_panicked {r : SetupEnd × SetupState} (h : r.1 = .panicked) : ¬ Clean r := by
  rintro ⟨⟨err, herr⟩, -⟩
  rw [h] at herr
  cases herr

/-- How the loop ends, by the step that fails first: every socket that is open belongs to a
listener that is up. -/
lemma setupListeners_end {lns : List Socket} {s : SetupState} (h : ∀ x ∈ s.bound, x ∈ lns)
    (ls : List (HTTPListener × Attempt)) :
    (firstFailure crypto s.disk ls = none → (setupListeners crypto lns s ls).1 = .serving) ∧
      (firstFailure crypto s.disk ls = some .bind → Clean (setupListeners crypto lns s ls)) ∧
      (firstFailure crypto s.disk ls = some .certificate →
        (setupListeners crypto lns s ls).1 = .panicked) := by
  induction ls generalizing lns s with
  | nil => simp [firstFailure, setupListeners]
  | cons la rest ih =>
    obtain ⟨l, a⟩ := la
    unfold firstFailure setupListeners
    cases hbind : a.listenError with
    | some e =>
      have hclosed : closeOpened lns s.bound = [] := by
        simpa [closeOpened, List.filter_eq_nil_iff] using h
      simp [Clean, hclosed]
    | none =>
      simp only [wrapListener_eq, Option.isSome_none, Bool.false_eq_true, if_false]
      cases htls : (tlsStep crypto l.tls a.occ s.disk).1 with
      | some e => simp [closeListener]
      | none =>
        simp only [Option.isSome_none, Bool.false_eq_true, if_false]
        refine @ih _ ⟨lns.length :: s.bound, (tlsStep crypto l.tls a.occ s.disk).2⟩ ?_
        intro x hx
        obtain rfl | hx := List.mem_cons.mp hx
        · exact List.mem_append_right _ (List.mem_singleton_self _)
        · exact List.mem_append_left _ (h x hx)

lemma wsStart_end (port : ℤ) (tls : Option TLSConfig) (a : Attempt) (disk : Disk) :
    (firstFailure crypto disk [(⟨[], port, tls⟩, a)] = some .bind →
        Clean (wsStart crypto port tls a disk)) ∧
      (firstFailure crypto disk [(⟨[], port, tls⟩, a)] = some .certificate →
        (wsStart crypto port tls a disk).2.bound = [0]) := by
  unfold firstFailure wsStart
  cases hbind : a.listenError with
  | some e => simp [Clean]
  | none =>
    simp only [wrapListener_eq, Option.isSome_none, Bool.false_eq_true, if_false]
    cases htls : (tlsStep crypto tls a.occ disk).1 with
    | some e => simp
    | none => simp [firstFailure]

/-- When setup fails, an error is returned and every socket is closed exactly if the first failure
is a socket that cannot be bound. -/
theorem start_clean_iff (port : ℤ) (tls : Option TLSConfig) (first : Attempt)
    (listeners : List (HTTPListener × Attempt)) (disk : Disk) (failure : SetupFailure) :
    (firstFailure crypto disk ((⟨[], port, tls⟩, first) :: listeners) = some failure →
      (Clean (httpStart crypto port tls first listeners disk) ↔ failure = .bind)) ∧
    (firstFailure crypto disk [(⟨[], port, tls⟩, first)] = some failure →
      (Clean (wsStart crypto port tls first disk) ↔ failure = .bind)) := by
  obtain ⟨-, hbind, hcert⟩ := @setupListeners_end _ crypto [] ⟨[], disk⟩
    (fun _ hx => hx) ((⟨[], port, tls⟩, first) :: listeners)
  obtain ⟨hwsBind, hwsCert⟩ := wsStart_end crypto port tls first disk
  cases failure with
  | bind =>
    refine ⟨fun h => ?_, fun h => ?_⟩
    · exact iff_of_true (hbind h) rfl
    · exact iff_of_true (hwsBind h) rfl
  | certificate =>
    refine ⟨fun h => ?_, fun h => ?_⟩
    · exact iff_of_false (not_clean_of_panicked (hcert h)) nofun
    · refine iff_of_false (fun hclean => ?_) nofun
      rw [hclean.2] at hwsCert
      exact absurd (hwsCert h) nofun

/-- A key file that does not fit its certificate, on a second listener. -/
theorem certificate_failure_not_clean :
    let disk : Disk := { emptyDisk with
      nodes := fun l => if l = 97 then some (.file [67, 1] none)
        else if l = 107 then some (.file [75, 2] none) else none }
    let torn : Option TLSConfig := some (pairConfig (go "a") (go "k"))
    let attempt : Attempt := ⟨none, pairNumber 3⟩
    (httpStart numberedPairs 8080 none attempt [(⟨go "tls", 8443, torn⟩, attempt)] disk).1 =
        .panicked ∧
      (httpStart numberedPairs 8080 none attempt [(⟨go "tls", 8443, torn⟩, attempt)] disk).2.bound =
        [1, 0] ∧
      (wsStart numberedPairs 8443 torn attempt disk).1 =
        .returned (go "ws server tls: load TLS cert/key: " ++
          go "tls: private key does not match public key") ∧
      (wsStart numberedPairs 8443 torn attempt disk).2.bound = [0] := by
  refine ⟨?_, ?_, ?_, ?_⟩ <;> decide +kernel

end Mockly
