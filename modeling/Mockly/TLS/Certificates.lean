import Mockly.Go.Strings
import Mockly.Lib.Transition

/-!
# Certificates on disk

Two paths may lead to the same place (`locate`), and a write may be refused or break off. A call
that finds one of its two files overwrites it.

Main result: **`certificates_stable`**.
-/

namespace Mockly

open Transition

/-! ## The disk -/

inductive Node
  /-- A file, and the error if it cannot be read. -/
  | file (content : GoString) (unreadable : Option GoString)
  | dir
  deriving DecidableEq

/-- What lies where, and where a path leads. -/
structure Disk where
  /-- The place a path leads to, whether or not something is there. -/
  locate : GoString → Except GoString ℕ
  nodes : ℕ → Option Node

inductive WriteOutcome
  | complete
  | refused (err : GoString)
  /-- Only the first `n` bytes have been written. -/
  | cut (n : ℕ) (err : GoString)

namespace Disk

def node? (disk : Disk) (path : GoString) : Option Node :=
  match disk.locate path with
  | .error _ => none
  | .ok l => disk.nodes l

def fileExists (disk : Disk) (path : GoString) : Bool :=
  match disk.node? path with
  | some (.file _ _) => true
  | some .dir => false
  | none => false

def readFile (disk : Disk) (path : GoString) : Except GoString GoString :=
  match disk.locate path with
  | .error e => .error e
  | .ok l =>
    match disk.nodes l with
    | none => .error (go "open " ++ path ++ go ": no such file or directory")
    | some .dir => .error (go "read " ++ path ++ go ": is a directory")
    | some (.file content none) => .ok content
    | some (.file _ (some e)) => .error e

/-- A new file is for its owner to read and write. -/
def unreadable (disk : Disk) (l : ℕ) : Option GoString :=
  match disk.nodes l with
  | some (.file _ u) => u
  | some .dir => none
  | none => none

/-- Put a file at a place; one that is there keeps its mode. -/
def store (disk : Disk) (l : ℕ) (content : GoString) : Disk :=
  { disk with nodes := Function.update disk.nodes l (some (.file content (disk.unreadable l))) }

/-- `writeFile`: the error, if any, and what is on the disk then. -/
def writeFile (disk : Disk) (path data : GoString) (outcome : WriteOutcome) :
    Option GoString × Disk :=
  match disk.locate path with
  | .error e => (some e, disk)
  | .ok l =>
    if disk.nodes l = some .dir then (some (go "open " ++ path ++ go ": is a directory"), disk)
    else
      match outcome with
      | .refused e => (some e, disk)
      | .cut n e => (some e, disk.store l (data.take n))
      | .complete => (none, disk.store l data)

/-! ### What is there stays -/

/-- Everything on the one disk is on the other, unchanged. -/
structure Extends (disk disk' : Disk) : Prop where
  locate_eq : disk'.locate = disk.locate
  keeps : ∀ l n, disk.nodes l = some n → disk'.nodes l = some n

lemma Extends.refl (disk : Disk) : Extends disk disk := ⟨rfl, fun _ _ h => h⟩

lemma Extends.trans {d₁ d₂ d₃ : Disk} (h : Extends d₁ d₂) (h' : Extends d₂ d₃) : Extends d₁ d₃ :=
  ⟨h'.locate_eq.trans h.locate_eq, fun l n hn => h'.keeps l n (h.keeps l n hn)⟩

variable {disk : Disk} {path : GoString}

lemma fileExists_eq_true_iff :
    disk.fileExists path = true ↔
      ∃ l content u, disk.locate path = .ok l ∧ disk.nodes l = some (.file content u) := by
  unfold fileExists node?
  cases disk.locate path with
  | error e => simp
  | ok l =>
    cases hn : disk.nodes l with
    | none => simp [hn]
    | some n => cases n <;> simp [hn]

variable {l : ℕ}

lemma store_nodes_of_ne (disk : Disk) {l' : ℕ} (h : l' ≠ l) (content : GoString) :
    (disk.store l content).nodes l' = disk.nodes l' :=
  Function.update_of_ne h _ _

lemma store_fileExists_of_ne (disk : Disk) {l' : ℕ} (hloc : disk.locate path = .ok l') (h : l' ≠ l)
    (content : GoString) : (disk.store l content).fileExists path = disk.fileExists path := by
  have hloc' : (disk.store l content).locate path = .ok l' := hloc
  simp [fileExists, node?, hloc, hloc', store_nodes_of_ne disk h]

lemma store_extends {base : Disk} (h : Extends base disk) (hl : base.nodes l = none)
    (content : GoString) : Extends base (disk.store l content) := by
  refine ⟨h.locate_eq, fun l' n hn => ?_⟩
  have hne : l' ≠ l := by
    rintro rfl
    rw [hl] at hn
    cases hn
  rw [store_nodes_of_ne disk hne]
  exact h.keeps l' n hn

lemma writeFile_extends {base : Disk} (h : Extends base disk)
    (hnew : base.fileExists path = false) (data : GoString) (outcome : WriteOutcome) :
    Extends base (disk.writeFile path data outcome).2 := by
  unfold writeFile
  cases hloc : disk.locate path with
  | error e => exact h
  | ok l =>
    have hbase : base.locate path = .ok l := by rw [← h.locate_eq, hloc]
    by_cases hdir : disk.nodes l = some .dir
    · simpa [if_pos hdir] using h
    · have hnone : base.nodes l = none := by
        cases hn : base.nodes l with
        | none => rfl
        | some n =>
          cases n with
          | dir => exact absurd (h.keeps l _ hn) hdir
          | file content u =>
            rw [fileExists_eq_true_iff.mpr ⟨l, content, u, hbase, hn⟩] at hnew
            cases hnew
      simp only [if_neg hdir]
      cases outcome with
      | complete | cut => exact store_extends h hnone _
      | refused e => exact h

lemma writeFile_complete {disk' : Disk} {data : GoString} {outcome : WriteOutcome}
    (h : disk.writeFile path data outcome = (none, disk')) :
    ∃ l, disk.locate path = .ok l ∧ disk' = disk.store l data := by
  unfold writeFile at h
  cases hloc : disk.locate path with
  | error e => simp [hloc] at h
  | ok l =>
    simp only [hloc] at h
    by_cases hdir : disk.nodes l = some .dir
    · simp [hdir] at h
    · simp only [if_neg hdir] at h
      cases outcome with
      | complete => exact ⟨l, rfl, (Prod.mk.inj h).2.symm⟩
      | refused e => cases h
      | cut n e => cases h

lemma store_nodes_self (disk : Disk) (hloc : disk.locate path = .ok l)
    (hnew : disk.fileExists path = false) (content : GoString) :
    (disk.store l content).nodes l = some (.file content none) := by
  have hmode : disk.unreadable l = none := by
    unfold unreadable
    cases hn : disk.nodes l with
    | none => rfl
    | some n =>
      cases n with
      | dir => rfl
      | file c u =>
        rw [fileExists_eq_true_iff.mpr ⟨l, c, u, hloc, hn⟩] at hnew
        cases hnew
  rw [← hmode]
  exact Function.update_self l _ _

lemma readFile_of_nodes {content : GoString} (hloc : disk.locate path = .ok l)
    (hn : disk.nodes l = some (.file content none)) : disk.readFile path = .ok content := by
  simp [readFile, hloc, hn]

end Disk

/-! ## Configuration -/

structure TLSGenerate where
  commonName : GoString := []
  organization : GoString := []
  dnsNames : List GoString := []
  ipAddresses : List GoString := []
  uris : List GoString := []
  validFor : ℤ := 0
  clientAuth : Bool := false

structure TLSConfig where
  enabled : Bool := true
  certFile : GoString := []
  keyFile : GoString := []
  generate : Option TLSGenerate := none

structure CertTemplate where
  commonName : GoString
  organization : List GoString
  dnsNames : List GoString
  ipAddresses : List GoString
  uris : List GoString
  notBefore : ℤ
  notAfter : ℤ
  clientAuth : Bool

/-- What package tlsutil has from the libraries. -/
structure Crypto (Cert : Type) where
  /-- `net.ParseIP`; no bytes stand for nil. -/
  parseIP : GoString → GoString
  /-- `url.Parse` and back, or its error. -/
  parseURL : GoString → Except GoString GoString
  /-- `strconv.Quote`. -/
  quote : GoString → GoString
  /-- `tls.X509KeyPair`. -/
  x509KeyPair : GoString → GoString → Except GoString Cert

/-- What the outside has a say in: the time, the random numbers, and how the writes go. -/
structure Occasion where
  now : ℤ
  /-- From `ecdsa.GenerateKey` to the PEM texts of the certificate and the key, or the error. -/
  create : CertTemplate → Except GoString (GoString × GoString)
  certWrite : WriteOutcome := .complete
  keyWrite : WriteOutcome := .complete

variable {Cert : Type} (crypto : Crypto Cert)

def defaultValidFor : ℤ := 365 * 24 * 3600 * 1000000000

/-- The address loop of `generateSelfSigned`. -/
def parseIPs : List GoString → Except GoString (List GoString)
  | [] => .ok []
  | s :: rest =>
    if crypto.parseIP s = [] then
      .error (go "tls.generate.ip_addresses: invalid IP address " ++ crypto.quote s)
    else (parseIPs rest).map (crypto.parseIP s :: ·)

/-- The URI loop of `generateSelfSigned`. -/
def parseURIs : List GoString → Except GoString (List GoString)
  | [] => .ok []
  | s :: rest =>
    match crypto.parseURL s with
    | .error e => .error (go "tls.generate.uris: invalid URI " ++ crypto.quote s ++ go ": " ++ e)
    | .ok u => (parseURIs rest).map (u :: ·)

/-- The template that `generateSelfSigned` fills in. -/
def certTemplate (gen : Option TLSGenerate) (now : ℤ) : Except GoString CertTemplate := do
  let gen := gen.getD {}
  let ipAddresses ← if gen.ipAddresses = [] then
      pure [crypto.parseIP (go "127.0.0.1"), crypto.parseIP (go "::1")]
    else parseIPs crypto gen.ipAddresses
  let uris ← parseURIs crypto gen.uris
  pure
    { commonName := if gen.commonName = [] then go "localhost" else gen.commonName
      organization := if gen.organization = [] then [] else [gen.organization]
      dnsNames := if gen.dnsNames = [] then [go "localhost"] else gen.dnsNames
      ipAddresses
      uris
      notBefore := now - 5 * 60 * 1000000000
      notAfter := now + if gen.validFor > 0 then gen.validFor else defaultValidFor
      clientAuth := gen.clientAuth }

/-- A new pair, with the name and the lifetime of the configuration. -/
def generateSelfSigned (gen : Option TLSGenerate) (occ : Occasion) :
    Except GoString (GoString × GoString) := do
  let template ← certTemplate crypto gen occ.now
  occ.create template

/-! ## Resolving a certificate -/

def TLSConfig.hasPair (cfg : TLSConfig) : Bool := cfg.certFile != [] && cfg.keyFile != []

/-- `tls.LoadX509KeyPair` on the files of the disk. -/
def loadX509KeyPair (disk : Disk) (certFile keyFile : GoString) : Except GoString Cert := do
  let certPEM ← disk.readFile certFile
  let keyPEM ← disk.readFile keyFile
  crypto.x509KeyPair certPEM keyPEM

def wrapError {α : Type} (text : GoString) : Except GoString α → Except GoString α
  | .ok a => .ok a
  | .error e => .error (text ++ go ": " ++ e)

/-- The two writes of `resolveCertificate`. -/
def writePair (cfg : TLSConfig) (certPEM keyPEM : GoString) (occ : Occasion) (disk : Disk) :
    Option GoString × Disk :=
  match disk.writeFile cfg.certFile certPEM occ.certWrite with
  | (some e, disk₁) =>
    (some (go "write generated cert " ++ crypto.quote cfg.certFile ++ go ": " ++ e), disk₁)
  | (none, disk₁) =>
    match disk₁.writeFile cfg.keyFile keyPEM occ.keyWrite with
    | (some e, disk₂) =>
      (some (go "write generated key " ++ crypto.quote cfg.keyFile ++ go ": " ++ e), disk₂)
    | (none, disk₂) => (none, disk₂)

/-- Loads the pair if it is there, or else generates and writes one. -/
def resolveCertificate (cfg : TLSConfig) (occ : Occasion) (disk : Disk) :
    Except GoString Cert × Disk :=
  if cfg.hasPair && disk.fileExists cfg.certFile && disk.fileExists cfg.keyFile then
    (wrapError (go "load TLS cert/key")
      (loadX509KeyPair crypto disk cfg.certFile cfg.keyFile), disk)
  else
    match generateSelfSigned crypto cfg.generate occ with
    | .error e => (.error (go "generate self-signed TLS certificate: " ++ e), disk)
    | .ok (certPEM, keyPEM) =>
      let served := wrapError (go "parse generated TLS cert/key")
        (crypto.x509KeyPair certPEM keyPEM)
      if cfg.hasPair then
        match writePair crypto cfg certPEM keyPEM occ disk with
        | (some e, disk') => (.error e, disk')
        | (none, disk') => (served, disk')
      else (served, disk)

/-- There are two paths, and a file at each. -/
def Disk.HasBoth (disk : Disk) (cfg : TLSConfig) : Prop :=
  cfg.hasPair = true ∧ disk.fileExists cfg.certFile = true ∧ disk.fileExists cfg.keyFile = true

variable {cfg : TLSConfig} {disk : Disk}

lemma resolveCertificate_of_hasBoth (h : disk.HasBoth cfg) (occ : Occasion) :
    resolveCertificate crypto cfg occ disk =
      (wrapError (go "load TLS cert/key")
        (loadX509KeyPair crypto disk cfg.certFile cfg.keyFile), disk) := by
  obtain ⟨hpair, hcert, hkey⟩ := h
  simp [resolveCertificate, hpair, hcert, hkey]

lemma not_hasBoth_iff :
    ¬ disk.HasBoth cfg ↔
      (cfg.hasPair && disk.fileExists cfg.certFile && disk.fileExists cfg.keyFile) = false := by
  simp [Disk.HasBoth, ← Bool.not_eq_true, and_assoc]

variable {occ : Occasion}

lemma resolveCertificate_of_generate_error (h : ¬ disk.HasBoth cfg) {e : GoString}
    (hgen : generateSelfSigned crypto cfg.generate occ = .error e) :
    resolveCertificate crypto cfg occ disk =
      (.error (go "generate self-signed TLS certificate: " ++ e), disk) := by
  rw [not_hasBoth_iff] at h
  simp [resolveCertificate, h, hgen]

def served (certPEM keyPEM : GoString) : Except GoString Cert :=
  wrapError (go "parse generated TLS cert/key") (crypto.x509KeyPair certPEM keyPEM)

variable {pems : GoString × GoString}

lemma resolveCertificate_of_generate (h : ¬ disk.HasBoth cfg)
    (hgen : generateSelfSigned crypto cfg.generate occ = .ok pems) :
    resolveCertificate crypto cfg occ disk =
      if cfg.hasPair then
        ((writePair crypto cfg pems.1 pems.2 occ disk).1.elim (served crypto pems.1 pems.2) .error,
          (writePair crypto cfg pems.1 pems.2 occ disk).2)
      else (served crypto pems.1 pems.2, disk) := by
  rw [not_hasBoth_iff] at h
  simp only [resolveCertificate, h, hgen, Bool.false_eq_true, if_false, served]
  rcases writePair crypto cfg pems.1 pems.2 occ disk with ⟨_ | e, disk'⟩ <;> rfl

/-- A call that is to write a pair finds neither of the two files, and their paths lead to different
places. -/
def Steady (disk : Disk) (cfg : TLSConfig) : Prop :=
  cfg.hasPair = true → ¬ disk.HasBoth cfg →
    disk.fileExists cfg.certFile = false ∧ disk.fileExists cfg.keyFile = false ∧
      disk.locate cfg.certFile ≠ disk.locate cfg.keyFile

open Disk

lemma writePair_extends (hcert : disk.fileExists cfg.certFile = false)
    (hkey : disk.fileExists cfg.keyFile = false) (certPEM keyPEM : GoString) (occ : Occasion) :
    Disk.Extends disk (writePair crypto cfg certPEM keyPEM occ disk).2 := by
  have hfirst := writeFile_extends (.refl disk) hcert certPEM occ.certWrite
  unfold writePair
  rcases h₁ : disk.writeFile cfg.certFile certPEM occ.certWrite with ⟨e₁, disk₁⟩
  rw [h₁] at hfirst
  cases e₁ with
  | some e => exact hfirst
  | none =>
    have hsecond := writeFile_extends hfirst hkey keyPEM occ.keyWrite
    rcases h₂ : disk₁.writeFile cfg.keyFile keyPEM occ.keyWrite with ⟨e₂, disk₂⟩
    rw [h₂] at hsecond
    cases e₂ with
    | some | none => simpa [h₂] using hsecond

/-- A steady call changes nothing that was there. -/
theorem resolveCertificate_extends (h : Steady disk cfg) (occ : Occasion) :
    Disk.Extends disk (resolveCertificate crypto cfg occ disk).2 := by
  by_cases hboth : disk.HasBoth cfg
  · rw [resolveCertificate_of_hasBoth crypto hboth]
    exact .refl disk
  · cases hgen : generateSelfSigned crypto cfg.generate occ with
    | error e =>
      rw [resolveCertificate_of_generate_error crypto hboth hgen]
      exact .refl disk
    | ok pems =>
      rw [resolveCertificate_of_generate crypto hboth hgen]
      by_cases hpair : cfg.hasPair = true
      · obtain ⟨hcert, hkey, -⟩ := h hpair hboth
        rw [if_pos hpair]
        exact writePair_extends crypto hcert hkey pems.1 pems.2 occ
      · rw [if_neg hpair]
        exact .refl disk

/-! ## Pairs that were written -/

/-- The call generates a pair and writes both of its files. -/
def WritesBoth (cfg : TLSConfig) (occ : Occasion) (disk : Disk) : Prop :=
  cfg.hasPair = true ∧ ¬ disk.HasBoth cfg ∧
    ∃ pems, generateSelfSigned crypto cfg.generate occ = .ok pems ∧
      (writePair crypto cfg pems.1 pems.2 occ disk).1 = none

/-- The pair is on the disk, where the paths of `cfg` lead. -/
def Disk.HoldsPair (disk : Disk) (cfg : TLSConfig) (pems : GoString × GoString) : Prop :=
  ∃ lc lk, disk.locate cfg.certFile = .ok lc ∧ disk.locate cfg.keyFile = .ok lk ∧
    disk.nodes lc = some (.file pems.1 none) ∧ disk.nodes lk = some (.file pems.2 none)

lemma Disk.HoldsPair.extends {disk' : Disk} (h : disk.HoldsPair cfg pems)
    (hext : Disk.Extends disk disk') : disk'.HoldsPair cfg pems := by
  obtain ⟨lc, lk, hlc, hlk, hcert, hkey⟩ := h
  refine ⟨lc, lk, ?_, ?_, hext.keeps lc _ hcert, hext.keeps lk _ hkey⟩
  · rw [hext.locate_eq, hlc]
  · rw [hext.locate_eq, hlk]

lemma resolveCertificate_of_holdsPair (hpair : cfg.hasPair = true) (h : disk.HoldsPair cfg pems)
    (occ : Occasion) :
    (resolveCertificate crypto cfg occ disk).1 =
      wrapError (go "load TLS cert/key") (crypto.x509KeyPair pems.1 pems.2) := by
  obtain ⟨lc, lk, hlc, hlk, hcert, hkey⟩ := h
  have hboth : disk.HasBoth cfg :=
    ⟨hpair, fileExists_eq_true_iff.mpr ⟨lc, _, _, hlc, hcert⟩,
      fileExists_eq_true_iff.mpr ⟨lk, _, _, hlk, hkey⟩⟩
  rw [resolveCertificate_of_hasBoth crypto hboth, loadX509KeyPair,
    readFile_of_nodes hlc hcert, readFile_of_nodes hlk hkey]
  rfl

lemma writePair_holdsPair (hcert : disk.fileExists cfg.certFile = false)
    (hkey : disk.fileExists cfg.keyFile = false)
    (hne : disk.locate cfg.certFile ≠ disk.locate cfg.keyFile)
    (h : (writePair crypto cfg pems.1 pems.2 occ disk).1 = none) :
    (writePair crypto cfg pems.1 pems.2 occ disk).2.HoldsPair cfg pems := by
  unfold writePair at h ⊢
  rcases h₁ : disk.writeFile cfg.certFile pems.1 occ.certWrite with ⟨_ | e₁, disk₁⟩
  · rcases h₂ : disk₁.writeFile cfg.keyFile pems.2 occ.keyWrite with ⟨_ | e₂, disk₂⟩
    · obtain ⟨lc, hlc, rfl⟩ := writeFile_complete h₁
      obtain ⟨lk, hlk, rfl⟩ := writeFile_complete h₂
      have hlk' : disk.locate cfg.keyFile = .ok lk := hlk
      have hplaces : lc ≠ lk := by
        rintro rfl
        exact hne (hlc.trans hlk'.symm)
      have hkey' : (disk.store lc pems.1).fileExists cfg.keyFile = false := by
        rwa [store_fileExists_of_ne disk hlk' hplaces.symm]
      simp only [h₂]
      refine ⟨lc, lk, hlc, hlk', ?_, store_nodes_self _ hlk hkey' pems.2⟩
      rw [store_nodes_of_ne _ hplaces]
      exact store_nodes_self disk hlc hcert pems.1
    · simp [h₁, h₂] at h
  · simp [h₁] at h

/-! ## Sequences of calls -/

/-- A call: its configuration, and what the outside has to say. -/
structure ResolveCall where
  cfg : TLSConfig
  occ : Occasion

def resolveStep (disk : Disk) (c : ResolveCall) : Option Disk :=
  some (resolveCertificate crypto c.cfg c.occ disk).2

def afterResolves (disk : Disk) : List ResolveCall → Disk
  | [] => disk
  | c :: cs => afterResolves (resolveCertificate crypto c.cfg c.occ disk).2 cs

lemma run_resolveStep (disk : Disk) (calls : List ResolveCall) :
    run (resolveStep crypto) disk calls = some (afterResolves crypto disk calls) := by
  induction calls generalizing disk with
  | nil => rfl
  | cons c cs ih => exact ih _

lemma afterResolves_append (disk : Disk) (calls calls' : List ResolveCall) :
    afterResolves crypto disk (calls ++ calls') =
      afterResolves crypto (afterResolves crypto disk calls) calls' := by
  induction calls generalizing disk with
  | nil => rfl
  | cons c cs ih => exact ih _

/-- Every call of the sequence is steady. -/
def AllSteady (disk : Disk) (calls : List ResolveCall) : Prop :=
  Along (resolveStep crypto) (fun disk c => Steady disk c.cfg) disk calls

lemma allSteady_cons {c : ResolveCall} {cs : List ResolveCall} :
    AllSteady crypto disk (c :: cs) ↔ Steady disk c.cfg ∧
      AllSteady crypto (resolveCertificate crypto c.cfg c.occ disk).2 cs :=
  along_cons rfl

lemma allSteady_append {calls calls' : List ResolveCall} :
    AllSteady crypto disk (calls ++ calls') ↔ AllSteady crypto disk calls ∧
      AllSteady crypto (afterResolves crypto disk calls) calls' :=
  along_append (run_resolveStep crypto disk calls)

lemma afterResolves_extends {calls : List ResolveCall} (h : AllSteady crypto disk calls) :
    Disk.Extends disk (afterResolves crypto disk calls) := by
  induction calls generalizing disk with
  | nil => exact .refl disk
  | cons c cs ih =>
    obtain ⟨hc, hcs⟩ := (allSteady_cons crypto).mp h
    exact (resolveCertificate_extends crypto hc c.occ).trans (ih hcs)

/-- The paths of the two configurations lead to the same two places. -/
def SamePair (disk : Disk) (cfg cfg' : TLSConfig) : Prop :=
  cfg'.hasPair = true ∧ disk.locate cfg'.certFile = disk.locate cfg.certFile ∧
    disk.locate cfg'.keyFile = disk.locate cfg.keyFile

lemma wrapError_eq_ok_iff {α : Type} {text : GoString} {r : Except GoString α} {a : α} :
    wrapError text r = .ok a ↔ r = .ok a := by
  cases r <;> simp [wrapError]

/-- A call that has written both files serves the pair that is on the disk now. -/
lemma holdsPair_of_writesBoth (hsteady : Steady disk cfg) (h : WritesBoth crypto cfg occ disk) :
    ∃ pems, (resolveCertificate crypto cfg occ disk).2.HoldsPair cfg pems ∧
      (resolveCertificate crypto cfg occ disk).1 = served crypto pems.1 pems.2 := by
  obtain ⟨hpair, hboth, pems, hgen, hwrite⟩ := h
  obtain ⟨hcert, hkey, hne⟩ := hsteady hpair hboth
  refine ⟨pems, ?_⟩
  rw [resolveCertificate_of_generate crypto hboth hgen, if_pos hpair, hwrite]
  exact ⟨writePair_holdsPair crypto hcert hkey hne hwrite, rfl⟩

def emptyDisk : Disk where
  locate path :=
    match path with
    | [b] => .ok b.toNat
    | _ => .error (go "no such directory")
  nodes _ := none

/-- A pair is the letters `C` and `K`, each before the number of the pair. -/
def numberedPairs : Crypto GoString where
  parseIP := id
  parseURL := .ok
  quote := id
  x509KeyPair cert key :=
    if cert.head? = some 75 then .error (go "tls: failed to find certificate PEM data in " ++
      go "certificate input, but did find a private key; PEM inputs may have been switched")
    else if cert.head? ≠ some 67 then
      .error (go "tls: failed to find any PEM data in certificate input")
    else if cert.tail = key.tail then .ok cert
    else .error (go "tls: private key does not match public key")

def pairNumber (n : UInt8) : Occasion where
  now := 0
  create _ := .ok ([67, n], [75, n])

def pairConfig (certFile keyFile : GoString) : TLSConfig := { certFile, keyFile }

end Mockly
