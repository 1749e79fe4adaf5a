import Mockly.FTP.Session
import Mockly.LDAP.Session

/-!
# What a session can reveal

In FTP and LDAP a user record lists IDs, of files or of mocks, and an empty list restricts nothing.
Both servers remember who has logged in by name only.

Main result: **`session_reveals_permitted_only`**.
-/

namespace Mockly

open API (normalizeFTPFiles FTPFile)

/-- **A session reveals what is permitted to those who log in, and nothing else.**  Usernames are
distinct, and so are the paths of the files once they are normalised. -/
theorem session_reveals_permitted_only :
    (∀ (cfg : FTP.Config) (files files' : List FTPFile) (lines : List FTP.Line),
      (cfg.users.map FTP.FTPUser.username).Nodup →
      ((normalizeFTPFiles files).map FTPFile.path).Nodup →
      ((normalizeFTPFiles files').map FTPFile.path).Nodup →
      (files.filter (FTP.permitted cfg (FTP.loggedIn cfg files lines)) =
          files'.filter (FTP.permitted cfg (FTP.loggedIn cfg files lines)) →
        FTP.handleConn cfg files lines = FTP.handleConn cfg files' lines) ∧
      (cfg.users ≠ [] → FTP.loggedIn cfg files lines = [] →
        FTP.handleConn cfg files lines = FTP.handleConn cfg files' lines)) ∧
    (∀ (cfg : LDAP.Config) (mocks mocks' : List LDAP.LDAPMock) (store : State.Store) (now : ℤ)
      (inputs : List LDAP.Input),
      (cfg.users.map LDAP.LDAPUser.username).Nodup →
      (mocks.filter (LDAP.permitted cfg (LDAP.bound cfg mocks store now inputs)) =
          mocks'.filter (LDAP.permitted cfg (LDAP.bound cfg mocks store now inputs)) →
        LDAP.handleConn cfg mocks store now inputs = LDAP.handleConn cfg mocks' store now inputs) ∧
      (cfg.users ≠ [] → LDAP.bound cfg mocks store now inputs = [] →
        LDAP.handleConn cfg mocks store now inputs =
          LDAP.handleConn cfg mocks' store now inputs)) := by
  refine ⟨fun cfg files files' lines hnames hpaths hpaths' => ⟨?_, ?_⟩,
    fun cfg mocks mocks' store now inputs hnames => ⟨?_, ?_⟩⟩
  · exact FTP.output_eq_of_agree hnames hpaths hpaths' lines
  · exact fun husers hlogin => FTP.output_eq_before_login hnames husers hpaths hpaths' lines hlogin
  · exact LDAP.output_eq_of_agree hnames store now inputs
  · exact fun husers hbound => LDAP.output_eq_before_bind hnames husers store now inputs hbound

/-! ## A user who may see one thing of two -/

def aliceFTP : FTP.Config where
  users := [⟨go "alice", go "pw", [go "a"]⟩]
  upperTable := asciiUpperTable
  quote := id

def aliceLDAP : LDAP.Config where
  users := [⟨go "alice", go "pw", [go "a"]⟩]
  caseTable := asciiTable

def loginAndList : List FTP.Line :=
  [{ text := go "USER alice" }, { text := go "PASS pw" }, { text := go "PASV", port := some 2121 },
    { text := go "NLST" }]

def bindRequest : GoString :=
  LDAP.buildLDAPMessage 1 0x60
    (LDAP.berTLV 0x02 [3] ++ LDAP.berTLV 0x04 (go "alice") ++ LDAP.berTLV 0x80 (go "pw"))

def searchRequest : GoString :=
  LDAP.buildLDAPMessage 2 0x63
    (LDAP.berTLV 0x04 (go "dc=x") ++ LDAP.berTLV 0x0A [2] ++ LDAP.berTLV 0x0A [0] ++
      LDAP.berTLV 0x02 [0] ++ LDAP.berTLV 0x02 [0] ++ LDAP.berTLV 0x01 [0] ++
      LDAP.berTLV 0x87 (go "objectClass"))

def bindAndSearch : List LDAP.Input :=
  [.request 0 { packet := bindRequest }, .request 0 { packet := searchRequest }]

def twoFiles (content : String) : List FTPFile :=
  [⟨go "a", go "/a.txt", go "for alice", [], 0⟩, ⟨go "b", go "/b.txt", go content, [], 0⟩]

/-- Nobody else's file and nobody else's mock show in a session of `alice`. -/
theorem session_reveals_permitted_only_alice :
    FTP.loggedIn aliceFTP (twoFiles "x") loginAndList = aliceFTP.users ∧
      FTP.handleConn aliceFTP (twoFiles "x") loginAndList =
        FTP.handleConn aliceFTP (twoFiles "y") loginAndList ∧
      LDAP.bound aliceLDAP [{ id := go "a" }, { id := go "b" }] State.new 0 bindAndSearch =
        aliceLDAP.users ∧
      LDAP.handleConn aliceLDAP [{ id := go "a" }, { id := go "b" }] State.new 0 bindAndSearch =
        LDAP.handleConn aliceLDAP [{ id := go "a" }] State.new 0 bindAndSearch := by
  have hlogin : FTP.loggedIn aliceFTP (twoFiles "x") loginAndList = aliceFTP.users := by
    decide +kernel
  have hbound : LDAP.bound aliceLDAP [{ id := go "a" }, { id := go "b" }] State.new 0
      bindAndSearch = aliceLDAP.users := by
    decide +kernel
  obtain ⟨hftp, hldap⟩ := session_reveals_permitted_only
  refine ⟨hlogin, ?_, hbound, ?_⟩
  · refine (hftp aliceFTP _ _ loginAndList (by decide) (by decide) (by decide)).1 ?_
    rw [hlogin]
    decide
  · refine (hldap aliceLDAP _ _ State.new 0 bindAndSearch (by decide)).1 ?_
    rw [hbound]
    rfl

end Mockly
