import Mockly.FTP.Session
import Mockly.Go.Relative
import Mockly.Lib.Transition

/-!
# What is listed and what is found

`NLST` takes the stored paths apart, `RETR` and `SIZE` join the directory and the name of the
client. For clean paths the two agree.

Main results: **`nlst_agrees_with_retr`**, **`session_stays_clean`**.
-/

namespace Mockly.FTP

open List

open API (FTPFile normalizeFTPFile normalizeFTPFiles)

/-! ## Files and their places -/

/-- Every path is clean, and no two are the same. -/
structure Placed (files : List FTPFile) : Prop where
  clean : ∀ f ∈ files, AbsClean f.path
  distinct : (files.map FTPFile.path).Nodup

lemma Placed.sublist {files files' : List FTPFile} (h : Placed files)
    (hsub : files'.Sublist files) : Placed files' :=
  ⟨fun f hf => h.clean f (hsub.subset hf), h.distinct.sublist (hsub.map _)⟩

lemma placed_normalizeFTPFiles {files : List FTPFile}
    (hclean : ∀ f ∈ normalizeFTPFiles files, pathClean f.path = f.path)
    (hdistinct : ((normalizeFTPFiles files).map FTPFile.path).Nodup) :
    Placed (normalizeFTPFiles files) := by
  refine ⟨fun f hf => ⟨?_, hclean f hf⟩, hdistinct⟩
  obtain ⟨g, -, rfl⟩ := mem_map.mp hf
  simp only [normalizeFTPFile]
  split_ifs with habs
  · exact habs
  · rfl

/-! ## Listings -/

/-- What `NLST` lists. -/
def listedNames (files : List FTPFile) (target : GoString) (allowed : Option (List GoString)) :
    List GoString :=
  let dir := slashed (if target = [] then go "/" else target)
  (files.filter fun file => isAllowed allowed file && slashed (pathDir file.path) == dir).map
    fun file => pathBase file.path

lemma listing_names (files : List FTPFile) (target : GoString) (ids : Option (List GoString)) :
    listing files target true ids = (listedNames files target ids).flatMap (· ++ go "\r\n") := by
  induction files with
  | nil => rfl
  | cons file files ih =>
    simp only [listing, listedNames, flatMap_cons] at ih ⊢
    rw [ih, filter_cons]
    cases isAllowed ids file with
    | false => simp
    | true =>
      by_cases hdir : slashed (pathDir file.path) =
          slashed (if target = [] then go "/" else target)
      · simp [hdir, listingLine]
      · simp [hdir]

/-- A clean directory with a slash at its end is what stands in front of its files. -/
lemma slashed_eq {dir : GoString} (h : AbsClean dir) : slashed dir = joinBase dir := by
  have hroot : slashed (go "/") = go "/" := by decide
  rw [h.joinBase_eq]
  split_ifs with hdir
  · rw [hdir, hroot]
  · obtain rfl | ⟨dir, n, -, hn, rfl⟩ := h.eq_slash_or_name
    · exact absurd rfl hdir
    · refine if_neg ?_
      rw [hasSuffix, isSuffixOf_iff_suffix]
      rintro ⟨r, hr⟩
      have hlast := congrArg List.getLast? hr
      rw [List.getLast?_append_of_ne_nil _ hn.1] at hlast
      have hslash : (r ++ go "/").getLast? = some 0x2F := by
        have hgo : go "/" = [0x2F] := rfl
        simp [hgo]
      rw [hslash] at hlast
      exact hn.2.1 (mem_of_getLast? hlast.symm)

lemma slashed_inj {dir dir' : GoString} (h : AbsClean dir) (h' : AbsClean dir') :
    slashed dir = slashed dir' ↔ dir = dir' := by
  refine ⟨fun heq => ?_, congrArg slashed⟩
  rw [slashed_eq h, slashed_eq h'] at heq
  rw [← h.pathClean_joinBase, heq, h'.pathClean_joinBase]

section Names

variable {files : List FTPFile} {dir n : GoString}

lemma count_listedNames (hclean : ∀ f ∈ files, AbsClean f.path) (hdir : AbsClean dir)
    (hn : LegalName n) (ids : Option (List GoString)) :
    (listedNames files dir ids).count n =
      ((files.filter (isAllowed ids)).map FTPFile.path).count (pathJoin dir n) := by
  have hne : dir ≠ [] := by
    rintro rfl
    exact absurd hdir.1 (by decide)
  rw [listedNames, if_neg hne, List.count, countP_map, List.count, countP_map,
    countP_filter, countP_filter]
  refine countP_congr fun f hf => ?_
  have hpath : (slashed (pathDir f.path) = slashed dir ∧ pathBase f.path = n) ↔
      f.path = pathJoin dir n := by
    rw [slashed_inj (hclean f hf).pathDir hdir, (hclean f hf).eq_pathJoin_iff hdir hn]
  simp only [Function.comp_apply, Bool.and_eq_true, beq_iff_eq]
  rw [← hpath]
  tauto

/-- **Listed and found.** -/
lemma listedNames_spec (h : Placed files) (hdir : AbsClean dir) (hn : LegalName n)
    (ids : Option (List GoString)) :
    (∃ f ∈ files, isAllowed ids f = true ∧ f.path = pathJoin dir n ∧
      findFile files (pathJoin dir n) ids = some f ∧ (listedNames files dir ids).count n = 1) ∨
    (findFile files (pathJoin dir n) ids = none ∧ n ∉ listedNames files dir ids) := by
  have hdistinct : ((files.filter (isAllowed ids)).map FTPFile.path).Nodup :=
    h.distinct.sublist (filter_sublist.map _)
  rw [← count_eq_zero, count_listedNames h.clean hdir hn, findFile_eq h.distinct]
  cases hfind : (files.filter (isAllowed ids)).find? fun file => file.path = pathJoin dir n with
  | some f =>
    left
    obtain ⟨hmem, hpath⟩ := (Records.find?_key_eq_some hdistinct).mp hfind
    obtain ⟨hf, hallowed⟩ := mem_filter.mp hmem
    refine ⟨f, hf, hallowed, hpath, rfl, ?_⟩
    exact count_eq_one_of_mem hdistinct (mem_map.mpr ⟨f, hmem, hpath⟩)
  | none =>
    right
    refine ⟨rfl, count_eq_zero.mpr fun hmem => ?_⟩
    obtain ⟨f, hf, hpath⟩ := mem_map.mp hmem
    rw [List.find?_eq_none] at hfind
    exact hfind f hf (decide_eq_true hpath)

end Names

/-! ## Commands -/

section Commands

variable {cfg : Config} {c : Conn} {line : Line} {arg : GoString}

lemma ftpAbsPath_eq {p : GoString} (h : AbsClean p) (cwd : GoString) : ftpAbsPath cwd p = p := by
  have hne : p ≠ [] := by
    rintro rfl
    exact absurd h.1 (by decide)
  rw [ftpAbsPath, if_neg hne, if_pos h.1, h.2]

lemma handleCommand_nlst (hauth : c.authenticated = true) :
    handleCommand cfg c line arg (go "NLST") = list cfg c line arg true := by
  simp +decide [handleCommand, hauth]

lemma handleCommand_retr (hauth : c.authenticated = true) :
    handleCommand cfg c line arg (go "RETR") = retr cfg c line arg := by
  simp +decide [handleCommand, hauth]

lemma handleCommand_size (hauth : c.authenticated = true) :
    handleCommand cfg c line arg (go "SIZE") = size cfg c arg := by
  simp +decide [handleCommand, hauth]

/-- Somebody is logged in where that is needed, the client connects to the listener, and no fault
strikes. -/
structure Ready (c : Conn) (line : Line) : Prop where
  authenticated : c.authenticated = true
  passive : c.passive = true
  connects : line.connects = true
  noFault : injectedFault line = none

def transferred (opening : String) (content : GoString) : List Sent :=
  [reply opening, .data content, reply "226 Transfer complete"]

lemma guarded_transfer (h : Ready c line) (opening : String) (content : GoString) :
    (guarded c line (transfer c line opening content)).1 = transferred opening content := by
  simp [guarded, h.noFault, h.passive, transfer, h.connects, transferred]

end Commands

/-! ## Runs -/

/-- A command of one of the sessions, which come and go. -/
structure Request where
  session : Conn
  line : Line
  cmd : GoString
  arg : GoString

def served (cfg : Config) (files : List FTPFile) (r : Request) : List FTPFile :=
  match (handleCommand cfg { r.session with files := files } r.line r.arg r.cmd).2 with
  | some c => c.files
  | none => files

section Runs

variable {cfg : Config} {c : Conn} {line : Line} {arg cmd : GoString}

/-- The session goes on, if it does, with no other files than before, and where it was or in the
directory that is named. -/
def Keeps (c : Conn) (arg : GoString) (a : Answer) : Prop :=
  ∀ c', a.2 = some c' →
    c'.files.Sublist c.files ∧ (c'.cwd = c.cwd ∨ c'.cwd = ftpAbsPath c.cwd arg)

lemma keeps_ite {p : Prop} [Decidable p] {a b : Answer} (ha : Keeps c arg a) (hb : Keeps c arg b) :
    Keeps c arg (if p then a else b) := by
  split_ifs
  · exact ha
  · exact hb

lemma keeps_same (sent : List Sent) {d : Conn} (hfiles : d.files = c.files) (hcwd : d.cwd = c.cwd) :
    Keeps c arg (sent, some d) := by
  rintro c' ⟨⟩
  exact ⟨hfiles ▸ .refl _, .inl hcwd⟩

lemma keeps_end (sent : List Sent) : Keeps c arg (sent, none) := by
  rintro c' ⟨⟩

lemma keeps_guarded {body : Answer} (h : Keeps c arg body) :
    Keeps c arg (guarded c line body) := by
  unfold guarded
  cases injectedFault line with
  | some fault => exact keeps_end _
  | none => exact keeps_ite h (keeps_same _ rfl rfl)

lemma keeps_transfer (opening : String) (content : GoString) :
    Keeps c arg (transfer c line opening content) :=
  keeps_ite (keeps_same _ rfl rfl) (keeps_same _ rfl rfl)

lemma keeps_pass : Keeps c arg (pass cfg c arg) := by
  refine keeps_ite (keeps_same _ rfl rfl) ?_
  cases findUser cfg c.pendingUser arg with
  | some | none => exact keeps_same _ rfl rfl

lemma keeps_pasv : Keeps c arg (pasv c line) := by
  unfold pasv
  cases line.port with
  | some | none => exact keeps_same _ rfl rfl

lemma keeps_retr : Keeps c arg (retr cfg c line arg) := by
  refine keeps_guarded ?_
  cases findFile c.files (ftpAbsPath c.cwd arg) (allowed cfg c) with
  | some f => exact keeps_transfer _ _
  | none => exact keeps_same _ rfl rfl

lemma keeps_dele : Keeps c arg (dele cfg c arg) := by
  unfold dele
  cases findFile c.files (ftpAbsPath c.cwd arg) (allowed cfg c) with
  | some f =>
    rintro c' ⟨⟩
    exact ⟨filter_sublist, .inl rfl⟩
  | none => exact keeps_same _ rfl rfl

lemma keeps_size : Keeps c arg (size cfg c arg) := by
  unfold size
  cases findFile c.files (ftpAbsPath c.cwd arg) (allowed cfg c) with
  | some | none => exact keeps_same _ rfl rfl

lemma keeps_cwd (sent : List Sent) :
    Keeps c arg (sent, some { c with cwd := ftpAbsPath c.cwd arg }) := by
  rintro c' ⟨⟩
  exact ⟨.refl _, .inr rfl⟩

/-- **One command.** Only `DELE` touches the files, and only `CWD` the directory. -/
lemma keeps_handleCommand : Keeps c arg (handleCommand cfg c line arg cmd) := by
  have hsame (sent : List Sent) : Keeps c arg (sent, some c) := keeps_same sent rfl rfl
  unfold handleCommand
  refine keeps_ite (hsame _) ?_
  refine keeps_ite (keeps_same _ rfl rfl) ?_
  refine keeps_ite keeps_pass ?_
  refine keeps_ite (hsame _) ?_
  refine keeps_ite (hsame _) ?_
  refine keeps_ite (hsame _) ?_
  refine keeps_ite (keeps_cwd _) ?_
  refine keeps_ite (hsame _) ?_
  refine keeps_ite keeps_pasv ?_
  refine keeps_ite (keeps_guarded (keeps_transfer _ _)) ?_
  refine keeps_ite (keeps_guarded (keeps_transfer _ _)) ?_
  refine keeps_ite keeps_retr ?_
  refine keeps_ite (keeps_guarded (keeps_same _ rfl rfl)) ?_
  refine keeps_ite keeps_dele ?_
  refine keeps_ite keeps_size ?_
  exact keeps_ite (keeps_end _) (hsame _)

lemma served_sublist (files : List FTPFile) (r : Request) : (served cfg files r).Sublist files := by
  unfold served
  cases hnext : (handleCommand cfg { r.session with files := files } r.line r.arg r.cmd).2 with
  | some c => exact (keeps_handleCommand c hnext).1
  | none => exact List.Sublist.refl files

/-- **All commands.** -/
lemma foldl_served_sublist (requests : List Request) (files : List FTPFile) :
    (requests.foldl (served cfg) files).Sublist files := by
  induction requests generalizing files with
  | nil => exact List.Sublist.refl files
  | cons r requests ih => exact (ih _).trans (served_sublist files r)

end Runs

/-- **A name is listed once and can be retrieved, or it is neither listed nor found**, in any
session that is ready for a transfer and whatever has been deleted before. -/
theorem nlst_agrees_with_retr {cfg : Config} {files : List FTPFile}
    (hclean : ∀ f ∈ normalizeFTPFiles files, pathClean f.path = f.path)
    (hdistinct : ((normalizeFTPFiles files).map FTPFile.path).Nodup) (requests : List Request)
    {c : Conn} (hfiles : c.files = requests.foldl (served cfg) (normalizeFTPFiles files))
    {line : Line} (hready : Ready c line) {dir n : GoString} (hdir : AbsClean dir)
    (hn : LegalName n) :
    (handleCommand cfg c line dir (go "NLST")).1 =
      transferred "125 Data connection open"
        ((listedNames c.files dir (allowed cfg c)).flatMap (· ++ go "\r\n")) ∧
    ((∃ f ∈ c.files, isAllowed (allowed cfg c) f = true ∧ f.path = pathJoin dir n ∧
        (listedNames c.files dir (allowed cfg c)).count n = 1 ∧
        (handleCommand cfg c line (pathJoin dir n) (go "RETR")).1 =
          transferred "150 Opening data connection" f.content ∧
        (handleCommand cfg c line (pathJoin dir n) (go "SIZE")).1 =
          [.control (go "213 " ++ formatInt f.size ++ go "\r\n")]) ∨
      n ∉ listedNames c.files dir (allowed cfg c) ∧
        (handleCommand cfg c line (pathJoin dir n) (go "RETR")).1 = [reply "550 No such file"] ∧
        (handleCommand cfg c line (pathJoin dir n) (go "SIZE")).1 = [reply "550 Not found"]) := by
  have hauth := hready.authenticated
  have hplaced : Placed c.files := by
    rw [hfiles]
    exact (placed_normalizeFTPFiles hclean hdistinct).sublist (foldl_served_sublist _ _)
  have hpath := ftpAbsPath_eq (absClean_pathJoin hdir hn) c.cwd
  rw [handleCommand_nlst hauth, handleCommand_retr hauth, handleCommand_size hauth]
  refine ⟨?_, ?_⟩
  · rw [list, guarded_transfer hready, ftpAbsPath_eq hdir, listing_names]
  · rcases listedNames_spec hplaced hdir hn (allowed cfg c) with
      ⟨f, hf, hallowed, hfpath, hfind, hcount⟩ | ⟨hfind, hnot⟩
    · refine Or.inl ⟨f, hf, hallowed, hfpath, hcount, ?_, ?_⟩
      · rw [retr, hpath, hfind]
        exact guarded_transfer hready _ _
      · rw [size, hpath, hfind]
    · refine Or.inr ⟨hnot, ?_, ?_⟩
      · rw [retr, hpath, hfind]
        simp [guarded, hready.noFault, hready.passive]
      · rw [size, hpath, hfind]

def bobFTP : Config where
  users := [{ username := go "bob", password := go "pw", allowedFiles := [go "1", go "3"] }]
  upperTable := asciiUpperTable
  quote := id

def publicFiles : List FTPFile :=
  [{ id := go "1", path := go "pub/a.txt", content := go "hello" },
    { id := go "2", path := go "/pub/b.txt", content := [] },
    { id := go "3", path := go "/pub/c.txt", content := [] }]

def bobDeletes : Request where
  session := { authedUser := go "bob", authenticated := true, files := [] }
  line := { text := [] }
  cmd := go "DELE"
  arg := go "/pub/c.txt"

def bobReady : Conn where
  authedUser := go "bob"
  authenticated := true
  passive := true
  files := [bobDeletes].foldl (served bobFTP) (normalizeFTPFiles publicFiles)

theorem nlst_agrees_with_retr_bob :
    (handleCommand bobFTP bobReady { text := [] } (go "/pub") (go "NLST")).1 =
        transferred "125 Data connection open" (go "a.txt\r\n") ∧
      (handleCommand bobFTP bobReady { text := [] } (go "/pub/b.txt") (go "RETR")).1 =
        [reply "550 No such file"] := by
  have hready : Ready bobReady { text := [] } := ⟨rfl, rfl, rfl, rfl⟩
  have hspec := fun (n : GoString) (hn : LegalName n) =>
    @nlst_agrees_with_retr bobFTP publicFiles (by decide) (by decide) [bobDeletes] bobReady rfl
      { text := [] } hready (go "/pub") n (by decide) hn
  have hnames : listedNames bobReady.files (go "/pub") (allowed bobFTP bobReady) =
      [go "a.txt"] := by decide
  have hjoin : pathJoin (go "/pub") (go "b.txt") = go "/pub/b.txt" := by decide
  refine ⟨?_, ?_⟩
  · rw [(hspec (go "a.txt") (by decide)).1, hnames]
    rfl
  · have hb := (hspec (go "b.txt") (by decide)).2
    rw [hnames, hjoin] at hb
    rcases hb with ⟨f, -, -, -, hcount, -⟩ | ⟨-, hretr, -⟩
    · exact absurd hcount (by decide)
    · exact hretr

/-! ## The directory of a session

`CWD` takes any text and always succeeds. -/

section Directory

variable {cfg : Config} {c : Conn}

/-- The session after a line, if it goes on. -/
def next (cfg : Config) (c : Conn) (line : Line) : Option Conn := (handleLine cfg c line).2

lemma absClean_ftpAbsPath {cwd : GoString} (h : AbsClean cwd) (p : GoString) :
    AbsClean (ftpAbsPath cwd p) := by
  rw [ftpAbsPath]
  split_ifs with hnil habs
  · exact h
  · exact absClean_pathClean habs
  · rw [pathJoin_of_isAbs h.1]
    exact absClean_pathClean (isAbs_pathClean (isAbs_of_append h.1 _))

lemma next_clean {c' : Conn} {line : Line} (hc : AbsClean c.cwd) (h : next cfg c line = some c') :
    AbsClean c'.cwd := by
  rw [next, handleLine] at h
  cases hline : parseLine cfg line.text with
  | none =>
    rw [hline] at h
    cases h
    exact hc
  | some p =>
    rw [hline] at h
    rcases (keeps_handleCommand c' h).2 with hcwd | hcwd <;> rw [hcwd]
    · exact hc
    · exact absClean_ftpAbsPath hc p.2

end Directory

/-- **A session stays on clean paths**: whatever lines have been sent, the directory is absolute and
clean, and no argument of a command leads to a file whose path is not. -/
theorem session_stays_clean (cfg : Config) (files : List FTPFile) (lines : List Line) (c : Conn)
    (hrun : Transition.run (next cfg) (.start cfg files) lines = some c) :
    AbsClean c.cwd ∧ ∀ arg ids f, findFile c.files (ftpAbsPath c.cwd arg) ids = some f →
      AbsClean f.path := by
  have hroot : AbsClean (go "/") := by decide
  have hclean : AbsClean c.cwd :=
    Transition.run_preserves (fun _ _ _ hs h => next_clean hs h) hroot hrun
  refine ⟨hclean, fun arg ids f hf => ?_⟩
  have hpath : f.path = ftpAbsPath c.cwd arg := by grind [findFile]
  rw [hpath]
  exact absClean_ftpAbsPath hclean arg

theorem session_stays_clean_above_root :
    ∃ c, Transition.run (next bobFTP) (.start bobFTP []) [{ text := go "CWD a/../../b" }] = some c ∧
      c.cwd = go "/b" ∧ AbsClean c.cwd :=
  ⟨_, rfl, by decide, (session_stays_clean bobFTP [] [{ text := go "CWD a/../../b" }] _ rfl).1⟩

end Mockly.FTP
