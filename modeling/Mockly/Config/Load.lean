import Mockly.Config.Merge
import Mockly.Go.Glob
import Mockly.Lib.Loops

/-!
# Loading a directory

Every other `*.yaml` or `*.yml` file beside `mockly.yaml` is merged into it before the files that it
includes. The names are taken for patterns: `[ab].yaml` stands for `a.yaml` and `b.yaml`.

Main result: **`load_directory`**.
-/

namespace Mockly.Config

open Loops List

variable {T : Types}

/-! ## The source -/

/-- `loadFile` reads and parses one file; a missing one is the default configuration. -/
structure Loader (T : Types) where
  fs : FileSystem
  loadFile : GoString → Except GoString (Config T)
  /-- `strconv.Quote`. -/
  quote : GoString → GoString

/-- The files of a directory that are merged into the main file, by name. -/
def autoIncludes (d : Directory) : List GoString :=
  sortStrings (d.entries.fileNames.filter fun name =>
    name ≠ go "mockly.yaml" ∧ (hasSuffix name (go ".yaml") ∨ hasSuffix name (go ".yml")))

/-- `files` has the files that have been read. -/
structure Merged (T : Types) where
  cfg : Config T
  seen : List GoString
  files : List GoString

/-- The state of the loop of `ResolvedFiles`. -/
structure Watched where
  seen : List GoString
  files : List GoString

namespace Loader

variable (L : Loader T)

def resolveConfigPath (path : GoString) : Except GoString (GoString × List GoString) :=
  match L.fs.stat path with
  | .ok (.dir d) =>
    let mainPath := pathJoin path (go "mockly.yaml")
    match L.fs.stat mainPath with
    | .error _ =>
      .error (go "config directory " ++ L.quote path ++
        go ": no mockly.yaml found (directory mode requires a mockly.yaml alongside any " ++
        go "additional *.yaml mock files)")
    | .ok _ => .ok (mainPath, autoIncludes d)
  | _ => .ok (path, [])

/-- The absolute path, or the path itself if the working directory is unknown. -/
def absOf (p : GoString) : GoString :=
  match filepathAbs L.fs.getwd p with
  | .ok abs => abs
  | .error _ => p

def includeError (name msg : GoString) : GoString :=
  go "include " ++ L.quote name ++ go ": " ++ msg

/-- The files for a pattern, sorted. -/
def matchesOf (baseDir pattern : GoString) : Except GoString (List GoString) :=
  let full := if isAbs pattern then pattern else pathJoin baseDir pattern
  match L.fs.glob full with
  | none => .error (L.includeError pattern (go "syntax error in pattern"))
  | some found => .ok (sortStrings found)

/-- One turn of the inner loop of `mergeIncludes`. -/
def includeFile (s : Merged T) (m : GoString) : Except GoString (Merged T) :=
  let abs := L.absOf m
  if abs ∈ s.seen then .ok s
  else
    match L.loadFile m with
    | .error err => .error (L.includeError m err)
    | .ok inc => .ok ⟨mergeIncludedConfig s.cfg inc, abs :: s.seen, s.files ++ [m]⟩

/-- One turn of the outer loop of `mergeIncludes`. -/
def includePattern (baseDir : GoString) (s : Merged T) (pattern : GoString) :
    Except GoString (Merged T) := do
  let found ← L.matchesOf baseDir pattern
  if found = [] then .error (L.includeError pattern (go "no files matched"))
  else found.foldlM L.includeFile s

def mergeIncludes (baseDir : GoString) (s : Merged T) (patterns : List GoString) :
    Except GoString (Merged T) :=
  patterns.foldlM (L.includePattern baseDir) s

/-- `Load`, with the files it has read. -/
def load (path : GoString) : Except GoString (Config T × List GoString) := do
  let (mainPath, autoIncludes) ← L.resolveConfigPath path
  let cfg ← L.loadFile mainPath
  let s ← L.mergeIncludes (pathDir mainPath) ⟨cfg, [L.absOf mainPath], [mainPath]⟩
    (autoIncludes ++ cfg.includes)
  return (s.cfg, s.files)

/-- One turn of the inner loop of `ResolvedFiles`. -/
def watchFile (s : Watched) (m : GoString) : Watched :=
  let abs := L.absOf m
  if abs ∈ s.seen then s else ⟨abs :: s.seen, s.files ++ [m]⟩

/-- One turn of the outer loop of `ResolvedFiles`. -/
def watchPattern (baseDir : GoString) (s : Watched) (pattern : GoString) :
    Except GoString Watched := do
  let found ← L.matchesOf baseDir pattern
  return found.foldl L.watchFile s

def resolvedFiles (path : GoString) : Except GoString (List GoString) := do
  let (mainPath, autoIncludes) ← L.resolveConfigPath path
  let cfg ← L.loadFile mainPath
  let s ← (autoIncludes ++ cfg.includes).foldlM (L.watchPattern (pathDir mainPath))
    ⟨[L.absOf mainPath], [mainPath]⟩
  return s.files

end Loader

/-! ## The two loops -/

variable {w : Watched}

section Loops

variable {L : Loader T} {baseDir : GoString} {s s' : Merged T}

/-- What `ResolvedFiles` sees of the state of `Load`. -/
def Merged.watched (s : Merged T) : Watched := ⟨s.seen, s.files⟩

variable {m : GoString}

open Loader

lemma includeFile_ok (h : L.includeFile s m = .ok s') :
    (L.absOf m ∈ s.seen ∧ s' = s) ∨ (L.absOf m ∉ s.seen ∧ ∃ inc, L.loadFile m = .ok inc ∧
      s' = ⟨mergeIncludedConfig s.cfg inc, L.absOf m :: s.seen, s.files ++ [m]⟩) := by
  rw [includeFile] at h
  split_ifs at h with hseen
  · cases h
    exact Or.inl ⟨hseen, rfl⟩
  · cases hload : L.loadFile m with
    | error err =>
      rw [hload] at h
      cases h
    | ok inc =>
      rw [hload] at h
      cases h
      exact Or.inr ⟨hseen, inc, rfl, rfl⟩

variable {pattern : GoString}

lemma includePattern_ok (h : L.includePattern baseDir s pattern = .ok s') :
    ∃ found, L.matchesOf baseDir pattern = .ok found ∧ found.foldlM L.includeFile s = .ok s' := by
  rw [includePattern] at h
  obtain ⟨found, hfound, h⟩ := bind_eq_ok h
  split_ifs at h
  exact ⟨found, hfound, h⟩

lemma watchFile_of_includeFile (h : L.includeFile s m = .ok s') :
    L.watchFile s.watched m = s'.watched := by
  rw [watchFile, Merged.watched]
  obtain ⟨hseen, rfl⟩ | ⟨hseen, inc, -, rfl⟩ := includeFile_ok h
  · exact if_pos hseen
  · exact if_neg hseen

lemma watchPattern_of_includePattern (h : L.includePattern baseDir s pattern = .ok s') :
    L.watchPattern baseDir s.watched pattern = .ok s'.watched := by
  obtain ⟨found, hfound, hfold⟩ := includePattern_ok h
  have hsame : found.foldlM (fun w m => Except.ok (L.watchFile w m)) s.watched =
      Except.ok s'.watched :=
    foldlM_ok_simulation hfold fun m t t' ht => congrArg Except.ok (watchFile_of_includeFile ht)
  rw [watchPattern, hfound]
  simp only [Bind.bind, Except.bind]
  rw [← hsame]
  exact foldlM_pure.symm

variable {patterns : List GoString}

lemma watched_mergeIncludes (h : L.mergeIncludes baseDir s patterns = .ok s') :
    patterns.foldlM (L.watchPattern baseDir) ⟨s.seen, s.files⟩ = .ok s'.watched :=
  foldlM_ok_simulation h fun _ _ _ ht => watchPattern_of_includePattern ht

variable {cfg : Config T} {files : List GoString}

lemma load_ok {path : GoString} (h : L.load path = .ok (cfg, files)) :
    ∃ mainPath auto main s, L.resolveConfigPath path = .ok (mainPath, auto) ∧
      L.loadFile mainPath = .ok main ∧
      L.mergeIncludes (pathDir mainPath) ⟨main, [L.absOf mainPath], [mainPath]⟩
        (auto ++ main.includes) = .ok s ∧ s.cfg = cfg ∧ s.files = files := by
  rw [load] at h
  obtain ⟨⟨mainPath, auto⟩, hpath, h⟩ := bind_eq_ok h
  obtain ⟨main, hmain, h⟩ := bind_eq_ok h
  obtain ⟨s, hmerge, h⟩ := bind_eq_ok h
  cases h
  exact ⟨mainPath, auto, main, s, hpath, hmain, hmerge, rfl, rfl⟩

/-- **The two loops agree.** -/
lemma resolvedFiles_of_load {path : GoString} (h : L.load path = .ok (cfg, files)) :
    L.resolvedFiles path = .ok files := by
  obtain ⟨mainPath, auto, main, s, hpath, hmain, hmerge, -, rfl⟩ := load_ok h
  rw [resolvedFiles, hpath]
  simp only [Bind.bind, Except.bind, hmain]
  rw [watched_mergeIncludes hmerge]
  rfl

/-- The files of the list parse. -/
def Parses (L : Loader T) (files : List GoString) : Prop :=
  ∀ f ∈ files, ∃ inc, L.loadFile f = .ok inc

lemma subset_watchFile (w : Watched) (m : GoString) : w.files ⊆ (L.watchFile w m).files := by
  rw [watchFile]
  split_ifs
  · exact Subset.refl _
  · exact subset_append_left _ _

lemma subset_watchPattern {w' : Watched} (h : L.watchPattern baseDir w pattern = .ok w') :
    w.files ⊆ w'.files := by
  rw [watchPattern] at h
  obtain ⟨found, -, h⟩ := bind_eq_ok h
  cases h
  exact foldl_invariant (I := fun _ (v : Watched) => w.files ⊆ v.files) (Subset.refl _)
    fun _ m _ _ hv => Subset.trans hv (subset_watchFile _ m)

lemma includeFile_of_watchFile (h : Parses L (L.watchFile s.watched m).files) :
    ∃ s', L.includeFile s m = .ok s' := by
  by_cases hseen : L.absOf m ∈ s.seen
  · exact ⟨s, if_pos hseen⟩
  · obtain ⟨inc, hinc⟩ := h m (by simp [watchFile, Merged.watched, hseen])
    simp [includeFile, hseen, hinc]

/-- `Load` goes on with a pattern as `ResolvedFiles` does if it finds files and they parse. -/
lemma includePattern_of_watchPattern (h : L.watchPattern baseDir s.watched pattern = .ok w)
    (hfinds : L.matchesOf baseDir pattern ≠ .ok []) (hw : Parses L w.files) :
    ∃ s', L.includePattern baseDir s pattern = .ok s' ∧ s'.watched = w := by
  rw [watchPattern] at h
  obtain ⟨found, hfound, h⟩ := bind_eq_ok h
  have hfold : found.foldlM (fun w m => Except.ok (L.watchFile w m)) s.watched = Except.ok w :=
    foldlM_pure.trans h
  rw [hfound] at hfinds
  rw [includePattern, hfound]
  simp only [Bind.bind, Except.bind, if_neg fun hnil => hfinds (congrArg Except.ok hnil)]
  refine foldlM_ok_of_simulation (P := fun w => Parses L w.files) hfold hw ?_ ?_
  · rintro m v v' ⟨⟩ hv' f hf
    exact hv' f (subset_watchFile v m hf)
  · rintro m - t v ⟨⟩ hv
    obtain ⟨t', ht⟩ := includeFile_of_watchFile hv
    exact ⟨t', ht, (watchFile_of_includeFile ht).symm⟩

lemma mergeIncludes_of_watched (h : patterns.foldlM (L.watchPattern baseDir) s.watched = .ok w)
    (hfinds : ∀ pattern ∈ patterns, L.matchesOf baseDir pattern ≠ .ok []) (hw : Parses L w.files) :
    ∃ s', L.mergeIncludes baseDir s patterns = .ok s' ∧ s'.watched = w :=
  foldlM_ok_of_simulation (P := fun w => Parses L w.files) h hw
    (fun _ _ _ hv hv' f hf => hv' f (subset_watchPattern hv hf))
    fun pattern hp _ _ hv hparses => includePattern_of_watchPattern hv (hfinds pattern hp) hparses

lemma matchesOf_of_mergeIncludes (h : L.mergeIncludes baseDir s patterns = .ok s')
    (hp : pattern ∈ patterns) : L.matchesOf baseDir pattern ≠ .ok [] := by
  intro hnil
  obtain ⟨t, t', ht⟩ := ok_of_mem_foldlM h hp
  rw [includePattern, hnil] at ht
  cases ht

/-- The files that were read since then have been merged in their order. -/
def Merged.Extends (L : Loader T) (s s' : Merged T) : Prop :=
  ∃ files incs, s'.files = s.files ++ files ∧
    Forall₂ (fun f inc => L.loadFile f = .ok inc) files incs ∧ s'.cfg = mergeAll s.cfg incs

lemma extends_includeFile {t : Merged T} (hs : t.Extends L s) (h : L.includeFile s m = .ok s') :
    t.Extends L s' := by
  obtain ⟨-, rfl⟩ | ⟨-, inc, hinc, rfl⟩ := includeFile_ok h
  · exact hs
  · obtain ⟨files, incs, hfiles, hload, hcfg⟩ := hs
    refine ⟨files ++ [m], incs ++ [inc], ?_, rel_append hload (.cons hinc .nil), ?_⟩
    · rw [hfiles, append_assoc]
    · rw [hcfg, mergeAll, mergeAll, foldl_concat]

lemma extends_mergeIncludes (h : L.mergeIncludes baseDir s patterns = .ok s') : s.Extends L s' := by
  refine foldlM_ok_invariant (I := s.Extends L) h ⟨[], [], by simp, .nil, rfl⟩ ?_
  intro pattern _ t t' ht hp
  obtain ⟨found, -, hfold⟩ := includePattern_ok hp
  exact foldlM_ok_invariant hfold ht fun m _ u u' hu hm => extends_includeFile hu hm

lemma parses_of_forall₂ {files : List GoString} {incs : List (Config T)}
    (h : Forall₂ (fun f inc => L.loadFile f = .ok inc) files incs) : Parses L files := by
  induction h with
  | nil => exact forall_mem_nil _
  | cons hinc _ ih => exact forall_mem_cons.mpr ⟨⟨_, hinc⟩, ih⟩

lemma parses_of_extends (h : s.Extends L s') (hs : Parses L s.files) : Parses L s'.files := by
  obtain ⟨files, incs, hfiles, hload, -⟩ := h
  rw [hfiles, Parses, forall_mem_append]
  exact ⟨hs, parses_of_forall₂ hload⟩

/-- What has been seen are the absolute paths of the files, none of them twice. -/
def Merged.Distinct (L : Loader T) (s : Merged T) : Prop :=
  s.seen = (s.files.map L.absOf).reverse ∧ s.seen.Nodup

lemma distinct_includeFile (hs : s.Distinct L) (h : L.includeFile s m = .ok s') :
    s'.Distinct L := by
  obtain ⟨-, rfl⟩ | ⟨hseen, inc, -, rfl⟩ := includeFile_ok h
  · exact hs
  · refine ⟨?_, nodup_cons.mpr ⟨hseen, hs.2⟩⟩
    dsimp only
    rw [hs.1, map_append, reverse_append]
    rfl

lemma distinct_includePattern (hs : s.Distinct L)
    (h : L.includePattern baseDir s pattern = .ok s') :
    s'.Distinct L := by
  obtain ⟨found, -, hfold⟩ := includePattern_ok h
  exact foldlM_ok_invariant hfold hs fun m _ t t' ht hm => distinct_includeFile ht hm

lemma distinct_mergeIncludes (hs : s.Distinct L) (h : L.mergeIncludes baseDir s patterns = .ok s') :
    s'.Distinct L :=
  foldlM_ok_invariant h hs fun _ _ _ _ ht hp => distinct_includePattern ht hp

lemma nodup_of_load {path : GoString} (h : L.load path = .ok (cfg, files)) :
    (files.map L.absOf).Nodup := by
  obtain ⟨mainPath, auto, main, s, -, -, hmerge, -, rfl⟩ := load_ok h
  have hstart : Merged.Distinct L ⟨main, [L.absOf mainPath], [mainPath]⟩ :=
    ⟨rfl, nodup_singleton _⟩
  have hend := distinct_mergeIncludes hstart hmerge
  rw [← nodup_reverse, ← hend.1]
  exact hend.2

lemma mem_includeFile {f : GoString} (h : L.includeFile s m = .ok s') (hf : f ∈ s'.files) :
    f ∈ s.files ∨ f = m := by
  obtain ⟨-, rfl⟩ | ⟨-, inc, -, rfl⟩ := includeFile_ok h
  · exact Or.inl hf
  · simpa using hf

/-- One of the patterns finds the file. -/
def Found (L : Loader T) (baseDir : GoString) (patterns : List GoString) (f : GoString) : Prop :=
  ∃ pattern ∈ patterns, ∃ found, L.matchesOf baseDir pattern = .ok found ∧ f ∈ found

lemma found_of_mergeIncludes (h : L.mergeIncludes baseDir s patterns = .ok s') :
    ∀ f ∈ s'.files, f ∈ s.files ∨ Found L baseDir patterns f := by
  refine foldlM_ok_invariant (I := fun t => ∀ f ∈ t.files, f ∈ s.files ∨ Found L baseDir patterns f)
    h (fun f hf => Or.inl hf) fun pattern hpattern t t' ht hp => ?_
  obtain ⟨found, hfound, hfold⟩ := includePattern_ok hp
  refine foldlM_ok_invariant (I := fun t => ∀ f ∈ t.files, f ∈ s.files ∨ Found L baseDir patterns f)
    hfold ht fun m hm u u' hu hinclude f hf => ?_
  obtain hf | rfl := mem_includeFile hinclude hf
  · exact hu f hf
  · exact Or.inr ⟨pattern, hpattern, found, hfound, hm⟩

end Loops

/-! ## A directory -/

/-- What `os.ReadDir` lists of a directory is there. -/
structure Listing (fs : FileSystem) (path : GoString) (d : Directory) : Prop where
  stat : fs.stat path = .ok (.dir d)
  found : ∀ name ∈ d.entries.names, ∃ info, fs.stat (pathJoin path name) = .ok info

variable {name : GoString}

lemma mem_autoIncludes {d : Directory} (h : name ∈ autoIncludes d) :
    name ∈ d.entries.fileNames ∧ name ≠ go "mockly.yaml" := by
  rw [autoIncludes, mem_sortStrings, mem_filter, decide_eq_true_iff] at h
  exact ⟨h.1, h.2.1⟩

lemma nodup_autoIncludes (d : Directory) : (autoIncludes d).Nodup := by
  rw [autoIncludes, nodup_sortStrings]
  exact ((Dir.nodup_names d.legal).sublist d.entries.fileNames_sublist).filter _

/-- The main file of a directory. -/
abbrev mainFile (path : GoString) : GoString := pathJoin path (go "mockly.yaml")

/-- The directory that the patterns are read in. -/
abbrev baseOf (path : GoString) : GoString := pathDir (mainFile path)

/-- The state in which the main file has been read. -/
abbrev afterMain (L : Loader T) (path : GoString) (main : Config T) : Merged T :=
  ⟨main, [L.absOf (mainFile path)], [mainFile path]⟩

section Directory

variable {L : Loader T} {path : GoString} {d : Directory}

lemma absOf_name (L : Loader T) (path : GoString) :
    ∃ base, ∀ n, LegalName n → L.absOf (pathJoin path n) = base ++ n := by
  obtain ⟨base, hbase⟩ := filepathAbs_name L.fs.getwd path
  cases base with
  | error err =>
    refine ⟨joinBase path, fun n hn => ?_⟩
    rw [Loader.absOf, hbase n hn, ← pathJoin_name path hn]
    rfl
  | ok base =>
    refine ⟨base, fun n hn => ?_⟩
    rw [Loader.absOf, hbase n hn]
    rfl

lemma matchesOf_plain (hname : LegalName name) (hmeta : hasMeta (pathJoin path name) = false)
    {info : FileInfo} (hstat : L.fs.stat (pathJoin path name) = .ok info) :
    L.matchesOf (baseOf path) name = .ok [pathJoin path name] := by
  have hmain : LegalName (go "mockly.yaml") := by decide
  have hsort : sortStrings [pathJoin path name] = [pathJoin path name] := rfl
  rw [Loader.matchesOf, isAbs_name hname, if_neg (by decide), pathJoin_pathDir path hmain hname,
    L.fs.glob_of_plain hmeta hstat]
  dsimp only
  rw [hsort]

lemma watched_plain {names : List GoString} (hlegal : ∀ name ∈ names, LegalName name)
    (hmeta : ∀ name ∈ names, hasMeta (pathJoin path name) = false)
    (hstat : ∀ name ∈ names, ∃ info, L.fs.stat (pathJoin path name) = .ok info)
    (hnodup : names.Nodup) (hseen : ∀ name ∈ names, L.absOf (pathJoin path name) ∉ w.seen) :
    ∃ w', names.foldlM (L.watchPattern (baseOf path)) w = .ok w' ∧
      w'.files = w.files ++ names.map (pathJoin path) := by
  induction names generalizing w with
  | nil => exact ⟨w, rfl, (append_nil _).symm⟩
  | cons name names ih =>
    rw [forall_mem_cons] at hlegal hmeta hstat hseen
    obtain ⟨info, hinfo⟩ := hstat.1
    rw [nodup_cons] at hnodup
    obtain ⟨base, hbase⟩ := absOf_name L path
    have hfresh : ∀ name' ∈ names, L.absOf (pathJoin path name') ∉
        L.absOf (pathJoin path name) :: w.seen := by
      intro name' hname'
      rw [mem_cons, not_or]
      refine ⟨fun heq => ?_, hseen.2 name' hname'⟩
      rw [hbase name' (hlegal.2 name' hname'), hbase name hlegal.1] at heq
      rw [append_cancel_left heq] at hname'
      exact hnodup.1 hname'
    obtain ⟨w', hw', hfiles⟩ := ih hlegal.2 hmeta.2 hstat.2 hnodup.2
      (w := ⟨L.absOf (pathJoin path name) :: w.seen, w.files ++ [pathJoin path name]⟩) hfresh
    refine ⟨w', ?_, by rw [hfiles, map_cons, append_assoc, singleton_append]⟩
    rw [foldlM_cons, Loader.watchPattern, matchesOf_plain hlegal.1 hmeta.1 hinfo]
    simp only [Bind.bind, Except.bind, foldl_cons, foldl_nil, Loader.watchFile, if_neg hseen.1]
    exact hw'

lemma resolveConfigPath_directory (hlist : Listing L.fs path d)
    (hmain : go "mockly.yaml" ∈ d.entries.fileNames) :
    L.resolveConfigPath path = .ok (mainFile path, autoIncludes d) := by
  obtain ⟨info, hinfo⟩ := hlist.found _ (d.entries.fileNames_sublist.subset hmain)
  simp [Loader.resolveConfigPath, hlist.stat, hinfo]

/-- Where the names of the files, taken for patterns, lead to the files of the directory and to
these in their order. A file that was found before does not count. -/
def ListsItself (L : Loader T) (path : GoString) (d : Directory) : Prop :=
  (∀ name ∈ autoIncludes d, L.matchesOf (baseOf path) name ≠ .ok []) ∧
  ∃ w, (autoIncludes d).foldlM (L.watchPattern (baseOf path))
      ⟨[L.absOf (mainFile path)], [mainFile path]⟩ = .ok w ∧
    w.files = (go "mockly.yaml" :: autoIncludes d).map (pathJoin path)

lemma listsItself_of_plain (hlist : Listing L.fs path d)
    (hmeta : ∀ name ∈ autoIncludes d, hasMeta (pathJoin path name) = false) :
    ListsItself L path d := by
  have hname (name : GoString) (h : name ∈ autoIncludes d) : name ∈ d.entries.names :=
    d.entries.fileNames_sublist.subset (mem_autoIncludes h).1
  have hlegal (name : GoString) (h : name ∈ autoIncludes d) : LegalName name :=
    Dir.legalName_of_mem d.legal (hname name h)
  have hstat (name : GoString) (h : name ∈ autoIncludes d) := hlist.found name (hname name h)
  obtain ⟨base, hbase⟩ := absOf_name L path
  refine ⟨fun name h => ?_, watched_plain hlegal hmeta hstat (nodup_autoIncludes d) ?_⟩
  · obtain ⟨info, hinfo⟩ := hstat name h
    rw [matchesOf_plain (hlegal name h) (hmeta name h) hinfo]
    exact fun heq => cons_ne_nil _ _ (Except.ok.inj heq)
  · intro name h
    rw [mem_singleton, hbase name (hlegal name h), hbase _ (by decide)]
    exact fun heq => (mem_autoIncludes h).2 (append_cancel_left heq)

/-- Where each include of the main file leads to files, and the files to be watched parse. -/
def IncludesParse (L : Loader T) (path : GoString) (main : Config T) : Prop :=
  (∀ pattern ∈ main.includes, L.matchesOf (baseOf path) pattern ≠ .ok []) ∧
  ∃ files, L.resolvedFiles path = .ok files ∧ Parses L files

/-- The files of the directory have been merged in their order, then the includes of the main file;
and the files to be watched are those that were read. -/
def LoadsInOrder (L : Loader T) (path : GoString) (d : Directory) (main : Config T)
    (incs : List (Config T)) : Prop :=
  ∃ s t : Merged T,
    L.mergeIncludes (baseOf path) (afterMain L path main) (autoIncludes d) = .ok s ∧
    s.cfg = mergeAll main incs ∧
    s.files = (go "mockly.yaml" :: autoIncludes d).map (pathJoin path) ∧
    L.mergeIncludes (baseOf path) s main.includes = .ok t ∧
    L.load path = .ok (t.cfg, t.files) ∧ L.resolvedFiles path = .ok t.files

section

variable {main : Config T} (hmain : L.loadFile (mainFile path) = .ok main) {incs : List (Config T)}
  (hincs : Forall₂ (fun name inc => L.loadFile (pathJoin path name) = .ok inc) (autoIncludes d)
    incs)

include hmain hincs in
/-- The files of the directory parse, so their names decide what becomes of them. -/
lemma exists_mergeIncludes_of_listsItself (h : ListsItself L path d) :
    ∃ s : Merged T,
      L.mergeIncludes (baseOf path) (afterMain L path main) (autoIncludes d) = .ok s ∧
      s.cfg = mergeAll main incs ∧
      s.files = (go "mockly.yaml" :: autoIncludes d).map (pathJoin path) ∧ s.Distinct L := by
  obtain ⟨hfinds, w, hw, hfiles⟩ := h
  have hloads : Forall₂ (fun f inc => L.loadFile f = .ok inc)
      ((autoIncludes d).map (pathJoin path)) incs := forall₂_map_left_iff.mpr hincs
  have hparses : Parses L w.files := by
    rw [hfiles, map_cons, Parses, forall_mem_cons]
    exact ⟨⟨main, hmain⟩, parses_of_forall₂ hloads⟩
  obtain ⟨s, hs, rfl⟩ :=
    mergeIncludes_of_watched (s := afterMain L path main) hw hfinds hparses
  obtain ⟨files, incs', happend, hloads', hcfg⟩ := extends_mergeIncludes hs
  have hsame : files = (autoIncludes d).map (pathJoin path) :=
    (cons.inj (happend.symm.trans hfiles)).2
  rw [hsame] at hloads'
  have hunique : Relator.RightUnique fun (f : GoString) (inc : Config T) =>
      L.loadFile f = .ok inc := fun _ _ _ h₁ h₂ => Except.ok.inj (h₁.symm.trans h₂)
  rw [right_unique_forall₂' hunique hloads' hloads] at hcfg
  have hstart : Merged.Distinct L (afterMain L path main) := ⟨rfl, nodup_singleton _⟩
  exact ⟨s, hs, hcfg, hfiles, distinct_mergeIncludes hstart hs⟩

variable (hlist : Listing L.fs path d) (hmainfile : go "mockly.yaml" ∈ d.entries.fileNames)

include hlist hmainfile hmain

lemma load_of_mergeIncludes {s : Merged T}
    (h : L.mergeIncludes (baseOf path) (afterMain L path main) (autoIncludes d) = .ok s) :
    L.load path =
        (L.mergeIncludes (baseOf path) s main.includes).map (fun s => (s.cfg, s.files)) ∧
      L.resolvedFiles path =
        (main.includes.foldlM (L.watchPattern (baseOf path)) s.watched).map Watched.files := by
  have hpath := resolveConfigPath_directory hlist hmainfile
  constructor
  · rw [Loader.load, hpath]
    simp only [Bind.bind, Except.bind, hmain]
    rw [Loader.mergeIncludes] at h ⊢
    rw [List.foldlM_append, h]
    rfl
  · rw [Loader.resolvedFiles, hpath]
    simp only [Bind.bind, Except.bind, hmain]
    rw [List.foldlM_append, watched_mergeIncludes h]
    rfl

include hincs

lemma loadsInOrder_iff :
    LoadsInOrder L path d main incs ↔ ListsItself L path d ∧ IncludesParse L path main := by
  constructor
  · rintro ⟨s, t, hs, -, hfiles, ht, -, hresolved⟩
    have hparses : Parses L t.files := by
      refine parses_of_extends (extends_mergeIncludes ht)
        (parses_of_extends (extends_mergeIncludes hs) ?_)
      exact forall_mem_singleton.mpr ⟨main, hmain⟩
    exact ⟨⟨fun _ h => matchesOf_of_mergeIncludes hs h, _, watched_mergeIncludes hs, hfiles⟩,
      fun _ h => matchesOf_of_mergeIncludes ht h, _, hresolved, hparses⟩
  · rintro ⟨hlists, hfinds, files, hresolved, hparses⟩
    obtain ⟨s, hs, hcfg, hfiles, -⟩ := exists_mergeIncludes_of_listsItself hmain hincs hlists
    obtain ⟨hload, hwatch⟩ := load_of_mergeIncludes hmain hlist hmainfile hs
    rw [hwatch] at hresolved
    obtain ⟨w, hw, hwfiles⟩ := bind_eq_ok hresolved
    cases hwfiles
    obtain ⟨t, ht, rfl⟩ := mergeIncludes_of_watched hw hfinds hparses
    refine ⟨s, t, hs, hcfg, hfiles, ht, ?_, ?_⟩
    · rw [hload, ht]
      rfl
    · rw [hwatch, hw]
      rfl

end

end Directory

/-! ## Directories at `/srv/mocks` -/

def mocksLoader (d : Directory) : Loader plainTypes where
  fs :=
    { getwd := .ok (go "/srv")
      stat := fun p =>
        if p = go "/srv/mocks" then .ok (.dir d)
        else if p ∈ d.entries.names.map (pathJoin (go "/srv/mocks")) then .ok .file
        else .error (go "no such file") }
  loadFile := fun p => .ok (withHTTPMocks [(p, go "mock")])
  quote := id

def plainDir : Directory where
  entries := .file (go "mockly.yaml") (.file (go "b.yml") (.file (go "a.yaml") .nil))
  legal := by decide

def plainFiles : List GoString :=
  [go "/srv/mocks/mockly.yaml", go "/srv/mocks/a.yaml", go "/srv/mocks/b.yml"]

def bracketDir : Directory where
  entries := .file (go "[ab].yaml") (.file (go "mockly.yaml") .nil)
  legal := by decide

def bracketDirWithA : Directory where
  entries := .file (go "[ab].yaml") (.file (go "mockly.yaml") (.file (go "a.yaml") .nil))
  legal := by decide

end Mockly.Config
