import Mockly.Config.Expand
import Mockly.Go.Relative

/-!
# References to files stay below their directory

A path is refused if the way that `filepath.Rel` finds to it begins with `..`, as a component.

Main result: **`resolveBodyPath_ok_iff`**.
-/

namespace Mockly.Config

/-- The path a reference is for, from an absolute directory. -/
def targetOf (base raw : GoString) : GoString :=
  pathClean (if isAbs raw then raw else base ++ 0x2F :: raw)

section Target

variable {getwd : Except GoString GoString} (hwd : ∀ wd, getwd = .ok wd → isAbs wd = true)

include hwd

lemma filepathAbs_ok {dir base : GoString} (h : filepathAbs getwd dir = .ok base) :
    ∃ p, isAbs p = true ∧ base = pathClean p ∧
      (isAbs dir = true ∧ p = dir ∨ isAbs dir = false ∧ ∃ wd, getwd = .ok wd ∧ isAbs wd = true ∧
        p = wd ++ 0x2F :: dir) := by
  rw [filepathAbs] at h
  split_ifs at h with hdir
  · exact ⟨dir, hdir, (Except.ok.inj h).symm, Or.inl ⟨hdir, rfl⟩⟩
  · cases hget : getwd with
    | error err =>
      rw [hget] at h
      cases h
    | ok wd =>
      rw [hget] at h
      have habs := hwd wd hget
      refine ⟨wd ++ 0x2F :: dir, isAbs_of_append habs _, ?_,
        Or.inr ⟨by simpa using hdir, wd, rfl, habs, rfl⟩⟩
      rw [← pathJoin_of_isAbs habs]
      exact (Except.ok.inj h).symm

/-- **A reference that is not absolute is joined to the absolute base directory.** -/
lemma filepathAbs_pathJoin {dir base raw : GoString} (h : filepathAbs getwd dir = .ok base)
    (hraw : isAbs raw = false) :
    filepathAbs getwd (pathJoin dir raw) = .ok (targetOf base raw) := by
  obtain ⟨p, hp, rfl, hcases⟩ := filepathAbs_ok hwd h
  have htarget : targetOf (pathClean p) raw = pathClean (p ++ 0x2F :: raw) := by
    rw [targetOf, hraw, if_neg Bool.false_ne_true]
    exact pathClean_congr (isAbs_of_append (isAbs_pathClean hp) _) (isAbs_of_append hp _)
      (keptOf_pathClean_append hp raw)
  rw [htarget]
  rcases hcases with ⟨hdir, rfl⟩ | ⟨hdir, wd, hget, habs, rfl⟩
  · have hjoined : isAbs (p ++ 0x2F :: raw) = true := isAbs_of_append hp _
    rw [pathJoin_of_isAbs hp, filepathAbs, isAbs_pathClean hjoined, if_pos rfl,
      (absClean_pathClean hjoined).2]
  · rw [filepathAbs, isAbs_pathJoin_of_not hdir hraw, hget]
    refine congrArg Except.ok ?_
    rw [pathJoin_of_isAbs habs]
    exact pathClean_congr (isAbs_of_append habs _) (isAbs_of_append hp _)
      (keptOf_append_pathJoin habs hdir hraw)

lemma absClean_of_filepathAbs {dir base : GoString} (h : filepathAbs getwd dir = .ok base) :
    AbsClean base := by
  obtain ⟨p, hp, rfl, -⟩ := filepathAbs_ok hwd h
  exact absClean_pathClean hp

lemma filepathAbs_target {dir base : GoString} (h : filepathAbs getwd dir = .ok base)
    (raw : GoString) :
    filepathAbs getwd (if isAbs raw then raw else pathJoin dir raw) = .ok (targetOf base raw) := by
  cases hraw : isAbs raw with
  | true => rw [targetOf, hraw, if_pos rfl, if_pos rfl, filepathAbs, hraw, if_pos rfl]
  | false =>
    rw [if_neg Bool.false_ne_true]
    exact filepathAbs_pathJoin hwd h hraw

end Target

lemma absClean_targetOf {base : GoString} (h : AbsClean base) (raw : GoString) :
    AbsClean (targetOf base raw) := by
  rw [targetOf]
  split_ifs with hraw
  · exact absClean_pathClean hraw
  · exact absClean_pathClean (isAbs_of_append h.1 _)

lemma atOrBelow_targetOf_names {base : GoString} (h : AbsClean base) {names : List GoString}
    (hne : names ≠ []) (hnames : ∀ n ∈ names, LegalName n) :
    targetOf base (join names (go "/")) = slashed base ++ join names (go "/") := by
  have hraw : isAbs (join names (go "/")) = false := by
    have hroot := rootOf_names hne hnames
    rw [rootOf] at hroot
    rw [← Bool.not_eq_true]
    intro habs
    exact absurd ((if_pos habs).symm.trans hroot) (by decide)
  rw [targetOf, hraw, if_neg Bool.false_ne_true, h.slashed_append hne hnames]

section Resolve

variable {env : Env} {fs : FileSystem} {baseDir base raw : GoString} {restrict : Bool}

lemma resolveBodyPath_eq (hwd : ∀ wd, fs.getwd = .ok wd → isAbs wd = true)
    (hbase : filepathAbs fs.getwd baseDir = .ok base) (href : isAbs raw = false ∨ restrict = true)
    {rel : GoString} (hrel : filepathRel base (targetOf base raw) = some rel) :
    resolveBodyPath env fs raw baseDir restrict =
      if goesUp rel then
        .error (go "path " ++ env.quote raw ++ go " escapes config directory " ++
          env.quote baseDir)
      else .ok (targetOf base raw) := by
  have hlooked : (!isAbs raw || restrict) = true := by
    rcases href with hraw | hrestrict
    · simp [hraw]
    · simp [hrestrict]
  rw [resolveBodyPath]
  simp only [filepathAbs_target hwd hbase raw, hlooked, if_true, hbase, hrel]
  rfl

/-- **What a reference may lead to.** A relative reference, and with `restrict` every reference, is
resolved exactly if the path it is for is the base directory or below it; so every sequence of names
is resolved, also of names that begin with two dots. -/
theorem resolveBodyPath_ok_iff (hwd : ∀ wd, fs.getwd = .ok wd → isAbs wd = true)
    (hbase : filepathAbs fs.getwd baseDir = .ok base)
    (href : isAbs raw = false ∨ restrict = true) :
    (∀ p, resolveBodyPath env fs raw baseDir restrict = .ok p ↔
      p = targetOf base raw ∧ AtOrBelow base p) ∧
    ∀ names, names ≠ [] → (∀ n ∈ names, LegalName n) → raw = join names (go "/") →
      resolveBodyPath env fs raw baseDir restrict = .ok (slashed base ++ raw) := by
  have hclean := absClean_of_filepathAbs hwd hbase
  have htarget := absClean_targetOf hclean raw
  obtain ⟨rel, hrel, hup⟩ := filepathRel_goesUp hclean htarget
  rw [← hclean.atOrBelow_iff htarget] at hup
  have hok : ∀ p, resolveBodyPath env fs raw baseDir restrict = .ok p ↔
      p = targetOf base raw ∧ AtOrBelow base p := by
    intro p
    rw [resolveBodyPath_eq hwd hbase href hrel]
    split_ifs with hgoes
    · refine iff_of_false (by simp) ?_
      rintro ⟨rfl, hbelow⟩
      exact hup.mp hgoes hbelow
    · have hbelow : AtOrBelow base (targetOf base raw) := not_not.mp (mt hup.mpr hgoes)
      rw [Except.ok.injEq]
      constructor
      · rintro rfl
        exact ⟨rfl, hbelow⟩
      · exact fun h => h.1.symm
  refine ⟨hok, ?_⟩
  rintro names hne hnames rfl
  have hnamed := atOrBelow_targetOf_names hclean hne hnames
  exact (hok _).mpr ⟨hnamed.symm, Or.inr ⟨names, hne, hnames, rfl⟩⟩

end Resolve

def inDirectory (wd : GoString) : FileSystem where
  getwd := .ok wd
  stat := fun _ => .error (go "no such file")

/-- Out of the directory and back, a name that begins with two dots, and out of the directory. -/
theorem resolveBodyPath_dots :
    resolveBodyPath .basic (inDirectory (go "/srv")) (go "../site/..a") (go "site") false =
        .ok (go "/srv/site/..a") ∧
      ¬AtOrBelow (go "/srv/site") (targetOf (go "/srv/site") (go "../sites")) := by
  have hwd : ∀ wd, (inDirectory (go "/srv")).getwd = .ok wd → isAbs wd = true := by
    intro wd hget
    rw [← Except.ok.inj hget]
    decide
  have hbase : filepathAbs (inDirectory (go "/srv")).getwd (go "site") = .ok (go "/srv/site") := by
    decide
  constructor
  · refine ((resolveBodyPath_ok_iff hwd hbase (Or.inl (by decide))).1 _).mpr ⟨by decide, ?_⟩
    exact Or.inr ⟨[go "..a"], by decide, by decide, by decide⟩
  · intro hbelow
    have hok : resolveBodyPath .basic (inDirectory (go "/srv")) (go "../sites") (go "site") false =
        .ok (targetOf (go "/srv/site") (go "../sites")) :=
      ((resolveBodyPath_ok_iff hwd hbase (Or.inl (by decide))).1 _).mpr ⟨rfl, hbelow⟩
    exact absurd hok (by decide)

end Mockly.Config
