import Mockly.Go.Filepath

/-!
# Files

A file system without links, as far as the names of files go.  A directory is the tree of its
entries; their names are such as a file may have, and none is given twice.  What cannot be read is
left out.
-/

namespace Mockly

/-- The entries of a directory. -/
inductive Dir
  | nil
  | file (name : GoString) (rest : Dir)
  | dir (name : GoString) (entries rest : Dir)

namespace Dir

def names : Dir → List GoString
  | nil => []
  | file name rest => name :: rest.names
  | dir name _ rest => name :: rest.names

def fileNames : Dir → List GoString
  | nil => []
  | file name rest => name :: rest.fileNames
  | dir _ _ rest => rest.fileNames

/-- Names are legal, and no two entries of a directory have the same. -/
def Legal : Dir → Prop
  | nil => True
  | file name rest => LegalName name ∧ name ∉ rest.names ∧ rest.Legal
  | dir name entries rest => LegalName name ∧ name ∉ rest.names ∧ entries.Legal ∧ rest.Legal

instance decidableLegal : (d : Dir) → Decidable d.Legal
  | nil => isTrue trivial
  | file _ rest =>
    have := decidableLegal rest
    inferInstanceAs (Decidable (_ ∧ _ ∧ _))
  | dir _ entries rest =>
    have := decidableLegal entries
    have := decidableLegal rest
    inferInstanceAs (Decidable (_ ∧ _ ∧ _ ∧ _))

lemma fileNames_sublist (d : Dir) : d.fileNames.Sublist d.names := by
  induction d with
  | nil => exact List.Sublist.refl _
  | file name rest ih => exact ih.cons_cons name
  | dir name _ rest _ ih => exact ih.cons name

lemma nodup_names {d : Dir} (h : d.Legal) : d.names.Nodup := by
  induction d with
  | nil => exact List.nodup_nil
  | file name rest ih => exact List.nodup_cons.mpr ⟨h.2.1, ih h.2.2⟩
  | dir name _ rest _ ih => exact List.nodup_cons.mpr ⟨h.2.1, ih h.2.2.2⟩

lemma legalName_of_mem {d : Dir} (h : d.Legal) {name : GoString} (hname : name ∈ d.names) :
    LegalName name := by
  induction d with
  | nil => exact absurd hname List.not_mem_nil
  | file n rest ih =>
    obtain rfl | hname := List.mem_cons.mp hname
    · exact h.1
    · exact ih h.2.2 hname
  | dir n _ rest _ ih =>
    obtain rfl | hname := List.mem_cons.mp hname
    · exact h.1
    · exact ih h.2.2.2 hname

end Dir

structure Directory where
  entries : Dir
  legal : entries.Legal

/-- What `os.Stat` finds. -/
inductive FileInfo
  | file
  | dir (d : Directory)

/-- What the program can ask of the file system. -/
structure FileSystem where
  /-- `os.Getwd`, or the text of its error. -/
  getwd : Except GoString GoString
  /-- `os.Stat`, or the text of its error. -/
  stat : GoString → Except GoString FileInfo

end Mockly
