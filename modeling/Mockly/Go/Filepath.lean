import Mockly.Go.Path
import Mockly.Go.Text

/-!
# File paths

Package `path/filepath` where the separator is a slash: `Clean`, `Join`, `Dir` and `Base` are then
those of package `path`. What is joined to a directory is mostly the path of a file below it, made
of legal names (`LegalName`).

* `pathJoin_names` — joining puts a text in front that depends on the directory only.
* `pathJoin_pathDir` — what is joined to the directory of a file is beside the file.
* `AbsClean.eq_pathJoin_iff` — for clean absolute paths, `Join` is undone by `Dir` and `Base`.
-/

namespace Mockly

open List

def isAbs (p : GoString) : Bool := hasPrefix p (go "/")

/-- `filepath.Abs`, for a working directory or the error of asking for it. -/
def filepathAbs (getwd : Except GoString GoString) (p : GoString) : Except GoString GoString :=
  if isAbs p then .ok (pathClean p)
  else do
    let wd ← getwd
    return pathJoin wd p

/-- What is left of two lists behind the elements they have in common. -/
def dropCommon : List GoString → List GoString → List GoString × List GoString
  | b :: bs, t :: ts => if b = t then dropCommon bs ts else (b :: bs, t :: ts)
  | bs, ts => (bs, ts)

/-- `filepath.Rel`; there may be no way from one path to the other. -/
def filepathRel (basepath targpath : GoString) : Option GoString :=
  let base := pathClean basepath
  let targ := pathClean targpath
  if targ = base then some (go ".")
  else
    let base := if base = go "." then [] else base
    if isAbs base ≠ isAbs targ then none
    else
      let (up, down) := dropCommon ((split base 0x2F).filter (· ≠ []))
        ((split targ 0x2F).filter (· ≠ []))
      if up.head? = some (go "..") then none
      else some (join (up.map (fun _ => go "..") ++ down) (go "/"))

example : filepathRel (go "/a/b") (go "/a/c/d") = some (go "../c/d") := by decide

/-! ## Names -/

/-- The name of a file: not empty, no slash, no dots alone. -/
def LegalName (n : GoString) : Prop := n ≠ [] ∧ 0x2F ∉ n ∧ n ≠ go "." ∧ n ≠ go ".."

instance (n : GoString) : Decidable (LegalName n) := by unfold LegalName; infer_instance

variable {names : List GoString}

lemma split_names (hne : names ≠ []) (h : ∀ n ∈ names, LegalName n) :
    split (join names (go "/")) 0x2F = names :=
  splitOn_intercalate 0x2F (fun n hn => (h n hn).2.1) hne

lemma names_inj {names' : List GoString} (hne : names ≠ []) (hne' : names' ≠ [])
    (h : ∀ n ∈ names, LegalName n) (h' : ∀ n ∈ names', LegalName n)
    (heq : join names (go "/") = join names' (go "/")) : names = names' := by
  rw [← split_names hne h, heq, split_names hne' h']

lemma join_names_ne_nil (hne : names ≠ []) (h : ∀ n ∈ names, LegalName n) :
    join names (go "/") ≠ [] := by
  obtain ⟨n, names, rfl⟩ := exists_cons_of_ne_nil hne
  have hn := (h n mem_cons_self).1
  cases names with
  | nil => simpa [join] using hn
  | cons m names =>
    unfold join
    rw [intercalate_cons_cons]
    simp [hn]

variable {c : GoString}

lemma cleanStep_skip (hc : c = [] ∨ c = go ".") (rooted : Bool) (kept : List GoString) :
    cleanStep rooted kept c = kept := by
  unfold cleanStep
  rw [if_pos hc]

lemma cleanStep_push (hc : ¬(c = [] ∨ c = go ".")) (hdots : c ≠ go "..") (rooted : Bool)
    (kept : List GoString) : cleanStep rooted kept c = c :: kept := by
  unfold cleanStep
  rw [if_neg hc, if_neg hdots]

lemma foldl_cleanStep_names (h : ∀ n ∈ names, LegalName n) (rooted : Bool) (kept : List GoString) :
    names.foldl (cleanStep rooted) kept = names.reverse ++ kept := by
  induction names generalizing kept with
  | nil => rfl
  | cons n names ih =>
    rw [forall_mem_cons] at h
    obtain ⟨hne, -, hdot, hdots⟩ := h.1
    rw [foldl_cons, cleanStep_push (not_or.mpr ⟨hne, hdot⟩) hdots, ih h.2]
    simp

/-! ## Joining names to a directory -/

def rootOf (p : GoString) : GoString := if hasPrefix p (go "/") then go "/" else []

/-- The components of a path that `path.Clean` keeps. -/
def keptOf (p : GoString) : List GoString :=
  ((split p 0x2F).foldl (cleanStep (hasPrefix p (go "/"))) []).reverse

/-- What is in front of the names that are joined to a path. -/
def joinBase (p : GoString) : GoString :=
  if keptOf p = [] then rootOf p else rootOf p ++ join (keptOf p) (go "/") ++ go "/"

lemma pathClean_eq (p : GoString) :
    pathClean p =
      if hasPrefix p (go "/") then go "/" ++ join (keptOf p) (go "/")
      else if keptOf p = [] then go "." else join (keptOf p) (go "/") := rfl

variable {p : GoString}

lemma pathClean_of_ne_nil (h : keptOf p ≠ []) :
    pathClean p = rootOf p ++ join (keptOf p) (go "/") := by
  rw [pathClean_eq, rootOf, if_neg h]
  split_ifs <;> rfl

lemma pathJoin_nil {rel : GoString} (hrel : rel ≠ []) : pathJoin [] rel = pathClean rel := by
  simp [pathJoin, hrel, join]

lemma pathJoin_of_ne_nil {rel : GoString} (hp : p ≠ []) (hrel : rel ≠ []) :
    pathJoin p rel = pathClean (p ++ 0x2F :: rel) := by
  have hslash : go "/" = [0x2F] := rfl
  simp [pathJoin, hp, hrel, join, hslash]

lemma hasPrefix_slash_append (hp : p ≠ []) (rest : GoString) :
    hasPrefix (p ++ rest) (go "/") = hasPrefix p (go "/") := by
  obtain ⟨b, p, rfl⟩ := exists_cons_of_ne_nil hp
  rfl

lemma rootOf_append (hp : p ≠ []) (rest : GoString) : rootOf (p ++ rest) = rootOf p := by
  rw [rootOf, hasPrefix_slash_append hp, rootOf]

section Names

variable {names : List GoString} (hne : names ≠ []) (h : ∀ n ∈ names, LegalName n)

include hne h

lemma keptOf_append {p : GoString} (hp : p ≠ []) :
    keptOf (p ++ 0x2F :: join names (go "/")) = keptOf p ++ names := by
  rw [keptOf, hasPrefix_slash_append hp, split_append_cons, split_names hne h, foldl_append,
    foldl_cleanStep_names h, reverse_append, reverse_reverse, keptOf]

lemma keptOf_names : keptOf (join names (go "/")) = names := by
  rw [keptOf, split_names hne h, foldl_cleanStep_names h, append_nil, reverse_reverse]

lemma rootOf_names : rootOf (join names (go "/")) = [] := by
  obtain ⟨n, names, rfl⟩ := exists_cons_of_ne_nil hne
  obtain ⟨hn, hslash, -⟩ := h n mem_cons_self
  obtain ⟨b, n, rfl⟩ := exists_cons_of_ne_nil hn
  have hb : (0x2F : UInt8) ≠ b := fun hb => hslash (hb ▸ mem_cons_self)
  have hjoin : ∃ rest, join ((b :: n) :: names) (go "/") = b :: rest := by
    unfold join
    cases names with
    | nil => exact ⟨n, by simp⟩
    | cons m names => exact ⟨_, by rw [intercalate_cons_cons]; rfl⟩
  obtain ⟨rest, hrest⟩ := hjoin
  have hno : hasPrefix (b :: rest) (go "/") = false := by
    have hgo : go "/" = [0x2F] := rfl
    simp [hasPrefix, hgo, List.isPrefixOf, hb]
  rw [hrest, rootOf, hno]
  rfl

lemma keptOf_slash_names : keptOf (0x2F :: join names (go "/")) = names := by
  have hsplit : split (0x2F :: join names (go "/")) 0x2F = [] :: names := by
    have happend := split_append_cons [] (join names (go "/")) 0x2F
    rw [split_names hne h] at happend
    exact happend
  have hempty (rooted : Bool) : cleanStep rooted [] [] = [] := rfl
  rw [keptOf, hsplit, foldl_cons, hempty, foldl_cleanStep_names h, append_nil, reverse_reverse]

/-- **Joining names to a directory.** -/
lemma pathJoin_names (p : GoString) :
    pathJoin p (join names (go "/")) = joinBase p ++ join names (go "/") := by
  have hrel := join_names_ne_nil hne h
  by_cases hp : p = []
  · have hbase : joinBase [] = [] := rfl
    rw [hp, pathJoin_nil hrel, hbase, pathClean_of_ne_nil (by rwa [keptOf_names hne h]),
      keptOf_names hne h, rootOf_names hne h]
  · rw [pathJoin_of_ne_nil hp hrel, pathClean_of_ne_nil (by simp [keptOf_append hne h hp, hne]),
      keptOf_append hne h hp, rootOf_append hp, joinBase]
    split_ifs with hkept
    · rw [hkept, nil_append]
    · rw [join_append hkept hne]
      simp

lemma exists_shorter {p : GoString} (hself : p = joinBase p ++ join names (go "/")) :
    ∃ q, q.length < p.length ∧ q = joinBase q ++ join names (go "/") := by
  by_cases hkept : keptOf p = []
  · -- then it would be made of nothing but the names
    exfalso
    rw [joinBase, if_pos hkept, rootOf] at hself
    split_ifs at hself with hroot
    · rw [hself] at hkept
      exact hne ((keptOf_slash_names hne h).symm.trans hkept)
    · rw [hself, nil_append, keptOf_names hne h] at hkept
      exact hne hkept
  · obtain ⟨q, hq⟩ : ∃ q, q = rootOf p ++ join (keptOf p) (go "/") := ⟨_, rfl⟩
    rw [joinBase, if_neg hkept, ← hq] at hself
    have hpq : p = q ++ 0x2F :: join names (go "/") := by
      rw [hself, append_assoc]
      rfl
    have hq0 : q ≠ [] := by
      intro hnil
      have hroot : hasPrefix p (go "/") = true := by
        rw [hpq, hnil]
        rfl
      rw [hnil, rootOf, if_pos hroot] at hq
      exact absurd hq (by simp [go])
    have hkeptq : keptOf p = keptOf q ++ names := by rw [hpq, keptOf_append hne h hq0]
    have hrootq : rootOf p = rootOf q := by rw [hpq, rootOf_append hq0]
    refine ⟨q, ?_, ?_⟩
    · rw [hpq, length_append, length_cons]
      omega
    · rw [hkeptq, hrootq] at hq
      rw [joinBase]
      split_ifs with hkq
      · rw [hkq, nil_append] at hq
        exact hq
      · rw [join_append hkq hne] at hq
        simp only [append_assoc]
        exact hq

/-- **The directory itself is not below itself.** -/
lemma ne_joinBase_append (p : GoString) : p ≠ joinBase p ++ join names (go "/") := by
  induction hlen : p.length using Nat.strong_induction_on generalizing p with
  | _ n ih =>
    intro hself
    obtain ⟨q, hshorter, hq⟩ := exists_shorter hne h hself
    exact ih q.length (hlen ▸ hshorter) q rfl hq

end Names

variable {n : GoString}

lemma pathBase_append {rest : GoString} (hend : rest = [] ∨ ∃ r, rest = r ++ [0x2F])
    (hne : n ≠ []) (hslash : 0x2F ∉ n) : pathBase (rest ++ n) = n := by
  have hrev : ∀ b ∈ n.reverse, (b != 0x2F) = true := by
    intro b hb
    rw [bne_iff_ne]
    rintro rfl
    exact hslash (mem_reverse.mp hb)
  have htrim : trimRight (rest ++ n) [0x2F] = rest ++ n := by
    obtain ⟨b, m, hm⟩ := exists_cons_of_ne_nil (reverse_ne_nil_iff.mpr hne)
    have hb : b ≠ 0x2F := by
      rintro rfl
      exact hslash (mem_reverse.mp (hm ▸ mem_cons_self))
    rw [trimRight, reverse_append, hm, cons_append, dropWhile_cons_of_neg (by simpa),
      ← cons_append, ← hm, ← reverse_append, reverse_reverse]
  have htake : (rest ++ n).reverse.takeWhile (· != 0x2F) = n.reverse := by
    rw [reverse_append, takeWhile_append_of_pos hrev]
    obtain rfl | ⟨r, rfl⟩ := hend
    · simp
    · simp
  have hnonempty : rest ++ n ≠ [] := by simp [hne]
  rw [pathBase, if_neg hnonempty]
  dsimp only
  rw [htrim, htake, reverse_reverse, if_neg hne]

lemma pathBase_names (hn : LegalName n) : pathBase (join (names ++ [n]) (go "/")) = n := by
  by_cases hnames : names = []
  · have hjoin : join (names ++ [n]) (go "/") = [] ++ n := by simp [hnames, join]
    rw [hjoin, pathBase_append (Or.inl rfl) hn.1 hn.2.1]
  · have hjoin : join (names ++ [n]) (go "/") = (join names (go "/") ++ go "/") ++ n := by
      rw [join_append hnames (by simp)]
      simp [join]
    rw [hjoin]
    exact pathBase_append (Or.inr ⟨_, rfl⟩) hn.1 hn.2.1

/-! ## Cleaning twice -/

/-- Components, last first, that `path.Clean` leaves as they are. -/
def IsKept (rooted : Bool) (kept : List GoString) : Prop :=
  (∀ c ∈ kept, c ≠ [] ∧ c ≠ go "." ∧ 0x2F ∉ c) ∧
    kept.reverse.foldl (cleanStep rooted) [] = kept

variable {rooted : Bool} {kept : List GoString}

lemma IsKept.push (h : IsKept rooted kept) (hslash : 0x2F ∉ c) (hc : ¬(c = [] ∨ c = go "."))
    (hstep : cleanStep rooted kept c = c :: kept) : IsKept rooted (c :: kept) := by
  obtain ⟨hall, hfold⟩ := h
  rw [not_or] at hc
  refine ⟨forall_mem_cons.mpr ⟨⟨hc.1, hc.2, hslash⟩, hall⟩, ?_⟩
  rw [reverse_cons, foldl_append, hfold, foldl_cons, foldl_nil, hstep]

/-- Without the component on top, the others stay: it was put on top of them. -/
lemma IsKept.pop {last : GoString} {rest : List GoString} (h : IsKept rooted (last :: rest))
    (hlast : last ≠ go "..") : IsKept rooted rest := by
  obtain ⟨hall, hfold⟩ := h
  obtain ⟨hne, hdot, -⟩ := hall last mem_cons_self
  rw [reverse_cons, foldl_append, foldl_cons, foldl_nil,
    cleanStep_push (not_or.mpr ⟨hne, hdot⟩) hlast] at hfold
  exact ⟨fun c hc => hall c (mem_cons_of_mem _ hc), (cons_eq_cons.mp hfold).2⟩

lemma isKept_cleanStep (h : IsKept rooted kept) (hslash : 0x2F ∉ c) :
    IsKept rooted (cleanStep rooted kept c) := by
  by_cases hc : c = [] ∨ c = go "."
  · rw [cleanStep_skip hc]
    exact h
  by_cases hdots : c = go ".."
  · subst hdots
    cases kept with
    | nil =>
      cases rooted with
      | true => exact ⟨fun c hc => absurd hc not_mem_nil, rfl⟩
      | false => exact h.push hslash hc rfl
    | cons last rest =>
      by_cases hlast : last = go ".."
      · subst hlast
        exact h.push hslash hc rfl
      · have hstep : cleanStep rooted (last :: rest) (go "..") = rest := by
          unfold cleanStep
          rw [if_neg hc, if_pos rfl]
          exact if_neg hlast
        rw [hstep]
        exact h.pop hlast
  · rw [cleanStep_push hc hdots]
    exact h.push hslash hc (cleanStep_push hc hdots rooted kept)

lemma isKept_foldl {cs : List GoString} (hcs : ∀ c ∈ cs, 0x2F ∉ c) (h : IsKept rooted kept) :
    IsKept rooted (cs.foldl (cleanStep rooted) kept) := by
  induction cs generalizing kept with
  | nil => exact h
  | cons c cs ih =>
    rw [forall_mem_cons] at hcs
    exact ih hcs.2 (isKept_cleanStep h hcs.1)

lemma isKept_keptOf (p : GoString) : IsKept (hasPrefix p (go "/")) (keptOf p).reverse := by
  rw [keptOf, reverse_reverse]
  refine isKept_foldl (fun c hc => notMem_of_mem_split hc) ?_
  exact ⟨fun c hc => absurd hc not_mem_nil, rfl⟩

lemma keptOf_clean (h : keptOf p ≠ []) :
    keptOf (rootOf p ++ join (keptOf p) (go "/")) = keptOf p ∧
      rootOf (rootOf p ++ join (keptOf p) (go "/")) = rootOf p := by
  obtain ⟨hall, hfold⟩ := isKept_keptOf p
  rw [reverse_reverse] at hfold
  have hslash : ∀ c ∈ keptOf p, 0x2F ∉ c := fun c hc =>
    (hall c (mem_reverse.mpr hc)).2.2
  have hsplit : split (join (keptOf p) (go "/")) 0x2F = keptOf p :=
    splitOn_intercalate 0x2F hslash h
  by_cases hroot : hasPrefix p (go "/") = true
  · have hroot1 : rootOf p = go "/" := by rw [rootOf, if_pos hroot]
    have hpre : hasPrefix (go "/" ++ join (keptOf p) (go "/")) (go "/") = true := rfl
    have hsplit1 : split (go "/" ++ join (keptOf p) (go "/")) 0x2F = [] :: keptOf p := by
      have happend := split_append_cons [] (join (keptOf p) (go "/")) 0x2F
      rw [hsplit] at happend
      exact happend
    have hempty : cleanStep true [] [] = [] := rfl
    rw [hroot] at hfold
    rw [hroot1, rootOf, hpre, keptOf, hpre, hsplit1, foldl_cons, hempty, hfold, reverse_reverse]
    exact ⟨rfl, rfl⟩
  · have hroot0 : rootOf p = [] := by rw [rootOf, if_neg hroot]
    have hpre : hasPrefix (join (keptOf p) (go "/")) (go "/") = false := by
      by_contra hne
      rw [Bool.not_eq_false, hasPrefix, isPrefixOf_iff_prefix] at hne
      obtain ⟨rest, hrest⟩ := hne
      have hfirst : split (join (keptOf p) (go "/")) 0x2F = [] :: split rest 0x2F := by
        rw [← hrest]
        exact split_append_cons [] rest 0x2F
      rw [hsplit] at hfirst
      have hmem : [] ∈ (keptOf p).reverse := by
        rw [mem_reverse, hfirst]
        exact mem_cons_self
      exact (hall [] hmem).1 rfl
    rw [Bool.not_eq_true] at hroot
    rw [hroot] at hfold
    rw [hroot0, nil_append, rootOf, hpre, keptOf, hpre, hsplit, hfold, reverse_reverse]
    exact ⟨rfl, rfl⟩

lemma joinBase_cases (p : GoString) : joinBase p = [] ∨ ∃ r, joinBase p = r ++ [0x2F] := by
  rw [joinBase, rootOf]
  split_ifs
  · exact Or.inr ⟨[], rfl⟩
  · exact Or.inl rfl
  · exact Or.inr ⟨_, rfl⟩
  · exact Or.inr ⟨_, rfl⟩

lemma keptOf_append_slash {q : GoString} (hq : q ≠ []) : keptOf (q ++ 0x2F :: []) = keptOf q := by
  have hnil : split [] 0x2F = [[]] := rfl
  rw [keptOf, hasPrefix_slash_append hq, split_append_cons, hnil, foldl_append,
    foldl_cons, foldl_nil, cleanStep_skip (Or.inl rfl), keptOf]

lemma joinBase_pathClean_joinBase (p : GoString) :
    joinBase (pathClean (joinBase p)) = joinBase p := by
  by_cases h : keptOf p = []
  · have hbase : joinBase p = rootOf p := if_pos h
    rw [hbase, rootOf]
    split_ifs <;> decide
  · obtain ⟨hkept, hroot⟩ := keptOf_clean h
    obtain ⟨q, hq⟩ : ∃ q, q = rootOf p ++ join (keptOf p) (go "/") := ⟨_, rfl⟩
    rw [← hq] at hkept hroot
    have hq0 : q ≠ [] := by
      rintro rfl
      exact h (hkept.symm.trans rfl)
    have hbase : joinBase p = q ++ 0x2F :: [] := by
      rw [joinBase, if_neg h, hq]
      rfl
    have hkept' : keptOf (q ++ 0x2F :: []) = keptOf p := by rw [keptOf_append_slash hq0, hkept]
    have hclean : pathClean (q ++ 0x2F :: []) = q := by
      rw [pathClean_of_ne_nil (by rwa [hkept']), hkept', rootOf_append hq0, hroot, ← hq]
    rw [hbase, hclean, joinBase, hkept, if_neg h, hroot, ← hq]
    rfl

lemma pathDir_append (p : GoString) (hn : 0x2F ∉ n) :
    pathDir (joinBase p ++ n) = pathClean (joinBase p) := by
  have hpos : ∀ b ∈ n.reverse, (b != 0x2F) = true := by
    intro b hb
    rw [bne_iff_ne]
    rintro rfl
    exact hn (mem_reverse.mp hb)
  rw [pathDir, reverse_append, dropWhile_append_of_pos hpos]
  obtain hnil | ⟨r, hr⟩ := joinBase_cases p
  · rw [hnil]
    rfl
  · rw [hr, reverse_append, reverse_singleton, singleton_append,
      dropWhile_cons_of_neg (by simp), reverse_cons, reverse_reverse]

lemma pathJoin_name (p : GoString) (hn : LegalName n) : pathJoin p n = joinBase p ++ n := by
  have hjoin : join [n] (go "/") = n := by simp [join]
  have hnames := pathJoin_names (cons_ne_nil n []) (by simpa using hn) p
  rwa [hjoin] at hnames

/-- **Beside a file.** -/
lemma pathJoin_pathDir (p : GoString) {n' : GoString} (hn : LegalName n) (hn' : LegalName n') :
    pathJoin (pathDir (pathJoin p n)) n' = pathJoin p n' := by
  rw [pathJoin_name p hn, pathDir_append p hn.2.1, pathJoin_name _ hn',
    joinBase_pathClean_joinBase, pathJoin_name p hn']

lemma pathClean_name (hp : p ≠ []) (hn : LegalName n) :
    pathClean (p ++ 0x2F :: n) = joinBase p ++ n := by
  rw [← pathJoin_of_ne_nil hp hn.1, pathJoin_name p hn]

lemma pathClean_slash_name (hn : LegalName n) : pathClean (0x2F :: n) = 0x2F :: n := by
  have hjoin : join [n] (go "/") = n := by simp [join]
  have hkept := keptOf_slash_names (cons_ne_nil n []) (by simpa using hn)
  rw [hjoin] at hkept
  rw [pathClean_of_ne_nil (by simp [hkept]), hkept, hjoin]
  rfl

lemma isAbs_name (hn : LegalName n) : isAbs n = false := by
  obtain ⟨b, n, rfl⟩ := exists_cons_of_ne_nil hn.1
  have hb : (0x2F : UInt8) ≠ b := fun hb => hn.2.1 (hb ▸ mem_cons_self)
  have hgo : go "/" = [0x2F] := rfl
  simp [isAbs, hasPrefix, hgo, List.isPrefixOf, hb]

lemma pathJoin_append_name (wd : GoString) (hc : c ≠ []) (hn : LegalName n) :
    pathJoin wd (c ++ 0x2F :: n) = joinBase (if wd = [] then c else wd ++ 0x2F :: c) ++ n := by
  split_ifs with hwd
  · rw [hwd, pathJoin_nil (by simp), pathClean_name hc hn]
  · have hassoc : wd ++ 0x2F :: (c ++ 0x2F :: n) = (wd ++ 0x2F :: c) ++ 0x2F :: n := by simp
    rw [pathJoin_of_ne_nil hwd (by simp), hassoc, pathClean_name (by simp) hn]

lemma filepathAbs_name (getwd : Except GoString GoString) (p : GoString) :
    ∃ base : Except GoString GoString,
      ∀ n, LegalName n → filepathAbs getwd (pathJoin p n) = base.map (· ++ n) := by
  obtain hnil | ⟨c, hc⟩ := joinBase_cases p
  · -- the name itself
    refine ⟨getwd.map joinBase, fun n hn => ?_⟩
    rw [pathJoin_name p hn, hnil, nil_append, filepathAbs, isAbs_name hn]
    cases getwd with
    | error err => rfl
    | ok wd => exact congrArg Except.ok (pathJoin_name wd hn)
  · have hjoin (n : GoString) (hn : LegalName n) : pathJoin p n = c ++ 0x2F :: n := by
      rw [pathJoin_name p hn, hc, append_assoc]
      rfl
    by_cases hc0 : c = []
    · -- in the root
      refine ⟨.ok (go "/"), fun n hn => ?_⟩
      rw [hjoin n hn, hc0]
      exact congrArg Except.ok (pathClean_slash_name hn)
    · have habs (n : GoString) : isAbs (c ++ 0x2F :: n) = isAbs c := hasPrefix_slash_append hc0 _
      cases hroot : isAbs c with
      | true =>
        refine ⟨.ok (joinBase c), fun n hn => ?_⟩
        rw [hjoin n hn, filepathAbs, habs, hroot, if_pos rfl, pathClean_name hc0 hn]
        rfl
      | false =>
        refine ⟨getwd.map fun wd => joinBase (if wd = [] then c else wd ++ 0x2F :: c),
          fun n hn => ?_⟩
        rw [hjoin n hn, filepathAbs, habs, hroot]
        cases getwd with
        | error err => rfl
        | ok wd => exact congrArg Except.ok (pathJoin_append_name wd hc0 hn)

/-! ## Absolute paths -/

/-- An absolute path that `path.Clean` leaves as it is. -/
def AbsClean (p : GoString) : Prop := hasPrefix p (go "/") = true ∧ pathClean p = p

instance (p : GoString) : Decidable (AbsClean p) := by unfold AbsClean; infer_instance

lemma cleanStep_rooted (h : go ".." ∉ kept) (c : GoString) : go ".." ∉ cleanStep true kept c := by
  by_cases hc : c = [] ∨ c = go "."
  · rwa [cleanStep_skip hc]
  by_cases hdots : c = go ".."
  · subst hdots
    cases kept with
    | nil => exact not_mem_nil
    | cons last rest =>
      have hlast : last ≠ go ".." := fun hlast => h (hlast ▸ mem_cons_self)
      have hstep : cleanStep true (last :: rest) (go "..") = rest := by
        unfold cleanStep
        rw [if_neg hc, if_pos rfl]
        exact if_neg hlast
      rw [hstep]
      exact fun hmem => h (mem_cons_of_mem last hmem)
  · rw [cleanStep_push hc hdots, mem_cons, not_or]
    exact ⟨Ne.symm hdots, h⟩

/-- Nothing is above the root: what is kept of an absolute path are names. -/
lemma keptOf_legal (habs : hasPrefix p (go "/") = true) : ∀ n ∈ keptOf p, LegalName n := by
  have hdots : ∀ (cs kept : List GoString), go ".." ∉ kept →
      go ".." ∉ cs.foldl (cleanStep true) kept := by
    intro cs
    induction cs with
    | nil => exact fun kept h => h
    | cons c cs ih => exact fun kept h => ih _ (cleanStep_rooted h c)
  intro n hn
  obtain ⟨hne, hdot, hslash⟩ := (isKept_keptOf p).1 n (mem_reverse.mpr hn)
  refine ⟨hne, hslash, hdot, ?_⟩
  rintro rfl
  rw [keptOf, habs, mem_reverse] at hn
  exact hdots _ [] not_mem_nil hn

lemma AbsClean.eq_slash (h : AbsClean p) (hkept : keptOf p = []) : p = go "/" := by
  have hclean := pathClean_eq p
  rw [h.2, h.1, hkept] at hclean
  exact hclean

lemma AbsClean.eq_names (h : AbsClean p) (hkept : keptOf p ≠ []) :
    p = go "/" ++ join (keptOf p) (go "/") := by
  have hclean := pathClean_of_ne_nil hkept
  rwa [h.2, rootOf, h.1, if_pos rfl] at hclean

lemma absClean_names (hne : names ≠ []) (h : ∀ n ∈ names, LegalName n) :
    AbsClean (go "/" ++ join names (go "/")) := by
  have hkept : keptOf (go "/" ++ join names (go "/")) = names := keptOf_slash_names hne h
  refine ⟨rfl, ?_⟩
  rw [pathClean_of_ne_nil (by rwa [hkept]), hkept]
  rfl

lemma AbsClean.joinBase_eq (h : AbsClean p) :
    joinBase p = if p = go "/" then go "/" else p ++ go "/" := by
  split_ifs with hroot
  · rw [hroot]
    decide
  · have hkept : keptOf p ≠ [] := fun hkept => hroot (h.eq_slash hkept)
    rw [joinBase, if_neg hkept, ← pathClean_of_ne_nil hkept, h.2]

lemma AbsClean.eq_slash_or_name (h : AbsClean p) :
    p = go "/" ∨ ∃ dir n, AbsClean dir ∧ LegalName n ∧ p = joinBase dir ++ n := by
  by_cases hkept : keptOf p = []
  · exact Or.inl (h.eq_slash hkept)
  · right
    have hlegal := keptOf_legal h.1
    have hp := h.eq_names hkept
    obtain ⟨names, n, hnames⟩ := eq_nil_or_concat (keptOf p) |>.resolve_left hkept
    rw [concat_eq_append] at hnames
    rw [hnames] at hlegal hp
    have hn : LegalName n := hlegal n (by simp)
    by_cases hnil : names = []
    · refine ⟨go "/", n, by decide, hn, ?_⟩
      rw [hp, hnil]
      simp [join, show joinBase (go "/") = go "/" by decide]
    · have hdir : AbsClean (go "/" ++ join names (go "/")) :=
        absClean_names hnil fun m hm => hlegal m (mem_append_left _ hm)
      have hne : go "/" ++ join names (go "/") ≠ go "/" := by
        have hjoin := join_names_ne_nil hnil fun m hm => hlegal m (mem_append_left _ hm)
        simpa using hjoin
      refine ⟨_, n, hdir, hn, ?_⟩
      rw [hdir.joinBase_eq, if_neg hne, hp, join_append hnil (by simp)]
      simp [join]

variable {dir : GoString}

lemma absClean_pathJoin (hdir : AbsClean dir) (hn : LegalName n) : AbsClean (pathJoin dir n) := by
  have hlegal := keptOf_legal hdir.1
  have hall : ∀ m ∈ keptOf dir ++ [n], LegalName m := by
    simpa [or_imp, forall_and, hn] using hlegal
  have hnames : pathJoin dir n = go "/" ++ join (keptOf dir ++ [n]) (go "/") := by
    rw [pathJoin_name dir hn, joinBase, rootOf, hdir.1, if_pos rfl]
    split_ifs with hkept
    · simp [hkept, join]
    · rw [join_append hkept (by simp)]
      simp [join]
  rw [hnames]
  exact absClean_names (by simp) hall

lemma AbsClean.pathClean_joinBase (h : AbsClean dir) : pathClean (joinBase dir) = dir := by
  rw [h.joinBase_eq]
  split_ifs with hroot
  · rw [hroot]
    decide
  · have hkept : keptOf dir ≠ [] := fun hkept => hroot (h.eq_slash hkept)
    have hne : dir ≠ [] := by
      rintro rfl
      exact absurd h.1 (by decide)
    have hsame : keptOf (dir ++ go "/") = keptOf dir := keptOf_append_slash hne
    rw [pathClean_of_ne_nil (by rwa [hsame]), hsame, rootOf_append hne,
      ← pathClean_of_ne_nil hkept, h.2]

/-- **Two ways to take a path apart.** -/
lemma AbsClean.eq_pathJoin_iff (hp : AbsClean p) (hdir : AbsClean dir) (hn : LegalName n) :
    p = pathJoin dir n ↔ pathDir p = dir ∧ pathBase p = n := by
  have hparts : ∀ {dir n}, AbsClean dir → LegalName n →
      pathDir (joinBase dir ++ n) = dir ∧ pathBase (joinBase dir ++ n) = n := by
    intro dir n hdir hn
    refine ⟨?_, pathBase_append (joinBase_cases dir) hn.1 hn.2.1⟩
    rw [pathDir_append dir hn.2.1, hdir.pathClean_joinBase]
  rw [pathJoin_name dir hn]
  constructor
  · rintro rfl
    exact hparts hdir hn
  · rintro ⟨rfl, rfl⟩
    obtain rfl | ⟨dir, n, hdir', hn', rfl⟩ := hp.eq_slash_or_name
    · -- the base of the root is no name
      exact absurd hn (by decide)
    · rw [(hparts hdir' hn').1, (hparts hdir' hn').2]

lemma AbsClean.pathDir (hp : AbsClean p) : AbsClean (pathDir p) := by
  obtain rfl | ⟨dir, n, hdir, hn, rfl⟩ := hp.eq_slash_or_name
  · decide
  · rw [pathDir_append dir hn.2.1, hdir.pathClean_joinBase]
    exact hdir

end Mockly
