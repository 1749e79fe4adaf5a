import Mockly.Go.Filepath

/-!
# Paths below a directory

An absolute path stands for the names that `path.Clean` keeps of it (`keptOf`), so that cleaning,
joining and `Rel` can be followed on lists of names.

* `keptOf_append_pathClean` — a relative path may be cleaned before it is joined.
* `filepathRel_goesUp` — the relative path begins with `..` exactly if the names of the base are
  not the first names of the target.
* `AbsClean.atOrBelow_iff` — which says that the target is not the base and not below it.
-/

namespace Mockly

open List

/-! ## Cleaning a part of a path first -/

variable {p : GoString}

lemma ne_nil_of_isAbs (hp : isAbs p = true) : p ≠ [] := by
  rintro rfl
  exact absurd hp (by decide)

lemma isAbs_of_append (hp : isAbs p = true) (q : GoString) : isAbs (p ++ q) = true := by
  rw [isAbs, hasPrefix_slash_append (ne_nil_of_isAbs hp)]
  exact hp

lemma pathClean_of_isAbs (hp : isAbs p = true) :
    pathClean p = go "/" ++ join (keptOf p) (go "/") := by
  rw [pathClean_eq]
  exact if_pos hp

lemma keptOf_append_of_isAbs (hp : isAbs p = true) (q : GoString) :
    keptOf (p ++ 0x2F :: q) =
      ((split q 0x2F).foldl (cleanStep true) (keptOf p).reverse).reverse := by
  have hroot : hasPrefix (p ++ 0x2F :: q) (go "/") = true := isAbs_of_append hp _
  have hp' : hasPrefix p (go "/") = true := hp
  rw [keptOf, hroot, split_append_cons, foldl_append, keptOf, hp', reverse_reverse]

/-- The components that are kept of a relative path do to the names before them what the whole path
does. -/
lemma foldl_cleanStep_kept {cs : List GoString} (hcs : ∀ c ∈ cs, 0x2F ∉ c) (names : List GoString) :
    (cs.foldl (cleanStep false) []).reverse.foldl (cleanStep true) names =
      cs.foldl (cleanStep true) names := by
  induction cs using List.reverseRecOn with
  | nil => rfl
  | append_singleton cs c ih =>
    have hkept : IsKept false (cs.foldl (cleanStep false) []) :=
      isKept_foldl (fun c hc => hcs c (mem_append_left _ hc))
        ⟨fun c hc => absurd hc not_mem_nil, rfl⟩
    specialize ih fun c hc => hcs c (mem_append_left _ hc)
    rw [foldl_append, foldl_append, foldl_cons, foldl_nil, foldl_cons, foldl_nil, ← ih]
    generalize cs.foldl (cleanStep false) [] = kept at hkept
    have hpush (h : cleanStep false kept c = c :: kept) :
        (cleanStep false kept c).reverse.foldl (cleanStep true) names =
          cleanStep true (kept.reverse.foldl (cleanStep true) names) c := by
      rw [h, reverse_cons, foldl_append, foldl_cons, foldl_nil]
    by_cases hskip : c = [] ∨ c = go "."
    · rw [cleanStep_skip hskip, cleanStep_skip hskip]
    by_cases hdots : c = go ".."
    · subst hdots
      cases kept with
      | nil => exact hpush rfl
      | cons last rest =>
        by_cases hlast : last = go ".."
        · subst hlast
          exact hpush rfl
        · obtain ⟨hne, hdot, -⟩ := hkept.1 last mem_cons_self
          have hpop (rooted : Bool) (stack : List GoString) :
              cleanStep rooted (last :: stack) (go "..") = stack := by
            unfold cleanStep
            rw [if_neg hskip, if_pos rfl]
            exact if_neg hlast
          rw [hpop, reverse_cons, foldl_append, foldl_cons, foldl_nil,
            cleanStep_push (not_or.mpr ⟨hne, hdot⟩) hlast, hpop]
    · exact hpush (cleanStep_push hskip hdots false kept)

/-- **A relative path may be cleaned before it is joined to an absolute one.** -/
lemma keptOf_append_pathClean {q : GoString} (hp : isAbs p = true) (hq : isAbs q = false) :
    keptOf (p ++ 0x2F :: pathClean q) = keptOf (p ++ 0x2F :: q) := by
  have hq' : hasPrefix q (go "/") = false := hq
  have hall : ∀ c ∈ split q 0x2F, 0x2F ∉ c := fun c hc => notMem_of_mem_split hc
  have hkept := isKept_keptOf q
  rw [keptOf_append_of_isAbs hp, keptOf_append_of_isAbs hp]
  congr 1
  rw [← foldl_cleanStep_kept hall, ← hq', ← keptOf]
  by_cases hnil : keptOf q = []
  · rw [pathClean_eq, hq', if_neg Bool.false_ne_true, if_pos hnil, hnil]
    rfl
  · have hslash : ∀ c ∈ keptOf q, 0x2F ∉ c := fun c hc =>
      (hkept.1 c (mem_reverse.mpr hc)).2.2
    rw [pathClean_of_ne_nil hnil, rootOf, hq', if_neg Bool.false_ne_true, nil_append,
      show split (join (keptOf q) (go "/")) 0x2F = keptOf q from
        splitOn_intercalate 0x2F hslash hnil]

lemma keptOf_pathClean (hp : isAbs p = true) : keptOf (pathClean p) = keptOf p := by
  by_cases hnil : keptOf p = []
  · rw [pathClean_of_isAbs hp, hnil]
    decide
  · rw [pathClean_of_ne_nil hnil, (keptOf_clean hnil).1]

lemma isAbs_pathClean (hp : isAbs p = true) : isAbs (pathClean p) = true := by
  rw [pathClean_of_isAbs hp]
  rfl

lemma absClean_pathClean (hp : isAbs p = true) : AbsClean (pathClean p) := by
  refine ⟨isAbs_pathClean hp, ?_⟩
  rw [pathClean_of_isAbs (isAbs_pathClean hp), keptOf_pathClean hp, ← pathClean_of_isAbs hp]

lemma pathClean_congr {q : GoString} (hp : isAbs p = true) (hq : isAbs q = true)
    (h : keptOf p = keptOf q) : pathClean p = pathClean q := by
  rw [pathClean_of_isAbs hp, pathClean_of_isAbs hq, h]

lemma keptOf_pathClean_append (hp : isAbs p = true) (q : GoString) :
    keptOf (pathClean p ++ 0x2F :: q) = keptOf (p ++ 0x2F :: q) := by
  rw [keptOf_append_of_isAbs (isAbs_pathClean hp), keptOf_append_of_isAbs hp, keptOf_pathClean hp]

lemma isAbs_pathClean_of_not {q : GoString} (hq : isAbs q = false) :
    isAbs (pathClean q) = false := by
  have hq' : hasPrefix q (go "/") = false := hq
  have hroot : rootOf q = [] := by
    rw [rootOf, hq']
    rfl
  by_cases hnil : keptOf q = []
  · rw [pathClean_eq, hq', hnil]
    decide
  · have hclean := (keptOf_clean hnil).2
    rw [pathClean_of_ne_nil hnil]
    rw [hroot, rootOf] at hclean
    by_contra habs
    rw [hroot, isAbs, Bool.not_eq_false] at habs
    rw [if_pos habs] at hclean
    exact absurd hclean (by decide)

lemma pathJoin_nil_right (hp : p ≠ []) : pathJoin p [] = pathClean p := by
  simp [pathJoin, hp, join]

lemma pathJoin_of_isAbs (hp : isAbs p = true) (q : GoString) :
    pathJoin p q = pathClean (p ++ 0x2F :: q) := by
  have hp0 : p ≠ [] := ne_nil_of_isAbs hp
  by_cases hq : q = []
  · rw [hq, pathJoin_nil_right hp0]
    exact pathClean_congr hp (isAbs_of_append hp _) (keptOf_append_slash hp0).symm
  · exact pathJoin_of_ne_nil hp0 hq

lemma isAbs_pathJoin_of_not {a b : GoString} (ha : isAbs a = false) (hb : isAbs b = false) :
    isAbs (pathJoin a b) = false := by
  by_cases ha0 : a = []
  · by_cases hb0 : b = []
    · rw [ha0, hb0]
      decide
    · rw [ha0, pathJoin_nil hb0]
      exact isAbs_pathClean_of_not hb
  · have hrel (q : GoString) : isAbs (a ++ q) = false := (hasPrefix_slash_append ha0 q).trans ha
    by_cases hb0 : b = []
    · rw [hb0, pathJoin_nil_right ha0]
      exact isAbs_pathClean_of_not ha
    · rw [pathJoin_of_ne_nil ha0 hb0]
      exact isAbs_pathClean_of_not (hrel _)

/-- Two relative paths may be joined to each other before they are joined to an absolute one. -/
lemma keptOf_append_pathJoin {a b : GoString} (hp : isAbs p = true) (ha : isAbs a = false)
    (hb : isAbs b = false) :
    keptOf (p ++ 0x2F :: pathJoin a b) = keptOf ((p ++ 0x2F :: a) ++ 0x2F :: b) := by
  have hp0 : p ≠ [] := ne_nil_of_isAbs hp
  have hpa : isAbs (p ++ 0x2F :: a) = true := isAbs_of_append hp _
  by_cases ha0 : a = []
  · subst ha0
    have hslash : keptOf (p ++ 0x2F :: []) = keptOf p := keptOf_append_slash hp0
    rw [keptOf_append_of_isAbs hpa, hslash, ← keptOf_append_of_isAbs hp]
    by_cases hb0 : b = []
    · rw [hb0]
      rfl
    · rw [pathJoin_nil hb0, keptOf_append_pathClean hp hb]
  · by_cases hb0 : b = []
    · rw [hb0, pathJoin_nil_right ha0, keptOf_append_pathClean hp ha, keptOf_append_slash (by simp)]
    · have hrel : isAbs (a ++ 0x2F :: b) = false := (hasPrefix_slash_append ha0 _).trans ha
      rw [pathJoin_of_ne_nil ha0 hb0, keptOf_append_pathClean hp hrel]
      simp

/-! ## The way from one path to another -/

lemma dropCommon_spec (bs ts : List GoString) :
    ∃ common, bs = common ++ (dropCommon bs ts).1 ∧ ts = common ++ (dropCommon bs ts).2 := by
  induction bs generalizing ts with
  | nil => exact ⟨[], by simp [dropCommon], by simp [dropCommon]⟩
  | cons b bs ih =>
    cases ts with
    | nil => exact ⟨[], by simp [dropCommon], by simp [dropCommon]⟩
    | cons t ts =>
      by_cases hbt : b = t
      · obtain ⟨common, hbs, hts⟩ := ih ts
        subst hbt
        rw [dropCommon, if_pos rfl]
        exact ⟨b :: common, congrArg (b :: ·) hbs, congrArg (b :: ·) hts⟩
      · rw [dropCommon, if_neg hbt]
        exact ⟨[], rfl, rfl⟩

/-- Nothing is left of the first list just if it is the beginning of the second. -/
lemma dropCommon_fst_eq_nil_iff (bs ts : List GoString) :
    (dropCommon bs ts).1 = [] ↔ bs <+: ts := by
  induction bs generalizing ts with
  | nil => simp [dropCommon]
  | cons b bs ih =>
    cases ts with
    | nil => simp [dropCommon]
    | cons t ts =>
      rw [dropCommon, cons_prefix_cons]
      split_ifs with hbt
      · simp [hbt, ih]
      · simp [hbt]

def goesUp (rel : GoString) : Bool := rel == go ".." || hasPrefix rel (go "../")

lemma goesUp_iff (rel : GoString) :
    goesUp rel = true ↔ (split rel 0x2F).head? = some (go "..") := by
  have hjoin := join_split rel 0x2F
  rw [goesUp, Bool.or_eq_true, beq_iff_eq, hasPrefix, isPrefixOf_iff_prefix]
  constructor
  · rintro (rfl | ⟨rest, rfl⟩)
    · decide
    · have hsplit : split (go "../" ++ rest) 0x2F = split (go "..") 0x2F ++ split rest 0x2F :=
        split_append_cons (go "..") rest 0x2F
      rw [hsplit]
      rfl
  · intro hhead
    obtain ⟨cs, hcs⟩ := List.head?_eq_some_iff.mp hhead
    rw [hcs] at hjoin
    cases cs with
    | nil => exact Or.inl (by rw [← hjoin]; rfl)
    | cons c cs =>
      refine Or.inr ⟨join (c :: cs) [0x2F], ?_⟩
      rw [← hjoin]
      unfold join
      rw [intercalate_cons_cons]
      rfl

lemma goesUp_join {up down : List GoString}
    (hdown : ∀ n ∈ down, 0x2F ∉ n ∧ n ≠ go "." ∧ n ≠ go "..")
    (hne : up.map (fun _ => go "..") ++ down ≠ []) :
    goesUp (join (up.map (fun _ => go "..") ++ down) (go "/")) = true ↔ ¬up = [] := by
  have hslash : ∀ c ∈ up.map (fun _ => go "..") ++ down, 0x2F ∉ c := by
    intro c hc
    rcases mem_append.mp hc with hc | hc
    · obtain ⟨_, -, rfl⟩ := mem_map.mp hc
      decide
    · exact (hdown c hc).1
  have hsplit : split (join (up.map (fun _ => go "..") ++ down) (go "/")) 0x2F =
      up.map (fun _ => go "..") ++ down := split_join hne hslash
  rw [goesUp_iff, hsplit]
  cases up with
  | nil =>
    refine iff_of_false (fun hhead => ?_) (not_not.mpr rfl)
    exact (hdown _ (mem_of_head? hhead)).2.2 rfl
  | cons _ _ => simp

lemma AbsClean.filter_split (h : AbsClean p) : (split p 0x2F).filter (· ≠ []) = keptOf p := by
  have hlegal := keptOf_legal h.1
  by_cases hkept : keptOf p = []
  · rw [hkept, h.eq_slash hkept]
    decide
  · have hsplit : split p 0x2F = [] :: keptOf p := by
      have happend := split_append_cons [] (join (keptOf p) (go "/")) 0x2F
      rw [split_names hkept hlegal] at happend
      exact (congrArg (split · 0x2F) (h.eq_names hkept)).trans happend
    rw [hsplit, filter_cons_of_neg (by simp), filter_eq_self]
    intro n hn
    exact decide_eq_true (hlegal n hn).1

/-- **The relative path goes up just if the base is not on the way to the target.** -/
lemma filepathRel_goesUp {base targ : GoString} (hbase : AbsClean base) (htarg : AbsClean targ) :
    ∃ rel, filepathRel base targ = some rel ∧
      (goesUp rel = true ↔ ¬keptOf base <+: keptOf targ) := by
  rw [filepathRel, hbase.2, htarg.2]
  dsimp only
  by_cases heq : targ = base
  · subst heq
    rw [if_pos rfl]
    exact ⟨go ".", rfl, by simp [show goesUp (go ".") = false by decide]⟩
  · have hdot : base ≠ go "." := by
      rintro rfl
      exact absurd hbase.1 (by decide)
    have hroot : isAbs base = isAbs targ := (show isAbs base = true from hbase.1).trans htarg.1.symm
    rw [if_neg heq, if_neg hdot, if_neg (not_not.mpr hroot), hbase.filter_split, htarg.filter_split]
    obtain ⟨common, hb, ht⟩ := dropCommon_spec (keptOf base) (keptOf targ)
    have hup := dropCommon_fst_eq_nil_iff (keptOf base) (keptOf targ)
    rw [← hup]
    generalize dropCommon (keptOf base) (keptOf targ) = d at hb ht
    obtain ⟨up, down⟩ := d
    dsimp only at hb ht hup ⊢
    have hlegal : ∀ n ∈ up, LegalName n := fun n hn =>
      keptOf_legal hbase.1 n (hb ▸ mem_append_right common hn)
    have hlegal' : ∀ n ∈ down, LegalName n := fun n hn =>
      keptOf_legal htarg.1 n (ht ▸ mem_append_right common hn)
    have hhead : up.head? ≠ some (go "..") := fun h =>
      (hlegal _ (mem_of_head? h)).2.2.2 rfl
    rw [if_neg hhead]
    refine ⟨_, rfl, ?_⟩
    have hne : up.map (fun _ => go "..") ++ down ≠ [] := by
      intro hnil
      rw [append_eq_nil_iff, map_eq_nil_iff] at hnil
      refine heq (htarg.2.symm.trans (Eq.trans ?_ hbase.2))
      exact pathClean_congr htarg.1 hbase.1 (by rw [hb, ht, hnil.1, hnil.2])
    exact goesUp_join (fun n hn => (hlegal' n hn).2) hne

/-! ## Below a directory -/

def slashed (dir : GoString) : GoString := if dir = go "/" then dir else dir ++ go "/"

/-- The path is the directory, or leads on from it by names. -/
def AtOrBelow (dir p : GoString) : Prop :=
  p = dir ∨
    ∃ names, names ≠ [] ∧ (∀ n ∈ names, LegalName n) ∧ p = slashed dir ++ join names (go "/")

lemma AbsClean.slashed_append {dir : GoString} (hdir : AbsClean dir) {names : List GoString}
    (hne : names ≠ []) (h : ∀ n ∈ names, LegalName n) :
    slashed dir ++ join names (go "/") = pathClean (dir ++ 0x2F :: join names (go "/")) := by
  have hdir0 : dir ≠ [] := ne_nil_of_isAbs hdir.1
  have hslashed : joinBase dir = slashed dir := by
    rw [hdir.joinBase_eq, slashed]
    split_ifs with hroot
    · exact hroot.symm
    · rfl
  rw [← hslashed, ← pathJoin_names hne h, pathJoin_of_ne_nil hdir0 (join_names_ne_nil hne h)]

/-- **Below a directory are the paths that begin with its names.** -/
lemma AbsClean.atOrBelow_iff {dir : GoString} (hdir : AbsClean dir) (hp : AbsClean p) :
    AtOrBelow dir p ↔ keptOf dir <+: keptOf p := by
  have hdir0 : dir ≠ [] := ne_nil_of_isAbs hdir.1
  have habs (q : GoString) : isAbs (dir ++ q) = true := isAbs_of_append hdir.1 q
  constructor
  · rintro (rfl | ⟨names, hne, hnames, rfl⟩)
    · exact prefix_rfl
    · refine ⟨names, ?_⟩
      rw [hdir.slashed_append hne hnames, keptOf_pathClean (habs _), keptOf_append hne hnames hdir0]
  · rintro ⟨names, hnames⟩
    by_cases hne : names = []
    · left
      rw [hne, append_nil] at hnames
      rw [← hp.2, ← pathClean_congr hdir.1 hp.1 hnames, hdir.2]
    · have hlegal : ∀ n ∈ names, LegalName n := fun n hn =>
        keptOf_legal hp.1 n (hnames ▸ mem_append_right _ hn)
      refine Or.inr ⟨names, hne, hlegal, ?_⟩
      rw [hdir.slashed_append hne hlegal, ← hp.2]
      refine pathClean_congr hp.1 (habs _) ?_
      rw [keptOf_append hne hlegal hdir0, hnames]

end Mockly
