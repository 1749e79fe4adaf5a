import Mockly.Go.Strings

/-!
# Taking text apart

Reading up to a delimiter, finding it, splitting at it and putting the parts together again, and
replacing.  For each of them a lemma says what it does to a text that is put together from known
parts.
-/

namespace Mockly

open List

/-! ## Reading -/

/-- `ReadString` and `ReadBytes` of a reader: what comes before the delimiter, that included, and
what is behind it.  Without a delimiter there is an error. -/
def readUntil (delim : UInt8) (r : GoString) : Option (GoString × GoString) :=
  if delim ∈ r then some (r.takeWhile (· ≠ delim) ++ [delim], (r.dropWhile (· ≠ delim)).drop 1)
  else none

variable {s : GoString}

lemma readUntil_append {delim : UInt8} (h : delim ∉ s) (rest : GoString) :
    readUntil delim (s ++ delim :: rest) = some (s ++ [delim], rest) := by
  have hs : ∀ b ∈ s, decide (b ≠ delim) = true := by
    intro b hb
    rw [decide_eq_true_iff]
    rintro rfl
    exact h hb
  rw [readUntil, if_pos (by simp), takeWhile_append_of_pos hs, dropWhile_append_of_pos hs]
  simp

/-! ## Finding and splitting -/

lemma contains_singleton (p : GoString) (b : UInt8) : contains p [b] = decide (b ∈ p) := by
  rw [contains, decide_eq_decide, singleton_infix_iff]

lemma index_singleton {b : UInt8} (h : b ∉ s) (rest : GoString) :
    index (s ++ b :: rest) [b] = some s.length := by
  induction s with
  | nil => simp [index, List.findIdx?_cons]
  | cons c s ih =>
    rw [mem_cons, not_or] at h
    rw [index] at ih ⊢
    rw [cons_append, tails_cons, List.findIdx?_cons, ih h.2]
    simp [h.1]

variable {sep : UInt8}

lemma split_append (h : sep ∉ s) (rest : GoString) :
    split (s ++ sep :: rest) sep = s :: split rest sep := by
  have hs : ∀ b ∈ s, (b == sep) = false := by
    intro b hb
    rw [beq_eq_false_iff_ne]
    rintro rfl
    exact h hb
  exact splitOnP_append_cons_of_forall_mem hs sep (beq_self_eq_true sep) rest

lemma split_append_cons (s rest : GoString) (sep : UInt8) :
    split (s ++ sep :: rest) sep = split s sep ++ split rest sep :=
  splitOnP_append_cons s rest (beq_self_eq_true sep)

lemma split_ne_nil (s : GoString) (sep : UInt8) : split s sep ≠ [] :=
  splitOnP_ne_nil _ s

lemma notMem_of_mem_split {p c : GoString} (h : c ∈ split p sep) : sep ∉ c := by
  induction p generalizing c with
  | nil =>
    rw [mem_singleton.mp h]
    exact not_mem_nil
  | cons b p ih =>
    rw [split, List.splitOn, splitOnP_cons_eq_if_modifyHead] at h
    split_ifs at h with hb
    · obtain rfl | h := mem_cons.mp h
      · exact not_mem_nil
      · exact ih h
    · obtain ⟨first, rest, hsplit⟩ :=
        exists_cons_of_ne_nil (splitOnP_ne_nil (· == sep) p)
      have hmem : ∀ c ∈ first :: rest, sep ∉ c := by
        rw [← hsplit]
        exact fun c hc => ih hc
      rw [hsplit, modifyHead_cons, mem_cons] at h
      obtain rfl | h := h
      · rw [mem_cons, not_or]
        refine ⟨fun heq => hb (by simp [heq]), hmem first mem_cons_self⟩
      · exact hmem c (mem_cons_of_mem _ h)

/-! ## Joining -/

lemma join_append {a b : List GoString} (ha : a ≠ []) (hb : b ≠ []) (sep : GoString) :
    join (a ++ b) sep = join a sep ++ (sep ++ join b sep) := by
  unfold join
  induction a with
  | nil => exact absurd rfl ha
  | cons x a ih =>
    cases a with
    | nil =>
      obtain ⟨y, b, rfl⟩ := exists_cons_of_ne_nil hb
      rw [singleton_append, intercalate_cons_cons, intercalate_singleton, append_assoc]
    | cons y a =>
      rw [cons_append, cons_append, intercalate_cons_cons,
        intercalate_cons_cons, ← cons_append, ih (by simp)]
      simp

lemma isInfix_join {part : GoString} {parts : List GoString} (h : part ∈ parts) (sep : GoString) :
    part <:+: join parts sep := by
  obtain ⟨before, behind, rfl⟩ := append_of_mem h
  have hpart : part <:+: join (part :: behind) sep := by
    by_cases hbehind : behind = []
    · rw [hbehind, join, intercalate_singleton]
    · rw [← singleton_append, join_append (by simp) hbehind, join, intercalate_singleton]
      exact (prefix_append _ _).isInfix
  by_cases hbefore : before = []
  · rw [hbefore, nil_append]
    exact hpart
  · rw [join_append hbefore (by simp), ← append_assoc]
    exact hpart.trans (suffix_append _ _).isInfix

lemma join_split (s : GoString) (sep : UInt8) : join (split s sep) [sep] = s :=
  intercalate_splitOn sep

lemma split_join {parts : List GoString} (hne : parts ≠ []) (h : ∀ c ∈ parts, sep ∉ c) :
    split (join parts [sep]) sep = parts :=
  splitOn_intercalate sep h hne

lemma split_inj {t : GoString} : split s sep = split t sep ↔ s = t :=
  ⟨fun h => by rw [← join_split s sep, h, join_split], fun h => by rw [h]⟩

lemma flatMap_split (s : GoString) (sep : UInt8) :
    (split s sep).flatMap (· ++ [sep]) = s ++ [sep] := by
  suffices hparts : ∀ {parts : List GoString}, parts ≠ [] →
      parts.flatMap (· ++ [sep]) = join parts [sep] ++ [sep] by
    rw [hparts (split_ne_nil s sep), join_split]
  intro parts hne
  induction parts with
  | nil => exact absurd rfl hne
  | cons part parts ih =>
    cases parts with
    | nil => simp [join]
    | cons next parts =>
      rw [flatMap_cons, ih (by simp), join, join, intercalate_cons_cons,
        append_assoc, append_assoc, append_assoc]

lemma isInfix_of_mem_split {part : GoString} (h : part ∈ split s sep) : part <:+: s := by
  have hjoin := isInfix_join h [sep]
  rwa [join_split] at hjoin

lemma split_isPrefix_iff {t : GoString} :
    split s sep <+: split t sep ↔ t = s ∨ s ++ [sep] <+: t := by
  constructor
  · rintro ⟨rest, hrest⟩
    by_cases hnil : rest = []
    · rw [hnil, append_nil] at hrest
      exact Or.inl (split_inj.mp hrest.symm)
    · refine Or.inr ⟨join rest [sep], ?_⟩
      rw [← join_split t sep, ← hrest, join_append (split_ne_nil s sep) hnil, join_split,
        append_assoc]
  · rintro (rfl | ⟨rest, rfl⟩)
    · exact prefix_rfl
    · rw [append_assoc, singleton_append, split_append_cons]
      exact prefix_append _ _

/-! ## Replacing -/

/-- `strings.ReplaceAll`, where what is replaced is not empty. -/
def replaceAll (s old new : GoString) : GoString := loop s.length s
where
  /-- One byte or one replacement a turn; the fuel is the number of bytes. -/
  loop : ℕ → GoString → GoString
    | 0, s => s
    | _, [] => []
    | fuel + 1, b :: s =>
      if hasPrefix (b :: s) old then new ++ loop fuel ((b :: s).drop old.length)
      else b :: loop fuel s

lemma replaceAll_of_notMem {old : GoString} {c : UInt8} (h : c ∉ s) (new : GoString) :
    replaceAll s (c :: old) new = s := by
  suffices hloop : ∀ fuel s, c ∉ s → replaceAll.loop (c :: old) new fuel s = s from hloop _ s h
  intro fuel
  induction fuel with
  | zero => exact fun _ _ => rfl
  | succ fuel ih =>
    intro s hs
    cases s with
    | nil => rfl
    | cons b s =>
      rw [mem_cons, not_or] at hs
      have hne : hasPrefix (b :: s) (c :: old) = false := by
        simp [hasPrefix, List.isPrefixOf, hs.1]
      rw [replaceAll.loop, hne, if_neg (by decide), ih s hs.2]

end Mockly
