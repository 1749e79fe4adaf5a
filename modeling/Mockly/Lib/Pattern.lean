import Mathlib

/-!
# Patterns with captures

Regular expressions in which a repetition is over single letters, matched by backtracking. A matcher
is called with what is to happen to the rest of the text (`run`). `replaceAll` replaces the leftmost
matches with a function that may keep a state.
-/

inductive Pattern (α : Type*)
  | empty
  | one (p : α → Bool)
  | many (p : α → Bool)
  | seq (first second : Pattern α)
  | opt (body : Pattern α)
  | group (i : ℕ) (body : Pattern α)

namespace Pattern

open List

variable {α : Type*}

abbrev Captures (α : Type*) := ℕ → Option (List α)

section Run

variable {R : Type*}

/-- A greedy repetition; `k` is for what follows it. -/
def runMany (p : α → Bool) (k : List α → Option R) : List α → Option R
  | [] => k []
  | a :: s => if p a then (runMany p k s).or (k (a :: s)) else k (a :: s)

/-- Match at the beginning of a text, and go on with `k` behind it. -/
def run : Pattern α → List α → Captures α → (List α → Captures α → Option R) → Option R
  | empty, s, c, k => k s c
  | one _, [], _, _ => none
  | one p, a :: s, c, k => if p a then k s c else none
  | many p, s, c, k => runMany p (fun s => k s c) s
  | seq first second, s, c, k => first.run s c fun s c => second.run s c k
  | opt body, s, c, k => (body.run s c k).or (k s c)
  | group i body, s, c, k =>
    body.run s c fun s' c => k s' (Function.update c i (some (s.take (s.length - s'.length))))

def lit [DecidableEq α] : List α → Pattern α
  | [] => empty
  | a :: l => seq (one fun b => b = a) (lit l)

lemma take_sub_dropWhile (p : α → Bool) (l s : List α) :
    (l ++ s).take ((l ++ s).length - (s.dropWhile p).length) = l ++ s.takeWhile p := by
  have hsplit : l ++ s = (l ++ s.takeWhile p) ++ s.dropWhile p := by
    rw [append_assoc, takeWhile_append_dropWhile]
  have hlen : (l ++ s).length - (s.dropWhile p).length = (l ++ s.takeWhile p).length := by
    rw [hsplit, length_append, Nat.add_sub_cancel]
  rw [hlen, hsplit, take_left]

/-- A repetition has nothing to come back to if what follows fails on its letters. -/
lemma runMany_of_blocked {p : α → Bool} {k : List α → Option R}
    (hk : ∀ a s, p a = true → k (a :: s) = none) (s : List α) :
    runMany p k s = k (s.dropWhile p) := by
  induction s with
  | nil => rfl
  | cons a s ih =>
    rw [runMany]
    split_ifs with ha
    · rw [ih, hk a s ha, Option.or_none, dropWhile_cons_of_pos ha]
    · rw [dropWhile_cons_of_neg ha]

lemma run_lit_append [DecidableEq α] (l s : List α) (c : Captures α)
    (k : List α → Captures α → Option R) : (lit l).run (l ++ s) c k = k s c := by
  induction l with
  | nil => rfl
  | cons a l ih => simp [lit, run, ih]

lemma run_lit_of_not_starts [DecidableEq α] {l s : List α} (h : ¬l <+: s) (c : Captures α)
    (k : List α → Captures α → Option R) : (lit l).run s c k = none := by
  induction l generalizing s with
  | nil => exact absurd List.nil_prefix h
  | cons a l ih =>
    cases s with
    | nil => rfl
    | cons b s =>
      simp only [lit, run, decide_eq_true_eq]
      split_ifs with hab
      · refine ih fun hl => h ?_
        rw [hab]
        exact (prefix_cons_inj a).mpr hl
      · rfl

end Run

/-! ## Searching -/

/-- The rest of a text behind a match at its beginning, and what was captured. -/
def matchAt (r : Pattern α) (s : List α) : Option (List α × Captures α) :=
  r.run s (fun _ => none) fun rest c => some (rest, c)

def find (r : Pattern α) : List α → Option (Captures α)
  | [] => (r.matchAt []).map Prod.snd
  | a :: s => ((r.matchAt (a :: s)).map Prod.snd).or (find r s)

lemma find_of_matchAt {r : Pattern α} {s rest : List α} {c : Captures α}
    (h : r.matchAt s = some (rest, c)) : r.find s = some c := by
  cases s with
  | nil => rw [find, h]; rfl
  | cons a s => rw [find, h]; rfl

section Replace

variable {σ : Type*} (r : Pattern α) (f : σ → List α → List α × σ)

/-- The loop of `replaceAll`; `skip` letters are still part of the last match. -/
def replaceFrom : List α → ℕ → σ → List α × σ
  | [], _, st => ([], st)
  | _ :: s, skip + 1, st => replaceFrom s skip st
  | a :: s, 0, st =>
    match r.matchAt (a :: s) with
    | some (rest, _) =>
      if rest.length ≤ s.length then
        let (new, st) := f st ((a :: s).take (s.length + 1 - rest.length))
        let (out, st) := replaceFrom s (s.length - rest.length) st
        (new ++ out, st)
      else
        let (out, st) := replaceFrom s 0 st
        (a :: out, st)
    | none =>
      let (out, st) := replaceFrom s 0 st
      (a :: out, st)

/-- The leftmost matches are replaced, with a state. -/
def replaceAll (s : List α) (st : σ) : List α × σ := replaceFrom r f s 0 st

variable {r f}

@[simp] lemma replaceAll_nil (st : σ) : replaceAll r f [] st = ([], st) := rfl

lemma replaceFrom_skip (m rest : List α) (st : σ) :
    replaceFrom r f (m ++ rest) m.length st = replaceAll r f rest st := by
  induction m with
  | nil => rfl
  | cons a m ih => exact ih

lemma replaceAll_plain {a : α} {s : List α} (h : r.matchAt (a :: s) = none) (st : σ) :
    replaceAll r f (a :: s) st = (a :: (replaceAll r f s st).1, (replaceAll r f s st).2) := by
  rw [replaceAll, replaceFrom, h]
  rfl

lemma replaceAll_found {m rest : List α} {c : Captures α} (hm : m ≠ [])
    (h : r.matchAt (m ++ rest) = some (rest, c)) (st : σ) :
    replaceAll r f (m ++ rest) st =
      ((f st m).1 ++ (replaceAll r f rest (f st m).2).1, (replaceAll r f rest (f st m).2).2) := by
  obtain ⟨a, m, rfl⟩ := exists_cons_of_ne_nil hm
  have hle : rest.length ≤ (m ++ rest).length := by simp
  have htake : ((a :: m) ++ rest).take ((m ++ rest).length + 1 - rest.length) = a :: m := by
    have hlen : (m ++ rest).length + 1 - rest.length = (a :: m).length := by
      simp only [length_append, length_cons]
      omega
    rw [hlen, take_left]
  have hskip : (m ++ rest).length - rest.length = m.length := by simp
  rw [cons_append] at h htake
  rw [cons_append, replaceAll, replaceFrom, h]
  simp only [if_pos hle, htake, hskip, replaceFrom_skip]

end Replace

end Pattern
