import Mockly.Go.Maps
import Mockly.Go.Text
import Mockly.Lib.Pattern

/-!
# References to variables in a configuration

`expandVars` replaces the matches of a regular expression, and runs it on a match once more to get
at its groups. What it should do is said by reading the text once from left to right (`Reading`).

Main result: **`expandVars_spec`**.
-/

namespace Mockly.Config

open List Option

/-! ## The expression -/

def isNameStart (b : UInt8) : Bool :=
  (0x41 ≤ b && b ≤ 0x5A) || (0x61 ≤ b && b ≤ 0x7A) || b == 0x5F

def isNameByte (b : UInt8) : Bool := isNameStart b || (0x30 ≤ b && b ≤ 0x39)

open Pattern in
/-- `envVarPattern`, `\$\{([A-Za-z_][A-Za-z0-9_]*)(:-([^}]*))?\}`.  The class before the end takes
every byte of a longer rune, none of which is a brace. -/
def envVarPattern : Pattern UInt8 :=
  seq (lit (go "$\x7b"))
    (seq (group 1 (seq (one isNameStart) (many isNameByte)))
      (seq (opt (group 2 (seq (lit (go ":-")) (group 3 (many fun b => b != 0x7D)))))
        (lit (go "\x7d"))))

/-! ## Expanding -/

section Expand

variable (lookupEnv : GoString → Option GoString) (vars : GoMap GoString)

/-- The function that replaces a match, with the names that are missing so far. -/
def substitute (missing : List GoString) (found : GoString) : GoString × List GoString :=
  let groups : Pattern.Captures UInt8 := (envVarPattern.find found).getD fun _ => none
  let name := (groups 1).getD []
  let hasDefault := 0 < ((groups 2).getD []).length
  match lookupEnv name with
  | some val => (val, missing)
  | none =>
    match vars.get? name with
    | some val => (val, missing)
    | none => if hasDefault then ((groups 3).getD [], missing) else (found, missing ++ [name])

/-- The error of `expandVars`. -/
def undefinedError (missing : List GoString) : GoString :=
  go "undefined variable(s) referenced with no default: " ++ join missing (go ", ") ++
    go " (use \"$\x7bVAR:-default\x7d\", or add it to the config's \"vars:\" map)"

def expandVars (data : GoString) : Except GoString GoString :=
  let (result, missing) := envVarPattern.replaceAll (substitute lookupEnv vars) data []
  if missing ≠ [] then .error (undefinedError missing) else .ok result

end Expand

/-! ## Reading a text -/

structure Reference where
  name : GoString
  fallback : Option GoString

namespace Reference

/-- What stands in the text between the name and the brace. -/
def fallbackText (r : Reference) : GoString :=
  match r.fallback with
  | none => []
  | some d => go ":-" ++ d

def text (r : Reference) : GoString := go "$\x7b" ++ (r.name ++ (r.fallbackText ++ go "\x7d"))

/-- A name is made of letters, digits and underscores and does not begin with a digit, and a default
ends at the first brace. -/
structure Legal (r : Reference) : Prop where
  name_ne : r.name ≠ []
  start : ∀ b ∈ r.name.head?, isNameStart b = true
  name_bytes : ∀ b ∈ r.name, isNameByte b = true
  fallback_bytes : ∀ d ∈ r.fallback, 0x7D ∉ d

end Reference

inductive Piece
  | byte (b : UInt8)
  | ref (r : Reference)

/-- The text read from left to right: a reference where one begins, and else a byte. -/
inductive Reading : GoString → List Piece → Prop
  | nil : Reading [] []
  | ref {r : Reference} {rest : GoString} {pieces : List Piece} (hr : r.Legal)
      (hrest : Reading rest pieces) : Reading (r.text ++ rest) (.ref r :: pieces)
  | byte {b : UInt8} {rest : GoString} {pieces : List Piece}
      (hb : ∀ (r : Reference) (behind : GoString), r.Legal → b :: rest ≠ r.text ++ behind)
      (hrest : Reading rest pieces) : Reading (b :: rest) (.byte b :: pieces)

section Values

variable (lookupEnv : GoString → Option GoString) (vars : GoMap GoString)

/-- The value of a reference: from the environment, from `vars`, or else its default. -/
def Reference.value (r : Reference) : Option GoString :=
  (lookupEnv r.name).or ((vars.get? r.name).or r.fallback)

/-- What a piece of the text becomes. -/
def Piece.value : Piece → Option GoString
  | byte b => some [b]
  | ref r => r.value lookupEnv vars

/-- The names without a value and without a default. -/
def undefinedNames : List Piece → List GoString
  | [] => []
  | .byte _ :: pieces => undefinedNames pieces
  | .ref r :: pieces =>
    if r.value lookupEnv vars = none then r.name :: undefinedNames pieces
    else undefinedNames pieces

end Values

/-! ## What the expression matches -/

def Reference.captures (r : Reference) : Pattern.Captures UInt8 := fun i =>
  if i = 1 then some r.name
  else if i = 2 then r.fallback.map (go ":-" ++ ·)
  else if i = 3 then r.fallback
  else none

open Pattern

variable {s : GoString}

lemma head_of_prefix_cons {a b : UInt8} {l : GoString} (h : a :: l <+: b :: s) : a = b :=
  (cons_prefix_cons.mp h).1

def behindName : GoString → Captures UInt8 → Option (GoString × Captures UInt8) :=
  fun s c =>
    (seq (opt (group 2 (seq (lit (go ":-")) (group 3 (many fun b => b != 0x7D)))))
      (lit (go "\x7d"))).run s c fun rest c => some (rest, c)

lemma run_brace_of_ne {b : UInt8} (hb : b ≠ 0x7D) (s : GoString) (c : Captures UInt8)
    {R : Type} (k : GoString → Captures UInt8 → Option R) :
    (lit (go "\x7d")).run (b :: s) c k = none := by
  exact run_lit_of_not_starts (fun hprefix => hb (head_of_prefix_cons hprefix).symm) c k

lemma behindName_brace (rest : GoString) (c : Captures UInt8) :
    behindName (go "\x7d" ++ rest) c = some (rest, c) := by
  have hcolon : ¬go ":-" <+: go "\x7d" ++ rest := fun h =>
    absurd (head_of_prefix_cons h) (by decide)
  simp [behindName, run, run_lit_of_not_starts hcolon, run_lit_append]

lemma behindName_fallback (u : GoString) (c : Captures UInt8) :
    behindName (go ":-" ++ u) c =
      (lit (go "\x7d")).run (u.dropWhile fun b => b != 0x7D)
        (Function.update (Function.update c 3 (some (u.takeWhile fun b => b != 0x7D))) 2
          (some (go ":-" ++ u.takeWhile fun b => b != 0x7D)))
        fun rest c => some (rest, c) := by
  have hskip : (lit (go "\x7d")).run (go ":-" ++ u) c
      (fun rest c => some (rest, c) : GoString → Captures UInt8 → _) = none :=
    run_brace_of_ne (by decide) _ c _
  simp only [behindName, run, run_lit_append, hskip, or_none]
  have hcaptured := take_sub_dropWhile (fun b => b != 0x7D) [] u
  rw [nil_append, nil_append] at hcaptured
  rw [runMany_of_blocked fun a s ha => run_brace_of_ne (by simpa using ha) s _ _,
    take_sub_dropWhile, hcaptured]

lemma behindName_of_not_starts (hcolon : ¬go ":-" <+: s) (hbrace : ¬go "\x7d" <+: s)
    (c : Captures UInt8) : behindName s c = none := by
  simp [behindName, run, run_lit_of_not_starts hcolon, run_lit_of_not_starts hbrace]

lemma matchAt_name (b : UInt8) (t : GoString) :
    envVarPattern.matchAt (go "$\x7b" ++ b :: t) =
      if isNameStart b then
        behindName (t.dropWhile isNameByte)
          (Function.update (fun _ => none) 1 (some (b :: t.takeWhile isNameByte)))
      else none := by
  have hblocked : ∀ (a : UInt8) (s : GoString) (c : Captures UInt8),
      isNameByte a = true → behindName (a :: s) c = none := by
    intro a s c ha
    refine behindName_of_not_starts (fun h => ?_) (fun h => ?_) c <;>
      rw [← head_of_prefix_cons h] at ha <;> exact absurd ha (by decide)
  have hrun : envVarPattern.matchAt (go "$\x7b" ++ b :: t) =
      (group 1 (seq (one isNameStart) (many isNameByte))).run (b :: t) (fun _ => none)
        behindName := run_lit_append _ _ _ _
  have hcaptured := take_sub_dropWhile isNameByte [b] t
  rw [singleton_append, singleton_append] at hcaptured
  rw [hrun]
  simp only [run]
  rw [runMany_of_blocked fun a s ha => hblocked a s _ ha, hcaptured]

lemma takeWhile_append_cons {p : UInt8 → Bool} {n : GoString} (hn : ∀ b ∈ n, p b = true) {a : UInt8}
    (ha : p a = false) (s : GoString) :
    (n ++ a :: s).takeWhile p = n ∧ (n ++ a :: s).dropWhile p = a :: s := by
  constructor
  · rw [takeWhile_append_of_pos hn, takeWhile_cons_of_neg (by simp [ha]), append_nil]
  · rw [dropWhile_append_of_pos hn, dropWhile_cons_of_neg (by simp [ha])]

variable {r : Reference}

/-- **The expression matches a reference**, and its groups are the parts of the reference. -/
lemma matchAt_text (hr : r.Legal) (rest : GoString) :
    envVarPattern.matchAt (r.text ++ rest) = some (rest, r.captures) := by
  obtain ⟨name, fallback⟩ := r
  obtain ⟨hne, hstart, hbytes, hfallback⟩ := hr
  obtain ⟨b, n, rfl⟩ := exists_cons_of_ne_nil hne
  have hb : isNameStart b = true := hstart b rfl
  have hn : ∀ a ∈ n, isNameByte a = true := fun a ha => hbytes a (mem_cons_of_mem b ha)
  cases fallback with
  | none =>
    have htext : (Reference.mk (b :: n) none).text ++ rest =
        go "$\x7b" ++ b :: (n ++ 0x7D :: rest) := by
      simp [Reference.text, Reference.fallbackText, show go "\x7d" = [0x7D] by decide]
    obtain ⟨htake, hdrop⟩ := takeWhile_append_cons hn
      (show isNameByte 0x7D = false by decide) rest
    rw [htext, matchAt_name, if_pos hb, htake, hdrop]
    refine (behindName_brace rest _).trans (congrArg (fun c => some (rest, c)) ?_)
    funext i
    by_cases h1 : i = 1 <;> simp [Reference.captures, h1]
  | some d =>
    have hd : ∀ a ∈ d, (a != 0x7D) = true := by
      intro a ha
      rw [bne_iff_ne]
      rintro rfl
      exact hfallback d rfl ha
    have htext : (Reference.mk (b :: n) (some d)).text ++ rest =
        go "$\x7b" ++ b :: (n ++ 0x3A :: (0x2D :: (d ++ 0x7D :: rest))) := by
      simp [Reference.text, Reference.fallbackText, show go "\x7d" = [0x7D] by decide,
        show go ":-" = [0x3A, 0x2D] by decide]
    obtain ⟨htake, hdrop⟩ := takeWhile_append_cons hn (show isNameByte 0x3A = false by decide)
      (0x2D :: (d ++ 0x7D :: rest))
    obtain ⟨htake', hdrop'⟩ := takeWhile_append_cons hd (show ((0x7D : UInt8) != 0x7D) = false
      by decide) rest
    rw [htext, matchAt_name, if_pos hb, htake, hdrop]
    refine (behindName_fallback (d ++ 0x7D :: rest) _).trans ?_
    rw [htake', hdrop']
    refine (run_lit_append (go "\x7d") rest _ _).trans (congrArg (fun c => some (rest, c)) ?_)
    funext i
    by_cases h2 : i = 2
    · simp [Reference.captures, h2]
    · by_cases h3 : i = 3
      · simp [Reference.captures, h3]
      · by_cases h1 : i = 1 <;> simp [Reference.captures, h1, h2, h3]

variable {rest : GoString}

lemma exists_of_behindName {c c' : Captures UInt8} (h : behindName s c = some (rest, c')) :
    ∃ fallback : Option GoString, (∀ d ∈ fallback, 0x7D ∉ d) ∧
      s = (Reference.mk [] fallback).fallbackText ++ (go "\x7d" ++ rest) := by
  by_cases hbrace : go "\x7d" <+: s
  · obtain ⟨u, rfl⟩ := hbrace
    rw [behindName_brace] at h
    cases h
    exact ⟨none, by simp, rfl⟩
  · by_cases hcolon : go ":-" <+: s
    · obtain ⟨u, rfl⟩ := hcolon
      rw [behindName_fallback] at h
      by_cases hend : go "\x7d" <+: u.dropWhile fun b => b != 0x7D
      · obtain ⟨v, hv⟩ := hend
        rw [← hv, run_lit_append] at h
        cases h
        refine ⟨some (u.takeWhile fun b => b != 0x7D), ?_, ?_⟩
        · rintro d hd hmem
          obtain rfl := Option.some.inj hd
          simpa using mem_takeWhile_imp hmem
        · have hu : u = (u.takeWhile fun b => b != 0x7D) ++ (go "\x7d" ++ rest) := by
            rw [hv, takeWhile_append_dropWhile]
          rw [Reference.fallbackText, append_assoc, ← hu]
      · rw [run_lit_of_not_starts hend] at h
        cases h
    · rw [behindName_of_not_starts hcolon hbrace] at h
      cases h

/-- **It matches nothing else.** -/
lemma exists_of_matchAt {c : Captures UInt8} (h : envVarPattern.matchAt s = some (rest, c)) :
    ∃ r : Reference, r.Legal ∧ s = r.text ++ rest := by
  by_cases hopen : go "$\x7b" <+: s
  · obtain ⟨t, rfl⟩ := hopen
    cases t with
    | nil =>
      have hnone : envVarPattern.matchAt (go "$\x7b" ++ []) = none := run_lit_append _ _ _ _
      rw [hnone] at h
      cases h
    | cons b t =>
      rw [matchAt_name] at h
      split_ifs at h with hb
      obtain ⟨fallback, hfallback, hbehind⟩ := exists_of_behindName h
      refine ⟨⟨b :: t.takeWhile isNameByte, fallback⟩, ⟨by simp, ?_, ?_, hfallback⟩, ?_⟩
      · intro a ha
        obtain rfl := Option.some.inj ha
        exact hb
      · refine forall_mem_cons.mpr ⟨by simp [isNameByte, hb], fun a ha => ?_⟩
        exact mem_takeWhile_imp ha
      · have ht : t = t.takeWhile isNameByte ++
            ((Reference.mk [] fallback).fallbackText ++ (go "\x7d" ++ rest)) := by
          rw [← hbehind, takeWhile_append_dropWhile]
        have htext : (Reference.mk (b :: t.takeWhile isNameByte) fallback).text ++ rest =
            go "$\x7b" ++ b :: (t.takeWhile isNameByte ++
              ((Reference.mk [] fallback).fallbackText ++ (go "\x7d" ++ rest))) := by
          simp [Reference.text, Reference.fallbackText]
        rw [htext, ← ht]
  · have hnone : envVarPattern.matchAt s = none := run_lit_of_not_starts hopen _ _
    rw [hnone] at h
    cases h

/-! ## The reading of a text -/

lemma Reference.text_ne_nil (r : Reference) : r.text ≠ [] := by
  have hgo : go "$\x7b" = [0x24, 0x7B] := by decide
  simp [Reference.text, hgo]

lemma matchAt_eq_none (h : ∀ (r : Reference) (behind : GoString), r.Legal → s ≠ r.text ++ behind) :
    envVarPattern.matchAt s = none := by
  rw [eq_none_iff_forall_ne_some]
  rintro ⟨rest, c⟩ hmatch
  obtain ⟨r, hr, hs⟩ := exists_of_matchAt hmatch
  exact h r rest hr hs

lemma Reference.text_inj {r' : Reference} (hr : r.Legal) (hr' : r'.Legal) {rest' : GoString}
    (h : r.text ++ rest = r'.text ++ rest') : r = r' ∧ rest = rest' := by
  have hmatch := matchAt_text hr rest
  rw [h, matchAt_text hr' rest', Option.some.injEq, Prod.mk.injEq] at hmatch
  obtain ⟨hrest, hcaptures⟩ := hmatch
  have hname : some r'.name = some r.name := congrFun hcaptures 1
  have hfallback : r'.fallback = r.fallback := congrFun hcaptures 3
  refine ⟨?_, hrest.symm⟩
  cases r
  cases r'
  simp_all

lemma exists_reading (s : GoString) : ∃ pieces, Reading s pieces := by
  induction hlen : s.length using Nat.strong_induction_on generalizing s with
  | _ n ih =>
    by_cases href : ∃ (r : Reference) (behind : GoString), r.Legal ∧ s = r.text ++ behind
    · obtain ⟨r, behind, hr, rfl⟩ := href
      have hpos : 0 < r.text.length := length_pos_of_ne_nil r.text_ne_nil
      rw [length_append] at hlen
      obtain ⟨pieces, hpieces⟩ := ih behind.length (by omega) behind rfl
      exact ⟨_, .ref hr hpieces⟩
    · cases s with
      | nil => exact ⟨[], .nil⟩
      | cons b s =>
        obtain ⟨pieces, hpieces⟩ := ih s.length (by simp [← hlen]) s rfl
        exact ⟨_, .byte (fun r behind hr heq => href ⟨r, behind, hr, heq⟩) hpieces⟩

variable {pieces : List Piece}

lemma Reading.unique {pieces' : List Piece} (h : Reading s pieces) (h' : Reading s pieces') :
    pieces' = pieces := by
  induction h generalizing pieces' with
  | nil =>
    generalize hs : ([] : GoString) = s at h'
    cases h' with
    | nil => rfl
    | @ref r rest _ hr hrest =>
      exact absurd (append_eq_nil_iff.mp hs.symm).1 r.text_ne_nil
    | byte hb hrest => cases hs
  | @ref r rest pieces hr hrest ih =>
    generalize hs : r.text ++ rest = s at h'
    cases h' with
    | nil => exact absurd (append_eq_nil_iff.mp hs).1 r.text_ne_nil
    | ref hr' hrest' =>
      obtain ⟨rfl, rfl⟩ := Reference.text_inj hr hr' hs
      rw [ih hrest']
    | byte hb hrest' => exact absurd hs.symm (hb r rest hr)
  | @byte b rest pieces hb hrest ih =>
    generalize hs : b :: rest = s at h'
    cases h' with
    | nil => cases hs
    | @ref r behind _ hr hrest' => exact absurd hs (hb r behind hr)
    | byte hb' hrest' =>
      obtain ⟨rfl, rfl⟩ := List.cons.inj hs
      rw [ih hrest']

/-! ## Replacing -/

section Replace

variable (lookupEnv : GoString → Option GoString) (vars : GoMap GoString)

lemma substitute_text (hr : r.Legal) (missing : List GoString) :
    (∀ v, r.value lookupEnv vars = some v →
      substitute lookupEnv vars missing r.text = (v, missing)) ∧
    (r.value lookupEnv vars = none →
      substitute lookupEnv vars missing r.text = (r.text, missing ++ [r.name])) := by
  have hmatch := matchAt_text hr []
  rw [append_nil] at hmatch
  have hname : r.captures 1 = some r.name := rfl
  have hgroup : r.captures 2 = r.fallback.map (go ":-" ++ ·) := rfl
  have hdefault : r.captures 3 = r.fallback := rfl
  simp only [substitute, find_of_matchAt hmatch, getD_some, hname, hgroup, hdefault,
    Reference.value]
  cases lookupEnv r.name with
  | some val => simp
  | none =>
    cases vars.get? r.name with
    | some val => simp
    | none => cases r.fallback <;> simp [show go ":-" = [0x3A, 0x2D] by decide]

/-- **Replacing all matches goes along the reading.** -/
lemma replaceAll_reading (h : Reading s pieces) (missing : List GoString) :
    (envVarPattern.replaceAll (substitute lookupEnv vars) s missing).2 =
        missing ++ undefinedNames lookupEnv vars pieces ∧
      (undefinedNames lookupEnv vars pieces = [] →
        ∃ values, List.Forall₂ (fun p v => p.value lookupEnv vars = some v) pieces values ∧
          (envVarPattern.replaceAll (substitute lookupEnv vars) s missing).1 = values.flatten) := by
  induction h generalizing missing with
  | nil => exact ⟨by simp [undefinedNames], fun _ => ⟨[], .nil, rfl⟩⟩
  | @ref r rest pieces hr hrest ih =>
    have hfound := replaceAll_found (f := substitute lookupEnv vars) r.text_ne_nil
      (matchAt_text hr rest) missing
    obtain ⟨hsome, hnone⟩ := substitute_text lookupEnv vars hr missing
    cases hvalue : r.value lookupEnv vars with
    | some v =>
      rw [hsome v hvalue] at hfound
      obtain ⟨hmissing, hvalues⟩ := ih missing
      rw [hfound, undefinedNames, if_neg (by simp [hvalue])]
      refine ⟨hmissing, fun hdefined => ?_⟩
      obtain ⟨values, hforall, hout⟩ := hvalues hdefined
      exact ⟨v :: values, .cons hvalue hforall, by rw [hout, flatten_cons]⟩
    | none =>
      rw [hnone hvalue] at hfound
      obtain ⟨hmissing, -⟩ := ih (missing ++ [r.name])
      rw [hfound, undefinedNames, if_pos hvalue]
      exact ⟨by simp [hmissing], fun h => by cases h⟩
  | @byte b rest pieces hb hrest ih =>
    have hplain := replaceAll_plain (f := substitute lookupEnv vars) (matchAt_eq_none hb) missing
    obtain ⟨hmissing, hvalues⟩ := ih missing
    rw [hplain, undefinedNames]
    refine ⟨hmissing, fun hdefined => ?_⟩
    obtain ⟨values, hforall, hout⟩ := hvalues hdefined
    exact ⟨[b] :: values, .cons rfl hforall, by rw [hout]; rfl⟩

variable {lookupEnv vars}

lemma Reference.value_eq_none_iff :
    r.value lookupEnv vars = none ↔
      r.fallback = none ∧ lookupEnv r.name = none ∧ vars.get? r.name = none := by
  simp only [Reference.value, or_eq_none_iff]
  tauto

lemma undefinedNames_ne_nil_iff :
    undefinedNames lookupEnv vars pieces ≠ [] ↔
      ∃ r, Piece.ref r ∈ pieces ∧ r.fallback = none ∧ lookupEnv r.name = none ∧
        vars.get? r.name = none := by
  induction pieces with
  | nil => simp [undefinedNames]
  | cons p pieces ih =>
    cases p with
    | byte b => simp [undefinedNames, ih]
    | ref r =>
      rw [undefinedNames]
      split_ifs with hvalue
      · exact iff_of_true (by simp) ⟨r, by simp, Reference.value_eq_none_iff.mp hvalue⟩
      · rw [ih]
        constructor
        · rintro ⟨r', hmem, hundefined⟩
          exact ⟨r', mem_cons_of_mem _ hmem, hundefined⟩
        · rintro ⟨r', hmem, hundefined⟩
          refine ⟨r', (mem_cons.mp hmem).resolve_left ?_, hundefined⟩
          rintro heq
          obtain rfl := Piece.ref.inj heq
          exact hvalue (Reference.value_eq_none_iff.mpr hundefined)

end Replace

/-- **What `expandVars` does**, for every text, environment and `vars`. There is an error exactly if
some reference without default names neither a variable of the environment nor one of `vars`; else
the result is the text with every reference replaced by its value. -/
theorem expandVars_spec (lookupEnv : GoString → Option GoString) (vars : GoMap GoString)
    (data : GoString) :
    ∃ pieces, Reading data pieces ∧ (∀ pieces', Reading data pieces' → pieces' = pieces) ∧
      ((∃ err, expandVars lookupEnv vars data = .error err) ↔
        ∃ r, Piece.ref r ∈ pieces ∧ r.fallback = none ∧ lookupEnv r.name = none ∧
          vars.get? r.name = none) ∧
      ∀ result, expandVars lookupEnv vars data = .ok result →
        ∃ values, List.Forall₂ (fun p v => p.value lookupEnv vars = some v) pieces values ∧
          result = values.flatten := by
  obtain ⟨pieces, hreading⟩ := exists_reading data
  obtain ⟨hmissing, hvalues⟩ := replaceAll_reading lookupEnv vars hreading []
  rw [List.nil_append] at hmissing
  refine ⟨pieces, hreading, fun pieces' h => hreading.unique h, ?_, fun result hresult => ?_⟩
  · rw [← undefinedNames_ne_nil_iff, expandVars]
    simp only [hmissing]
    split_ifs with hundefined <;> simp [hundefined]
  · simp only [expandVars, hmissing] at hresult
    split_ifs at hresult with hundefined
    obtain rfl := Except.ok.inj hresult
    exact hvalues (not_not.mp hundefined)

end Mockly.Config
