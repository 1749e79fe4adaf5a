import Mockly.Memcached.Server

/-!
# Lines and data blocks

`handleStore` returns before it has read the data block when a fault is injected, and when the
length is more than it takes. The block is then read as if it were commands.

Main result: **`inSync_iff`**.
-/

namespace Mockly.Memcached

open List

/-! ## What a line declares -/

def decimal (s : GoString) : Option ℕ :=
  if s ≠ [] ∧ ∀ c ∈ s, 48 ≤ c ∧ c ≤ 57 then
    some (s.foldl (fun n c => n * 10 + (c.toNat - 48)) 0)
  else none

/-- Whether there is a minus, and what is behind the sign, if there is one. -/
def splitSign (s : GoString) : Bool × GoString :=
  match s with
  | 43 :: rest => (false, rest)
  | 45 :: rest => (true, rest)
  | _ => (false, s)

def lengthOf (s : GoString) : Option ℕ :=
  (decimal (splitSign s).2).filter fun n => !(splitSign s).1 || n == 0

/-- The length of the data block that the line of a storage command declares. -/
def declares (srv : Server) (text : GoString) : Option ℕ :=
  match lineParts text with
  | [] => none
  | name :: args =>
    if toLower srv.env.caseTable name ∈ storageCommands then args[3]?.bind lengthOf else none

/-- After a line that declares a length, the next line is behind the block and its end. -/
def InSync (srv : Server) (xs : List Turn) : Prop :=
  xs.IsChain fun x y => ∀ n, declares srv x.text = some n → y.start = x.behind.drop (n + 2)

/-- No fault strikes and the length is not too large, or there is no further line. -/
def Turn.Kept (srv : Server) (x : Turn) : Prop :=
  ∀ n, declares srv x.text = some n → x.struck = false ∧ n ≤ 1024 * 1024 ∨ newline ∉ x.behind

/-! ## Lengths as the server reads them -/

lemma le_foldl_digits (s : GoString) (n : ℕ) :
    n ≤ s.foldl (fun n c => n * 10 + (c.toNat - 48)) n := by
  induction s generalizing n with
  | nil => exact le_rfl
  | cons c s ih =>
    have hstep : n ≤ n * 10 + (c.toNat - 48) := by omega
    exact hstep.trans (ih _)

variable {s : GoString}

/-- Digits are read as the number they stand for, unless it is out of range. -/
lemma parseDigits_eq (h : ∀ c ∈ s, 48 ≤ c ∧ c ≤ 57) (n : ℕ) (hn : n ≤ maxUint64) :
    parseDigits n s =
      if s.foldl (fun n c => n * 10 + (c.toNat - 48)) n ≤ maxUint64 then
        .ok (s.foldl (fun n c => n * 10 + (c.toNat - 48)) n)
      else .error .rangeError := by
  induction s generalizing n with
  | nil => simp [parseDigits, hn]
  | cons c s ih =>
    rw [forall_mem_cons] at h
    have hdigit : ¬(c < 48 ∨ 57 < c) := by
      rw [not_or, UInt8.not_lt, UInt8.not_lt]
      exact h.1
    rw [parseDigits, if_neg hdigit, foldl_cons]
    by_cases hle : n * 10 + (c.toNat - 48) ≤ maxUint64
    · rw [if_neg (by omega), ih h.2 _ hle]
    · have hge := le_foldl_digits s (n * 10 + (c.toNat - 48))
      rw [if_pos (by omega), if_neg (by omega)]

variable {n : ℕ}

lemma parseUint_of_decimal (h : decimal s = some n) :
    parseUint s = if n ≤ maxUint64 then .ok n else .error .rangeError := by
  unfold decimal at h
  split_ifs at h with hs
  cases h
  rw [parseUint, if_neg hs.1, parseDigits_eq hs.2 0 (Nat.zero_le _)]

/-- The end of `ParseInt`, once the digits have been read. -/
def withSign (s : GoString) (neg : Bool) : Except NumErrorKind ℕ → Except NumError ℤ
  | .error k => .error ⟨s, k⟩
  | .ok un =>
    if !neg && decide (2 ^ 63 ≤ un) then .error ⟨s, .rangeError⟩
    else if neg && decide (2 ^ 63 < un) then .error ⟨s, .rangeError⟩
    else .ok (if neg then -(un : ℤ) else un)

lemma parseInt_eq (s : GoString) :
    parseInt s = withSign s (splitSign s).1 (parseUint (splitSign s).2) :=
  rfl

/-- **A length that is declared** is what `Atoi` makes of it, up to the largest number there is. -/
lemma atoi_of_lengthOf (h : lengthOf s = some n) :
    atoi s = if n < 2 ^ 63 then (n : ℤ) else 2 ^ 63 - 1 := by
  obtain ⟨hdecimal, hsign⟩ := Option.filter_eq_some_iff.mp h
  have hmax : maxUint64 = 2 ^ 64 - 1 := rfl
  have hparse := parseInt_eq s
  rw [parseUint_of_decimal hdecimal] at hparse
  by_cases hneg : (splitSign s).1 = true
  · -- There is a minus, and the number is zero.
    obtain rfl : n = 0 := by simpa [hneg] using hsign
    rw [if_pos (Nat.zero_le _), hneg] at hparse
    rw [atoi, hparse]
    rfl
  · rw [Bool.not_eq_true] at hneg
    have hhead : s.head? ≠ some 45 := by
      intro h45
      obtain ⟨rest, rfl⟩ := List.head?_eq_some_iff.mp h45
      cases hneg
    rw [hneg] at hparse
    by_cases hlt : n < 2 ^ 63
    · have hok : parseInt s = .ok (n : ℤ) := by
        rw [hparse, if_pos (by omega)]
        simp [withSign]
        omega
      rw [atoi, hok, if_pos hlt]
    · have herror : parseInt s = .error ⟨s, .rangeError⟩ := by
        rw [hparse]
        split_ifs
        · simp [withSign]
          omega
        · rfl
      rw [atoi, herror, if_neg hlt]
      exact if_neg hhead

/-! ## Where the next line begins -/

variable {text : GoString}

section Next

variable (srv : Server) (γ : Moment)

/-- A data block is read as it was declared, unless a fault strikes or it is too long. -/
lemma handleStore_of_lengthOf {command : GoString} {parts : List GoString} (hs : parts[4]? = some s)
    (h : lengthOf s = some n) (behind : GoString) :
    (handleStore srv γ command parts behind).2 =
      if γ.fault = none ∧ n ≤ 1024 * 1024 then behind.drop (n + 2) else behind := by
  obtain ⟨hlen, hget⟩ := List.getElem?_eq_some_iff.mp hs
  have hatoi := atoi_of_lengthOf h
  have hpart : parts.getD 4 [] = s := by
    rw [getD_eq_getElem?_getD, hs]
    rfl
  unfold handleStore
  cases hfault : γ.fault with
  | some fault => simp
  | none =>
    have hmax : maxData = 1024 * 1024 := rfl
    simp only [hpart, if_neg (show ¬parts.length < 5 by omega), true_and]
    by_cases hn : n ≤ 1024 * 1024
    · rw [if_pos (by omega)] at hatoi
      rw [if_pos hn, hatoi, if_neg (by omega), Int.toNat_natCast]
      split_ifs with hshort
      · exact (drop_eq_nil_of_le hshort.le).symm
      · rfl
    · have hlarge : atoi s > maxData := by
        rw [hatoi]
        split_ifs <;> omega
      rw [if_neg hn, if_pos (Or.inr hlarge)]

lemma handleCommand_of_storage {command : GoString} (h : command ∈ storageCommands)
    (parts : List GoString) (behind : GoString) :
    (handleCommand srv γ command parts behind).2 =
      some (handleStore srv γ command parts behind).2 := by
  have hcases : command = go "set" ∨ command = go "add" ∨ command = go "replace" := by
    simpa [storageCommands] using h
  rcases hcases with rfl | rfl | rfl <;> rfl

/-- **Where the next line begins**, after one that declares a length. -/
lemma handleLine_of_declares (h : declares srv text = some n) (behind : GoString) :
    (handleLine srv γ text behind).2 =
      some (if γ.fault = none ∧ n ≤ 1024 * 1024 then behind.drop (n + 2) else behind) := by
  unfold declares at h
  unfold handleLine
  cases hparts : lineParts text with
  | nil =>
    rw [hparts] at h
    cases h
  | cons name args =>
    rw [hparts] at h
    dsimp only at h ⊢
    split_ifs at h with hstorage
    obtain ⟨s, hs, hlength⟩ := Option.bind_eq_some_iff.mp h
    rw [handleCommand_of_storage srv γ hstorage,
      handleStore_of_lengthOf srv γ (by simpa using hs) hlength]

end Next

/-! ## Whole connections -/

variable {r : GoString}

lemma start_of_readLine {behind : GoString} (h : readLine r = some (text, behind)) :
    text ++ behind = r ∧ behind.length < r.length := by
  unfold readLine at h
  split_ifs at h with hmem
  cases h
  have hne : r.dropWhile (· ≠ newline) ≠ [] := by
    intro hnil
    exact absurd (dropWhile_eq_nil_iff.mp hnil newline hmem) (by simp)
  obtain ⟨b, rest, hb⟩ := exists_cons_of_ne_nil hne
  have hhead := List.head?_dropWhile_not (· ≠ newline) r
  rw [hb] at hhead
  obtain rfl : b = newline := by simpa using hhead
  have happend := takeWhile_append_dropWhile (p := (· ≠ newline)) (l := r)
  rw [hb] at happend
  constructor
  · rw [hb]
    simpa using happend
  · have hlen := congrArg List.length happend
    rw [hb]
    simp at hlen ⊢
    omega

lemma length_handleStore_le (srv : Server) (γ : Moment) (command : GoString)
    (parts : List GoString) (behind : GoString) :
    (handleStore srv γ command parts behind).2.length ≤ behind.length := by
  unfold handleStore
  cases γ.fault with
  | some fault => exact le_rfl
  | none =>
    dsimp only
    split_ifs <;> simp

lemma length_handleLine_le (srv : Server) (γ : Moment) {behind rest : GoString}
    (h : (handleLine srv γ text behind).2 = some rest) : rest.length ≤ behind.length := by
  unfold handleLine at h
  cases hparts : lineParts text with
  | nil =>
    rw [hparts] at h
    cases h
    exact le_rfl
  | cons name args =>
    rw [hparts] at h
    dsimp only [handleCommand] at h
    repeat' split at h
    all_goals cases h
    all_goals first | exact le_rfl | exact length_handleStore_le ..

variable {fuel i : ℕ}

lemma start_of_head_turns (srv : Server) (γ : ℕ → Moment) {y : Turn}
    (h : y ∈ (turns srv γ fuel i r).head?) : y.start = r ∧ newline ∈ r := by
  cases fuel with
  | zero => cases h
  | succ fuel =>
    rw [turns] at h
    cases hline : readLine r with
    | none =>
      rw [hline] at h
      cases h
    | some line =>
      obtain ⟨text, behind⟩ := line
      rw [hline] at h
      cases h
      refine ⟨(start_of_readLine hline).1, ?_⟩
      unfold readLine at hline
      split_ifs at hline with hmem
      exact hmem

lemma head_turns_of_mem (srv : Server) (γ : ℕ → Moment) (hfuel : r.length ≤ fuel)
    (h : newline ∈ r) :
    ∃ y, y ∈ (turns srv γ fuel i r).head? := by
  have hpos := length_pos_of_mem h
  obtain ⟨fuel, rfl⟩ : ∃ n, fuel = n + 1 := ⟨fuel - 1, by omega⟩
  rw [turns, readLine, if_pos h]
  exact ⟨_, rfl⟩

/-- **A line and the next.** -/
lemma next_iff_kept (srv : Server) (γ : ℕ → Moment) {behind rest : GoString} {reply : GoString}
    (hfuel : rest.length ≤ fuel) (hrest : (handleLine srv (γ i) text behind).2 = some rest) :
    (∀ y ∈ (turns srv γ fuel (i + 1) rest).head?, ∀ n, declares srv text = some n →
        y.start = behind.drop (n + 2)) ↔
      Turn.Kept srv ⟨text, behind, (γ i).fault.isSome, reply⟩ := by
  constructor
  · intro hnext n hn
    rw [handleLine_of_declares srv (γ i) hn] at hrest
    cases hrest
    by_contra hkept
    rw [not_or, not_not] at hkept
    have hbad : ¬((γ i).fault = none ∧ n ≤ 1024 * 1024) := by
      simpa using hkept.1
    have hmem : newline ∈ behind := hkept.2
    rw [if_neg hbad] at hnext hfuel
    obtain ⟨y, hy⟩ := head_turns_of_mem srv γ hfuel hmem
    have hdrop := (start_of_head_turns srv γ hy).1.symm.trans (hnext y hy n hn)
    have hlen := congrArg List.length hdrop
    have hpos := length_pos_of_mem hmem
    rw [length_drop] at hlen
    omega
  · intro hkept y hy n hn
    obtain ⟨hstart, hmem⟩ := start_of_head_turns srv γ hy
    rw [hstart]
    rw [handleLine_of_declares srv (γ i) hn] at hrest
    cases hrest
    rcases hkept n hn with ⟨hfault, hle⟩ | hnone
    · have hfault' : (γ i).fault = none := by simpa using hfault
      exact if_pos ⟨hfault', hle⟩
    · exfalso
      split_ifs at hmem
      · exact hnone (mem_of_mem_drop hmem)
      · exact hnone hmem

/-- By induction on the rounds of the loop. -/
lemma inSync_turns_iff (srv : Server) (γ : ℕ → Moment) (fuel i : ℕ) (r : GoString)
    (hfuel : r.length ≤ fuel) :
    InSync srv (turns srv γ fuel i r) ↔ ∀ x ∈ turns srv γ fuel i r, x.Kept srv := by
  induction fuel generalizing i r with
  | zero => simp [turns, InSync]
  | succ fuel ih =>
    rw [turns]
    cases hline : readLine r with
    | none => simp [InSync]
    | some line =>
      obtain ⟨text, behind⟩ := line
      obtain ⟨-, hlen⟩ := start_of_readLine hline
      dsimp only
      cases hrest : (handleLine srv (γ i) text behind).2 with
      | none =>
        have hnone : ∀ n, declares srv text ≠ some n := by
          intro n hn
          rw [handleLine_of_declares srv (γ i) hn] at hrest
          cases hrest
        simp [InSync, Turn.Kept, hnone]
      | some rest =>
        have hle : rest.length ≤ fuel := by
          have := length_handleLine_le srv (γ i) hrest
          omega
        have htail := ih (i + 1) rest hle
        rw [InSync] at htail ⊢
        dsimp only
        rw [isChain_cons, htail, forall_mem_cons, ← next_iff_kept srv γ hle hrest]

/-- **When the lines are told from the data.** -/
theorem inSync_iff (srv : Server) (γ : ℕ → Moment) (r : GoString) :
    InSync srv (handleConn srv γ r) ↔ ∀ x ∈ handleConn srv γ r, x.Kept srv :=
  inSync_turns_iff srv γ r.length 0 r le_rfl

def bare : Server where
  env := .basic

/-- The block of a `set` that a fault strikes is read as a command, and so is that of one that is a
byte too long. -/
theorem block_read_as_command :
    (declares bare (go "set k 0 0 4\r\n") = some 4 ∧
      (handleConn bare (fun _ => { fault := some {} })
          (go "set k 0 0 4\r\nquit\r\n")).map Turn.text =
        [go "set k 0 0 4\r\n", go "quit\r\n"]) ∧
    (declares bare (go "set k 0 0 1048577\r\n") = some 1048577 ∧
      (handleConn bare (fun _ => {}) (go "set k 0 0 1048577\r\nquit\r\n")).map Turn.text =
        [go "set k 0 0 1048577\r\n", go "quit\r\n"]) := by
  decide +kernel

end Mockly.Memcached
