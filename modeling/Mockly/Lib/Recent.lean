import Mathlib

/-!
# Stores of the most recent items

A store of bounded size has the last items that were added since it was emptied, in their order
(`sinceClear`, `List.rtake`).

Main result: **`Store.all_run`**.
-/

namespace Recent

open List

variable {σ α : Type*}

/-! ## Operations -/

inductive Op (α : Type*)
  | add (x : α)
  | clear

def Op.apply (xs : List α) : Op α → List α
  | .add x => xs ++ [x]
  | .clear => []

/-- The items added since the last time that everything was removed, oldest first. -/
def sinceClear (ops : List (Op α)) : List α := ops.foldl Op.apply []

/-- A store by its operations. -/
structure Store (σ α : Type*) where
  add : σ → α → σ
  clear : σ → σ
  all : σ → List α

namespace Store

variable (S : Store σ α)

def step (s : σ) : Op α → σ
  | .add x => S.add s x
  | .clear => S.clear s

def run (s : σ) (ops : List (Op α)) : σ := ops.foldl S.step s

/-- The step of a store that keeps the last `n` items, in states with an invariant. -/
structure Keeps (n : ℕ) (inv : σ → Prop) : Prop where
  add_inv : ∀ s x, inv s → inv (S.add s x)
  clear_inv : ∀ s, inv s → inv (S.clear s)
  all_add : ∀ s x, inv s → S.all (S.add s x) = (S.all s ++ [x]).rtake n
  all_clear : ∀ s, inv s → S.all (S.clear s) = []

/-- Whatever is cut off would have been cut off anyway. -/
lemma rtake_append_singleton (n : ℕ) (xs : List α) (x : α) :
    (xs.rtake n ++ [x]).rtake n = (xs ++ [x]).rtake n := by
  have hdrop : xs.drop (xs.length - n) ++ [x] = (xs ++ [x]).drop (xs.length - n) :=
    (drop_append_of_le_length (Nat.sub_le _ _)).symm
  simp only [List.rtake, hdrop, drop_drop, length_drop, length_append, length_singleton]
  congr 1
  omega

variable {S}

lemma all_run_of_rtake {n : ℕ} {inv : σ → Prop} (h : S.Keeps n inv) (ops : List (Op α)) {s : σ}
    (hs : inv s) {xs : List α} (hall : S.all s = xs.rtake n) :
    S.all (S.run s ops) = (ops.foldl Op.apply xs).rtake n := by
  induction ops generalizing s xs with
  | nil => exact hall
  | cons op ops ih =>
    cases op with
    | add x =>
      have hadd : S.all (S.add s x) = (xs ++ [x]).rtake n := by
        rw [h.all_add s x hs, hall, rtake_append_singleton]
      exact ih (h.add_inv s x hs) hadd
    | clear =>
      have hclear : S.all (S.clear s) = List.rtake [] n := by
        rw [h.all_clear s hs, rtake_nil]
      exact ih (h.clear_inv s hs) hclear

/-- **The run**: an empty store has the last items after any operations. -/
theorem all_run {n : ℕ} {inv : σ → Prop} (h : S.Keeps n inv) {s : σ} (hs : inv s)
    (hempty : S.all s = []) (ops : List (Op α)) :
    S.all (S.run s ops) = (sinceClear ops).rtake n :=
  all_run_of_rtake h ops hs (by rw [hempty, rtake_nil])

end Store

/-! ## A buffer written in a circle -/

/-- Items from `head` on, `count` of them, around the end of the buffer if need be. -/
structure RingBuffer (α : Type*) where
  buf : List α
  head : ℕ
  count : ℕ
  maxSize : ℕ
  length_buf : buf.length = maxSize
  head_lt : head < maxSize
  count_le : count ≤ maxSize

namespace RingBuffer

/-- The position of the `i`th item. -/
def slot (r : RingBuffer α) (i : ℕ) : ℕ := (r.head + i) % r.maxSize

lemma slot_lt (r : RingBuffer α) (i : ℕ) : r.slot i < r.buf.length := by
  rw [r.length_buf]
  exact Nat.mod_lt _ (Nat.zero_lt_of_lt r.head_lt)

/-- A buffer of the given size, full of what is never read. -/
def make (zero : α) (n : ℕ) (hn : 0 < n) : RingBuffer α where
  buf := List.replicate n zero
  head := 0
  count := 0
  maxSize := n
  length_buf := List.length_replicate
  head_lt := hn
  count_le := Nat.zero_le n

def add (r : RingBuffer α) (x : α) : RingBuffer α where
  buf := r.buf.set (r.slot r.count) x
  head := if r.count = r.maxSize then (r.head + 1) % r.maxSize else r.head
  count := if r.count = r.maxSize then r.count else r.count + 1
  maxSize := r.maxSize
  length_buf := by rw [List.length_set, r.length_buf]
  head_lt := by
    have hlt := r.head_lt
    split_ifs
    · exact Nat.mod_lt _ (by omega)
    · exact hlt
  count_le := by
    have hle := r.count_le
    split_ifs <;> omega

def all (r : RingBuffer α) : List α :=
  (List.range r.count).map fun i => r.buf.get ⟨r.slot i, r.slot_lt i⟩

def clear (r : RingBuffer α) : RingBuffer α where
  buf := r.buf
  head := 0
  count := 0
  maxSize := r.maxSize
  length_buf := r.length_buf
  head_lt := Nat.zero_lt_of_lt r.head_lt
  count_le := Nat.zero_le _

def store (α : Type*) : Store (RingBuffer α) α := ⟨add, clear, all⟩

lemma length_all (r : RingBuffer α) : r.all.length = r.count := by
  rw [all, length_map, length_range]

lemma getElem?_all (r : RingBuffer α) {i : ℕ} (hi : i < r.count) :
    r.all[i]? = r.buf[r.slot i]? := by
  rw [all, List.getElem?_map, List.getElem?_range hi, List.getElem?_eq_getElem (r.slot_lt i)]
  rfl

lemma slot_inj (r : RingBuffer α) {i j : ℕ} (hi : i < r.maxSize) (hj : j < r.maxSize)
    (h : r.slot i = r.slot j) : i = j := by
  have hmod : i ≡ j [MOD r.maxSize] := Nat.ModEq.add_left_cancel' r.head h
  rwa [Nat.ModEq, Nat.mod_eq_of_lt hi, Nat.mod_eq_of_lt hj] at hmod

lemma slot_maxSize (r : RingBuffer α) : r.slot r.maxSize = r.slot 0 := by
  rw [slot, slot, Nat.add_mod_right, Nat.add_zero]

lemma getElem?_set_slot (r : RingBuffer α) (x : α) (i : ℕ) :
    (r.buf.set (r.slot i) x)[r.slot i]? = some x :=
  List.getElem?_set_self (r.slot_lt i)

lemma getElem?_set_slot_ne (r : RingBuffer α) (x : α) {i j : ℕ} (hi : i < r.maxSize)
    (hj : j < r.maxSize) (h : i ≠ j) :
    (r.buf.set (r.slot i) x)[r.slot j]? = r.buf[r.slot j]? :=
  List.getElem?_set_ne fun heq => h (r.slot_inj hi hj heq)

lemma length_all_append (r : RingBuffer α) (x : α) : (r.all ++ [x]).length = r.count + 1 := by
  rw [length_append, length_all, length_singleton]

lemma all_add_of_lt (r : RingBuffer α) (x : α) (h : r.count < r.maxSize) :
    (r.add x).all = r.all ++ [x] := by
  have hcount : (r.add x).count = r.count + 1 := if_neg h.ne
  have hhead : (r.add x).head = r.head := if_neg h.ne
  have hlen := r.length_all_append x
  refine ext_getElem? fun i => ?_
  by_cases hi : i < r.count + 1
  · have hslot : (r.add x).slot i = r.slot i := by rw [slot, hhead]; rfl
    have hbuf : (r.add x).buf = r.buf.set (r.slot r.count) x := rfl
    rw [getElem?_all _ (hcount ▸ hi), hslot, hbuf]
    obtain hlt | rfl := Nat.lt_succ_iff_lt_or_eq.mp hi
    · rw [getElem?_set_slot_ne r x h (by omega) hlt.ne', List.getElem?_append_left
        (by rwa [length_all]), getElem?_all r hlt]
    · rw [getElem?_set_slot, List.getElem?_append_right (by rw [length_all]), length_all,
        Nat.sub_self]
      rfl
  · rw [List.getElem?_eq_none (by rw [length_all, hcount]; omega), List.getElem?_eq_none (by omega)]

lemma all_add_of_full (r : RingBuffer α) (x : α) (h : r.count = r.maxSize) :
    (r.add x).all = (r.all ++ [x]).drop 1 := by
  have hcount : (r.add x).count = r.count := if_pos h
  have hhead : (r.add x).head = (r.head + 1) % r.maxSize := if_pos h
  have hbuf : (r.add x).buf = r.buf.set (r.slot 0) x := by
    rw [← slot_maxSize, ← h]
    rfl
  have hlen := r.length_all_append x
  refine ext_getElem? fun i => ?_
  rw [List.getElem?_drop, Nat.add_comm 1 i]
  by_cases hi : i < r.count
  · have hslot : (r.add x).slot i = r.slot (i + 1) := by
      have hmod : (r.add x).maxSize = r.maxSize := rfl
      rw [slot, slot, hhead, hmod, Nat.mod_add_mod, Nat.add_assoc, Nat.add_comm 1 i]
    rw [getElem?_all _ (hcount ▸ hi), hslot, hbuf]
    obtain hlt | heq := Nat.lt_or_eq_of_le (Nat.succ_le_of_lt hi)
    · rw [getElem?_set_slot_ne r x (by omega) (by omega) (by omega), List.getElem?_append_left
        (by rwa [length_all]), getElem?_all r hlt]
    · have hlast : r.slot (i + 1) = r.slot 0 := by
        rw [← slot_maxSize, ← h, ← heq]
      rw [hlast, getElem?_set_slot, List.getElem?_append_right (by rw [length_all, ← heq]),
        length_all, ← heq, Nat.sub_self]
      rfl
  · rw [List.getElem?_eq_none (by rw [length_all, hcount]; omega), List.getElem?_eq_none (by omega)]

lemma keeps (α : Type*) (n : ℕ) : (store α).Keeps n fun r => r.maxSize = n where
  add_inv _ _ h := h
  clear_inv _ h := h
  all_add r x h := by
    change (r.add x).all = (r.all ++ [x]).rtake n
    have hlen := r.length_all_append x
    have hle := r.count_le
    rw [List.rtake, hlen]
    by_cases hfull : r.count = r.maxSize
    · rw [all_add_of_full r x hfull]
      congr 1
      omega
    · rw [all_add_of_lt r x (by omega), Nat.sub_eq_zero_of_le (by omega), drop_zero]
  all_clear _ _ := rfl

end RingBuffer

/-! ## A list cut at its front -/

/-- A list that is cut at its front. -/
structure Window (α : Type*) where
  items : List α
  maxSize : ℕ
  length_le : items.length ≤ maxSize
  pos : 0 < maxSize

namespace Window

def make (n : ℕ) (hn : 0 < n) : Window α := ⟨[], n, Nat.zero_le n, hn⟩

def add (w : Window α) (x : α) : Window α where
  items := (if w.maxSize ≤ w.items.length then w.items.drop 1 else w.items) ++ [x]
  maxSize := w.maxSize
  length_le := by
    have hle := w.length_le
    have hpos := w.pos
    split_ifs <;> simp only [List.length_append, List.length_drop, List.length_singleton] <;> omega
  pos := w.pos

def clear (w : Window α) : Window α := ⟨[], w.maxSize, Nat.zero_le _, w.pos⟩

def store (α : Type*) : Store (Window α) α := ⟨add, clear, items⟩

lemma keeps (α : Type*) (n : ℕ) : (store α).Keeps n fun w => w.maxSize = n where
  add_inv _ _ h := h
  clear_inv _ h := h
  all_add w x h := by
    change (if w.maxSize ≤ w.items.length then w.items.drop 1 else w.items) ++ [x] =
      (w.items ++ [x]).rtake n
    have hle := w.length_le
    have hpos := w.pos
    rw [List.rtake, length_append, length_singleton]
    split_ifs with hfull
    · rw [← drop_append_of_le_length (by omega)]
      congr 1
      omega
    · rw [Nat.sub_eq_zero_of_le (by omega), drop_zero]
  all_clear _ _ := rfl

end Window

end Recent
