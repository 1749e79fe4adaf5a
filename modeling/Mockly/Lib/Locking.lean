import Mathlib

/-!
# Computations around one lock

A computation enters the lock any number of times; it ends with a value or an error, panics, or
waits for ever. `critical f` has no deferred unlock.

Main result: **`afterCalls_held_iff`**.
-/

namespace Locking

/-- The lock, and the resource behind it. -/
structure Guarded (G : Type) where
  held : Bool
  resource : G

/-- How a computation ends. -/
inductive Ending (ε α : Type)
  | done (a : α)
  | failed (e : ε)
  | panicked
  /-- It waits at the lock, which nobody is going to leave. -/
  | blocked

end Locking

open Locking in
def Locking (G ε α : Type) : Type := Guarded G → Ending ε α × Guarded G

namespace Locking

variable {G ε α β : Type}

def andThen (m : Locking G ε α) (f : α → Locking G ε β) : Locking G ε β := fun s =>
  match m s with
  | (.done a, s') => f a s'
  | (.failed e, s') => (.failed e, s')
  | (.panicked, s') => (.panicked, s')
  | (.blocked, s') => (.blocked, s')

instance : Monad (Locking G ε) where
  pure a := fun s => (.done a, s)
  bind := andThen

def fail (e : ε) : Locking G ε α := fun s => (.failed e, s)

def panics : Locking G ε α := fun s => (.panicked, s)

/-- Lock, use the resource, unlock; `none` is a panic, after which the last step is not taken. -/
def critical (f : G → Option (α × G)) : Locking G ε α := fun s =>
  if s.held then (.blocked, s)
  else
    match f s.resource with
    | none => (.panicked, ⟨true, s.resource⟩)
    | some (a, g) => (.done a, ⟨false, g⟩)

def times (m : Locking G ε α) : ℕ → Locking G ε (List α)
  | 0 => pure []
  | n + 1 => do
      let a ← m
      let as ← times m n
      pure (a :: as)

lemma pure_apply (a : α) (s : Guarded G) : (pure a : Locking G ε α) s = (.done a, s) := rfl

variable {m : Locking G ε α}

variable {a : α} {s' : Guarded G}

lemma bind_apply_of_done {s : Guarded G} (h : m s = (.done a, s')) (f : α → Locking G ε β) :
    (m >>= f) s = f a s' := by
  change andThen m f s = _
  rw [andThen, h]

lemma bind_apply_of_panicked {s : Guarded G} (h : m s = (.panicked, s')) (f : α → Locking G ε β) :
    (m >>= f) s = (.panicked, s') := by
  change andThen m f s = _
  rw [andThen, h]

lemma bind_apply_of_blocked {s : Guarded G} (h : m s = (.blocked, s')) (f : α → Locking G ε β) :
    (m >>= f) s = (.blocked, s') := by
  change andThen m f s = _
  rw [andThen, h]

lemma critical_of_some {f : G → Option (α × G)} {g g' : G} (h : f g = some (a, g')) :
    (critical f : Locking G ε α) ⟨false, g⟩ = (.done a, ⟨false, g'⟩) := by
  simp [critical, h]

lemma critical_of_none {f : G → Option (α × G)} {g : G} (h : f g = none) :
    (critical f : Locking G ε α) ⟨false, g⟩ = (.panicked, ⟨true, g⟩) := by
  simp [critical, h]

lemma bind_apply (m : Locking G ε α) (f : α → Locking G ε β) (s : Guarded G) :
    (m >>= f) s = andThen m f s := rfl

/-! ## Sound computations -/

/-- `m` leaves the lock as it was, a value it ends with satisfies `post`, and it does not wait for
ever at a lock that was free. -/
structure Sound (post : α → Prop) (m : Locking G ε α) : Prop where
  same : ∀ s, (m s).2.held = s.held
  value : ∀ s a, (m s).1 = .done a → post a
  goes : ∀ s, s.held = false → (m s).1 ≠ .blocked

variable {post : α → Prop}

lemma Sound.mono {pre : α → Prop} (hm : Sound pre m) (h : ∀ a, pre a → post a) : Sound post m  where
  same := hm.same
  value s a ha := h a (hm.value s a ha)
  goes := hm.goes

lemma sound_pure (h : post a) : Sound post (pure a : Locking G ε α) where
  same _ := rfl
  value _ b hb := by
    cases hb
    exact h
  goes _ _ := nofun

lemma sound_fail (e : ε) : Sound post (fail e : Locking G ε α) where
  same _ := rfl
  value _ _ := nofun
  goes _ _ := nofun

lemma sound_panics : Sound post (panics : Locking G ε α) where
  same _ := rfl
  value _ _ := nofun
  goes _ _ := nofun

lemma sound_bind {mid : α → Prop} {post : β → Prop} {f : α → Locking G ε β} (hm : Sound mid m)
    (hf : ∀ a, mid a → Sound post (f a)) : Sound post (m >>= f) := by
  -- the three facts at one state, by the way `m` ends there
  have key : ∀ s, ((m >>= f) s).2.held = s.held ∧ (∀ b, ((m >>= f) s).1 = .done b → post b) ∧
      (s.held = false → ((m >>= f) s).1 ≠ .blocked) := by
    intro s
    have hsame := hm.same s
    have hvalue := hm.value s
    have hgoes := hm.goes s
    rw [bind_apply]
    rcases h : m s with ⟨o, s'⟩
    rw [h] at hsame hvalue hgoes
    cases o with
    | done a =>
      have ha := hf a (hvalue a rfl)
      simp only [andThen, h]
      refine ⟨(ha.same s').trans hsame, ha.value s', fun hs => ha.goes s' ?_⟩
      exact hsame.trans hs
    | failed | panicked => simpa [andThen, h] using hsame
    | blocked =>
      simp only [andThen, h]
      exact ⟨hsame, nofun, fun hs => (hgoes hs rfl).elim⟩
  exact ⟨fun s => (key s).1, fun s => (key s).2.1, fun s => (key s).2.2⟩

lemma sound_critical {f : G → Option (α × G)} (h : ∀ g, ∃ a g', f g = some (a, g') ∧ post a) :
    Sound post (critical f : Locking G ε α) := by
  have key : ∀ s : Guarded G, ((critical f : Locking G ε α) s).2.held = s.held ∧
      (∀ b, ((critical f : Locking G ε α) s).1 = .done b → post b) ∧
      (s.held = false → ((critical f : Locking G ε α) s).1 ≠ .blocked) := by
    rintro ⟨held, g⟩
    cases held with
    | true => simp [critical]
    | false =>
      obtain ⟨a, g', hf, ha⟩ := h g
      rw [critical_of_some hf]
      simp [ha]
  exact ⟨fun s => (key s).1, fun s => (key s).2.1, fun s => (key s).2.2⟩

lemma sound_times (hm : Sound post m) (n : ℕ) :
    Sound (fun as => as.length = n ∧ ∀ a ∈ as, post a) (times m n) := by
  induction n with
  | zero => exact sound_pure (by simp)
  | succ n ih =>
    refine sound_bind hm fun a ha => sound_bind ih fun as has => sound_pure ⟨?_, ?_⟩
    · rw [List.length_cons, has.1]
    · exact List.forall_mem_cons.mpr ⟨ha, has.2⟩

/-! ## Calls one after the other -/

section Calls

variable {Call : Type} (call : Call → Locking G ε α)

/-- The lock and the resource after the calls `cs`, however each of them ends. -/
def afterCalls (cs : List Call) (s : Guarded G) : Guarded G :=
  cs.foldl (fun s c => (call c s).2) s

variable {call}

lemma afterCalls_cons (c : Call) (cs : List Call) (s : Guarded G) :
    afterCalls call (c :: cs) s = afterCalls call cs (call c s).2 := rfl

/-- Calls that leave the lock as it was, or else taken. -/
theorem afterCalls_held_iff {ok : Call → Prop} (hok : ∀ c, ok c → ∀ s, (call c s).2.held = s.held)
    (hbad : ∀ c, ¬ ok c → ∀ s, (call c s).2.held = true) (cs : List Call) (s : Guarded G) :
    (afterCalls call cs s).held = false ↔ s.held = false ∧ ∀ c ∈ cs, ok c := by
  induction cs generalizing s with
  | nil => simp [afterCalls]
  | cons c cs ih =>
    rw [afterCalls_cons, ih, List.forall_mem_cons]
    by_cases hc : ok c
    · simp [hok c hc s, hc]
    · simp [hbad c hc s, hc]

end Calls

end Locking
