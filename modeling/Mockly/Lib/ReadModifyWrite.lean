import Mockly.Lib.Transition

/-!
# Read–modify–write clients of a shared value

Client `i` reads a shared value, and later writes `f i seen`, computed from what it has *seen*. A
write that falls between the two steps of another client is lost.

Main result: **`serializable_of_fresh`**.
-/

namespace ReadModifyWrite

open Transition List

variable {σ ι : Type*} [DecidableEq ι]

inductive Phase (σ : Type*)
  | idle
  | read (seen : σ)
  | succeeded
  | failed

/-- The shared value, the clients, and those that have succeeded in the order of their writes. -/
structure System (σ ι : Type*) where
  shared : σ
  phase : ι → Phase σ
  written : List ι

inductive Event (ι : Type*)
  | read (i : ι)
  | write (i : ι)

def System.init (s₀ : σ) : System σ ι := ⟨s₀, fun _ => .idle, []⟩

def step (f : ι → σ → Option σ) (s : System σ ι) : Event ι → Option (System σ ι)
  | .read i =>
    match s.phase i with
    | .idle => some { s with phase := Function.update s.phase i (.read s.shared) }
    | _ => none
  | .write i =>
    match s.phase i with
    | .read seen =>
      match f i seen with
      | none => some { s with phase := Function.update s.phase i .failed }
      | some new =>
        some ⟨new, Function.update s.phase i .succeeded, s.written ++ [i]⟩
    | _ => none

/-- The clients of `order` one after the other.  One that gives up leaves the value alone. -/
def serial (f : ι → σ → Option σ) (s₀ : σ) (order : List ι) : σ :=
  order.foldl (fun s i => (f i s).getD s) s₀

/-- Some order of the clients, one after the other, gives the value. -/
def Serializable (f : ι → σ → Option σ) (s₀ s : σ) : Prop :=
  ∃ order : List ι, order.Nodup ∧ (∀ i, i ∈ order) ∧ s = serial f s₀ order

/-- The value has not changed since the client that is about to write has read it. -/
def Fresh (s : System σ ι) : Event ι → Prop
  | .read _ => True
  | .write i => ∀ seen, s.phase i = .read seen → seen = s.shared

/-- What holds as long as every write is fresh: the shared value is the serial outcome of the
writes so far. -/
structure Serial (f : ι → σ → Option σ) (s₀ : σ) (s : System σ ι) : Prop where
  shared : s.shared = serial f s₀ s.written
  nodup : s.written.Nodup
  mem : ∀ i, i ∈ s.written ↔ s.phase i = .succeeded

variable {f : ι → σ → Option σ} {s₀ : σ}

omit [DecidableEq ι] in
lemma serial_init : Serial f s₀ (System.init s₀ : System σ ι) where
  shared := rfl
  nodup := nodup_nil
  mem := by
    intro i
    simp [System.init]

/-- The step lemma.  A fresh write applies `f i` to the very value it replaces. -/
lemma step_serial {s s' : System σ ι} {a : Event ι} (h : Serial f s₀ s) (hok : Fresh s a)
    (hstep : step f s a = some s') : Serial f s₀ s' := by
  cases a with
  | read i =>
    simp only [step] at hstep
    split at hstep
    · rename_i hi
      cases hstep
      refine ⟨h.shared, h.nodup, fun j => ?_⟩
      by_cases hj : j = i
      · subst hj
        simp [h.mem j, hi]
      · simp [h.mem j, hj]
    · cases hstep
  | write i =>
    simp only [step] at hstep
    split at hstep
    · rename_i seen hi
      have hseen : seen = s.shared := hok seen hi
      have hnot : i ∉ s.written := by
        intro hm
        rw [(h.mem i).mp hm] at hi
        cases hi
      split at hstep
      · cases hstep
        refine ⟨h.shared, h.nodup, fun j => ?_⟩
        by_cases hj : j = i
        · subst hj
          simp [hnot]
        · simp [h.mem j, hj]
      · rename_i new hnew
        cases hstep
        refine ⟨?_, ?_, fun j => ?_⟩
        · rw [hseen, h.shared] at hnew
          simp only [serial, foldl_append, foldl_cons, foldl_nil]
          rw [← serial, hnew, Option.getD_some]
        · exact nodup_append.mpr ⟨h.nodup, nodup_singleton i, fun a ha b hb => by
            rw [mem_singleton] at hb
            subst hb
            exact fun hab => hnot (hab ▸ ha)⟩
        · by_cases hj : j = i
          · subst hj
            simp
          · simp [h.mem j, hj]
    · cases hstep

/-- **Fresh writes are serializable.** -/
theorem serializable_of_fresh {as : List (Event ι)} {s : System σ ι}
    (hok : Along (step f) Fresh (System.init s₀) as)
    (hrun : run (step f) (System.init s₀) as = some s)
    (hdone : ∀ i, s.phase i = .succeeded) : Serializable f s₀ s.shared := by
  have h : Serial f s₀ s :=
    run_invariant (fun _ _ _ hs hfresh hstep => step_serial hs hfresh hstep) serial_init hok hrun
  exact ⟨s.written, h.nodup, fun i => (h.mem i).mpr (hdone i), h.shared⟩

end ReadModifyWrite
