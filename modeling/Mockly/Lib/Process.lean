import Mathlib

/-!
# Processes that may fail

A process takes one event after the other. At each it goes on in a new state, ends, or fails.

Main result: **`run_ne_error_iff`**.
-/

namespace Process

variable {σ α ε : Type*} (step : σ → α → Except ε (Option σ))

/-- A failure, the end, or the state after all events. -/
def run : σ → List α → Except ε (Option σ)
  | s, [] => .ok (some s)
  | s, a :: as =>
    match step s a with
    | .error e => .error e
    | .ok none => .ok none
    | .ok (some s') => run s' as

/-- `ok` holds at every event the process takes. -/
def Along (ok : σ → α → Prop) : σ → List α → Prop
  | _, [] => True
  | s, a :: as => ok s a ∧ ∀ s', step s a = .ok (some s') → Along ok s' as

variable {step}

variable {s : σ} {a : α}

lemma run_cons_of_error {e : ε} (h : step s a = .error e) (as : List α) :
    run step s (a :: as) = .error e := by
  simp [run, h]

lemma run_cons_of_end (h : step s a = .ok none) (as : List α) :
    run step s (a :: as) = .ok none := by
  simp [run, h]

lemma run_cons_of_some {s' : σ} (h : step s a = .ok (some s')) (as : List α) :
    run step s (a :: as) = run step s' as := by
  simp [run, h]

variable {ok : σ → α → Prop}

lemma along_cons_of_end (h : step s a = .ok none) (as : List α) :
    Along step ok s (a :: as) ↔ ok s a := by
  simp [Along, h]

lemma along_cons_of_some {s' : σ} (h : step s a = .ok (some s')) (as : List α) :
    Along step ok s (a :: as) ↔ ok s a ∧ Along step ok s' as := by
  simp [Along, h]

/-- **The rule for failures.** -/
theorem run_ne_error_iff (hiff : ∀ s a, (∀ e, step s a ≠ .error e) ↔ ok s a) (s : σ) (as : List α) :
    (∀ e, run step s as ≠ .error e) ↔ Along step ok s as := by
  induction as generalizing s with
  | nil => simp [run, Along]
  | cons a as ih =>
    cases h : step s a with
    | error e =>
      have hbad : ¬ok s a := fun hok => (hiff s a).mpr hok e h
      refine iff_of_false (fun hrun => hrun e (run_cons_of_error h as)) fun hok => hbad hok.1
    | ok r =>
      have hgood : ok s a := (hiff s a).mp (by simp [h])
      cases r with
      | none => simp [run_cons_of_end h, along_cons_of_end h, hgood]
      | some s' => rw [run_cons_of_some h, along_cons_of_some h, ih s', and_iff_right hgood]

end Process
