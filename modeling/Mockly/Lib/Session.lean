import Mathlib

/-!
# Sessions

A session answers each input with some output and either goes on in a new state or ends. What the
other side sees is the output alone.

Main result: **`run_eq_of_related`**.
-/

namespace Session

variable {σ τ α β : Type*}

/-- The output of a session over the inputs `as`, from the state `s`. -/
def run (step : σ → α → List β × Option σ) : Option σ → List α → List β
  | none, _ => []
  | some _, [] => []
  | some s, a :: as => (step s a).1 ++ run step (step s a).2 as

/-- `ok` holds at every input of the session, in the state before it. -/
def Along (step : σ → α → List β × Option σ) (ok : σ → α → Prop) : Option σ → List α → Prop
  | none, _ => True
  | some _, [] => True
  | some s, a :: as => ok s a ∧ Along step ok (step s a).2 as

variable {step : σ → α → List β × Option σ} {step' : τ → α → List β × Option τ}

@[simp] lemma run_none (as : List α) : run step none as = [] := by
  cases as <;> rfl

@[simp] lemma run_some_nil (s : σ) : run step (some s) [] = [] := rfl

lemma run_some_cons (s : σ) (a : α) (as : List α) :
    run step (some s) (a :: as) = (step s a).1 ++ run step (step s a).2 as := rfl

/-- **The two-run rule.** -/
theorem run_eq_of_related {ok : σ → α → Prop} {R : σ → τ → Prop}
    (hstep : ∀ s t a, R s t → ok s a →
      (step s a).1 = (step' t a).1 ∧ Option.Rel R (step s a).2 (step' t a).2)
    {as : List α} : ∀ {s : Option σ} {t : Option τ}, Option.Rel R s t → Along step ok s as →
      run step s as = run step' t as := by
  induction as with
  | nil =>
    intro s t hst _
    cases hst <;> simp
  | cons a as ih =>
    intro s t hst hok
    cases hst with
    | none => simp
    | some hR =>
      obtain ⟨hout, hnext⟩ := hstep _ _ a hR hok.1
      rw [run_some_cons, run_some_cons, hout, ih hnext hok.2]

/-- Two machines that take the same branch are related if they are in both. -/
lemma related_ite {R : σ → τ → Prop} {p : Prop} [Decidable p] {s s' : σ} {t t' : τ}
    (hthen : p → R s t) (helse : ¬ p → R s' t') :
    R (if p then s else s') (if p then t else t') := by
  split_ifs with hp
  · exact hthen hp
  · exact helse hp

/-- What `f` finds at the inputs of a session, each with the state before it. -/
def collect {γ : Type*} (step : σ → α → List β × Option σ) (f : σ → α → List γ) :
    Option σ → List α → List γ
  | none, _ => []
  | some _, [] => []
  | some s, a :: as => f s a ++ collect step f (step s a).2 as

lemma along_of_forall_collect {γ : Type*} {f : σ → α → List γ} {P : γ → Prop} {as : List α} :
    ∀ {s : Option σ}, (∀ x ∈ collect step f s as, P x) →
      Along step (fun s a => ∀ x ∈ f s a, P x) s as := by
  induction as with
  | nil =>
    intro s _
    cases s <;> trivial
  | cons a as ih =>
    intro s h
    cases s with
    | none => trivial
    | some s =>
      simp only [collect, List.forall_mem_append] at h
      exact ⟨h.1, ih h.2⟩

end Session
