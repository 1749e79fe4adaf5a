import Mathlib

/-!
# Runs of a labelled transition system

`step s a = some s'` says that the event `a` is enabled in `s` and leads to `s'`. An interleaving is
a list of events; `Along` is a condition on every step, read in the state *before* it.

Main results: **`run_invariant`**, **`run_emitted_invariant`**, **`along_iff_prefixes`**.
-/

namespace Transition

open List

variable {σ α : Type*} (step : σ → α → Option σ)

/-- The state reached from `s` by the events `as`, if each of them is enabled when its turn
comes. -/
def run (s : σ) : List α → Option σ
  | [] => some s
  | a :: as => (step s a).bind fun s' => run s' as

/-- `ok` holds at every step of the run of `as` from `s`, in the state before the step.  Past the
first event that is not enabled there is nothing to ask. -/
def Along (ok : σ → α → Prop) (s : σ) : List α → Prop
  | [] => True
  | a :: as => ok s a ∧ ∀ s' ∈ step s a, Along ok s' as

instance Along.decidable (ok : σ → α → Prop) [∀ s a, Decidable (ok s a)] :
    ∀ (s : σ) (as : List α), Decidable (Along step ok s as)
  | _, [] => inferInstanceAs (Decidable True)
  | s, a :: as =>
    have : ∀ s', Decidable (Along step ok s' as) := fun s' => Along.decidable ok s' as
    inferInstanceAs (Decidable (ok s a ∧ ∀ s' ∈ step s a, Along step ok s' as))

variable {step}

@[simp] lemma run_nil (s : σ) : run step s [] = some s := rfl

variable {s : σ} {as : List α}

variable {t : σ} {a : α}

lemma run_cons :
    run step s (a :: as) = some t ↔ ∃ u, step s a = some u ∧ run step u as = some t := by
  simp [run, Option.bind_eq_some_iff]

lemma run_append {bs : List α} :
    run step s (as ++ bs) = some t ↔ ∃ u, run step s as = some u ∧ run step u bs = some t := by
  induction as generalizing s with
  | nil => simp
  | cons a as ih =>
    simp only [cons_append, run_cons, ih]
    constructor
    · rintro ⟨u, hu, v, hv, ht⟩
      exact ⟨v, ⟨u, hu, hv⟩, ht⟩
    · rintro ⟨v, ⟨u, hu, hv⟩, ht⟩
      exact ⟨u, hu, v, hv, ht⟩

@[simp] lemma along_nil (ok : σ → α → Prop) (s : σ) : Along step ok s [] := trivial

variable {ok : σ → α → Prop}

variable {u : σ}

lemma along_cons (hu : step s a = some u) :
    Along step ok s (a :: as) ↔ ok s a ∧ Along step ok u as := by
  simp [Along, hu]

/-- The condition holds along a run exactly when it holds along both parts of it. -/
lemma along_append {bs : List α} (hu : run step s as = some u) :
    Along step ok s (as ++ bs) ↔ Along step ok s as ∧ Along step ok u bs := by
  induction as generalizing s with
  | nil =>
    cases hu
    simp
  | cons a as ih =>
    obtain ⟨v, hv, hu⟩ := run_cons.mp hu
    rw [cons_append, along_cons hv, along_cons hv, ih hu, and_assoc]

variable {Inv : σ → Prop}

/-- **The invariant rule.**  If every step that meets `ok` keeps `Inv`, then so does every run
whose steps all meet it. -/
theorem run_invariant (hstep : ∀ s a s', Inv s → ok s a → step s a = some s' → Inv s') :
    ∀ {as : List α} {s t : σ}, Inv s → Along step ok s as → run step s as = some t → Inv t
  | [], s, t, hs, _, hrun => by
      cases hrun
      exact hs
  | a :: as, s, t, hs, hok, hrun => by
      obtain ⟨u, hu, hrun⟩ := run_cons.mp hrun
      exact run_invariant hstep (hstep s a u hs hok.1 hu) (hok.2 u hu) hrun

/-- What the invariant and the condition imply at each step holds along the whole run. -/
theorem along_of_invariant {P : σ → α → Prop}
    (hstep : ∀ s a s', Inv s → ok s a → step s a = some s' → Inv s')
    (hP : ∀ s a, Inv s → ok s a → P s a) :
    ∀ {as : List α} {s : σ}, Inv s → Along step ok s as → Along step P s as
  | [], _, _, _ => trivial
  | a :: _, s, hs, hok =>
    ⟨hP s a hs hok.1, fun s' hs' =>
      along_of_invariant hstep hP (hstep s a s' hs hok.1 hs') (hok.2 s' hs')⟩

lemma along_of_forall_mem {p : α → Prop} (h : ∀ a ∈ as, p a) :
    Along step (fun _ a => p a) s as := by
  induction as generalizing s with
  | nil => trivial
  | cons a as ih =>
    rw [forall_mem_cons] at h
    exact ⟨h.1, fun s' _ => ih h.2⟩

/-- **The rule for exact conditions.** If the steps that meet `ok` keep `Inv`, and a step from a
state with `Inv` meets `ok` exactly when it leads to a state with `P`, then a run meets `ok` all
along exactly when `P` holds in every state on its way. -/
theorem along_iff_prefixes {P : σ → Prop}
    (hinv : ∀ a ∈ as, ∀ s s', Inv s → ok s a → step s a = some s' → Inv s')
    (hiff : ∀ a ∈ as, ∀ s s', Inv s → step s a = some s' → (ok s a ↔ P s')) (hs : Inv s) (hP : P s)
    (hrun : run step s as = some t) :
    Along step ok s as ↔ ∀ bs, bs <+: as → ∀ u, run step s bs = some u → P u := by
  induction as generalizing s with
  | nil =>
    refine iff_of_true trivial fun bs hbs u hu => ?_
    obtain rfl := prefix_nil.mp hbs
    cases hu
    exact hP
  | cons a as ih =>
    obtain ⟨v, hv, hrun⟩ := run_cons.mp hrun
    have hok := hiff a mem_cons_self s v hs hv
    have ih := fun h : ok s a => ih (fun b hb => hinv b (mem_cons_of_mem a hb))
      (fun b hb => hiff b (mem_cons_of_mem a hb))
      (hinv a mem_cons_self s v hs h hv) (hok.mp h) hrun
    rw [along_cons hv]
    constructor
    · rintro ⟨ha, hrest⟩ bs hbs u hu
      cases bs with
      | nil =>
        cases hu
        exact hP
      | cons b bs =>
        obtain ⟨rfl, hbs'⟩ := cons_prefix_cons.mp hbs
        obtain ⟨v', hv', hu⟩ := run_cons.mp hu
        obtain rfl := Option.some_injective _ (hv.symm.trans hv')
        exact (ih ha).mp hrest bs hbs' u hu
    · intro h
      have ha : ok s a := hok.mpr (h [a] ⟨as, rfl⟩ v (by simp [run, hv]))
      refine ⟨ha, (ih ha).mpr fun bs hbs u hu => ?_⟩
      exact h (a :: bs) (cons_prefix_cons.mpr ⟨rfl, hbs⟩) u (run_cons.mpr ⟨v, hv, hu⟩)

/-- The rule for a condition that decides whether the invariant itself survives. -/
theorem along_iff_invariant (hiff : ∀ s a s', Inv s → step s a = some s' → (ok s a ↔ Inv s'))
    (hs : Inv s) (hrun : run step s as = some t) :
    Along step ok s as ↔ ∀ bs, bs <+: as → ∀ u, run step s bs = some u → Inv u :=
  along_iff_prefixes (fun a _ s s' h hok hstep => (hiff s a s' h hstep).mp hok)
    (fun a _ s s' => hiff s a s') hs hs hrun

/-- The invariant rule for runs no condition is put on. -/
theorem run_preserves (hstep : ∀ s a s', Inv s → step s a = some s' → Inv s') {t : σ} (hs : Inv s)
    (hrun : run step s as = some t) : Inv t :=
  run_invariant (fun s a s' h _ => hstep s a s' h) hs
    (along_of_forall_mem fun _ _ => trivial) hrun

/-! ## What a run gives out -/

section Emitted

variable {β : Type*}

/-- What the steps of the run of `as` from `s` give out, as far as they are enabled. -/
def emitted (step : σ → α → Option σ) (out : σ → α → List β) (s : σ) : List α → List β
  | [] => []
  | a :: as => out s a ++ ((step s a).map fun s' => emitted step out s' as).getD []

lemma emitted_cons {out : σ → α → List β} {s : σ} {as : List α} (hu : step s a = some u) :
    emitted step out s (a :: as) = out s a ++ emitted step out u as := by
  simp [emitted, hu]

/-- **The invariant rule for runs that give something out.** -/
theorem run_emitted_invariant {ok : σ → α → Prop} {out : σ → α → List β} {Inv : σ → List β → Prop}
    (hstep : ∀ s a s' bs, Inv s bs → ok s a → step s a = some s' → Inv s' (bs ++ out s a))
    {as : List α} {s : σ} {bs : List β} (hs : Inv s bs) (hok : Along step ok s as)
    (hrun : run step s as = some t) : Inv t (bs ++ emitted step out s as) := by
  induction as generalizing s bs with
  | nil =>
    cases hrun
    rwa [emitted, append_nil]
  | cons a as ih =>
    obtain ⟨u, hu, hrun⟩ := run_cons.mp hrun
    rw [emitted_cons hu, ← append_assoc]
    exact ih (hstep s a u bs hs hok.1 hu) (hok.2 u hu) hrun

end Emitted

end Transition
