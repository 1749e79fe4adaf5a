import Mockly.Lib.Transition

/-!
# A server that hears its own answers

A server on a bus receives messages and may answer one with a message of its own, which comes back
if the server listens where it goes. What any of this depends on besides is a parameter of the step,
from a set `E`.

Main results: **`quiet_iff`**, **`Feeding.endless`**.
-/

structure Responder (Γ M H R : Type) where
  receivers : Γ → M → List H
  handle : Γ → H → M → Option R
  /-- The message that an answer is published as. -/
  publish : Γ → R → Option M

namespace Responder

open Responder

open List Option

open Transition

structure Delivery (M H : Type) where
  own : Bool
  receiver : H
  msg : M

structure State (M H R : Type) where
  deliveries : List (Delivery M H) := []
  answers : List R := []
  /-- What has been recorded, and whether it was a message of the server itself. -/
  captured : List (Bool × M) := []
  published : List M := []

inductive Event (Γ : Type)
  | handle (i : ℕ) (γ : Γ)
  | publish (i : ℕ) (γ : Γ)

def Event.env {Γ : Type} : Event Γ → Γ
  | .handle _ γ => γ
  | .publish _ γ => γ

variable {Γ M H R : Type} (srv : Responder Γ M H R)

def deliver (own : Bool) (γ : Γ) (m : M) : List (Delivery M H) :=
  (srv.receivers γ m).map fun h => ⟨own, h, m⟩

def start (γ : Γ) (m : M) : State M H R where
  deliveries := srv.deliver false γ m

def handled (s : State M H R) (i : ℕ) (d : Delivery M H) (γ : Γ) : State M H R :=
  { s with
    deliveries := s.deliveries.eraseIdx i
    answers := s.answers ++ (srv.handle γ d.receiver d.msg).toList
    captured := s.captured ++ [(d.own, d.msg)] }

def sent (s : State M H R) (i : ℕ) (γ : Γ) (out : Option M) : State M H R :=
  { s with
    answers := s.answers.eraseIdx i
    published := s.published ++ out.toList
    deliveries := s.deliveries ++ out.toList.flatMap (srv.deliver true γ) }

/-- A receiver handles a message, or an answer is published. -/
def step (s : State M H R) : Event Γ → Option (State M H R)
  | .handle i γ => (s.deliveries[i]?).map fun d => srv.handled s i d γ
  | .publish i γ => (s.answers[i]?).map fun r => srv.sent s i γ (srv.publish γ r)

/-- There has been at most one answer, and no answer has been received. -/
def Quiet (s : State M H R) : Prop :=
  s.published.length ≤ 1 ∧ ∀ c ∈ s.captured, c.1 = false

variable (E : Γ → Prop)

/-- Whatever happens after a message from outside, the server is quiet. -/
def AlwaysQuiet (m : M) : Prop :=
  ∀ γ, E γ → ∀ as : List (Event Γ), (∀ a ∈ as, E a.env) → ∀ t,
    run srv.step (srv.start γ m) as = some t → Quiet t

def CanPublish (r : R) : Prop := ∃ γ m, E γ ∧ srv.publish γ r = some m

def CanAnswer (m : M) (h : H) : Prop := ∃ γ r, E γ ∧ srv.handle γ h m = some r ∧ srv.CanPublish E r

/-- Of the receivers of the message at most one can answer. -/
def OneAnswers (m : M) : Prop :=
  ∀ γ, E γ → (srv.receivers γ m).Pairwise fun h h' =>
    ¬ (srv.CanAnswer E m h ∧ srv.CanAnswer E m h')

/-- What the receivers of the message can answer has no receivers. -/
def AnswersUnheard (m : M) : Prop :=
  ∀ γ, E γ → ∀ h ∈ srv.receivers γ m, ∀ γ₁, E γ₁ → ∀ r, srv.handle γ₁ h m = some r →
    ∀ γ₂, E γ₂ → ∀ m', srv.publish γ₂ r = some m' → srv.receivers γ₂ m' = []

/-! ## Counting -/

variable {i : ℕ}

section Count

variable {α : Type*} {l : List α} {p : α → Bool}

lemma countP_eraseIdx {a : α} (h : l[i]? = some a) :
    l.countP p = (l.eraseIdx i).countP p + if p a then 1 else 0 := by
  obtain ⟨hi, rfl⟩ := List.getElem?_eq_some_iff.mp h
  rw [← countP_cons, (getElem_cons_eraseIdx_perm hi).countP_eq]

lemma countP_le_one (h : l.Pairwise fun a b => ¬ (p a = true ∧ p b = true)) : l.countP p ≤ 1 := by
  induction l with
  | nil => exact Nat.zero_le _
  | cons a l ih =>
    obtain ⟨ha, hl⟩ := pairwise_cons.mp h
    rw [countP_cons]
    split
    · rename_i hpa
      have hzero : l.countP p = 0 := countP_eq_zero.mpr fun b hb hpb => ha b hb ⟨hpa, hpb⟩
      omega
    · exact ih hl

end Count

/-! ## Quiet servers -/

variable {m : M} {γ₀ : Γ} {s : State M H R} {r : R}

section Quiet

open scoped Classical

/-- The message from outside has not been answered more than once, counting what can still become
an answer. -/
structure Inv (m : M) (γ₀ : Γ) (s : State M H R) : Prop where
  external : ∀ d ∈ s.deliveries, d.own = false ∧ d.msg = m ∧ d.receiver ∈ srv.receivers γ₀ m
  made : ∀ r ∈ s.answers, ∃ γ, E γ ∧ ∃ h ∈ srv.receivers γ₀ m, srv.handle γ h m = some r
  count : s.published.length + s.answers.countP (fun r => srv.CanPublish E r) +
    s.deliveries.countP (fun d => srv.CanAnswer E m d.receiver) ≤ 1
  captured : ∀ c ∈ s.captured, c.1 = false

variable {srv E}

lemma inv_start (hγ₀ : E γ₀) (hone : srv.OneAnswers E m) : Inv srv E m γ₀ (srv.start γ₀ m) := by
  refine ⟨fun d hd => ?_, nofun, ?_, nofun⟩
  · obtain ⟨h, hh, rfl⟩ := mem_map.mp hd
    exact ⟨rfl, rfl, hh⟩
  · simp only [start, deliver, length_nil, countP_nil, countP_map, zero_add]
    refine countP_le_one ((hone γ₀ hγ₀).imp fun hne hboth => hne ?_)
    simpa using hboth

lemma Inv.handled {γ : Γ} (h : Inv srv E m γ₀ s) (hγ : E γ) {d : Delivery M H}
    (hd : s.deliveries[i]? = some d) : Inv srv E m γ₀ (srv.handled s i d γ) := by
  obtain ⟨hown, hmsg, hrec⟩ := h.external d (mem_of_getElem? hd)
  refine ⟨fun d' hd' => h.external d' (mem_of_mem_eraseIdx hd'), fun r hr => ?_, ?_,
    fun c hc => ?_⟩
  · rcases mem_append.mp hr with hr | hr
    · exact h.made r hr
    · exact ⟨γ, hγ, d.receiver, hrec, hmsg ▸ mem_toList.mp hr⟩
  · -- An answer that can be published has come from a receiver that can answer.
    have hanswer : ((srv.handle γ d.receiver d.msg).toList.countP fun r => srv.CanPublish E r) ≤
        if decide (srv.CanAnswer E m d.receiver) = true then 1 else 0 := by
      cases hr : srv.handle γ d.receiver d.msg with
      | none => exact Nat.zero_le _
      | some r =>
        by_cases hpub : srv.CanPublish E r
        · rw [if_pos (decide_eq_true ⟨γ, r, hγ, hmsg ▸ hr, hpub⟩)]
          exact countP_le_length
        · simp [hpub]
    have hcount := h.count
    rw [countP_eraseIdx hd] at hcount
    simp only [Responder.handled, countP_append]
    omega
  · rcases mem_append.mp hc with hc | hc
    · exact h.captured c hc
    · rw [mem_singleton.mp hc]
      exact hown

lemma Inv.sent {γ : Γ} (h : Inv srv E m γ₀ s) (hγ₀ : E γ₀) (hγ : E γ)
    (hunheard : srv.AnswersUnheard E m) (hr : s.answers[i]? = some r) :
    Inv srv E m γ₀ (srv.sent s i γ (srv.publish γ r)) := by
  obtain ⟨γ₁, hγ₁, h₁, hh₁, hmade⟩ := h.made r (mem_of_getElem? hr)
  have hnone : (srv.publish γ r).toList.flatMap (srv.deliver true γ) = [] := by
    cases hout : srv.publish γ r with
    | none => rfl
    | some m' =>
      have hrec := hunheard γ₀ hγ₀ h₁ hh₁ γ₁ hγ₁ r hmade γ hγ m' hout
      simp [deliver, hrec]
  have hlen : (srv.publish γ r).toList.length ≤
      if decide (srv.CanPublish E r) = true then 1 else 0 := by
    cases hout : srv.publish γ r with
    | none => exact Nat.zero_le _
    | some m' => rw [if_pos (decide_eq_true ⟨γ, m', hγ, hout⟩)]; exact le_rfl
  have hcount := h.count
  rw [countP_eraseIdx hr] at hcount
  refine ⟨?_, fun r' hr' => h.made r' (mem_of_mem_eraseIdx hr'), ?_, h.captured⟩
  · rw [Responder.sent, hnone, append_nil]
    exact h.external
  · rw [Responder.sent, hnone, append_nil, length_append]
    simp only
    omega

lemma Inv.step {s' : State M H R} {a : Event Γ} (h : Inv srv E m γ₀ s) (hγ₀ : E γ₀)
    (hunheard : srv.AnswersUnheard E m) (ha : E a.env) (hstep : srv.step s a = some s') :
    Inv srv E m γ₀ s' := by
  cases a with
  | handle i γ =>
    obtain ⟨d, hd, rfl⟩ := map_eq_some_iff.mp hstep
    exact h.handled ha hd
  | publish i γ =>
    obtain ⟨r, hr, rfl⟩ := map_eq_some_iff.mp hstep
    exact h.sent hγ₀ ha hunheard hr

lemma alwaysQuiet_of (hone : srv.OneAnswers E m) (hunheard : srv.AnswersUnheard E m) :
    srv.AlwaysQuiet E m := by
  intro γ₀ hγ₀ as has t hrun
  have hinv := run_invariant (fun s a s' h ha => Inv.step h hγ₀ hunheard ha)
    (inv_start hγ₀ hone) (along_of_forall_mem has) hrun
  exact ⟨by have := hinv.count; omega, hinv.captured⟩

end Quiet

/-! ## Servers that are not quiet -/

section Loud

variable {E}

lemma step_handle {d : Delivery M H} (hd : s.deliveries[i]? = some d) (γ : Γ) :
    srv.step s (.handle i γ) = some (srv.handled s i d γ) := by
  rw [step, hd, map_some]

lemma step_publish {l : List R} (hr : s.answers = r :: l) (γ : Γ) :
    srv.step s (.publish 0 γ) = some (srv.sent s 0 γ (srv.publish γ r)) := by
  rw [step, hr, List.getElem?_cons_zero, map_some]

lemma getElem?_deliver {own : Bool} {γ : Γ} (hi : i < (srv.receivers γ m).length) :
    (srv.deliver own γ m)[i]? = some ⟨own, (srv.receivers γ m)[i], m⟩ := by
  rw [deliver, List.getElem?_map, List.getElem?_eq_getElem hi, map_some]

/-- One of the receivers of the message from outside is the first to answer. -/
lemma exists_answered {γ : Γ} (hi : i < (srv.receivers γ₀ m).length)
    (hr : srv.handle γ (srv.receivers γ₀ m)[i] m = some r) :
    ∃ s, srv.step (srv.start γ₀ m) (.handle i γ) = some s ∧ s.answers = [r] ∧ s.published = [] ∧
      s.deliveries = (srv.deliver false γ₀ m).eraseIdx i := by
  refine ⟨_, srv.step_handle (srv.getElem?_deliver hi) γ, ?_, rfl, rfl⟩
  simp [handled, start, hr]

lemma oneAnswers_of_alwaysQuiet (hquiet : srv.AlwaysQuiet E m) : srv.OneAnswers E m := by
  intro γ₀ hγ₀
  rw [pairwise_iff_getElem]
  rintro i j hi hj hij ⟨⟨γ₁, r₁, hγ₁, hr₁, γ₂, m₂, hγ₂, hm₂⟩, γ₃, r₃, hγ₃, hr₃, γ₄, m₄, hγ₄, hm₄⟩
  -- The later of the two answers first, so that the earlier one keeps its place.
  obtain ⟨s₁, h₁, ha₁, hp₁, hd₁⟩ := srv.exists_answered hj hr₃
  have h₂ := srv.step_handle (s := s₁) (i := i)
    (by rw [hd₁, List.getElem?_eraseIdx_of_lt hij, srv.getElem?_deliver hi]) γ₁
  have h₃ := srv.step_publish (r := r₃) (l := [r₁])
    (s := srv.handled s₁ i ⟨false, (srv.receivers γ₀ m)[i], m⟩ γ₁) (by simp [handled, ha₁, hr₁]) γ₄
  have h₄ := srv.step_publish (r := r₁) (l := [])
    (s := srv.sent (srv.handled s₁ i ⟨false, (srv.receivers γ₀ m)[i], m⟩ γ₁) 0 γ₄
      (srv.publish γ₄ r₃)) (by simp [sent, handled, ha₁, hr₁]) γ₂
  have hrun := run_cons.mpr ⟨_, h₁, run_cons.mpr ⟨_, h₂, run_cons.mpr ⟨_, h₃,
    run_cons.mpr ⟨_, h₄, run_nil _⟩⟩⟩⟩
  have hlen := (hquiet γ₀ hγ₀ _ (by simp [Event.env, *]) _ hrun).1
  simp [sent, handled, hp₁, hm₄, hm₂] at hlen

lemma answersUnheard_of_alwaysQuiet (hquiet : srv.AlwaysQuiet E m) : srv.AnswersUnheard E m := by
  intro γ₀ hγ₀ h hh γ₁ hγ₁ r hr γ₂ hγ₂ m' hm'
  by_contra hne
  obtain ⟨h', rest, hrec⟩ := exists_cons_of_ne_nil hne
  obtain ⟨i, hi, rfl⟩ := mem_iff_getElem.mp hh
  obtain ⟨s₁, h₁, ha₁, -, -⟩ := srv.exists_answered hi hr
  have h₂ := srv.step_publish ha₁ γ₂
  have h₃ := srv.step_handle (s := srv.sent s₁ 0 γ₂ (srv.publish γ₂ r))
    (i := s₁.deliveries.length) (d := ⟨true, h', m'⟩) (by simp [sent, hm', deliver, hrec]) γ₂
  have hrun := run_cons.mpr ⟨_, h₁, run_cons.mpr ⟨_, h₂, run_cons.mpr ⟨_, h₃, run_nil _⟩⟩⟩
  have hcaptured := (hquiet γ₀ hγ₀ _ (by simp [Event.env, *]) _ hrun).2 (true, m')
    (by simp [handled])
  cases hcaptured

/-- **When a server does not hear itself.** -/
theorem quiet_iff : srv.AlwaysQuiet E m ↔ srv.OneAnswers E m ∧ srv.AnswersUnheard E m :=
  ⟨fun h => ⟨srv.oneAnswers_of_alwaysQuiet h, srv.answersUnheard_of_alwaysQuiet h⟩,
    fun h => alwaysQuiet_of h.1 h.2⟩

end Loud

/-! ## Servers that feed themselves -/

section Feeding

/-- Every message of `S` has a receiver that answers it, with a message of `S` again. -/
def Feeding (γ : Γ) (S : M → Prop) : Prop :=
  ∀ m, S m → ∃ h ∈ srv.receivers γ m, ∃ r m', srv.handle γ h m = some r ∧
    srv.publish γ r = some m' ∧ S m'

/-- No answer is under way, but a message is that will be answered. -/
def Fed (γ : Γ) (S : M → Prop) (s : State M H R) : Prop :=
  s.answers = [] ∧ ∃ d ∈ s.deliveries, ∃ r m', srv.handle γ d.receiver d.msg = some r ∧
    srv.publish γ r = some m' ∧ S m'

variable {srv} {γ : Γ} {S : M → Prop}

lemma Feeding.deliver (hS : srv.Feeding γ S) (hm : S m) (own : Bool) :
    ∃ d ∈ srv.deliver own γ m, ∃ r m', srv.handle γ d.receiver d.msg = some r ∧
      srv.publish γ r = some m' ∧ S m' := by
  obtain ⟨h, hh, hanswer⟩ := hS m hm
  exact ⟨⟨own, h, m⟩, mem_map_of_mem hh, hanswer⟩

lemma Fed.answer (hS : srv.Feeding γ S) (h : srv.Fed γ S s) :
    ∃ s' i, run srv.step s [.handle i γ, .publish 0 γ] = some s' ∧ srv.Fed γ S s' ∧
      s'.published.length = s.published.length + 1 := by
  obtain ⟨hanswers, d, hd, r, m', hr, hm', hSm'⟩ := h
  obtain ⟨i, hi, rfl⟩ := mem_iff_getElem.mp hd
  have hhandle := srv.step_handle (List.getElem?_eq_getElem hi) γ
  have hr' : (srv.handled s i s.deliveries[i] γ).answers = [r] := by
    simp [handled, hanswers, hr]
  have hpublish := srv.step_publish hr' γ
  refine ⟨_, i, run_cons.mpr ⟨_, hhandle, run_cons.mpr ⟨_, hpublish, run_nil _⟩⟩, ⟨?_, ?_⟩, ?_⟩
  · simp [sent, hr']
  · obtain ⟨d', hd', hanswer⟩ := hS.deliver hSm' true
    refine ⟨d', mem_append_right _ ?_, hanswer⟩
    simpa [hm'] using hd'
  · simp [sent, handled, hm']

/-- **A server that feeds itself never stops.** -/
theorem Feeding.endless (hS : srv.Feeding γ S) {m : M} (hm : S m) (n : ℕ) :
    ∃ as t, (∀ a ∈ as, Event.env a = γ) ∧ run srv.step (srv.start γ m) as = some t ∧
      t.published.length = n := by
  have hfed : ∃ as t, (∀ a ∈ as, Event.env a = γ) ∧ run srv.step (srv.start γ m) as = some t ∧
      srv.Fed γ S t ∧ t.published.length = n := by
    induction n with
    | zero => exact ⟨[], _, nofun, run_nil _, ⟨rfl, hS.deliver hm false⟩, rfl⟩
    | succ n ih =>
      obtain ⟨as, t, has, hrun, hfed, hlen⟩ := ih
      obtain ⟨t', i, hrun', hfed', hlen'⟩ := hfed.answer hS
      refine ⟨as ++ [.handle i γ, .publish 0 γ], t', ?_, ?_, hfed', by omega⟩
      · intro a ha
        rcases mem_append.mp ha with ha | ha
        · exact has a ha
        · fin_cases ha <;> rfl
      · exact run_append.mpr ⟨t, hrun, hrun'⟩
  obtain ⟨as, t, has, hrun, -, hlen⟩ := hfed
  exact ⟨as, t, has, hrun, hlen⟩

end Feeding

end Responder
