import Mockly.Go.Strconv
import Mockly.Lib.Transition

/-!
# Reloading the configuration

A reload runs on a goroutine of its own, and nothing orders the reloads that are running. Reads that
succeed are numbered as they happen.

Main result: **`latest_applied_iff_oldest_first`**.
-/

namespace Mockly.Watch

open Transition List

/-! ## Loading and applying -/

/-- The mocks of each protocol whose server runs, unless it is not configured any more. -/
abbrev Config (P : Type) (M : P → Type) : Type := (p : P) → Option (List (M p))

/-- `loadResolvedConfig` and `config.Validate`, with the texts of their errors; `F` is what is on
disk. -/
structure Loader (F C : Type) where
  loadResolvedConfig : F → Except GoString C
  validate : C → List GoString

def validationMessage (errs : List GoString) : GoString :=
  formatNat errs.length ++ go " validation error(s)" ++ errs.flatMap fun e => go "\n  - " ++ e

def reloadConfig {F C : Type} (l : Loader F C) (file : F) : Except GoString C :=
  match l.loadResolvedConfig file with
  | .error e => .error e
  | .ok cfg =>
    if l.validate cfg = [] then .ok cfg else .error (validationMessage (l.validate cfg))

section

variable {F P : Type} {M : P → Type}

/-- `applyReload`: each server gets the mocks of its protocol, and keeps those it has if there are
none. -/
def applyReload (cfg : Config P M) (live : (p : P) → List (M p)) (p : P) : List (M p) :=
  match cfg p with
  | some mocks => mocks
  | none => live p

/-! ## The watcher and its reloads -/

/-- What an event of the watcher is about; an event may be about several. -/
inductive Op
  | create | write | remove | rename | chmod
  deriving DecidableEq

def relevant (ops : List Op) : Bool :=
  ops.any fun op => decide (op ∈ [Op.write, Op.create, Op.rename, Op.remove])

/-- A configuration that has been read, and which one it is. -/
structure Read (C : Type) where
  number : ℕ
  config : C

/-- The file, the loop of `watchConfig` with its timer, and the reloads that are running. `latest`
is the read that happened last, `applied` the one applied last. -/
structure Watcher (F P : Type) (M : P → Type) where
  file : F
  watching : Bool := true
  armed : Bool := false
  started : ℕ := 0
  loaded : List (Read (Config P M)) := []
  latest : Read (Config P M)
  applied : Read (Config P M)
  live : (p : P) → List (M p)
  stderr : List GoString := []

/-- The program after `start`, which has read the configuration once. -/
def Watcher.start (file : F) (cfg : Config P M) : Watcher F P M where
  file := file
  latest := ⟨0, cfg⟩
  applied := ⟨0, cfg⟩
  live := fun p => (cfg p).getD []

inductive Event (F : Type)
  | change (file : F)
  /-- The loop receives an event of the watcher. -/
  | notify (ops : List Op)
  /-- `ctx` is done. -/
  | cancel
  | closed
  | fire
  /-- One of the reloads that have started reads the configuration. -/
  | read
  | apply (i : ℕ)

variable (l : Loader F (Config P M))

def step (s : Watcher F P M) : Event F → Option (Watcher F P M)
  | .change file => some { s with file := file }
  | .notify ops =>
    -- Whether there was a timer or not, there is one afterwards.
    if s.watching then some (if relevant ops then { s with armed := true } else s) else none
  | .cancel => if s.watching then some { s with watching := false, armed := false } else none
  | .closed => if s.watching then some { s with watching := false } else none
  | .fire => if s.armed then some { s with armed := false, started := s.started + 1 } else none
  | .read =>
    if s.started = 0 then none
    else
      match reloadConfig l s.file with
      | .error e =>
        some
          { s with
            started := s.started - 1
            stderr := s.stderr ++
              [go "error: config reload failed, keeping previous config: " ++ e] }
      | .ok cfg =>
        some
          { s with
            started := s.started - 1
            loaded := ⟨s.latest.number + 1, cfg⟩ :: s.loaded
            latest := ⟨s.latest.number + 1, cfg⟩ }
  | .apply i =>
    match s.loaded[i]? with
    | none => none
    | some rd =>
      some
        { s with
          loaded := s.loaded.eraseIdx i
          applied := rd
          live := applyReload rd.config s.live }

inductive Effect (s s' : Watcher F P M) : Event F → Prop
  | same {e : Event F} (hother : ∀ i, e ≠ .apply i) (hloaded : s'.loaded = s.loaded)
      (hlatest : s'.latest = s.latest) (happlied : s'.applied = s.applied)
      (hlive : s'.live = s.live) : Effect s s' e
  | read (hnumber : s'.latest.number = s.latest.number + 1)
      (hloaded : s'.loaded = s'.latest :: s.loaded) (happlied : s'.applied = s.applied)
      (hlive : s'.live = s.live) : Effect s s' .read
  | apply {i : ℕ} {rd : Read (Config P M)} (hrd : s.loaded[i]? = some rd)
      (hloaded : s'.loaded = s.loaded.eraseIdx i) (hlatest : s'.latest = s.latest)
      (happlied : s'.applied = rd) (hlive : s'.live = applyReload rd.config s.live) :
      Effect s s' (.apply i)

variable {l} {s s' : Watcher F P M} {e : Event F}

lemma step_effect (h : step l s e = some s') : Effect s s' e := by
  cases e with
  | change file =>
    cases h
    exact .same nofun rfl rfl rfl rfl
  | notify ops =>
    simp only [step] at h
    split_ifs at h
    · cases h
      exact .same nofun rfl rfl rfl rfl
    · cases h
      exact .same nofun rfl rfl rfl rfl
  | cancel | closed | fire =>
    simp only [step] at h
    split_ifs at h
    cases h
    exact .same nofun rfl rfl rfl rfl
  | read =>
    simp only [step] at h
    split_ifs at h
    cases hload : reloadConfig l s.file with
    | error msg =>
      simp only [hload, Option.some.injEq] at h
      subst h
      exact .same nofun rfl rfl rfl rfl
    | ok cfg =>
      simp only [hload, Option.some.injEq] at h
      subst h
      exact .read rfl rfl rfl rfl
  | apply i =>
    simp only [step] at h
    cases hrd : s.loaded[i]? with
    | none => simp [hrd] at h
    | some rd =>
      simp only [hrd, Option.some.injEq] at h
      subst h
      exact .apply hrd rfl rfl rfl rfl

/-! ## Numbers -/

/-- Reads are numbered in the order in which they happen, and the servers have the mocks of the
configuration applied last. -/
structure Numbered (s : Watcher F P M) : Prop where
  decreasing : s.loaded.Pairwise fun a b => b.number < a.number
  le_latest : ∀ rd ∈ s.loaded, rd.number ≤ s.latest.number
  live : ∀ p mocks, s.applied.config p = some mocks → s.live p = mocks

lemma numbered_start (file : F) (cfg : Config P M) : Numbered (.start file cfg) where
  decreasing := .nil
  le_latest := by simp [Watcher.start]
  live := by
    intro p mocks h
    have hcfg : cfg p = some mocks := h
    simp [Watcher.start, hcfg]

lemma applyReload_of_some {cfg : Config P M} {live : (p : P) → List (M p)} {p : P}
    {mocks : List (M p)} (h : cfg p = some mocks) : applyReload cfg live p = mocks := by
  simp [applyReload, h]

lemma numbered_step (s : Watcher F P M) (e : Event F) (s' : Watcher F P M) (h : Numbered s)
    (hstep : step l s e = some s') : Numbered s' := by
  obtain ⟨hdec, hle, hlive⟩ := h
  cases step_effect hstep with
  | same _ hloaded hlatest happlied hlive' =>
    refine ⟨hloaded ▸ hdec, ?_, ?_⟩
    · rwa [hloaded, hlatest]
    · rwa [happlied, hlive']
  | read hnumber hloaded happlied hlive' =>
    refine ⟨?_, ?_, ?_⟩
    · rw [hloaded, pairwise_cons, hnumber]
      exact ⟨fun rd hrd => Nat.lt_succ_of_le (hle rd hrd), hdec⟩
    · rw [hloaded, forall_mem_cons]
      exact ⟨le_rfl, fun rd hrd => by have := hle rd hrd; omega⟩
    · rwa [happlied, hlive']
  | apply hrd hloaded hlatest happlied hlive' =>
    refine ⟨?_, ?_, ?_⟩
    · exact hloaded ▸ hdec.sublist (eraseIdx_sublist ..)
    · rw [hloaded, hlatest]
      exact fun rd hmem => hle rd (mem_of_mem_eraseIdx hmem)
    · rw [happlied, hlive']
      exact fun p mocks h => applyReload_of_some h

lemma Numbered.number_ne (h : Numbered s) {i j : ℕ} (hij : i ≠ j) {a b : Read (Config P M)}
    (ha : s.loaded[i]? = some a) (hb : s.loaded[j]? = some b) : a.number ≠ b.number := by
  obtain ⟨hi, rfl⟩ := List.getElem?_eq_some_iff.mp ha
  obtain ⟨hj, rfl⟩ := List.getElem?_eq_some_iff.mp hb
  have hdec := pairwise_iff_getElem.mp h.decreasing
  rcases Nat.lt_or_gt_of_ne hij with hlt | hlt
  · exact (hdec i j hi hj hlt).ne'
  · exact (hdec j i hj hi hlt).ne

/-! ## The order of reloads -/

/-- No reload is running and none is due. -/
def Watcher.Settled (s : Watcher F P M) : Prop :=
  s.armed = false ∧ s.started = 0 ∧ s.loaded = []

/-- Once settled, the servers have the configuration read last. -/
def Current (s : Watcher F P M) : Prop :=
  s.Settled → s.applied = s.latest ∧
    ∀ p mocks, s.latest.config p = some mocks → s.live p = mocks

variable (l) in
/-- No older configuration overwrites a newer one. -/
def NewerKept (s : Watcher F P M) (e : Event F) : Prop :=
  ∀ s' ∈ step l s e, s.applied.number ≤ s'.applied.number

/-- A reload applies its configuration only when no other that is running has read an older one. -/
def OldestFirst (s : Watcher F P M) : Event F → Prop
  | .apply i => ∀ rd ∈ s.loaded[i]?, ∀ rd' ∈ s.loaded, rd.number ≤ rd'.number
  | _ => True

instance (s : Watcher F P M) (e : Event F) : Decidable (OldestFirst s e) := by
  cases e <;> unfold OldestFirst <;> infer_instance

/-- Everything that is still to be applied is newer than what has been applied, and the latest is
either applied or still to be. -/
structure InOrder (s : Watcher F P M) : Prop where
  numbered : Numbered s
  newer : ∀ rd ∈ s.loaded, s.applied.number < rd.number
  latest : s.applied = s.latest ∨ s.latest ∈ s.loaded
  le_latest : s.applied.number ≤ s.latest.number

lemma inOrder_start (file : F) (cfg : Config P M) : InOrder (.start file cfg) where
  numbered := numbered_start file cfg
  newer := by simp [Watcher.start]
  latest := Or.inl rfl
  le_latest := le_rfl

lemma InOrder.apply (h : InOrder s) {i : ℕ} {rd : Read (Config P M)} (hrd : s.loaded[i]? = some rd)
    (hold : ∀ rd' ∈ s.loaded, rd.number ≤ rd'.number) :
    (∀ rd' ∈ s.loaded.eraseIdx i, rd.number < rd'.number) ∧
      (rd = s.latest ∨ s.latest ∈ s.loaded.eraseIdx i) := by
  have hmem : rd ∈ s.loaded := mem_of_getElem? hrd
  constructor
  · intro rd' hrd'
    obtain ⟨j, hij, hj⟩ := mem_eraseIdx_iff_getElem?.mp hrd'
    have hne := h.numbered.number_ne (Ne.symm hij) hrd hj
    have hle := hold rd' (mem_of_getElem? hj)
    omega
  · -- The latest cannot have been applied before `rd`, which is newer than what has been applied.
    have hlatest : s.latest ∈ s.loaded := by
      rcases h.latest with heq | hmem'
      · have hlt := h.newer rd hmem
        have hle := h.numbered.le_latest rd hmem
        rw [heq] at hlt
        omega
      · exact hmem'
    obtain ⟨j, hj⟩ := mem_iff_getElem?.mp hlatest
    by_cases hij : j = i
    · left
      rw [hij, hrd] at hj
      exact Option.some.inj hj
    · exact Or.inr (mem_eraseIdx_iff_getElem?.mpr ⟨j, hij, hj⟩)

lemma inOrder_step (s : Watcher F P M) (e : Event F) (s' : Watcher F P M) (h : InOrder s)
    (hok : OldestFirst s e) (hstep : step l s e = some s') : InOrder s' := by
  have hnum := numbered_step s e s' h.numbered hstep
  cases step_effect hstep with
  | same _ hloaded hlatest happlied hlive =>
    refine ⟨hnum, ?_, ?_, ?_⟩
    · rw [hloaded, happlied]
      exact h.newer
    · rw [hloaded, happlied, hlatest]
      exact h.latest
    · rw [happlied, hlatest]
      exact h.le_latest
  | read hnumber hloaded happlied hlive =>
    have hle := h.le_latest
    refine ⟨hnum, ?_, Or.inr (by simp [hloaded]), ?_⟩
    · rw [hloaded, happlied, forall_mem_cons]
      exact ⟨by omega, h.newer⟩
    · rw [happlied]
      omega
  | apply hrd hloaded hlatest happlied hlive =>
    obtain ⟨hnewer, hlast⟩ := h.apply hrd (hok _ hrd)
    refine ⟨hnum, ?_, ?_, ?_⟩
    · rwa [hloaded, happlied]
    · rwa [hloaded, happlied, hlatest]
    · rw [happlied, hlatest]
      exact h.numbered.le_latest _ (mem_of_getElem? hrd)

lemma InOrder.current (h : InOrder s) : Current s := by
  rintro ⟨-, -, hloaded⟩
  have heq : s.applied = s.latest := by simpa [hloaded] using h.latest
  exact ⟨heq, heq ▸ h.numbered.live⟩

lemma InOrder.newerKept (h : InOrder s) : NewerKept l s e := by
  intro s' hs'
  cases step_effect hs' with
  | same _ _ _ happlied _ => rw [happlied]
  | read _ _ happlied _ => rw [happlied]
  | apply hrd _ _ happlied _ =>
    rw [happlied]
    exact (h.newer _ (mem_of_getElem? hrd)).le

/-- A reload cannot be stopped, so no run in which all get to their end keeps the newer. -/
lemma not_newerKept_of_older {rd : Read (Config P M)} {t : Watcher F P M} {es : List (Event F)} :
    ∀ {s : Watcher F P M}, rd ∈ s.loaded → rd.number < s.applied.number →
      run (step l) s es = some t → t.loaded = [] → ¬ Along (step l) (NewerKept l) s es := by
  induction es with
  | nil =>
    intro s hmem _ hrun hdone _
    cases hrun
    simp [hdone] at hmem
  | cons e es ih =>
    intro s hmem hlt hrun hdone hkept
    obtain ⟨u, hu, hrun⟩ := run_cons.mp hrun
    rw [along_cons hu] at hkept
    have hle := hkept.1 u hu
    refine ih ?_ (hlt.trans_le hle) hrun hdone hkept.2
    cases step_effect hu with
    | same _ hloaded _ _ _ => rwa [hloaded]
    | read _ hloaded _ _ => simp [hloaded, hmem]
    | @apply i rd' hrd' hloaded _ happlied _ =>
      -- It has not been applied just now, for that would have overwritten the newer one.
      have hne : rd' ≠ rd := by
        rintro rfl
        rw [happlied] at hle
        omega
      obtain ⟨j, hj⟩ := mem_iff_getElem?.mp hmem
      rw [hloaded, mem_eraseIdx_iff_getElem?]
      refine ⟨j, ?_, hj⟩
      rintro rfl
      rw [hrd'] at hj
      exact hne (Option.some.inj hj)

lemma along_oldestFirst {t : Watcher F P M} {es : List (Event F)} :
    ∀ {s : Watcher F P M}, run (step l) s es = some t → t.loaded = [] →
      Along (step l) (NewerKept l) s es → Along (step l) OldestFirst s es := by
  induction es with
  | nil => exact fun _ _ _ => trivial
  | cons e es ih =>
    intro s hrun hdone hkept
    obtain ⟨u, hu, hrest⟩ := run_cons.mp hrun
    rw [along_cons hu] at hkept ⊢
    refine ⟨?_, ih hrest hdone hkept.2⟩
    cases e with
    | apply i =>
      intro rd hrd rd' hrd'
      by_contra hlt
      rw [not_le] at hlt
      cases step_effect hu with
      | same hother _ _ _ _ => exact hother i rfl
      | @apply _ rd₁ hrd₁ hloaded _ happlied _ =>
        obtain rfl : rd = rd₁ := Option.some.inj (hrd.symm.trans hrd₁)
        -- The older one is still to be applied, after `rd`.
        obtain ⟨j, hj⟩ := mem_iff_getElem?.mp hrd'
        have hij : j ≠ i := by
          rintro rfl
          rw [hrd] at hj
          cases hj
          exact lt_irrefl _ hlt
        have hmem : rd' ∈ u.loaded := by
          rw [hloaded]
          exact mem_eraseIdx_iff_getElem?.mpr ⟨j, hij, hj⟩
        exact not_newerKept_of_older hmem (happlied ▸ hlt) hrest hdone hkept.2
    | _ => trivial

/-- **The configuration read last is the one that stays**, in every run whose reloads apply in the
order in which they have read. In any other order an older one overwrites a newer one, provided that
all of them get to their end. -/
theorem latest_applied_iff_oldest_first {file : F} {cfg : Config P M} {es : List (Event F)}
    {s : Watcher F P M} (hrun : run (step l) (.start file cfg) es = some s) :
    (Along (step l) OldestFirst (.start file cfg) es →
      Current s ∧ Along (step l) (NewerKept l) (.start file cfg) es) ∧
    (s.loaded = [] → Along (step l) (NewerKept l) (.start file cfg) es →
      Along (step l) OldestFirst (.start file cfg) es) := by
  refine ⟨fun hok => ⟨?_, ?_⟩, fun hdone hkept => along_oldestFirst hrun hdone hkept⟩
  · exact (run_invariant inOrder_step (inOrder_start file cfg) hok hrun).current
  · exact along_of_invariant inOrder_step (fun s e h _ => h.newerKept) (inOrder_start file cfg) hok

end

/-! ## Two changes -/

def plainLoader : Loader (Config Unit fun _ => ℕ) (Config Unit fun _ => ℕ) where
  loadResolvedConfig := .ok
  validate := fun _ => []

def version (n : ℕ) : Config Unit fun _ => ℕ := fun _ => some [n]

def oneByOne : List (Event (Config Unit fun _ => ℕ)) :=
  [.change (version 1), .notify [.write], .fire, .read, .apply 0,
    .change (version 2), .notify [.write], .fire, .read, .apply 0]

def overlapping : List (Event (Config Unit fun _ => ℕ)) :=
  [.change (version 1), .notify [.write], .fire, .read,
    .change (version 2), .notify [.write], .fire, .read, .apply 0, .apply 0]

theorem latest_applied_iff_oldest_first_oneByOne :
    ∃ s, run (step plainLoader) (.start (version 0) (version 0)) oneByOne = some s ∧
      s.live () = [2] := by
  obtain ⟨s, hs⟩ : ∃ s, run (step plainLoader) (.start (version 0) (version 0)) oneByOne = some s :=
    ⟨_, rfl⟩
  have hcurrent := ((latest_applied_iff_oldest_first hs).1 (by decide)).1
  cases hs
  exact ⟨_, rfl, (hcurrent ⟨rfl, rfl, rfl⟩).2 () [2] rfl⟩

/-- In the end the servers have the mocks of the older version. -/
theorem older_overwrites_newer :
    ∃ s, run (step plainLoader) (.start (version 0) (version 0)) overlapping = some s ∧
      s.Settled ∧ s.latest.config () = some [2] ∧ s.live () = [1] ∧ ¬ Current s := by
  refine ⟨_, rfl, ⟨rfl, rfl, rfl⟩, rfl, rfl, fun hcurrent => ?_⟩
  have hlive := (hcurrent ⟨rfl, rfl, rfl⟩).2 () [2] rfl
  cases hlive

end Mockly.Watch
