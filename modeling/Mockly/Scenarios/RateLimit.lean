import Mockly.Scenarios.Store

/-!
# Rate limits

`RateLimited` starts over with a call that comes a second or more after the one it last started
with. So the end of one second it counts in and the beginning of the next can be full of calls.

Main results: **`atMost_iff`**, **`refused_only_when_full`**.
-/

namespace Mockly.ScenarioStore

open List Store

open Config (Protocol)

variable {F : Protocol → Type}

/-! ## The source -/

def windowAt (w : Option RateWindow) (now : ℤ) : RateWindow :=
  match w with
  | none => ⟨now, 0⟩
  | some w => if sub now w.start ≥ second then ⟨now, 0⟩ else w

def countCall (w : Option RateWindow) (now : ℤ) : RateWindow :=
  let w := windowAt w now
  { w with count := w.count + 1 }

/-- `RateLimited`; the clock is read at `now`. -/
def Store.rateLimited (s : Store F) (key : GoString) (requestsPerSecond now : ℤ) :
    Bool × Store F :=
  if requestsPerSecond ≤ 0 then (false, s)
  else
    let w := countCall (s.rateWindows.get? key) now
    (w.count > requestsPerSecond, { s with rateWindows := s.rateWindows.set key w })

/-! ## Runs -/

/-- A call of `RateLimited`. -/
structure Call where
  key : GoString
  requestsPerSecond : ℤ
  now : ℤ

/-- The calls one after the other, each with its result. -/
def Store.serve (s : Store F) : List Call → List (Call × Bool)
  | [] => []
  | c :: cs =>
    let (limited, s) := s.rateLimited c.key c.requestsPerSecond c.now
    (c, limited) :: s.serve cs

/-- A call with the key that is let through in the second that begins at `t`. -/
def PassedIn (key : GoString) (t : ℤ) (p : Call × Bool) : Prop :=
  p.1.key = key ∧ p.2 = false ∧ t ≤ p.1.now ∧ p.1.now < t + second

instance (key : GoString) (t : ℤ) : DecidablePred (PassedIn key t) := fun _ =>
  inferInstanceAs (Decidable (_ ∧ _))

/-- How many calls with the key are let through in the second that begins at `t`. -/
def Store.passedIn (s : Store F) (calls : List Call) (key : GoString) (t : ℤ) : ℤ :=
  ((s.serve calls).filter (PassedIn key t)).length

/-- Calls at non-decreasing clock readings, those with the key all with the same limit. -/
structure Steady (key : GoString) (r : ℤ) (calls : List Call) : Prop where
  ordered : calls.Pairwise fun c d => c.now ≤ d.now
  limit : ∀ c ∈ calls, c.key = key → c.requestsPerSecond = r

/-- In every second at most `b` calls with a key and the limit `r` are let through, whatever other
calls there are. -/
def AtMost (F : Protocol → Type) (r b : ℤ) : Prop :=
  ∀ (s : Store F) (key : GoString) (calls : List Call) (t : ℤ),
    s.rateWindows.get? key = none → Steady key r calls → s.passedIn calls key t ≤ b

/-! ## A counter, and what it has let through -/

/-- What is known when the counter of a key is `w`, the last call was at `last` and `n` calls were
let through in the second that begins at `t`. A window that began before that second has spent one
call on it at least. -/
structure Counted (r t : ℤ) (w : Option RateWindow) (last n : ℤ) : Prop where
  early : last < t → n = 0
  fresh : w = none → n = 0
  start_le : ∀ v ∈ w, v.start ≤ last
  count_pos : ∀ v ∈ w, 1 ≤ v.count
  before : ∀ v ∈ w, v.start < t → n ≤ min v.count r - 1
  within : ∀ v ∈ w, t ≤ v.start → v.start < t + second → n ≤ r - 1 + min v.count r
  most : n ≤ 2 * r - 1

lemma sub_ge_second_iff (now start : ℤ) : sub now start ≥ second ↔ now - start ≥ second := by
  simp only [sub, minInt64, maxInt64, second]
  omega

lemma countCall_near {v : RateWindow} {now : ℤ} (h : now - v.start < second) :
    countCall (some v) now = ⟨v.start, v.count + 1⟩ := by
  have hkeep : ¬sub now v.start ≥ second := by
    rw [sub_ge_second_iff]
    omega
  simp [countCall, windowAt, if_neg hkeep]

variable {w : Option RateWindow}

lemma countCall_far {now : ℤ} (h : ∀ v ∈ w, second ≤ now - v.start) :
    countCall w now = ⟨now, 1⟩ := by
  have hwindow : windowAt w now = ⟨now, 0⟩ := by
    cases w with
    | none => rfl
    | some v => exact if_pos ((sub_ge_second_iff _ _).mpr (h v rfl))
  rw [countCall, hwindow]
  rfl

section Step

variable {r t last n now : ℤ}

lemma Counted.call_near {v : RateWindow} (h : Counted r t (some v) last n) (hlast : last ≤ now) :
    Counted r t (some ⟨v.start, v.count + 1⟩) now
      (n + if v.count + 1 ≤ r ∧ t ≤ now ∧ now < t + second then 1 else 0) := by
  have hsecond : second = 1000000000 := rfl
  have hstart := h.start_le v rfl
  have hpos := h.count_pos v rfl
  have hearly := h.early
  have hbefore := h.before v rfl
  have hwithin := h.within v rfl
  have hmost := h.most
  split_ifs
  all_goals constructor
  all_goals try simp only [Option.mem_some_iff, forall_eq', reduceCtorEq, false_implies]
  all_goals omega

lemma Counted.call_far (hr : 0 < r) (h : Counted r t w last n) (hlast : last ≤ now)
    (hfar : ∀ v ∈ w, second ≤ now - v.start) :
    Counted r t (some ⟨now, 1⟩) now
      (n + if 1 ≤ r ∧ t ≤ now ∧ now < t + second then 1 else 0) := by
  have hsecond : second = 1000000000 := rfl
  have hearly := h.early
  have hmost := h.most
  -- What was let through in the second was let through in the window before.
  have hold : t ≤ now → now < t + second → n ≤ r - 1 := by
    intro hle hlt
    cases hw : w with
    | none =>
      have := h.fresh hw
      omega
    | some v =>
      have := h.before v hw
      have := hfar v hw
      omega
  split_ifs
  all_goals constructor
  all_goals try simp only [Option.mem_some_iff, forall_eq', reduceCtorEq, false_implies]
  all_goals omega

/-- **A call with the key.** -/
lemma Counted.call (hr : 0 < r) (h : Counted r t w last n) (hlast : last ≤ now) :
    Counted r t (some (countCall w now)) now
      (n + if (countCall w now).count ≤ r ∧ t ≤ now ∧ now < t + second then 1 else 0) := by
  by_cases hfar : ∀ v ∈ w, second ≤ now - v.start
  · rw [countCall_far hfar]
    exact h.call_far hr hlast hfar
  · push Not at hfar
    obtain ⟨v, rfl, hnear⟩ := hfar
    rw [countCall_near hnear]
    exact h.call_near hlast

end Step

/-! ## No more than `2 * r - 1` -/

variable {calls : List Call}

section Runs

variable {s : Store F} {key : GoString} {r t : ℤ}

lemma passedIn_cons (s : Store F) (c : Call) (cs : List Call) (key : GoString) (t : ℤ) :
    s.passedIn (c :: cs) key t =
      (if PassedIn key t (c, (s.rateLimited c.key c.requestsPerSecond c.now).1) then 1 else 0) +
        (s.rateLimited c.key c.requestsPerSecond c.now).2.passedIn cs key t := by
  rw [passedIn, passedIn, serve, filter_cons]
  split_ifs with hpassed hpassed' hpassed'
  · rw [length_cons]
    push_cast
    ring
  · simp [hpassed'] at hpassed
  · simp [hpassed'] at hpassed
  · rw [zero_add]

lemma rateLimited_key (hr : 0 < r) (now : ℤ) :
    s.rateLimited key r now =
      (decide ((countCall (s.rateWindows.get? key) now).count > r),
        { s with rateWindows :=
            s.rateWindows.set key (countCall (s.rateWindows.get? key) now) }) := by
  rw [rateLimited, if_neg (by omega)]

lemma rateLimited_other {c : Call} (h : c.key ≠ key) :
    (s.rateLimited c.key c.requestsPerSecond c.now).2.rateWindows.get? key =
      s.rateWindows.get? key := by
  rw [rateLimited]
  split_ifs
  · rfl
  · exact GoMap.get?_set_ne _ _ h.symm

lemma passedIn_key (s : Store F) (key : GoString) (hr : 0 < r) (now : ℤ) (cs : List Call)
    (t : ℤ) : ∃ s' : Store F,
      s'.rateWindows.get? key = some (countCall (s.rateWindows.get? key) now) ∧
      s.passedIn (⟨key, r, now⟩ :: cs) key t =
        (if (countCall (s.rateWindows.get? key) now).count ≤ r ∧ t ≤ now ∧ now < t + second
          then 1 else 0) + s'.passedIn cs key t := by
  refine ⟨(s.rateLimited key r now).2, ?_, ?_⟩
  · rw [rateLimited_key hr]
    exact GoMap.get?_set_self _ _ _
  rw [passedIn_cons]
  dsimp only
  rw [rateLimited_key hr]
  simp [PassedIn]

/-- **The run**: what is let through is within the bound, from any counter on. -/
lemma passedIn_le {last n : ℤ} (hr : 0 < r) (hw : s.rateWindows.get? key = w)
    (hlast : ∀ c ∈ calls, last ≤ c.now) (hcalls : Steady key r calls) (h : Counted r t w last n) :
    n + s.passedIn calls key t ≤ 2 * r - 1 := by
  induction calls generalizing s w last n with
  | nil =>
    have hmost := h.most
    have hnone : s.passedIn [] key t = 0 := rfl
    omega
  | cons c cs ih =>
    obtain ⟨hordered, hlimit⟩ := hcalls
    rw [pairwise_cons] at hordered
    rw [forall_mem_cons] at hlast hlimit
    have hrest : Steady key r cs := ⟨hordered.2, hlimit.2⟩
    by_cases hkey : c.key = key
    · obtain ⟨s', hs', hpassed⟩ := passedIn_key s key hr c.now cs t
      have hc : c = ⟨key, r, c.now⟩ := by
        rw [← hkey, ← hlimit.1 hkey]
      rw [← hc, hw] at hpassed
      rw [hw] at hs'
      rw [hpassed, ← add_assoc]
      exact ih hs' hordered.1 hrest (h.call hr hlast.1)
    · have hnot : ¬PassedIn key t (c, (s.rateLimited c.key c.requestsPerSecond c.now).1) :=
        fun hp => hkey hp.1
      rw [passedIn_cons, if_neg hnot, zero_add]
      exact ih ((rateLimited_other hkey).trans hw) hlast.2 hrest h

lemma counted_none (hr : 0 < r) (t last : ℤ) : Counted r t none last 0 := by
  constructor
  all_goals try simp
  omega

/-! ## As many as `2 * r - 1` -/

lemma passedIn_burst (hr : 0 < r) (t now : ℤ) {start count : ℤ}
    (hnear : now - start < second) (hle : t ≤ now) (hlt : now < t + second) (m : ℕ)
    (hcount : count + m ≤ r) (hs : s.rateWindows.get? key = some ⟨start, count⟩)
    (rest : List Call) :
    ∃ s' : Store F, s'.rateWindows.get? key = some ⟨start, count + m⟩ ∧
      s.passedIn (List.replicate m ⟨key, r, now⟩ ++ rest) key t = m + s'.passedIn rest key t := by
  induction m generalizing s count with
  | zero => exact ⟨s, by simpa using hs, by simp⟩
  | succ m ih =>
    push_cast at hcount ⊢
    have hwindow : countCall (some ⟨start, count⟩) now = ⟨start, count + 1⟩ :=
      countCall_near hnear
    obtain ⟨s₁, hs₁, hfirst⟩ :=
      passedIn_key s key hr now (List.replicate m ⟨key, r, now⟩ ++ rest) t
    rw [hs, hwindow] at hs₁ hfirst
    rw [if_pos ⟨by dsimp only; omega, hle, hlt⟩] at hfirst
    obtain ⟨s₂, hs₂, hothers⟩ := ih (by omega) hs₁
    refine ⟨s₂, by rw [hs₂]; congr 2; ring, ?_⟩
    rw [replicate_succ, cons_append, hfirst, hothers]
    ring

end Runs

/-- A call, as many more as the limit lets through at the end of its second, and as many as the
limit lets through at the beginning of the next. -/
def straddling (key : GoString) (r : ℤ) : List Call :=
  ⟨key, r, 0⟩ :: (List.replicate (r - 1).toNat ⟨key, r, second - 1⟩ ++
    (⟨key, r, second⟩ :: (List.replicate (r - 1).toNat ⟨key, r, second⟩ ++ [])))

lemma steady_straddling (key : GoString) (r : ℤ) : Steady key r (straddling key r) := by
  constructor
  · simp only [straddling, append_nil, pairwise_cons, pairwise_append,
      pairwise_replicate, mem_cons, mem_append, mem_replicate, second]
    grind
  · simp only [straddling, append_nil, mem_cons, mem_append, mem_replicate]
    rintro c (rfl | ⟨-, rfl⟩ | rfl | ⟨-, rfl⟩) - <;> rfl

/-- Between them the two seconds let `2 * r - 1` calls through within one. -/
lemma passedIn_straddling {r : ℤ} (hr : 0 < r) (key : GoString) :
    ({} : Store F).passedIn (straddling key r) key (second - 1) = 2 * r - 1 := by
  have hsecond : second = 1000000000 := rfl
  have hempty : ({} : Store F).rateWindows.get? key = none := rfl
  obtain ⟨s₁, hs₁, h₁⟩ := passedIn_key ({} : Store F) key hr 0
    (straddling key r).tail (second - 1)
  rw [hempty] at hs₁ h₁
  have hfirst : countCall none 0 = ⟨0, 1⟩ := rfl
  rw [hfirst] at hs₁
  rw [if_neg (by omega)] at h₁
  obtain ⟨s₂, hs₂, h₂⟩ := passedIn_burst hr (second - 1) (second - 1) (by omega) le_rfl
    (by omega) (r - 1).toNat (by omega) hs₁
    (⟨key, r, second⟩ :: (List.replicate (r - 1).toNat ⟨key, r, second⟩ ++ []))
  obtain ⟨s₃, hs₃, h₃⟩ := passedIn_key s₂ key hr second
    (List.replicate (r - 1).toNat ⟨key, r, second⟩ ++ []) (second - 1)
  rw [hs₂] at hs₃ h₃
  have hreset (count : ℤ) : countCall (some ⟨0, count⟩) second = ⟨second, 1⟩ := rfl
  rw [hreset] at hs₃ h₃
  rw [if_pos ⟨by dsimp only; omega, by omega, by omega⟩] at h₃
  obtain ⟨s₄, -, h₄⟩ := passedIn_burst hr (second - 1) second (by omega) (by omega)
    (by omega) (r - 1).toNat (by omega) hs₃ []
  have hnone : s₄.passedIn [] key (second - 1) = 0 := rfl
  have hall : ({} : Store F).passedIn (straddling key r) key (second - 1) =
      0 + ((r - 1).toNat + (1 + ((r - 1).toNat + 0))) := by
    rw [← hnone, ← h₄, ← h₃, ← h₂]
    exact h₁
  rw [hall]
  omega

/-- **What a limit of `r` calls in a second amounts to.** -/
theorem atMost_iff (F : Protocol → Type) (r : ℤ) (hr : 0 < r) :
    (∀ b, AtMost F r b ↔ 2 * r - 1 ≤ b) ∧ (AtMost F r r ↔ r = 1) := by
  have hbound (b : ℤ) : AtMost F r b ↔ 2 * r - 1 ≤ b := by
    constructor
    · intro h
      have hrun := h {} [] (straddling [] r) (second - 1) rfl (steady_straddling [] r)
      rwa [passedIn_straddling hr] at hrun
    · intro hb s key calls t hs hcalls
      obtain ⟨last, hlast⟩ : ∃ last, ∀ c ∈ calls, last ≤ c.now := by
        cases calls with
        | nil => exact ⟨0, by simp⟩
        | cons c cs =>
          have hordered := (List.pairwise_cons.mp hcalls.ordered).1
          exact ⟨c.now, List.forall_mem_cons.mpr ⟨le_rfl, hordered⟩⟩
      have hrun := passedIn_le hr hs hlast hcalls (counted_none hr t last)
      omega
  refine ⟨hbound, ?_⟩
  rw [hbound]
  omega

/-- A limit of one is kept. -/
theorem atMost_one : AtMost (fun _ => Unit) 1 1 :=
  ((atMost_iff (fun _ => Unit) 1 one_pos).2).mpr rfl

/-- A limit of two: three calls within two nanoseconds, at the end of one second and the beginning
of the next. -/
theorem three_passed_of_two :
    ({} : Store fun _ => Unit).passedIn
      [⟨go "k", 2, 0⟩, ⟨go "k", 2, second - 1⟩, ⟨go "k", 2, second⟩, ⟨go "k", 2, second⟩] (go "k")
      (second - 1) = 3 := by
  decide

/-! ## No call is refused early -/

def Store.after (s : Store F) (calls : List Call) : Store F :=
  calls.foldl (fun s c => (s.rateLimited c.key c.requestsPerSecond c.now).2) s

lemma countCall_cases (w : Option RateWindow) (now : ℤ) : countCall w now = ⟨now, 1⟩ ∨
    ∃ v ∈ w, now - v.start < second ∧ countCall w now = ⟨v.start, v.count + 1⟩ := by
  by_cases hfar : ∀ v ∈ w, second ≤ now - v.start
  · exact .inl (countCall_far hfar)
  · push Not at hfar
    obtain ⟨v, rfl, hnear⟩ := hfar
    exact .inr ⟨v, rfl, hnear, countCall_near hnear⟩

/-- What is known of a counter before the calls when `n` calls were let through in the second that
begins at `t`: what it has counted since `t` was let through, up to the limit. -/
structure LetThrough (r t : ℤ) (w : Option RateWindow) (calls : List Call) (n : ℤ) : Prop where
  nonneg : 0 ≤ n
  start_le : ∀ v ∈ w, ∀ c ∈ calls, v.start ≤ c.now
  counted : ∀ v ∈ w, t ≤ v.start → min v.count r ≤ n

lemma LetThrough.call {r t n : ℤ} {c : Call} (h : LetThrough r t w (c :: calls) n)
    (hordered : ∀ d ∈ calls, c.now ≤ d.now) (hlt : c.now < t + second) :
    LetThrough r t (some (countCall w c.now)) calls
      (n + if (countCall w c.now).count ≤ r ∧ t ≤ c.now ∧ c.now < t + second then 1 else 0) := by
  have hn := h.nonneg
  obtain heq | ⟨v, hv, hnear, heq⟩ := countCall_cases w c.now
  · rw [heq]
    constructor
    all_goals grind
  · have hstart := h.start_le v hv
    have hcounted := h.counted v hv
    rw [heq]
    constructor
    all_goals grind

/-- **The run**, by induction on the calls before the one that is refused. -/
lemma le_passedIn_of_refused {s : Store F} {key : GoString} {r n now : ℤ} (hr : 0 < r)
    (hcalls : Steady key r calls) (hnow : ∀ c ∈ calls, c.now ≤ now)
    (hrefused : ((s.after calls).rateLimited key r now).1 = true)
    (h : LetThrough r (now - second + 1) (s.rateWindows.get? key) calls n) :
    r ≤ n + s.passedIn calls key (now - second + 1) := by
  induction calls generalizing s n with
  | nil =>
    have hnone : s.passedIn [] key (now - second + 1) = 0 := rfl
    rw [rateLimited_key hr, decide_eq_true_eq] at hrefused
    obtain heq | ⟨v, hv, hnear, heq⟩ := countCall_cases ((s.after []).rateWindows.get? key) now
    · simp only [heq] at hrefused
      omega
    · have hcounted := h.counted v hv (by omega)
      simp only [heq] at hrefused
      omega
  | cons c calls ih =>
    obtain ⟨hordered, hlimit⟩ := hcalls
    rw [pairwise_cons] at hordered
    rw [forall_mem_cons] at hlimit hnow
    have hrest : Steady key r calls := ⟨hordered.2, hlimit.2⟩
    rw [passedIn_cons, ← add_assoc]
    by_cases hkey : c.key = key
    · subst hkey
      have hcall : s.rateLimited c.key r c.now = _ := rateLimited_key hr c.now
      refine ih hrest hnow.2 hrefused ?_
      rw [hlimit.1 rfl, hcall, GoMap.get?_set_self]
      simpa [PassedIn] using h.call hordered.1 (by omega)
    · have hnot : ¬PassedIn key (now - second + 1)
          (c, (s.rateLimited c.key c.requestsPerSecond c.now).1) := fun hp => hkey hp.1
      rw [if_neg hnot, add_zero]
      rw [← rateLimited_other hkey] at h
      exact ih hrest hnow.2 hrefused
        ⟨h.nonneg, fun v hv d hd => h.start_le v hv d (mem_cons_of_mem c hd), h.counted⟩

/-- **A call is refused only if as many as the limit allows were let through in the second up to
it**, whatever other calls there were. -/
theorem refused_only_when_full (s : Store F) (key : GoString) (r now : ℤ) (calls : List Call)
    (hr : 0 < r) (hs : s.rateWindows.get? key = none) (hcalls : Steady key r calls)
    (hnow : ∀ c ∈ calls, c.now ≤ now)
    (hrefused : ((s.after calls).rateLimited key r now).1 = true) :
    r ≤ s.passedIn calls key (now - second + 1) := by
  have hrun := le_passedIn_of_refused hr hcalls hnow hrefused
    ⟨le_rfl, by simp [hs], by simp [hs]⟩
  rwa [zero_add] at hrun

theorem refused_only_when_full_twice :
    1 ≤ ({} : Store fun _ => Unit).passedIn [⟨[], 1, 0⟩] [] (5 - second + 1) :=
  refused_only_when_full {} [] 1 5 [⟨[], 1, 0⟩] (by decide) rfl
    ⟨pairwise_singleton _ _, by simp⟩ (by simp) rfl

end Mockly.ScenarioStore
