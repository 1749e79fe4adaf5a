import Mathlib

/-!
# Parsers that keep account of what they ask for

Demands for memory or for one more round of a loop are noted with the number of bytes that are still
unread; one is backed if there are that many. `Wp` is a weakest precondition.
-/

/-- A demand that is made of the machine, and the bytes that are unread by then. -/
structure Demand where
  amount : ℤ
  left : ℕ
  deriving DecidableEq

/-- There are as many bytes left as are asked for. -/
def Demand.Backed (d : Demand) : Prop := 0 ≤ d.amount ∧ d.amount ≤ d.left

def Demand.total (ds : List Demand) : ℤ := (ds.map amount).sum

structure Parsed (α : Type) where
  value : α
  unread : List UInt8
  demands : List Demand
  deriving DecidableEq

/-- From what is unread to a value, or an error. -/
def Parser (ε α : Type) : Type := List UInt8 → Except ε (Parsed α)

namespace Parser

open Demand

open List

variable {ε α β : Type}

def andThen (p : Parser ε α) (f : α → Parser ε β) : Parser ε β := fun r =>
  match p r with
  | .error e => .error e
  | .ok o =>
    match f o.value o.unread with
    | .error e => .error e
    | .ok o' => .ok ⟨o'.value, o'.unread, o.demands ++ o'.demands⟩

instance : Monad (Parser ε) where
  pure a := fun r => .ok ⟨a, r, []⟩
  bind := andThen

def fail (e : ε) : Parser ε α := fun _ => .error e

/-- Up to `n` bytes. -/
def upTo (n : ℕ) : Parser ε (List UInt8) := fun r => .ok ⟨r.take n, r.drop n, []⟩

def demand (n : ℤ) : Parser ε Unit := fun r => .ok ⟨(), r, [⟨n, r.length⟩]⟩

/-- What another parser makes of the bytes `bs`. -/
def within (bs : List UInt8) (p : Parser ε α) : Parser ε α := fun r =>
  match p bs with
  | .error e => .error e
  | .ok o => .ok ⟨o.value, r, o.demands⟩

def times (p : Parser ε α) : ℕ → Parser ε (List α)
  | 0 => pure []
  | n + 1 => do
      let a ← p
      let as ← times p n
      pure (a :: as)

/-- Again and again, unless a round puts an end to it; with what the rounds have collected. -/
def rounds (p : Parser ε (List α × Bool)) : ℕ → Parser ε (List α × Bool)
  | 0 => pure ([], true)
  | n + 1 => do
      let a ← p
      if a.2 then
        let as ← rounds p n
        pure (a.1 ++ as.1, as.2)
      else pure a

/-- The outcome of what follows, with the demands made before. -/
def Parsed.after (ds : List Demand) (o : Parsed α) : Parsed α :=
  ⟨o.value, o.unread, ds ++ o.demands⟩

variable {r : List UInt8}

variable {p : Parser ε α}

lemma bind_apply_of_ok {o : Parsed α} (h : p r = .ok o) (f : α → Parser ε β) :
    (p >>= f) r = (f o.value o.unread).map (Parsed.after o.demands) := by
  change andThen p f r = _
  simp only [andThen, h]
  cases f o.value o.unread <;> rfl

variable {f : α → Parser ε β}

lemma bind_apply_eq_ok {o : Parsed β} (h : (p >>= f) r = .ok o) :
    ∃ o₁ o₂, p r = .ok o₁ ∧ f o₁.value o₁.unread = .ok o₂ ∧
      o = ⟨o₂.value, o₂.unread, o₁.demands ++ o₂.demands⟩ := by
  change andThen p f r = _ at h
  unfold andThen at h
  cases hp : p r with
  | error e =>
    rw [hp] at h
    cases h
  | ok o₁ =>
    rw [hp] at h
    cases hf : f o₁.value o₁.unread with
    | error e =>
      simp only [hf] at h
      cases h
    | ok o₂ =>
      simp only [hf] at h
      cases h
      exact ⟨o₁, o₂, rfl, hf, rfl⟩

/-! ## What is read -/

/-- On `r` the parser ends with `a`, and leaves `r'` unread. -/
def Runs (p : Parser ε α) (r : List UInt8) (a : α) (r' : List UInt8) : Prop :=
  ∃ ds, p r = .ok ⟨a, r', ds⟩

variable {a : α} {r' : List UInt8}

lemma runs_pure {b : α} : Runs (pure a : Parser ε α) r b r' ↔ b = a ∧ r' = r := by
  constructor
  · rintro ⟨ds, ⟨⟩⟩
    exact ⟨rfl, rfl⟩
  · rintro ⟨rfl, rfl⟩
    exact ⟨[], rfl⟩

variable {b : β}

lemma runs_bind {r'' : List UInt8} :
    Runs (p >>= f) r b r'' ↔ ∃ a r', Runs p r a r' ∧ Runs (f a) r' b r'' := by
  constructor
  · rintro ⟨ds, h⟩
    obtain ⟨o₁, o₂, h₁, h₂, ho⟩ := bind_apply_eq_ok h
    cases ho
    exact ⟨o₁.value, o₁.unread, ⟨o₁.demands, h₁⟩, o₂.demands, h₂⟩
  · rintro ⟨a, r', ⟨ds₁, h₁⟩, ds₂, h₂⟩
    refine ⟨ds₁ ++ ds₂, ?_⟩
    rw [bind_apply_of_ok h₁, h₂]
    rfl

lemma not_runs_fail {e : ε} : ¬Runs (fail e : Parser ε α) r a r' := by
  rintro ⟨ds, ⟨⟩⟩

variable {n : ℕ} {bs : List UInt8}

lemma runs_upTo :
    Runs (upTo n : Parser ε (List UInt8)) r bs r' ↔ bs = r.take n ∧ r' = r.drop n := by
  constructor
  · rintro ⟨ds, ⟨⟩⟩
    exact ⟨rfl, rfl⟩
  · rintro ⟨rfl, rfl⟩
    exact ⟨[], rfl⟩

lemma Runs.unique {r₁ r₂ : List UInt8} {a₁ a₂ : α} (h₁ : Runs p r a₁ r₁) (h₂ : Runs p r a₂ r₂) :
    a₁ = a₂ ∧ r₁ = r₂ := by
  obtain ⟨ds₁, h₁⟩ := h₁
  obtain ⟨ds₂, h₂⟩ := h₂
  cases h₁.symm.trans h₂
  exact ⟨rfl, rfl⟩

/-- The parser reads the bytes `e` as `a`. -/
def Reads (p : Parser ε α) (e : List UInt8) (a : α) : Prop := ∀ rest, Runs p (e ++ rest) a rest

lemma reads_pure (a : α) : Reads (pure a : Parser ε α) [] a := fun _ => ⟨[], rfl⟩

lemma Reads.bind {e e' : List UInt8} (hp : Reads p e a) (hf : Reads (f a) e' b) :
    Reads (p >>= f) (e ++ e') b := by
  intro rest
  rw [append_assoc, runs_bind]
  exact ⟨a, e' ++ rest, hp (e' ++ rest), hf rest⟩

lemma Reads.bind_pure {e : List UInt8} (hp : Reads p e a) (hf : Reads (f a) [] b) :
    Reads (p >>= f) e b := by
  have h := hp.bind hf
  rwa [append_nil] at h

lemma Reads.of_nil {e : List UInt8} (hp : Reads p [] a) (hf : Reads (f a) e b) :
    Reads (p >>= f) e b :=
  hp.bind hf

lemma reads_demand (n : ℤ) : Reads (demand n : Parser ε Unit) [] () := fun _ => ⟨_, rfl⟩

lemma reads_upTo (h : bs.length = n) : Reads (upTo n : Parser ε (List UInt8)) bs bs := by
  intro rest
  rw [runs_upTo, take_left' h, drop_left' h]
  exact ⟨rfl, rfl⟩

lemma Reads.within {rest : List UInt8} (hp : Reads p bs a) :
    Reads (within (bs ++ rest) p) [] a := by
  intro r
  obtain ⟨ds, hds⟩ := hp rest
  exact ⟨ds, by simp [Parser.within, hds]⟩

variable {γ : Type}

lemma reads_times {xs : List γ} {e : γ → List UInt8} {a : γ → α}
    (h : ∀ x ∈ xs, Reads p (e x) (a x)) :
    Reads (times p xs.length) (xs.flatMap e) (xs.map a) := by
  induction xs with
  | nil => exact reads_pure []
  | cons x xs ih =>
    rw [forall_mem_cons] at h
    exact h.1.bind ((ih h.2).bind_pure (reads_pure _))

lemma reads_rounds {p : Parser ε (List α × Bool)} {xs : List γ} {e : γ → List UInt8}
    {as : γ → List α} (h : ∀ x ∈ xs, Reads p (e x) (as x, true)) :
    Reads (rounds p xs.length) (xs.flatMap e) (xs.flatMap as, true) := by
  induction xs with
  | nil => exact reads_pure _
  | cons x xs ih =>
    rw [forall_mem_cons] at h
    exact h.1.bind ((ih h.2).bind_pure (reads_pure _))

/-- Within the bytes `e` the parser puts an end to the rounds. -/
def Stops (p : Parser ε (List α × Bool)) (e : List UInt8) : Prop :=
  ∀ rest, ∃ as r, Runs p (e ++ rest) (as, false) r

lemma Reads.bind_stops {p : Parser ε γ} {f : γ → Parser ε (List α × Bool)} {e e' : List UInt8}
    {a : γ} (hp : Reads p e a) (hf : Stops (f a) e') : Stops (p >>= f) (e ++ e') := by
  intro rest
  obtain ⟨as, r, h⟩ := hf rest
  rw [append_assoc]
  exact ⟨as, r, runs_bind.mpr ⟨a, e' ++ rest, hp _, h⟩⟩

lemma stops_rounds {p : Parser ε (List α × Bool)} {xs : List γ} {e : γ → List UInt8}
    (h : ∀ x ∈ xs, (∃ as, Reads p (e x) (as, true)) ∨ Stops p (e x))
    (hstop : ∃ x ∈ xs, Stops p (e x)) : Stops (rounds p xs.length) (xs.flatMap e) := by
  induction xs with
  | nil =>
    obtain ⟨x, hx, -⟩ := hstop
    cases hx
  | cons x xs ih =>
    rw [forall_mem_cons] at h
    intro rest
    rw [flatMap_cons, append_assoc]
    by_cases hx : Stops p (e x)
    · obtain ⟨as, r, hruns⟩ := hx (xs.flatMap e ++ rest)
      exact ⟨as, r, runs_bind.mpr ⟨_, _, hruns, runs_pure.mpr ⟨rfl, rfl⟩⟩⟩
    · obtain ⟨as, hreads⟩ := h.1.resolve_right hx
      obtain ⟨y, hy, hyStop⟩ := hstop
      have hmem : y ∈ xs := (mem_cons.mp hy).resolve_left fun hxy => hx (hxy ▸ hyStop)
      obtain ⟨bs, r, hruns⟩ := ih h.2 ⟨y, hmem, hyStop⟩ rest
      refine ⟨as ++ bs, r, runs_bind.mpr ⟨_, _, hreads _, ?_⟩⟩
      exact runs_bind.mpr ⟨_, _, hruns, runs_pure.mpr ⟨rfl, rfl⟩⟩

/-! ## Weakest preconditions -/

/-- `Q` is about the value, what is unread and the sum of the demands. -/
def Wp (p : Parser ε α) (r : List UInt8) (Q : α → List UInt8 → ℤ → Prop) : Prop :=
  ∃ o, p r = .ok o ∧ (∀ d ∈ o.demands, d.Backed) ∧ Q o.value o.unread (total o.demands)

/-- The parser does not fail, and its demands are backed. -/
def Safe (p : Parser ε α) (r : List UInt8) : Prop := Wp p r fun _ _ _ => True

variable {Q : α → List UInt8 → ℤ → Prop}

lemma Wp.mono {Q' : α → List UInt8 → ℤ → Prop} (h : Wp p r Q)
    (hQ : ∀ a r' k, Q a r' k → Q' a r' k) :
    Wp p r Q' := by
  obtain ⟨o, ho, hds, hq⟩ := h
  exact ⟨o, ho, hds, hQ _ _ _ hq⟩

lemma Wp.and {Q' : α → List UInt8 → ℤ → Prop} (h : Wp p r Q) (h' : Wp p r Q') :
    Wp p r fun a r' k => Q a r' k ∧ Q' a r' k := by
  obtain ⟨o, ho, hds, hq⟩ := h
  obtain ⟨o', ho', -, hq'⟩ := h'
  cases ho.symm.trans ho'
  exact ⟨o, ho, hds, hq, hq'⟩

lemma Wp.safe (h : Wp p r Q) : Safe p r :=
  h.mono fun _ _ _ _ => trivial

@[simp] lemma wp_pure : Wp (pure a : Parser ε α) r Q ↔ Q a r 0 := by
  constructor
  · rintro ⟨o, ⟨⟩, -, hq⟩
    exact hq
  · intro h
    exact ⟨_, rfl, by simp, h⟩

@[simp] lemma wp_bind {Q : β → List UInt8 → ℤ → Prop} :
    Wp (p >>= f) r Q ↔ Wp p r fun a r' k => Wp (f a) r' fun b r'' k' => Q b r'' (k + k') := by
  constructor
  · rintro ⟨o, ho, hds, hq⟩
    obtain ⟨o₁, o₂, h₁, h₂, rfl⟩ := bind_apply_eq_ok ho
    simp only [forall_mem_append] at hds
    refine ⟨o₁, h₁, hds.1, o₂, h₂, hds.2, ?_⟩
    simpa [total] using hq
  · rintro ⟨o₁, h₁, hds₁, o₂, h₂, hds₂, hq⟩
    refine ⟨Parsed.after o₁.demands o₂, ?_, forall_mem_append.mpr ⟨hds₁, hds₂⟩, ?_⟩
    · rw [bind_apply_of_ok h₁, h₂]
      rfl
    · simpa [total, Parsed.after] using hq

@[simp] lemma wp_upTo {Q : List UInt8 → List UInt8 → ℤ → Prop} :
    Wp (upTo n : Parser ε (List UInt8)) r Q ↔ Q (r.take n) (r.drop n) 0 := by
  constructor
  · rintro ⟨o, ⟨⟩, -, hq⟩
    exact hq
  · intro h
    exact ⟨_, rfl, by simp, h⟩

@[simp] lemma wp_demand {n : ℤ} {Q : Unit → List UInt8 → ℤ → Prop} :
    Wp (demand n : Parser ε Unit) r Q ↔ (0 ≤ n ∧ n ≤ r.length) ∧ Q () r n := by
  constructor
  · rintro ⟨o, ⟨⟩, hds, hq⟩
    exact ⟨hds _ (mem_singleton_self _), by simpa [total] using hq⟩
  · rintro ⟨hn, hq⟩
    exact ⟨_, rfl, by simpa [Demand.Backed] using hn, by simpa [total] using hq⟩

@[simp] lemma wp_within : Wp (within bs p) r Q ↔ Wp p bs fun a _ k => Q a r k := by
  constructor
  · rintro ⟨o, ho, hds, hq⟩
    unfold within at ho
    cases hp : p bs with
    | error e =>
      rw [hp] at ho
      cases ho
    | ok o' =>
      rw [hp] at ho
      cases ho
      exact ⟨o', hp, hds, hq⟩
  · rintro ⟨o, ho, hds, hq⟩
    exact ⟨⟨o.value, r, o.demands⟩, by simp [within, ho], hds, hq⟩

@[simp] lemma wp_times_zero {Q : List α → List UInt8 → ℤ → Prop} : Wp (times p 0) r Q ↔ Q [] r 0 :=
  wp_pure

lemma wp_times_succ {Q : List α → List UInt8 → ℤ → Prop} :
    Wp (times p (n + 1)) r Q ↔
      Wp p r fun a r' k => Wp (times p n) r' fun as r'' k' => Q (a :: as) r'' (k + k') := by
  simp [times]

@[simp] lemma wp_rounds_zero {p : Parser ε (List α × Bool)}
    {Q : List α × Bool → List UInt8 → ℤ → Prop} : Wp (rounds p 0) r Q ↔ Q ([], true) r 0 :=
  wp_pure

lemma wp_rounds_succ {p : Parser ε (List α × Bool)} {Q : List α × Bool → List UInt8 → ℤ → Prop} :
    Wp (rounds p (n + 1)) r Q ↔
      Wp p r fun a r' k =>
        if a.2 then Wp (rounds p n) r' fun as r'' k' => Q (a.1 ++ as.1, as.2) r'' (k + k')
        else Q a r' k := by
  rw [rounds, wp_bind]
  refine iff_of_eq (congrArg _ ?_)
  funext a r' k
  split_ifs <;> simp

/-! ## What the demands sum up to -/

/-- As long as its demands are backed, the parser asks for at most `c` for each byte it reads. -/
def Frugal (c : ℕ) (p : Parser ε α) : Prop :=
  ∀ r, Safe p r → Wp p r fun _ r' k => k + c * r'.length ≤ c * r.length

lemma frugal_pure (c : ℕ) (a : α) : Frugal c (pure a : Parser ε α) := by
  intro r _
  rw [wp_pure]
  omega

variable {c : ℕ}

lemma Frugal.bind (hp : Frugal c p) (hf : ∀ a, Frugal c (f a)) : Frugal c (p >>= f) := by
  intro r hsafe
  rw [Safe, wp_bind] at hsafe
  rw [wp_bind]
  refine (hsafe.and (hp r hsafe.safe)).mono fun a r' k ⟨hs, hk⟩ => ?_
  refine (hf a r' hs).mono fun b r'' k' hk' => ?_
  omega

lemma Frugal.times (hp : Frugal c p) (n : ℕ) : Frugal c (times p n) := by
  induction n with
  | zero => exact frugal_pure c _
  | succ n ih => exact hp.bind fun a => ih.bind fun as => frugal_pure c _

lemma Frugal.rounds {p : Parser ε (List α × Bool)} (hp : Frugal c p) (n : ℕ) :
    Frugal c (rounds p n) := by
  induction n with
  | zero => exact frugal_pure c _
  | succ n ih =>
    refine hp.bind fun a => ?_
    split_ifs
    · exact ih.bind fun as => frugal_pure c _
    · exact frugal_pure c _

/-- There is one left over for each byte: enough for a round of a loop, if there is a byte. -/
def Pays (c : ℕ) (p : Parser ε α) : Prop :=
  ∀ r, r ≠ [] → Safe p r → Wp p r fun _ r' k => 1 + k + c * r'.length ≤ c * r.length

lemma Pays.bind (hp : Pays c p) (hf : ∀ a, Frugal c (f a)) : Pays c (p >>= f) := by
  intro r hr hsafe
  rw [Safe, wp_bind] at hsafe
  rw [wp_bind]
  refine (hsafe.and (hp r hr hsafe.safe)).mono fun a r' k ⟨hs, hk⟩ => ?_
  refine (hf a r' hs).mono fun b r'' k' hk' => ?_
  omega

/-- **A round of a loop** is paid for by what is read in it. -/
lemma Pays.round (hp : Pays c p) : Frugal c (demand 1 >>= fun _ => p) := by
  intro r hsafe
  rw [Safe, wp_bind, wp_demand] at hsafe
  rw [wp_bind, wp_demand]
  have hne : r ≠ [] := by
    rintro rfl
    simp at hsafe
  refine ⟨hsafe.1, (hp r hne hsafe.2).mono fun a r' k hk => ?_⟩
  omega

/-- The same with one more for each byte there is: enough for one demand at the start. -/
def Affordable (c : ℕ) (p : Parser ε α) : Prop :=
  ∀ r, Safe p r → Wp p r fun _ r' k => k + c * r'.length ≤ (c + 1) * r.length

lemma Frugal.affordable (hp : Frugal c p) : Affordable c p := by
  intro r hr
  refine (hp r hr).mono fun a r' k hk => ?_
  rw [add_mul]
  omega

lemma Affordable.bind (hp : Affordable c p) (hf : ∀ a, Frugal c (f a)) :
    Affordable c (p >>= f) := by
  intro r hsafe
  rw [Safe, wp_bind] at hsafe
  rw [wp_bind]
  refine (hsafe.and (hp r hsafe.safe)).mono fun a r' k ⟨hs, hk⟩ => ?_
  refine (hf a r' hs).mono fun b r'' k' hk' => ?_
  omega

lemma Safe.total_nonneg (h : Safe p r) : Wp p r fun _ _ k => 0 ≤ k := by
  obtain ⟨o, ho, hds, -⟩ := h
  refine ⟨o, ho, hds, sum_nonneg fun n hn => ?_⟩
  obtain ⟨d, hd, rfl⟩ := mem_map.mp hn
  exact (hds d hd).1

lemma Frugal.bind_affordable (hc : 0 < c) (hp : Frugal c p) (hf : ∀ a, Affordable c (f a)) :
    Affordable c (p >>= f) := by
  intro r hsafe
  rw [Safe, wp_bind] at hsafe
  rw [wp_bind]
  have hall := (hsafe.and (hp r hsafe.safe)).and hsafe.safe.total_nonneg
  refine hall.mono fun a r' k ⟨⟨hs, hk⟩, hnonneg⟩ => ?_
  refine (hf a r' hs).mono fun b r'' k' hk' => ?_
  have hle : r'.length ≤ r.length := by
    have hmul : (c : ℤ) * r'.length ≤ c * r.length := by omega
    exact_mod_cast le_of_mul_le_mul_left hmul (by exact_mod_cast hc)
  rw [add_mul] at hk' ⊢
  omega

end Parser
