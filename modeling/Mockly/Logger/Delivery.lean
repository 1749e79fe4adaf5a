import Mockly.Logger.Log

/-!
# What subscribers of the log are told

Between the critical section of `Log` and one of its sends, a subscriber may remove itself and close
its channel. A `WaitFor` cannot sleep through its last entry, even though a send into a full channel
is dropped.

Main results: **`log_quiet_iff_closesQuietly`**, **`waitFor_not_lost`**.
-/

namespace Mockly.Logger

open Transition Function Logger.System Subscriber Logger GoMap

variable {ι κ : Type} {subs : κ → Subscriber}

/-! ## The table of subscribers -/

/-- A channel in the table belongs to a subscriber that has not called its cancel function yet,
under that subscriber's ID; a closed channel is that of one whose cancel function has returned. -/
structure Registered (subs : κ → Subscriber) (s : System ι κ) : Prop where
  entry : ∀ id k, s.log.subscribers.get? id = some k → id = (subs k).id ∧ (s.phase k).Subscribed
  closed : ∀ k, (s.chan k).closed = true → s.phase k = .gone

lemma Subscriber.entersAt_subscribed (sub : Subscriber) : sub.entersAt.Subscribed := by
  simp only [entersAt]
  split
  · exact Or.inl rfl
  · exact Or.inr (Or.inl rfl)

lemma Phase.Subscribed.ne_closing {p : Phase} (h : p.Subscribed) : p ≠ .closing := by
  rcases h with rfl | rfl | rfl <;> simp

lemma registered_init (maxEntries : ℤ) :
    Registered subs (init maxEntries : System ι κ) where
  entry := by
    intro id k h
    simp [init, new] at h
  closed := by
    intro k h
    simp [init] at h

variable [DecidableEq κ]

variable {s : System ι κ}

variable {k : κ}

lemma Registered.setPhase (h : Registered subs s) {p : Phase} (hp : p.Subscribed)
    (hk : s.phase k ≠ .gone) : Registered subs (s.setPhase k p) where
  entry := by
    intro id j hj
    obtain ⟨hid, hsub⟩ := h.entry id j hj
    refine ⟨hid, ?_⟩
    simp only [System.setPhase, update_apply]
    split
    · exact hp
    · exact hsub
  closed := by
    intro j hj
    have hgone := h.closed j hj
    have hne : j ≠ k := fun e => hk (e ▸ hgone)
    simpa [System.setPhase, update_of_ne hne] using hgone

lemma Registered.setChan (h : Registered subs s) {c : Channel}
    (hc : c.closed = true → s.phase k = .gone) : Registered subs (s.setChan k c) where
  entry := h.entry
  closed := by
    intro j hj
    simp only [System.setChan, update_apply] at hj
    split at hj
    · subst j
      exact hc hj
    · exact h.closed j hj

variable [DecidableEq ι]

variable {s' : System ι κ} {ev : Event ι κ}

lemma registered_step (h : Registered subs s) (heff : Effect subs s ev s') :
    Registered subs s' := by
  cases heff with
  | log | panic | logReturn | expire | clear | clearByMockID => exact ⟨h.entry, h.closed⟩
  | @send g k c hg hk hopen =>
    have h' : Registered subs (s.setChan k ((s.chan k).trySend c.entry)) :=
      h.setChan fun hc => h.closed k (by simpa using hc)
    exact ⟨h'.entry, h'.closed⟩
  | @subscribe k hk =>
    have h' : Registered subs (s.setPhase k (subs k).entersAt) :=
      h.setPhase (entersAt_subscribed _) (by simp [hk])
    refine ⟨fun id j hj => ?_, (h'.setChan (k := k) (c := {}) (by simp)).closed⟩
    rw [get?_set] at hj
    split_ifs at hj with hid
    · cases hj
      refine ⟨hid, ?_⟩
      simp only [setChan, setPhase, update_self]
      exact entersAt_subscribed _
    · exact h'.entry id j hj
  | enough hk hw hle | receiveClosed hk hclosed | giveUp hk =>
    exact h.setPhase (Or.inr (Or.inr rfl)) (by simp [hk])
  | short hk hw hlt => exact h.setPhase (Or.inr (Or.inl rfl)) (by simp [hk])
  | @receive k e rest hk hbuf =>
    have hopen : (s.chan k).closed ≠ true := fun hc => by simp [h.closed k hc] at hk
    exact (h.setPhase (entersAt_subscribed _) (by simp [hk])).setChan
      fun hc => absurd hc hopen
  | @unregister k hk =>
    refine ⟨fun id j hj => ?_, fun j hj => ?_⟩
    · rw [get?_del] at hj
      split_ifs at hj with hid
      obtain ⟨hj', hsub⟩ := h.entry id j hj
      -- The only place a channel may stand is under its own ID, which is the one removed.
      have hne : j ≠ k := by
        rintro rfl
        exact hid hj'
      refine ⟨hj', ?_⟩
      simpa [setPhase, update_of_ne hne] using hsub
    · have hgone := h.closed j hj
      have hne : j ≠ k := by
        rintro rfl
        simp [hk] at hgone
      simpa [setPhase, update_of_ne hne] using hgone
  | @close k hk =>
    refine ⟨fun id j hj => ?_, fun j hj => ?_⟩
    · obtain ⟨hj', hsub⟩ := h.entry id j hj
      have hne : j ≠ k := by
        rintro rfl
        exact hsub.ne_closing hk
      refine ⟨hj', ?_⟩
      simpa [setChan, setPhase, update_of_ne hne] using hsub
    · by_cases hj' : j = k
      · subst hj'
        simp [setChan, setPhase]
      · simp only [setChan, setPhase, update_of_ne hj'] at hj ⊢
        exact h.closed j hj

/-! ## Logging and cancelling -/

/-- A channel is closed only when no `Log` call has yet to send to it. -/
def ClosesQuietly (s : System ι κ) : Event ι κ → Prop
  | .close k => ∀ g, k ∉ s.pending g
  | _ => True

instance [Fintype ι] (s : System ι κ) (ev : Event ι κ) : Decidable (ClosesQuietly s ev) := by
  unfold ClosesQuietly
  split <;> infer_instance

/-- Whatever is to be sent goes to an open channel. -/
structure Quiet (s : System ι κ) : Prop where
  panicked : s.panicked = false
  pending : ∀ g, ∀ k ∈ s.pending g, (s.chan k).closed = false

omit [DecidableEq κ] in
lemma pending_setCall (s : System ι κ) (g g' : ι) (c : Option (Sending κ)) :
    (s.setCall g c).pending g' =
      if g' = g then (c.map Sending.pending).getD [] else s.pending g' := by
  simp only [pending, setCall, update_apply]
  split_ifs <;> rfl

omit [DecidableEq ι] [DecidableEq κ] in
lemma pending_eq {g : ι} {c : Sending κ} (hg : s.calls g = some c) : s.pending g = c.pending := by
  simp [pending, hg]

lemma quiet_step (hreg : Registered subs s) (h : Quiet s) (hok : ClosesQuietly s ev)
    (heff : Effect subs s ev s') : Quiet s' := by
  cases heff with
  | @log g e unixNano now hg =>
    refine ⟨h.panicked, fun g' k hk => ?_⟩
    show (s.chan k).closed = false
    have hk := (pending_setCall s g g' _) ▸ hk
    split_ifs at hk with hg'
    · -- The channel is in the table, so its subscriber has not called its cancel function.
      obtain ⟨id, hid⟩ := mem_channels.mp hk
      by_contra hclosed
      have hgone := hreg.closed k (by simpa using hclosed)
      rcases (hreg.entry id k hid).2 with hp | hp | hp <;> simp [hp] at hgone
    · exact h.pending g' k hk
  | panic hg hk hclosed =>
    have hopen := h.pending _ _ (pending_eq hg ▸ hk)
    simp [hopen] at hclosed
  | @send g k c hg hk hopen =>
    refine ⟨h.panicked, fun g' j hj => ?_⟩
    have hj := (pending_setCall s g g' _) ▸ hj
    have hj' : (s.chan j).closed = false := by
      split_ifs at hj with hg'
      · exact h.pending g j (pending_eq hg ▸ List.mem_of_mem_erase hj)
      · exact h.pending g' j hj
    simp only [setChan, setCall, update_apply]
    split_ifs with hjk
    · simpa using hopen
    · exact hj'
  | @logReturn g e hg =>
    refine ⟨h.panicked, fun g' k hk => ?_⟩
    have hk := (pending_setCall s g g' _) ▸ hk
    split_ifs at hk with hg'
    · simp at hk
    · exact h.pending g' k hk
  | @subscribe k hk =>
    refine ⟨h.panicked, fun g j hj => ?_⟩
    simp only [setChan, setPhase, update_apply]
    split_ifs
    · rfl
    · exact h.pending g j hj
  | @receive k e rest hk hbuf =>
    refine ⟨h.panicked, fun g j hj => ?_⟩
    have hopen := h.pending g j hj
    simp only [setChan, setPhase, update_apply]
    split_ifs with hjk
    · subst hjk
      exact hopen
    · exact hopen
  | @close k hk =>
    refine ⟨h.panicked, fun g j hj => ?_⟩
    have hne : j ≠ k := by
      rintro rfl
      exact hok g hj
    simpa [setChan, setPhase, update_of_ne hne]
      using h.pending g j hj
  | enough | short | receiveClosed | expire | giveUp | unregister | clear | clearByMockID =>
    exact ⟨h.panicked, h.pending⟩

omit [DecidableEq ι] [DecidableEq κ] in
lemma quiet_init (maxEntries : ℤ) : Quiet (init maxEntries : System ι κ) where
  panicked := rfl
  pending := by
    intro g k hk
    simp [init, pending] at hk

/-- As long as channels are closed quietly no `Log` call sends on a closed one; and closing one that
a call has yet to send to lets that call panic. -/
theorem log_quiet_iff_closesQuietly {maxEntries : ℤ} {events : List (Event ι κ)}
    {s : System ι κ} (hrun : run (step subs) (System.init maxEntries) events = some s) :
    (Along (step subs) ClosesQuietly (System.init maxEntries) events → s.panicked = false) ∧
      (∀ k, s.panicked = false → s.phase k = .closing → ¬ ClosesQuietly s (.close k) →
        ∃ g t, run (step subs) s [.close k, .send g k] = some t ∧ t.panicked = true) := by
  refine ⟨fun hok => ?_, fun k hp hk hloud => ?_⟩
  · have hstep : ∀ (s : System ι κ) ev s', Registered subs s ∧ Quiet s → ClosesQuietly s ev →
        step subs s ev = some s' → Registered subs s' ∧ Quiet s' := by
      intro s ev s' h hev hstep
      obtain ⟨-, heff⟩ := step_effect hstep
      exact ⟨registered_step h.1 heff, quiet_step h.1 h.2 hev heff⟩
    have hinv := run_invariant hstep ⟨registered_init maxEntries, quiet_init maxEntries⟩ hok hrun
    exact hinv.2.panicked
  · simp only [ClosesQuietly, not_forall, not_not] at hloud
    obtain ⟨g, hmem⟩ := hloud
    cases hc : s.calls g with
    | none => simp [System.pending, hc] at hmem
    | some c =>
      rw [pending_eq hc] at hmem
      refine ⟨g, ?_⟩
      simp [run, step, hp, hk, hc, hmem, System.setChan, System.setPhase]

def oneStream : Unit → Subscriber := fun _ => { id := go "1" }

/-- The stream is sent its entry before it cancels. -/
theorem log_quiet_iff_closesQuietly_sentFirst :
    ∃ s, run (step oneStream) (System.init 500 : System Unit Unit)
        [.subscribe (), .log () {} 5 5, .send () (), .logReturn (), .expire (), .giveUp (),
          .unregister (), .close ()] = some s ∧ s.panicked = false := by
  obtain ⟨s, hs⟩ : ∃ s, run (step oneStream) (System.init 500 : System Unit Unit)
      [.subscribe (), .log () {} 5 5, .send () (), .logReturn (), .expire (), .giveUp (),
        .unregister (), .close ()] = some s := Option.isSome_iff_exists.mp (by decide)
  exact ⟨s, hs, (log_quiet_iff_closesQuietly hs).1 (by decide)⟩

/-- A subscriber cancels between the critical section of `Log` and its send. -/
theorem log_panics_after_cancel :
    (run (step oneStream) (System.init 500 : System Unit Unit)
      [.subscribe (), .log () {} 5 5, .expire (), .giveUp (), .unregister (), .close (),
        .send () ()]).map System.panicked = some true := by
  decide

/-! ## Waiting for entries -/

structure Woken (subs : κ → Subscriber) (s : System ι κ) : Prop where
  listed : ∀ k, (s.phase k).Subscribed → s.log.subscribers.get? (subs k).id = some k
  told : ∀ k mockID count, (subs k).waitsFor = some (mockID, count) → s.phase k = .waiting →
    count ≤ (s.log.entriesByMockID mockID).length →
      (s.chan k).buffer ≠ [] ∨ ∃ g, k ∈ s.pending g

lemma Subscriber.entersAt_ne_waiting {sub : Subscriber} {w : GoString × ℤ}
    (h : sub.waitsFor = some w) : sub.entersAt ≠ .waiting := by
  simp [entersAt, h]

omit [DecidableEq ι] [DecidableEq κ] in
lemma woken_init (maxEntries : ℤ) : Woken subs (init maxEntries : System ι κ) where
  listed := by
    intro k hk
    simp [init, Phase.Subscribed] at hk
  told := by
    intro k mockID count _ hk
    simp [init] at hk

omit [DecidableEq ι] in
lemma Woken.setPhase (h : Woken subs s) {k : κ} {p : Phase}
    (hk : p.Subscribed → (s.phase k).Subscribed)
    (hp : ∀ mockID count, (subs k).waitsFor = some (mockID, count) → p = .waiting →
      (s.log.entriesByMockID mockID).length < count) : Woken subs (s.setPhase k p) where
  listed := by
    intro j hj
    by_cases hjk : j = k
    · subst hjk
      simp only [System.setPhase, update_self] at hj
      exact h.listed j (hk hj)
    · simp only [System.setPhase, update_of_ne hjk] at hj
      exact h.listed j hj
  told := by
    intro j mockID count hw hj hle
    by_cases hjk : j = k
    · subst hjk
      simp only [System.setPhase, update_self] at hj
      have hlt := hp mockID count hw hj
      exact absurd hle (by simpa [System.setPhase] using hlt)
    · simp only [System.setPhase, update_of_ne hjk] at hj
      exact h.told j mockID count hw hj hle

omit [DecidableEq ι] in
lemma Woken.setChan (h : Woken subs s) {k : κ} {c : Channel}
    (hc : ∀ w, (subs k).waitsFor = some w → s.phase k = .waiting → (s.chan k).buffer ≠ [] →
      c.buffer ≠ []) : Woken subs (s.setChan k c) where
  listed := h.listed
  told := by
    intro j mockID count hw hj hle
    rcases h.told j mockID count hw hj hle with hbuf | hpending
    · left
      simp only [System.setChan, update_apply]
      split_ifs with hjk
      · subst hjk
        exact hc _ hw hj hbuf
      · exact hbuf
    · exact Or.inr hpending

omit [DecidableEq ι] [DecidableEq κ] in
lemma Woken.removeEntries (h : Woken subs s) {log : Logger κ}
    (hsubs : log.subscribers = s.log.subscribers) (hle : ∀ mockID,
      (log.entriesByMockID mockID).length ≤ (s.log.entriesByMockID mockID).length) :
    Woken subs { s with log := log } where
  listed := by
    intro k hk
    rw [show ({ s with log := log } : System ι κ).log.subscribers = _ from hsubs]
    exact h.listed k hk
  told := by
    intro k mockID count hw hk hcount
    have hlen := hle mockID
    exact h.told k mockID count hw hk (hcount.trans (by exact_mod_cast hlen))

lemma Woken.send (h : Woken subs s) {g : ι} {c : Sending κ} (hg : s.calls g = some c) :
    Woken subs ((s.setCall g (some { c with pending := c.pending.erase k })).setChan k
      ((s.chan k).trySend c.entry)) where
  listed := h.listed
  told := by
    intro j mockID count hw hj hle
    by_cases hjk : j = k
    · -- What is sent to is not empty, dropped entry or not.
      subst hjk
      left
      simpa [System.setChan] using Channel.trySend_buffer_ne _ _
    · rcases h.told j mockID count hw hj hle with hbuf | ⟨g', hg'⟩
      · left
        simpa [System.setChan, System.setCall, update_of_ne hjk] using hbuf
      · right
        refine ⟨g', (pending_setCall s g g' _).symm ▸ ?_⟩
        split_ifs with hgg
        · subst hgg
          exact (List.mem_erase_of_ne hjk).mpr (pending_eq hg ▸ hg')
        · exact hg'

omit [DecidableEq ι] in
lemma Woken.subscribe (hinj : Function.Injective fun k => (subs k).id) (h : Woken subs s) (k : κ) :
    Woken subs
      { (s.setPhase k (subs k).entersAt).setChan k {} with
        log := { s.log with subscribers := s.log.subscribers.set (subs k).id k } } where
  listed := by
    intro j hj
    by_cases hjk : j = k
    · subst hjk
      exact GoMap.get?_set_self _ _ _
    · simp only [System.setChan, System.setPhase, update_of_ne hjk] at hj
      rw [GoMap.get?_set_ne _ _ fun e => hjk (hinj e)]
      exact h.listed j hj
  told := by
    intro j mockID count hw hj hle
    by_cases hjk : j = k
    · subst hjk
      simp only [System.setChan, System.setPhase, update_self] at hj
      exact absurd hj (Subscriber.entersAt_ne_waiting hw)
    · simp only [System.setChan, System.setPhase, update_of_ne hjk] at hj ⊢
      exact h.told j mockID count hw hj hle

lemma woken_step (hinj : Function.Injective fun k => (subs k).id) (h : Woken subs s)
    (heff : Effect subs s ev s') : Woken subs s' := by
  cases heff with
  | @log g e unixNano now hg =>
    refine ⟨h.listed, fun k mockID count hw hk _ => Or.inr ⟨g, ?_⟩⟩
    -- The waiting channel is in the table and hence among those the new call sends to.
    have hmem : k ∈ s.log.channels := mem_channels.mpr ⟨_, h.listed k (Or.inr (Or.inl hk))⟩
    simpa [pending, setCall] using hmem
  | panic | expire => exact ⟨h.listed, h.told⟩
  | send hg hk hopen => exact h.send hg
  | @logReturn g e hg =>
    refine ⟨h.listed, fun j mockID count hw hj hle => ?_⟩
    rcases h.told j mockID count hw hj hle with hbuf | ⟨g', hg'⟩
    · exact Or.inl hbuf
    · right
      refine ⟨g', (pending_setCall s g g' _).symm ▸ ?_⟩
      split_ifs with hgg
      · subst hgg
        simp [pending_eq hg] at hg'
      · exact hg'
  | @subscribe k hk => exact h.subscribe hinj k
  | enough hk hw hle => exact h.setPhase (fun _ => Or.inl hk) (by simp)
  | @short k mockID count hk hw hlt =>
    refine h.setPhase (fun _ => Or.inl hk) fun mockID' count' hw' _ => ?_
    rw [hw] at hw'
    cases hw'
    exact hlt
  | @receive k e rest hk hbuf =>
    have hne : ∀ w, (subs k).waitsFor = some w → (subs k).entersAt ≠ .waiting :=
      fun _ hw => entersAt_ne_waiting hw
    refine (h.setPhase (fun _ => Or.inr (Or.inl hk)) fun _ _ hw hp =>
      absurd hp (hne _ hw)).setChan fun w hw hp => absurd ?_ (hne w hw)
    simpa [setPhase] using hp
  | receiveClosed hk hclosed | giveUp hk => exact h.setPhase (fun _ => Or.inr (Or.inl hk)) (by simp)
  | @unregister k hk =>
    have h' : Woken subs (s.setPhase k .closing) :=
      h.setPhase (by simp [Phase.Subscribed]) (by simp)
    refine ⟨fun j hj => ?_, h'.told⟩
    have hjk : j ≠ k := by
      rintro rfl
      simp [setPhase, Phase.Subscribed] at hj
    have hget := h'.listed j hj
    rw [get?_del, if_neg fun e => hjk (hinj e)]
    exact hget
  | @close k hk =>
    refine (h.setPhase (by simp [Phase.Subscribed]) (by simp)).setChan fun _ _ _ hbuf => ?_
    simpa [setPhase] using hbuf
  | clear => exact h.removeEntries rfl (by simp [entriesByMockID, clear])
  | clearByMockID =>
    refine h.removeEntries rfl fun mockID => ?_
    exact (List.Sublist.filter _ List.filter_sublist).length_le

def Blocked (s : System ι κ) (k : κ) : Prop :=
  s.phase k = .waiting ∧ (s.chan k).buffer = [] ∧ (s.chan k).closed = false ∧ s.expired k = false

instance (s : System ι κ) (k : κ) : Decidable (Blocked s k) := by
  unfold Blocked
  infer_instance

/-- No wake-up is lost: a `WaitFor` that is blocked while no call has anything left to send is short
of entries. Entries may be cleared or evicted on the way. -/
theorem waitFor_not_lost (hinj : Function.Injective fun k => (subs k).id) {maxEntries : ℤ}
    {events : List (Event ι κ)} {s : System ι κ}
    (hrun : run (step subs) (System.init maxEntries) events = some s)
    {k : κ} {mockID : GoString} {count : ℤ} (hw : (subs k).waitsFor = some (mockID, count))
    (hblocked : Blocked s k) (hsent : ∀ g, s.pending g = []) :
    (s.log.entriesByMockID mockID).length < count := by
  have hwoken : Woken subs s :=
    run_preserves (fun s ev s' h hstep => woken_step hinj h (step_effect hstep).2)
      (woken_init maxEntries) hrun
  by_contra hle
  rcases hwoken.told k mockID count hw hblocked.1 (not_lt.mp hle) with hbuf | ⟨g, hg⟩
  · exact hbuf hblocked.2.1
  · simp [hsent g] at hg

def oneWaiter : Unit → Subscriber := fun _ =>
  { id := go "wait-m-1", waitsFor := some (go "m", 2) }

/-- The first of two entries has come and has been received. -/
theorem waitFor_not_lost_firstOfTwo :
    ∃ s, run (step oneWaiter) (System.init 500 : System Unit Unit)
        [.subscribe (), .check (), .log () { matchedID := go "m" } 5 5, .send () (), .logReturn (),
          .receive (), .check ()] = some s ∧
      ((s.log.entriesByMockID (go "m")).length : ℤ) < 2 := by
  obtain ⟨s, hs⟩ : ∃ s, run (step oneWaiter) (System.init 500 : System Unit Unit)
      [.subscribe (), .check (), .log () { matchedID := go "m" } 5 5, .send () (), .logReturn (),
        .receive (), .check ()] = some s := Option.isSome_iff_exists.mp (by decide)
  have hblocked : ∀ t ∈ run (step oneWaiter) (System.init 500 : System Unit Unit)
      [.subscribe (), .check (), .log () { matchedID := go "m" } 5 5, .send () (), .logReturn (),
        .receive (), .check ()], Blocked t () ∧ ∀ g, t.pending g = [] := by decide
  obtain ⟨hblocked, hsent⟩ := hblocked s hs
  exact ⟨s, hs, waitFor_not_lost (Function.injective_of_subsingleton _) hs rfl hblocked hsent⟩

end Mockly.Logger
