import Mockly.Redis.Commands
import Mockly.Lib.Transition

/-!
# Empty hashes and lists

A key of Redis never holds an empty hash or list. `HDEL` leaves the hash where it is, fields or
none.

Main result: **`occupied_iff_keepsAField`**.
-/

namespace Mockly.Redis

open Transition DataStore

/-! ## Runs of commands -/

inductive Event
  | command (c : Command) (args : List GoString) (τ : ℕ → Clock)
  | flush

/-- A command that makes the handler panic has no next state. -/
def step (ut : UpperTable) (s : DataStore) : Event → Option DataStore
  | .command c args τ =>
    match s.handleStateful ut τ args c with
    | .error _ => none
    | .ok (_, s') => some s'
  | .flush => some s.flush

/-- What the entry holds is not an empty hash and not an empty list. -/
def Entry.Occupied (e : Entry) : Prop :=
  (e.kind = .hash → ∃ f, (e.hash.get? f).isSome = true) ∧ (e.kind = .list → e.list ≠ [])

/-- No key holds an empty hash or an empty list. -/
def Occupied (s : DataStore) : Prop := ∀ key e, s.data.get? key = some e → e.Occupied

/-- An `HDEL` that finds a hash leaves a field in it. -/
def KeepsAField (s : DataStore) : Event → Prop
  | .command .hDel (key :: f :: fields) τ =>
    ∀ e, (s.getLocked key (τ 0)).1 = some e → e.kind = .hash →
      ∃ g, (e.hash.get? g).isSome = true ∧ g ∉ f :: fields
  | _ => True

/-! ## The operations -/

section

variable {s s' : DataStore} {key : GoString} {now : Clock} {e : Entry}

lemma occupied_of_string (h : e.kind = .string) : e.Occupied := by
  simp [Entry.Occupied, h]

lemma getLocked_eq_some (h : s.getLocked key now = (some e, s')) :
    s' = s ∧ s.data.get? key = some e ∧ e.expired now = false := by
  unfold getLocked at h
  split at h
  · cases h
  · rename_i e' he'
    split at h <;> rename_i hlive
    · cases h
    · cases h
      exact ⟨rfl, he', Bool.eq_false_iff.mpr hlive⟩

lemma occupied_newDataStore : Occupied newDataStore := by
  intro k e hk
  simp [newDataStore] at hk

namespace Occupied

variable (h : Occupied s)
include h

lemma put (key : GoString) (he : e.Occupied) : Occupied (s.put key e) := by
  intro k e' hk
  rw [DataStore.put, GoMap.get?_set] at hk
  split at hk
  · cases hk
    exact he
  · exact h k e' hk

lemma remove (key : GoString) : Occupied ⟨s.data.del key⟩ := by
  intro k e' hk
  rw [GoMap.get?_del] at hk
  split at hk
  · cases hk
  · exact h k e' hk

lemma getLocked (key : GoString) (now : Clock) :
    Occupied (s.getLocked key now).2 := by
  unfold DataStore.getLocked
  split
  · exact h
  · split
    · exact h.remove key
    · exact h

lemma found (hget : s.getLocked key now = (some e, s')) :
    e.Occupied ∧ Occupied s' := by
  obtain ⟨rfl, he, -⟩ := getLocked_eq_some hget
  exact ⟨h key e he, h⟩

lemma lookedUp {o : Option Entry} (hget : s.getLocked key now = (o, s')) :
    Occupied s' := by
  have := h.getLocked key now
  rwa [hget] at this

/-- It fails on an entry of another kind, and stores something in place of one of its own. -/
lemma getOrCreate (key : GoString) (now : Clock) (fresh : Entry)
    {g : Entry → Entry} (hg : ∀ e, e.kind = fresh.kind → (g e).Occupied) :
    Occupied (if (s.getOrCreate key now fresh).1.kind ≠ fresh.kind then
        (s.getOrCreate key now fresh).2
      else (s.getOrCreate key now fresh).2.put key (g (s.getOrCreate key now fresh).1)) := by
  unfold DataStore.getOrCreate
  split
  · rename_i e s' hget
    have hs' := h.lookedUp hget
    split
    · exact hs'
    · rename_i hk
      exact hs'.put key (hg e (not_not.mp hk))
  · rename_i s' hget
    rw [if_neg (by simp), put_put]
    exact (h.lookedUp hget).put key (hg fresh rfl)

end Occupied

end

/-! ### The loops over fields -/

lemma isSome_get?_hSetLoop {f : GoString} (l : List (GoString × GoString))
    {hash : GoMap GoString} (n : ℕ) (h : (hash.get? f).isSome = true) :
    ((hSetLoop hash n l).2.get? f).isSome = true := by
  induction l generalizing hash n with
  | nil => exact h
  | cons p l ih =>
    refine ih _ ?_
    rw [GoMap.get?_set]
    split
    · rfl
    · exact h

lemma exists_get?_hSetLoop (hash : GoMap GoString) {l : List (GoString × GoString)} (hl : l ≠ []) :
    ∃ f, ((hSetLoop hash 0 l).2.get? f).isSome = true := by
  obtain ⟨p, l, rfl⟩ := List.exists_cons_of_ne_nil hl
  exact ⟨p.1, isSome_get?_hSetLoop l _ (by simp)⟩

lemma isSome_get?_fieldsOf {f : GoString} (fields : GoMap GoString) (l : List GoString)
    (h : (fields.get? f).isSome = true) : ((fieldsOf fields l).get? f).isSome = true := by
  fun_induction fieldsOf fields l with
  | case1 fields g v rest ih =>
    refine ih ?_
    rw [GoMap.get?_set]
    split
    · rfl
    · exact h
  | case2 fields l hl => exact h

lemma toList_fieldsOf_ne_nil (f v : GoString) (rest : List GoString) :
    (fieldsOf ∅ (f :: v :: rest)).toList ≠ [] := by
  have hf : ((fieldsOf ∅ (f :: v :: rest)).get? f).isSome = true :=
    isSome_get?_fieldsOf _ rest (by simp)
  obtain ⟨w, hw⟩ := Option.isSome_iff_exists.mp hf
  exact List.ne_nil_of_mem (GoMap.mem_toList.mpr hw)

lemma get?_hDelLoop (hash : GoMap GoString) (n : ℕ) (fields : List GoString) (g : GoString) :
    (hDelLoop hash n fields).2.get? g = if g ∈ fields then none else hash.get? g := by
  induction fields generalizing hash n with
  | nil => simp [hDelLoop]
  | cons f fields ih =>
    by_cases hgf : g = f
    · subst hgf
      cases hg : hash.get? g <;> simp [hDelLoop, hg, ih, GoMap.get?_del]
    · cases hf : (hash.get? f).isSome <;> simp [hDelLoop, hf, ih, GoMap.get?_del, hgf]

/-! ### One operation -/

/-- It puts something into what it creates, and leaves something in the hash it removes from. -/
def Op.Fills (s : DataStore) (τ : ℕ → Clock) : Op → Prop
  | .hSet _ fields => fields.toList ≠ []
  | .lPush _ values => values ≠ []
  | .rPush _ values => values ≠ []
  | .hDel key fields =>
    ∀ e, (s.getLocked key (τ 0)).1 = some e → e.kind = .hash →
      ∃ g, (e.hash.get? g).isSome = true ∧ g ∉ fields
  | _ => True

section

variable {s : DataStore} {τ : ℕ → Clock} (h : Occupied s)
include h

lemma Occupied.del (n : ℕ) (keys : List GoString) :
    Occupied (s.del n τ keys).2 := by
  induction keys generalizing s n τ with
  | nil => exact h
  | cons k ks ih =>
    unfold del
    split
    · rename_i s' hget
      exact ih (h.lookedUp hget) n
    · rename_i e s' hget
      exact ih ((h.lookedUp hget).remove k) (n + 1)

lemma Occupied.exists (n : ℕ) (keys : List GoString) :
    Occupied (s.exists n τ keys).2 := by
  induction keys generalizing s n τ with
  | nil => exact h
  | cons k ks ih =>
    unfold DataStore.exists
    split
    · rename_i s' hget
      exact ih (h.lookedUp hget) n
    · rename_i e s' hget
      exact ih (h.lookedUp hget) (n + 1)

lemma Occupied.push (key : GoString) (left : Bool) {values : List GoString}
    (hvalues : values ≠ []) (now : Clock) : Occupied (s.push key left values now).2 := by
  have hlist : ∀ l : List GoString,
      (if left then values.foldl (fun l v => v :: l) l else l ++ values) ≠ [] := by
    intro l
    cases left <;> simp [hvalues, List.foldl_flip_cons_eq_append]
  have hput := h.getOrCreate key now { kind := .list } (g := fun e =>
      { e with list := if left then values.foldl (fun l v => v :: l) e.list else e.list ++ values })
    fun e hk => ⟨fun hk' => by simp [hk] at hk', fun _ => hlist e.list⟩
  convert hput using 1
  simp only [DataStore.push]
  split <;> rfl

lemma Occupied.hSet (key : GoString) {fields : GoMap GoString}
    (hfields : fields.toList ≠ []) (now : Clock) : Occupied (s.hSet key fields now).2 := by
  have hput := h.getOrCreate key now { kind := .hash } (g := fun e =>
      { e with hash := (hSetLoop e.hash 0 fields.toList).2 })
    fun e hk => ⟨fun _ => exists_get?_hSetLoop e.hash hfields, fun hk' => by simp [hk] at hk'⟩
  convert hput using 1
  simp only [DataStore.hSet]
  split <;> rfl

lemma Occupied.append (key value : GoString) (now : Clock) :
    Occupied (s.append key value now).2 := by
  have hput := h.getOrCreate key now { kind := .string } (g := fun e =>
    { e with str := e.str ++ value }) fun e hk => occupied_of_string hk
  convert hput using 1
  simp only [DataStore.append]
  split <;> rfl

lemma Occupied.incrBy (key : GoString) (delta : ℤ) (now : Clock) :
    Occupied (s.incrBy key delta now).2 := by
  unfold DataStore.incrBy DataStore.getOrCreate
  cases hget : s.getLocked key now with
  | mk found s' =>
    cases found with
    | some e =>
      have hs' := h.lookedUp hget
      by_cases hk : e.kind = .string
      · simp only [hk, ne_eq, not_true_eq_false, if_false]
        split
        · exact hs'
        · exact hs'.put key (occupied_of_string rfl)
      · simp only [hk, ne_eq, not_false_eq_true, if_true]
        exact hs'
    | none =>
      have hs' := (h.lookedUp hget).put key
        (e := { kind := .string, str := go "0" }) (occupied_of_string rfl)
      simp only [ne_eq, not_true_eq_false, if_false]
      split
      · exact hs'
      · exact hs'.put key (occupied_of_string rfl)

lemma Occupied.hDel {key : GoString} {fields : List GoString} {now : Clock}
    (hkeep : ∀ e, (s.getLocked key now).1 = some e → e.kind = .hash →
      ∃ g, (e.hash.get? g).isSome = true ∧ g ∉ fields) : Occupied (s.hDel key fields now).2 := by
  unfold DataStore.hDel
  split
  · rename_i s' hget
    exact h.lookedUp hget
  · rename_i e s' hget
    have hs' := h.lookedUp hget
    by_cases hk : e.kind = .hash
    · obtain ⟨g, hg, hnot⟩ := hkeep e (by rw [hget]) hk
      rw [if_neg (not_not.mpr hk)]
      refine hs'.put key ⟨fun _ => ⟨g, ?_⟩, fun hk' => by simp [hk] at hk'⟩
      rw [get?_hDelLoop, if_neg hnot]
      exact hg
    · rw [if_pos hk]
      exact hs'

lemma Occupied.found_put {s' : DataStore} {key : GoString} {now : Clock}
    {e : Entry} (hget : s.getLocked key now = (some e, s')) (t : ℤ) :
    Occupied (s'.put key { e with expiresAt := t }) := by
  obtain ⟨he, hs'⟩ := h.found hget
  exact hs'.put key he

lemma Occupied.exec {op : Op} (hop : op.Fills s τ) :
    Occupied (s.exec τ op).2 := by
  cases op with
  | set key value ttl => exact h.put key (occupied_of_string rfl)
  | get | hGet | hGetAll | hExists | lLen =>
    simp only [DataStore.exec, DataStore.get, DataStore.hGet, DataStore.hGetAll,
      DataStore.hExists, DataStore.lLen]
    split <;> exact h.lookedUp ‹_›
  | del keys => exact h.del 0 keys
  | «exists» keys => exact h.exists 0 keys
  | expire key seconds =>
    simp only [DataStore.exec, DataStore.expire]
    split <;> rename_i hget
    · exact h.lookedUp hget
    · exact h.found_put hget _
  | ttl key =>
    simp only [DataStore.exec, DataStore.ttl]
    split <;> rename_i hget
    · exact h.lookedUp hget
    · split <;> exact h.lookedUp hget
  | persist key =>
    simp only [DataStore.exec, DataStore.persist]
    split <;> rename_i hget
    · exact h.lookedUp hget
    · split
      · exact h.lookedUp hget
      · exact h.found_put hget _
  | incrBy key delta => exact h.incrBy key delta (τ 0)
  | append key value => exact h.append key value (τ 0)
  | hSet key fields => exact h.hSet key hop (τ 0)
  | hDel key fields => exact h.hDel hop
  | lPush key values => exact h.push key true hop (τ 0)
  | rPush key values => exact h.push key false hop (τ 0)
  | flush => exact occupied_newDataStore

end

/-! ### One command -/

def CallsFilling (s : DataStore) (τ : ℕ → Clock) (out : Resp × DataStore) : Prop :=
  out.2 = s ∨ ∃ op : Op, op.Fills s τ ∧ out = s.call τ op

variable {s : DataStore} {τ : ℕ → Clock}

lemma callsFilling_call {op : Op} (hop : op.Fills s τ) :
    CallsFilling s τ (s.call τ op) := Or.inr ⟨op, hop, rfl⟩

lemma CallsFilling.occupied {out : Resp × DataStore} (hout : CallsFilling s τ out)
    (h : Occupied s) : Occupied out.2 := by
  rcases hout with hs | ⟨op, hop, rfl⟩
  · rwa [hs]
  · exact h.exec hop

section

variable (s : DataStore) (τ : ℕ → Clock) (args : List GoString)

lemma callsFilling_cmdSet (ut : UpperTable) : CallsFilling s τ (cmdSet ut s τ args) := by
  unfold cmdSet
  split
  · split
    · exact Or.inl rfl
    · exact callsFilling_call trivial
  · exact Or.inl rfl

lemma callsFilling_cmdExpire : CallsFilling s τ (s.cmdExpire τ args) := by
  unfold cmdExpire
  split
  · split
    · exact Or.inl rfl
    · exact callsFilling_call trivial
  · exact Or.inl rfl

lemma callsFilling_cmdIncrBy (sign : ℤ) (explicit : Bool) :
    CallsFilling s τ (s.cmdIncrBy τ args sign explicit) := by
  unfold cmdIncrBy
  split
  · exact callsFilling_call trivial
  · split
    · exact Or.inl rfl
    · exact callsFilling_call trivial
  · exact Or.inl rfl

lemma callsFilling_cmdHSet : CallsFilling s τ (s.cmdHSet τ args) := by
  unfold cmdHSet
  split
  · rename_i key f v rest
    split
    · exact callsFilling_call (toList_fieldsOf_ne_nil f v rest)
    · exact Or.inl rfl
  · exact Or.inl rfl

lemma callsFilling_cmdPush (left : Bool) : CallsFilling s τ (s.cmdPush τ args left) := by
  unfold cmdPush
  split
  · cases left <;> exact callsFilling_call (List.cons_ne_nil _ _)
  · exact Or.inl rfl

end

lemma Occupied.lRange {s' : DataStore} {key : GoString} {start stop : ℤ} {now : Clock}
    {r : Except Err (List GoString)} (h : Occupied s)
    (hrange : s.lRange key start stop now = .ok (r, s')) : Occupied s' := by
  unfold DataStore.lRange at hrange
  split at hrange <;> rename_i hget
  · cases hrange
    exact h.lookedUp hget
  · split at hrange
    · cases hrange
      exact h.lookedUp hget
    · revert hrange
      cases listRange _ start stop <;> intro hrange
      · cases hrange
      · cases hrange
        exact h.lookedUp hget

lemma Occupied.cmdLRange {s' : DataStore} {args : List GoString} {r : Resp} (h : Occupied s)
    (hcmd : s.cmdLRange τ args = .ok (r, s')) : Occupied s' := by
  unfold DataStore.cmdLRange at hcmd
  split at hcmd
  · rename_i key a b
    split at hcmd
    · rename_i start stop _ _
      cases hrange : s.lRange key start stop (τ 0) with
      | error p => simp [hrange, Except.map] at hcmd
      | ok out =>
        obtain ⟨res, t⟩ := out
        have ht : Occupied t := h.lRange hrange
        cases res <;> simp only [hrange, Except.map, Except.ok.injEq, Prod.mk.injEq] at hcmd <;>
          exact hcmd.2 ▸ ht
    · cases hcmd
      exact h
  · cases hcmd
    exact h

lemma cmdHDel_of_not_keepsAField {key f : GoString} {fields : List GoString}
    (h : ¬ KeepsAField s (.command .hDel (key :: f :: fields) τ)) :
    ∃ (e : Entry) (hash : GoMap GoString), e.expired (τ 0) = false ∧ (∀ g, hash.get? g = none) ∧
      (s.cmdHDel τ (key :: f :: fields)).2 = s.put key { e with kind := .hash, hash := hash } := by
  simp only [KeepsAField, not_forall, not_exists, not_and, not_not] at h
  obtain ⟨e, he, hk, hall⟩ := h
  have hget : s.getLocked key (τ 0) = (some e, s) := by
    cases hg : s.getLocked key (τ 0) with
    | mk o s' =>
      rw [hg] at he
      obtain rfl : o = some e := he
      rw [(getLocked_eq_some hg).1]
  refine ⟨e, (hDelLoop e.hash 0 (f :: fields)).2, (getLocked_eq_some hget).2.2,
    fun g => ?_, ?_⟩
  · rw [get?_hDelLoop]
    by_cases hg : g ∈ f :: fields
    · rw [if_pos hg]
    · rw [if_neg hg]
      by_contra hsome
      exact hg (hall g (Option.isSome_iff_ne_none.mpr hsome))
  · simp [cmdHDel, call, exec, hDel, hget, hk]

lemma Occupied.cmdHDel {args : List GoString} (h : Occupied s)
    (hkeep : KeepsAField s (.command .hDel args τ)) : Occupied (s.cmdHDel τ args).2 := by
  unfold DataStore.cmdHDel
  split
  · rename_i key f fields
    have hop : Op.Fills s τ (.hDel key (f :: fields)) := hkeep
    exact (callsFilling_call hop).occupied h
  · exact h

lemma Occupied.handleStateful {ut : UpperTable} {s' : DataStore} {c : Command}
    {args : List GoString} {r : Resp} (h : Occupied s) (hkeep : KeepsAField s (.command c args τ))
    (hcmd : s.handleStateful ut τ args c = .ok (r, s')) : Occupied s' := by
  have hcalls : ∀ {out}, CallsFilling s τ out → (.ok out : Except Panic _) = .ok (r, s') →
      Occupied s' := by
    intro out hout heq
    cases heq
    exact hout.occupied h
  cases c with
  | set => exact hcalls (callsFilling_cmdSet s τ args ut) hcmd
  | expire => exact hcalls (callsFilling_cmdExpire s τ args) hcmd
  | incr => exact hcalls (callsFilling_cmdIncrBy s τ args 1 false) hcmd
  | decr => exact hcalls (callsFilling_cmdIncrBy s τ args (-1) false) hcmd
  | incrBy => exact hcalls (callsFilling_cmdIncrBy s τ args 1 true) hcmd
  | decrBy => exact hcalls (callsFilling_cmdIncrBy s τ args (-1) true) hcmd
  | hSet => exact hcalls (callsFilling_cmdHSet s τ args) hcmd
  | lPush => exact hcalls (callsFilling_cmdPush s τ args true) hcmd
  | rPush => exact hcalls (callsFilling_cmdPush s τ args false) hcmd
  | lRange => exact h.cmdLRange hcmd
  | hDel =>
    have hs' : (s.cmdHDel τ args).2 = s' := congrArg Prod.snd (Except.ok.inj hcmd)
    exact hs' ▸ h.cmdHDel hkeep
  | get | del | «exists» | ttl | persist | append | hGet | hGetAll | hExists | lLen =>
    -- One operation, and no number to read for it.
    refine hcalls ?_ hcmd
    first
      | unfold cmdGet | unfold cmdDel | unfold cmdExists
      | unfold cmdTTL | unfold cmdPersist | unfold cmdAppend
      | unfold cmdHGet | unfold cmdHGetAll | unfold cmdHExists
      | unfold cmdLLen
    split <;> first | exact Or.inl rfl | exact callsFilling_call trivial

lemma occupied_step_iff {ut : UpperTable} (s : DataStore) (ev : Event) (s' : DataStore)
    (h : Occupied s) (hstep : step ut s ev = some s') : KeepsAField s ev ↔ Occupied s' := by
  cases ev with
  | flush =>
    cases hstep
    exact iff_of_true trivial occupied_newDataStore
  | command c args τ =>
    constructor
    · intro hkeep
      simp only [step] at hstep
      split at hstep
      · cases hstep
      · rename_i hcmd
        cases hstep
        exact h.handleStateful hkeep hcmd
    · intro hocc
      by_contra hkeep
      obtain ⟨key, f, fields, rfl, rfl⟩ :
          ∃ key f fields, c = .hDel ∧ args = key :: f :: fields := by
        unfold KeepsAField at hkeep
        split at hkeep
        · rename_i heq
          cases heq
          exact ⟨_, _, _, rfl, rfl⟩
        · exact absurd trivial hkeep
      obtain ⟨e, hash, -, hempty, hput⟩ := cmdHDel_of_not_keepsAField hkeep
      obtain rfl : (s.cmdHDel τ (key :: f :: fields)).2 = s' := Option.some.inj hstep
      rw [hput] at hocc
      obtain ⟨g, hg⟩ := (hocc key _ (GoMap.get?_set_self _ _ _)).1 rfl
      simp [hempty g] at hg

/-- **No key holds an empty hash or an empty list**, in any state of a run, exactly if each `HDEL`
leaves a field in the hash it removes from. After one that does not the key still exists, and a
command for lists is refused. -/
theorem occupied_iff_keepsAField (ut : UpperTable) {events : List Event} {s : DataStore}
    (hrun : run (step ut) newDataStore events = some s) :
    ((∀ before, before <+: events → ∀ t, run (step ut) newDataStore before = some t →
        Occupied t) ↔ Along (step ut) KeepsAField newDataStore events) ∧
    ∀ key f fields τ, ¬ KeepsAField s (.command .hDel (key :: f :: fields) τ) →
      ∃ s', step ut s (.command .hDel (key :: f :: fields) τ) = some s' ∧
        (s'.cmdExists τ [key]).1 = .int 1 ∧
        ∀ value left, (s'.cmdPush τ [key, value] left).1 = writeDataErr .wrongType := by
  refine ⟨?_, fun key f fields τ hkeep => ?_⟩
  · exact (along_iff_invariant occupied_step_iff occupied_newDataStore hrun).symm
  · obtain ⟨e, hash, hlive, -, hput⟩ := cmdHDel_of_not_keepsAField hkeep
    refine ⟨(s.cmdHDel τ (key :: f :: fields)).2, rfl, ?_⟩
    rw [hput]
    have hget : (s.put key { e with kind := .hash, hash := hash }).getLocked key (τ 0) =
        (some { e with kind := .hash, hash := hash },
          s.put key { e with kind := .hash, hash := hash }) := by
      have hlive' : Entry.expired { e with kind := .hash, hash := hash } (τ 0) = false := hlive
      simp [getLocked, put, hlive']
    constructor
    · simp [DataStore.cmdExists, DataStore.call, DataStore.exec, DataStore.exists, hget,
        Reply.resp, Result.resp]
    · intro value left
      cases left <;>
        simp [cmdPush, call, exec, lPush, rPush,
          push, getOrCreate, hget, Reply.resp]

def oneOfTwo : List Event :=
  [.command .hSet [go "k", go "f", go "1", go "g", go "2"] fun _ => Clock.epochPlus 0,
    .command .hDel [go "k", go "f"] fun _ => Clock.epochPlus 0]

theorem occupied_iff_keepsAField_oneOfTwo :
    ∃ s, run (step asciiUpperTable) newDataStore oneOfTwo = some s ∧ Occupied s := by
  obtain ⟨s, hs⟩ : ∃ s, run (step asciiUpperTable) newDataStore oneOfTwo = some s := ⟨_, rfl⟩
  have hkeep : Along (step asciiUpperTable) KeepsAField newDataStore oneOfTwo := by
    refine ⟨trivial, fun s hs => ⟨fun e he _ => ?_, fun _ _ => trivial⟩⟩
    cases hs
    cases he
    exact ⟨go "g", rfl, by decide⟩
  exact ⟨s, hs, (occupied_iff_keepsAField asciiUpperTable hs).1.mpr hkeep _ List.prefix_rfl s hs⟩

/-- **The hash at a key is empty and the key is still there.** -/
theorem emptied_hash_still_exists :
    ∃ s, run (step asciiUpperTable) newDataStore
        [.command .hSet [go "k", go "f", go "1"] fun _ => Clock.epochPlus 0,
          .command .hDel [go "k", go "f"] fun _ => Clock.epochPlus 0] = some s ∧
      ¬ Occupied s ∧ (s.cmdExists (fun _ => Clock.epochPlus 0) [go "k"]).1 = .int 1 ∧
      (s.cmdPush (fun _ => Clock.epochPlus 0) [go "k", go "x"] true).1 =
        writeDataErr .wrongType := by
  refine ⟨_, rfl, fun hocc => ?_, rfl, rfl⟩
  obtain ⟨f, hf⟩ := (hocc (go "k") _ rfl).1 rfl
  cases hf

end Mockly.Redis
