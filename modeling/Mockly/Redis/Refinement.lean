import Mockly.Redis.Reference

/-!
# Lazy expiry is not observable

The data store and the reference store hold the same cells once everything dead at `t` is removed
(`Sim`).

Main result: **`dataStore_refines_reference`**.
-/

namespace Mockly.Redis

open DataStore Entry List Option

/-! ## The abstraction -/

def Entry.value (e : Entry) : Option Value :=
  match e.kind with
  | .none => none
  | .string => some (.string e.str)
  | .hash => some (.hash e.hash.toFinmap)
  | .list => some (.list e.list)

def Entry.deadline (e : Entry) : Option ℤ := if isZero e.expiresAt then none else some e.expiresAt

def Entry.cell (e : Entry) : Option Cell := e.value.map fun v => ⟨v, e.deadline⟩

/-- Every key of the store as a cell, the expired ones included. -/
def DataStore.contents (s : DataStore) : Ref := fun k => (s.data.get? k).bind cell

/-- What the store holds at the instant `t`. -/
def DataStore.live (s : DataStore) (t : ℤ) : Ref := s.contents.advance t

/-- The stores hold the same at `t`, and no entry lacks a kind. -/
structure Sim (t : ℤ) (s : DataStore) (r : Ref) : Prop where
  kinds : ∀ k e, s.data.get? k = some e → e.value.isSome = true
  agree : s.live t = r.advance t

lemma Entry.cell_lives {e : Entry} {c : Cell} (h : e.cell = some c) (t : ℤ) :
    c.lives t = !e.expired t := by
  obtain ⟨v, -, rfl⟩ := map_eq_some_iff.mp h
  by_cases hz : e.expiresAt = 0
  · simp [Cell.lives, deadline, expired, deadlinePassed, isZero, hz]
  · have hnot : decide (t ≤ e.expiresAt) = !decide (e.expiresAt < t) := by
      rw [← decide_not, decide_eq_decide, not_lt]
    simp [Cell.lives, deadline, expired, deadlinePassed, isZero, after, hz, hnot]

lemma Entry.cell_of_value {e : Entry} {v : Value} (h : e.value = some v) :
    e.cell = some ⟨v, e.deadline⟩ := by
  simp [cell, h]

lemma Entry.value_cases {e : Entry} {v : Value} (hv : e.value = some v) :
    (e.kind = .string ∧ v = .string e.str) ∨ (e.kind = .hash ∧ v = .hash e.hash.toFinmap) ∨
      (e.kind = .list ∧ v = .list e.list) := by
  cases hk : e.kind <;> simp_all [value]

lemma sim_empty (t : ℤ) : Sim t newDataStore Ref.empty where
  kinds := by
    intro k e h
    simp [newDataStore] at h
  agree := rfl

variable {s : DataStore} {r : Ref}

lemma Sim.mono {t t' : ℤ} (h : Sim t s r) (ht : t ≤ t') : Sim t' s r where
  kinds := h.kinds
  agree := by
    have := congrArg (Ref.advance t') h.agree
    rwa [live, Ref.advance_advance ht, Ref.advance_advance ht] at this

lemma Sim.purge {t : ℤ} (h : Sim t s r) : Sim t s (r.advance t) where
  kinds := h.kinds
  agree := by rw [h.agree, Ref.advance_advance le_rfl]

lemma DataStore.contents_put (s : DataStore) (key : GoString) (e : Entry) :
    (s.put key e).contents = Function.update s.contents key e.cell := by
  funext k
  by_cases h : k = key
  · subst h
    simp [contents, put]
  · simp [contents, put, GoMap.get?_set_ne _ _ h, h]

lemma DataStore.contents_del (s : DataStore) (key : GoString) :
    (mk (s.data.del key)).contents = s.contents.remove key := by
  funext k
  by_cases h : k = key
  · subst h
    simp [contents, Ref.remove, GoMap.get?_del]
  · simp [contents, Ref.remove, GoMap.get?_del, h]

section Abstraction

variable {t : ℤ} {s : DataStore} {r : Ref} {e : Entry} {v : Value}

lemma Sim.put (h : Sim t s r) (key : GoString) (hv : e.value = some v) :
    Sim t (s.put key e) (r.put key ⟨v, e.deadline⟩) where
  kinds := by
    intro k e' hk
    simp only [DataStore.put, GoMap.get?_set] at hk
    split at hk
    · cases hk
      simp [hv]
    · exact h.kinds k e' hk
  agree := by
    have hput : (s.put key e).contents = s.contents.put key ⟨v, e.deadline⟩ := by
      rw [contents_put, cell_of_value hv]
      rfl
    rw [live, hput, Ref.advance_put, Ref.advance_put]
    exact congrArg (fun m => Function.update m _ _) h.agree

lemma Sim.remove (h : Sim t s r) (key : GoString) : Sim t ⟨s.data.del key⟩ (r.remove key) where
  kinds := by
    intro k e hk
    simp only [GoMap.get?_del] at hk
    split at hk
    · cases hk
    · exact h.kinds k e hk
  agree := by
    rw [live, contents_del, Ref.advance_remove, Ref.advance_remove]
    exact congrArg (fun m => Ref.remove m key) h.agree

end Abstraction

/-- The answers are the same, and the stores hold the same at `t`. -/
def Agrees {α : Type} (t : ℤ) (out : α × DataStore) (out' : α × Ref) : Prop :=
  out.1 = out'.1 ∧ Sim t out.2 out'.2

lemma Agrees.ok {α : Type} {t : ℤ} {out : α × DataStore} {out' : α × Ref}
    (h : Agrees t out out') (f : α → Result) :
    @Agrees Reply t (.ok (f out.1), out.2) (.ok (f out'.1), out'.2) :=
  ⟨congrArg (fun a => Except.ok (f a)) h.1, h.2⟩

variable {f : Value → Except Err (Result × Value)}

section Operations

variable {t₀ : ℤ} {t : Clock} {s : DataStore} {r : Ref}

/-! ## The two loops over the fields of a hash -/

lemma lookup_toFinmap (m : GoMap GoString) (k : GoString) : m.toFinmap.lookup k = m.get? k := rfl

lemma mem_keys_toFinmap {m : GoMap GoString} {k : GoString} :
    k ∈ m.toFinmap.keys ↔ (m.get? k).isSome = true := by
  rw [Finmap.mem_keys, ← Finmap.lookup_isSome, lookup_toFinmap]

lemma toFinmap_ofList_toList (m : GoMap GoString) :
    (GoMap.ofList m.toList).toFinmap = m.toFinmap := by
  refine Finmap.ext_lookup fun k => ?_
  rw [lookup_toFinmap, lookup_toFinmap, GoMap.ofList, GoMap.get?_setAll_toList]
  simp

lemma toFinmap_setAll (fields hash : GoMap GoString) :
    (hash.setAll fields.toList).toFinmap = fields.toFinmap ∪ hash.toFinmap := by
  refine Finmap.ext_lookup fun k => ?_
  rw [lookup_toFinmap, GoMap.get?_setAll_toList]
  by_cases hk : k ∈ fields.toFinmap
  · rw [Finmap.lookup_union_left hk, lookup_toFinmap]
    obtain ⟨v, hv⟩ := isSome_iff_exists.mp (Finmap.lookup_isSome.mpr hk)
    rw [lookup_toFinmap] at hv
    simp [hv]
  · rw [Finmap.lookup_union_right hk, lookup_toFinmap]
    have hnone := Finmap.lookup_eq_none.mpr hk
    rw [lookup_toFinmap] at hnone
    simp [hnone]

/-- The keys being distinct, a field is new to the growing hash if it was new to the first one. -/
lemma hSetLoop_eq (hash : GoMap GoString) (n : ℕ) {l : List (GoString × GoString)}
    (hnd : (l.map Prod.fst).Nodup) :
    hSetLoop hash n l =
      (n + (l.filter fun p => (hash.get? p.1).isNone).length, hash.setAll l) := by
  induction l generalizing hash n with
  | nil => rfl
  | cons p l ih =>
    obtain ⟨f, v⟩ := p
    simp only [map_cons, nodup_cons] at hnd
    have hrest : (l.filter fun p => ((hash.set f v).get? p.1).isNone) =
        l.filter fun p => (hash.get? p.1).isNone := by
      refine filter_congr fun p hp => ?_
      have hne : p.1 ≠ f := fun h => hnd.1 (h ▸ mem_map_of_mem hp)
      rw [GoMap.get?_set_ne _ _ hne]
    rw [hSetLoop, ih _ _ hnd.2, hrest, GoMap.setAll_cons]
    cases hf : hash.get? f with
    | none => simp [hf]; omega
    | some w => simp [hf]

lemma card_new_fields (fields hash : GoMap GoString) :
    (fields.toFinmap.keys \ hash.toFinmap.keys).card =
      (fields.toList.filter fun p => (hash.get? p.1).isNone).length := by
  have hset : fields.toFinmap.keys \ hash.toFinmap.keys =
      ((fields.toList.filter fun p => (hash.get? p.1).isNone).map Prod.fst).toFinset := by
    ext k
    rw [Finset.mem_sdiff, mem_keys_toFinmap, mem_keys_toFinmap, List.mem_toFinset, List.mem_map]
    constructor
    · rintro ⟨hk, hn⟩
      obtain ⟨v, hv⟩ := Option.isSome_iff_exists.mp hk
      refine ⟨(k, v), mem_filter.mpr ⟨GoMap.mem_toList.mpr hv, ?_⟩, rfl⟩
      simpa using hn
    · rintro ⟨⟨k', v⟩, hp, rfl⟩
      obtain ⟨hm, hn⟩ := mem_filter.mp hp
      refine ⟨?_, by simpa using hn⟩
      rw [GoMap.mem_toList.mp hm]
      rfl
  have hnd : ((fields.toList.filter fun p => (hash.get? p.1).isNone).map Prod.fst).Nodup :=
    (GoMap.nodup_toList fields).sublist (filter_sublist.map _)
  rw [hset, toFinset_card_of_nodup hnd, length_map]

lemma hDelLoop_eq (hash : GoMap GoString) (n : ℕ) (fs : List GoString) :
    (hDelLoop hash n fs).1 = n + (fs.toFinset ∩ hash.toFinmap.keys).card ∧
      (hDelLoop hash n fs).2.toFinmap =
        fs.foldl (fun m f => m.erase f) hash.toFinmap := by
  induction fs generalizing hash n with
  | nil => simp [hDelLoop]
  | cons f fs ih =>
    have herase : (hash.del f).toFinmap = hash.toFinmap.erase f :=
      (Finmap.erase_toFinmap f hash).symm
    by_cases hf : (hash.get? f).isSome = true
    · have hcard : ((f :: fs).toFinset ∩ hash.toFinmap.keys).card =
          1 + (fs.toFinset ∩ (hash.del f).toFinmap.keys).card := by
        have hmem : f ∈ hash.toFinmap.keys := mem_keys_toFinmap.mpr hf
        have hset : (f :: fs).toFinset ∩ hash.toFinmap.keys =
            insert f (fs.toFinset ∩ (hash.del f).toFinmap.keys) := by
          ext k
          rw [herase, Finmap.keys_erase]
          by_cases hk : k = f
          · simp [hk, hmem]
          · simp [hk]
        rw [hset, Finset.card_insert_of_notMem, add_comm]
        rw [herase, Finmap.keys_erase]
        simp
      obtain ⟨h1, h2⟩ := ih (hash.del f) (n + 1)
      rw [hDelLoop, if_pos hf]
      refine ⟨by rw [h1, hcard]; omega, ?_⟩
      rw [h2, herase, foldl_cons]
    · have hmem : f ∉ hash.toFinmap.keys := fun h => hf (mem_keys_toFinmap.mp h)
      have hset : (f :: fs).toFinset ∩ hash.toFinmap.keys = fs.toFinset ∩ hash.toFinmap.keys := by
        rw [toFinset_cons, Finset.insert_inter_of_notMem hmem]
      have hsame : hash.toFinmap.erase f = hash.toFinmap := by
        refine Finmap.ext_lookup fun k => ?_
        by_cases hk : k = f
        · subst hk
          have hnone : hash.get? k = none := by simpa using hf
          rw [Finmap.lookup_erase, lookup_toFinmap, hnone]
        · rw [Finmap.lookup_erase_ne hk]
      obtain ⟨h1, h2⟩ := ih hash n
      rw [hDelLoop, if_neg hf]
      refine ⟨by rw [h1, hset], ?_⟩
      rw [h2, foldl_cons, hsame]

section Instant

variable (h : Sim t₀ s r) (ht : t₀ ≤ t)
include h ht

/-! ## Looking a key up -/

/-- **`getLocked` finds what the purged reference holds**, and a deletion on the way is invisible.
-/
lemma getLocked_sim (key : GoString) :
    (∃ e v, s.getLocked key t = (some e, s) ∧ e.value = some v ∧ e.expired t = false ∧
        r.advance t key = some ⟨v, e.deadline⟩ ∧ Sim t s (r.advance t)) ∨
      ∃ s', s.getLocked key t = (none, s') ∧ r.advance t key = none ∧ Sim t s' (r.advance t) := by
  have hsim : Sim t s (r.advance t) := (h.mono ht).purge
  have hkey : r.advance t key = s.live t key := (congrFun (h.mono ht).agree key).symm
  cases hk : s.data.get? key with
  | none =>
    refine .inr ⟨s, by simp [getLocked, hk], ?_, hsim⟩
    rw [hkey]
    simp [live, contents, Ref.advance, hk]
  | some e =>
    obtain ⟨v, hv⟩ := isSome_iff_exists.mp (h.kinds key e hk)
    have hcell : e.cell = some ⟨v, e.deadline⟩ := cell_of_value hv
    have hlives := cell_lives hcell t
    cases he : e.expired t with
    | false =>
      refine .inl ⟨e, v, by simp [getLocked, hk, he], hv, he, ?_, hsim⟩
      rw [hkey]
      simp [live, contents, Ref.advance, hk, hcell, Option.filter, hlives, he]
    | true =>
      have hnone : r.advance t key = none := by
        rw [hkey]
        simp [live, contents, Ref.advance, hk, hcell, Option.filter, hlives, he]
      refine .inr ⟨⟨s.data.del key⟩, by simp [getLocked, hk, he], hnone, ?_⟩
      -- removing a key the reference does not have changes nothing there
      have hsame : (r.advance t).remove key = r.advance t := by
        funext k
        by_cases hkk : k = key
        · subst hkk
          simp [Ref.remove, hnone]
        · simp [Ref.remove, hkk]
      rw [← hsame]
      exact hsim.remove key

/-! ## Operations that only read -/

/-- The shape of `Get`, `HGet`, `HGetAll`, `HExists` and `LLen`. -/
def DataStore.read (s : DataStore) (key : GoString) (now : Clock) (absent : Reply)
    (answer : Entry → Reply) : Reply × DataStore :=
  match s.getLocked key now with
  | (none, s) => (absent, s)
  | (some e, s) => (answer e, s)

lemma read_sim (key : GoString) (absent : Reply)
    {answer : Entry → Reply} {answer' : Value → Reply}
    (hans : ∀ e v, e.value = some v → answer e = answer' v) :
    Agrees t (s.read key t absent answer)
      ((r.advance t).read key absent answer', r.advance t) := by
  rcases getLocked_sim h ht key with ⟨e, v, hget, hv, -, hr, hsim⟩ | ⟨s', hget, hr, hsim⟩
  · simp only [Agrees, DataStore.read, Ref.read, hget, hr, hans e v hv, true_and]
    exact hsim
  · simp only [Agrees, DataStore.read, Ref.read, hget, hr, true_and]
    exact hsim

/-! ## Operations that change a value -/

/-- The shape of `IncrBy`, `Append`, `HSet` and `push`. -/
def DataStore.modify (s : DataStore) (key : GoString) (now : Clock) (fresh : Entry)
    (g : Entry → Except Err (Result × Entry)) : Reply × DataStore :=
  match s.getOrCreate key now fresh with
  | (e, s) =>
    match g e with
    | .error err => (.error err, s)
    | .ok (answer, e') => (.ok answer, s.put key e')

/-- `out` changes the entry `e` as it changes values, and leaves the deadline alone. -/
def ChangesAt (out : Except Err (Result × Entry)) (e : Entry)
    (out' : Except Err (Result × Value)) : Prop :=
  match out with
  | .error err => out' = .error err
  | .ok (answer, e') =>
    ∃ v', out' = .ok (answer, v') ∧ e'.value = some v' ∧ e'.deadline = e.deadline

/-- `g` does to every entry what `f` does to its value. -/
def Changes (g : Entry → Except Err (Result × Entry)) (f : Value → Except Err (Result × Value)) :
    Prop :=
  ∀ e v, e.value = some v → ChangesAt (g e) e (f v)

variable {g : Entry → Except Err (Result × Entry)}

lemma modify_sim (key : GoString) {fresh : Entry} {v₀ : Value} (hg : Changes g f)
    (hfresh : fresh.value = some v₀) (hdl : fresh.deadline = none) (hok : (g fresh).isOk = true) :
    Agrees t (s.modify key t fresh g) ((r.advance t).modify key v₀ f) := by
  rcases getLocked_sim h ht key with ⟨e, v, hget, hv, -, hr, hsim⟩ | ⟨s', hget, hr, hsim⟩
  · have hge := hg e v hv
    simp only [Agrees, DataStore.modify, DataStore.getOrCreate, hget, Ref.modify, hr, getD_some]
    cases hgv : g e with
    | error err =>
      simp only [ChangesAt, hgv] at hge
      simp only [hge, true_and]
      exact hsim
    | ok p =>
      obtain ⟨answer, e'⟩ := p
      simp only [ChangesAt, hgv] at hge
      obtain ⟨v', hf, hv', hd⟩ := hge
      simp only [hf, true_and, ← hd]
      exact hsim.put key hv'
  · have hge := hg fresh v₀ hfresh
    simp only [Agrees, DataStore.modify, DataStore.getOrCreate, hget, Ref.modify, hr, getD_none]
    cases hgv : g fresh with
    | error err =>
      rw [hgv] at hok
      cases hok
    | ok p =>
      obtain ⟨answer, e'⟩ := p
      simp only [ChangesAt, hgv] at hge
      obtain ⟨v', hf, hv', hd⟩ := hge
      simp only [hf, true_and]
      rw [← hdl, ← hd, DataStore.put_put]
      exact hsim.put key hv'

/-!
### The check of the kind
-/

def checked (K : Kind) (g : Entry → Except Err (Result × Entry)) (e : Entry) :
    Except Err (Result × Entry) :=
  if e.kind ≠ K then .error .wrongType else g e

omit h ht in
lemma changes_string {f : GoString → Except Err (Result × Value)}
    (hg : ∀ e, e.kind = .string → ChangesAt (g e) e (f e.str)) :
    Changes (checked .string g) fun
      | .string x => f x
      | _ => .error .wrongType := by
  intro e v hv
  rcases value_cases hv with ⟨hk, rfl⟩ | ⟨hk, rfl⟩ | ⟨hk, rfl⟩
  · simpa [checked, hk] using hg e hk
  · simp [checked, hk, ChangesAt]
  · simp [checked, hk, ChangesAt]

omit h ht in
lemma changes_hash {f : (Finmap fun _ : GoString => GoString) → Except Err (Result × Value)}
    (hg : ∀ e, e.kind = .hash → ChangesAt (g e) e (f e.hash.toFinmap)) :
    Changes (checked .hash g) fun
      | .hash x => f x
      | _ => .error .wrongType := by
  intro e v hv
  rcases value_cases hv with ⟨hk, rfl⟩ | ⟨hk, rfl⟩ | ⟨hk, rfl⟩
  · simp [checked, hk, ChangesAt]
  · simpa [checked, hk] using hg e hk
  · simp [checked, hk, ChangesAt]

omit h ht in
lemma changes_list {f : (List GoString) → Except Err (Result × Value)}
    (hg : ∀ e, e.kind = .list → ChangesAt (g e) e (f e.list)) :
    Changes (checked .list g) fun
      | .list x => f x
      | _ => .error .wrongType := by
  intro e v hv
  rcases value_cases hv with ⟨hk, rfl⟩ | ⟨hk, rfl⟩ | ⟨hk, rfl⟩
  · simp [checked, hk, ChangesAt]
  · simp [checked, hk, ChangesAt]
  · simpa [checked, hk] using hg e hk

/-- The operations that cannot fail on a value of their kind. -/
lemma checked_sim (key : GoString) {K : Kind} {fresh : Entry} {v₀ : Value} (answer : Entry → Result)
    (next : Entry → Entry) (hg : Changes (checked K fun e => .ok (answer e, next e)) f)
    (hK : fresh.kind = K) (hfresh : fresh.value = some v₀) (hdl : fresh.deadline = none) :
    Agrees t
      (if (s.getOrCreate key t fresh).1.kind ≠ K then
        (.error .wrongType, (s.getOrCreate key t fresh).2)
      else
        (.ok (answer (s.getOrCreate key t fresh).1),
          (s.getOrCreate key t fresh).2.put key (next (s.getOrCreate key t fresh).1)))
      ((r.advance t).modify key v₀ f) := by
  have hok : (checked K (fun e => .ok (answer e, next e)) fresh).isOk = true := by
    simp [checked, hK, Except.isOk, Except.toBool]
  have hsim := modify_sim h ht key hg hfresh hdl hok
  by_cases hk : (s.getOrCreate key t fresh).1.kind = K
  · simpa [DataStore.modify, checked, hk] using hsim
  · simpa [DataStore.modify, checked, hk] using hsim

/-! ## The operations one by one -/

lemma get_sim (key : GoString) :
    Agrees t (s.get key t) ((r.advance t).get key, r.advance t) := by
  refine read_sim h ht key _ fun e v hv => ?_
  rcases value_cases hv with ⟨hk, rfl⟩ | ⟨hk, rfl⟩ | ⟨hk, rfl⟩ <;> simp [hk]

lemma hGet_sim (key field : GoString) :
    Agrees t (s.hGet key field t) ((r.advance t).hGet key field, r.advance t) := by
  refine read_sim h ht key _ fun e v hv => ?_
  rcases value_cases hv with ⟨hk, rfl⟩ | ⟨hk, rfl⟩ | ⟨hk, rfl⟩ <;> simp [hk, GoMap.get?, GoMap.getD]

lemma hGetAll_sim (key : GoString) :
    Agrees t (s.hGetAll key t) ((r.advance t).hGetAll key, r.advance t) := by
  refine read_sim h ht key _ fun e v hv => ?_
  rcases value_cases hv with ⟨hk, rfl⟩ | ⟨hk, rfl⟩ | ⟨hk, rfl⟩ <;> simp [hk, toFinmap_ofList_toList]

lemma hExists_sim (key field : GoString) :
    Agrees t (s.hExists key field t) ((r.advance t).hExists key field, r.advance t) := by
  refine read_sim h ht key _ fun e v hv => ?_
  rcases value_cases hv with ⟨hk, rfl⟩ | ⟨hk, rfl⟩ | ⟨hk, rfl⟩ <;> simp [hk, GoMap.get?]

lemma lLen_sim (key : GoString) :
    Agrees t (s.lLen key t) ((r.advance t).lLen key, r.advance t) := by
  refine read_sim h ht key _ fun e v hv => ?_
  rcases value_cases hv with ⟨hk, rfl⟩ | ⟨hk, rfl⟩ | ⟨hk, rfl⟩ <;> simp [hk]

omit h ht in
/-- A deadline in the future is never the zero `Time`, which would mean "no deadline". -/
lemma stringEntry_deadline (value : GoString) (ttl : ℤ) (t : Clock) :
    (stringEntry value ttl t).deadline = if ttl > 0 then some (t + ttl) else none := by
  by_cases hp : ttl > 0
  · have hne : (t : ℤ) + ttl ≠ 0 := t.add_ne_zero (by simp [minInt64]; omega)
    simp [stringEntry, deadline, isZero, hp, hne]
  · simp [stringEntry, deadline, isZero, hp]

lemma set_sim (key value : GoString) (ttl : ℤ) :
    Sim t (s.set key value ttl t) ((r.advance t).set key value ttl t) := by
  rw [Ref.set, ← stringEntry_deadline value]
  exact (h.mono ht).purge.put key rfl

lemma persist_sim (key : GoString) :
    Agrees t (s.persist key t) ((r.advance t).persist key) := by
  rcases getLocked_sim h ht key with ⟨e, v, hget, hv, -, hr, hsim⟩ | ⟨s', hget, hr, hsim⟩
  · by_cases hz : e.expiresAt = 0
    · have hdl : e.deadline = none := by simp [deadline, isZero, hz]
      simp only [Agrees, persist, Ref.persist, hget, hr, hdl, isZero, hz, decide_true, if_true]
      exact ⟨trivial, hsim⟩
    · have hdl : e.deadline = some e.expiresAt := by simp [deadline, isZero, hz]
      simp only [Agrees, persist, Ref.persist, hget, hr, hdl, isZero, hz, decide_false,
        Bool.false_eq_true, if_false]
      exact ⟨trivial, hsim.put key (e := { e with expiresAt := 0 }) hv⟩
  · simp only [Agrees, persist, Ref.persist, hget, hr]
    exact ⟨trivial, hsim⟩

lemma incrBy_sim (key : GoString) (delta : ℤ) :
    Agrees t (s.incrBy key delta t) ((r.advance t).incrBy key delta) := by
  let g : Entry → Except Err (Result × Entry) := fun e =>
    ((parseInt e.str).mapError Err.num).map fun n =>
      (.count (wrap64 (n + delta)), { e with str := formatInt (wrap64 (n + delta)) })
  have hop : s.incrBy key delta t =
      s.modify key t { kind := .string, str := go "0" } (checked .string g) := by
    simp only [DataStore.incrBy, DataStore.modify, checked, g]
    cases s.getOrCreate key t { kind := .string, str := go "0" } with
    | mk e s' =>
      by_cases hk : e.kind = .string
      · cases parseInt e.str <;> simp [hk, Except.mapError, Except.map]
      · simp [hk]
  rw [hop]
  refine modify_sim h ht key (changes_string ?_) rfl rfl rfl
  intro e hk
  cases hp : parseInt e.str with
  | error err => simp [ChangesAt, g, hp, Except.mapError, Except.map]
  | ok n =>
    simp only [ChangesAt, g, hp, Except.mapError, Except.map]
    exact ⟨.string (formatInt (wrap64 (n + delta))), rfl, by simp [value, hk], rfl⟩

lemma append_sim (key value : GoString) :
    Agrees t (s.append key value t) ((r.advance t).append key value) := by
  refine checked_sim h ht key (fun e => .count (e.str ++ value).length)
    (fun e => { e with str := e.str ++ value }) (changes_string fun e hk => ?_) rfl rfl rfl
  exact ⟨.string (e.str ++ value), by simp, by simp [Entry.value, hk], rfl⟩

lemma hSet_sim (key : GoString) (fields : GoMap GoString) :
    Agrees t (s.hSet key fields t) ((r.advance t).hSet key fields.toFinmap) := by
  refine checked_sim h ht key (fun e => .count (hSetLoop e.hash 0 fields.toList).1)
    (fun e => { e with hash := (hSetLoop e.hash 0 fields.toList).2 })
    (changes_hash fun e hk => ?_) rfl rfl rfl
  rw [hSetLoop_eq e.hash 0 (GoMap.nodup_toList fields), card_new_fields, ← toFinmap_setAll]
  exact ⟨.hash (e.hash.setAll fields.toList).toFinmap, by simp, by simp [value, hk], rfl⟩

lemma lPush_sim (key : GoString) (values : List GoString) :
    Agrees t (s.lPush key values t) ((r.advance t).lPush key values) := by
  refine checked_sim h ht key
    (fun e => .count (values.foldl (fun l v => v :: l) e.list).length)
    (fun e => { e with list := values.foldl (fun l v => v :: l) e.list })
    (changes_list fun e hk => ?_) rfl rfl rfl
  rw [foldl_flip_cons_eq_append]
  exact ⟨.list (values.reverse ++ e.list), by simp, by simp [value, hk], rfl⟩

lemma rPush_sim (key : GoString) (values : List GoString) :
    Agrees t (s.rPush key values t) ((r.advance t).rPush key values) := by
  refine checked_sim h ht key (fun e => .count (e.list ++ values).length)
    (fun e => { e with list := e.list ++ values }) (changes_list fun e hk => ?_) rfl rfl rfl
  exact ⟨.list (e.list ++ values), by simp, by simp [value, hk], rfl⟩

lemma hDel_sim (key : GoString) (fields : List GoString) :
    Agrees t (s.hDel key fields t) ((r.advance t).hDel key fields) := by
  rcases getLocked_sim h ht key with ⟨e, v, hget, hv, -, hr, hsim⟩ | ⟨s', hget, hr, hsim⟩
  · simp only [Agrees, hDel, Ref.hDel, hget, hr]
    cases hk : e.kind <;> simp only [value, hk, reduceCtorEq, Option.some.injEq] at hv <;>
      subst hv <;> simp
    · exact hsim
    · obtain ⟨hn, hm⟩ := hDelLoop_eq e.hash 0 fields
      rw [zero_add] at hn
      have hv : value { e with hash := (hDelLoop e.hash 0 fields).2 } =
          some (.hash (fields.foldl (fun m f => m.erase f) e.hash.toFinmap)) := by
        simp [value, hk, ← hm]
      have hput := hsim.put key hv
      simp only [hk] at hput
      exact ⟨by rw [hn], hput⟩
    · exact hsim
  · simp only [Agrees, hDel, Ref.hDel, hget, hr, true_and]
    exact hsim

end Instant

variable {τ : ℕ → Clock}

lemma del_sim (hτ : Monotone τ) (h : Sim t₀ s r) (ht : t₀ ≤ τ 0) (n : ℕ) (keys : List GoString) :
    Agrees (τ keys.length) (s.del n τ keys) (r.del n τ keys) := by
  induction keys generalizing t₀ s r n τ with
  | nil => exact ⟨rfl, h.mono ht⟩
  | cons k ks ih =>
    have hτ' : Monotone fun i => τ (i + 1) := fun i j hij => hτ (by omega)
    have h01 : (τ 0 : ℤ) ≤ τ 1 := hτ (Nat.zero_le 1)
    rcases getLocked_sim h ht k with ⟨e, v, hget, -, -, hr, hsim⟩ | ⟨s', hget, hr, hsim⟩
    · simp only [del, Ref.del, hget, hr]
      exact ih hτ' (hsim.remove k) h01 (n + 1)
    · simp only [del, Ref.del, hget, hr]
      exact ih hτ' hsim h01 n

lemma exists_sim (hτ : Monotone τ) (h : Sim t₀ s r) (ht : t₀ ≤ τ 0) (n : ℕ) (keys : List GoString) :
    Agrees (τ keys.length) (s.exists n τ keys) (r.exists n τ keys) := by
  induction keys generalizing t₀ s r n τ with
  | nil => exact ⟨rfl, h.mono ht⟩
  | cons k ks ih =>
    have hτ' : Monotone fun i => τ (i + 1) := fun i j hij => hτ (by omega)
    have h01 : (τ 0 : ℤ) ≤ τ 1 := hτ (Nat.zero_le 1)
    rcases getLocked_sim h ht k with ⟨e, v, hget, -, -, hr, hsim⟩ | ⟨s', hget, hr, hsim⟩
    · simp only [DataStore.exists, Ref.exists, hget, hr]
      exact ih hτ' hsim h01 (n + 1)
    · simp only [DataStore.exists, Ref.exists, hget, hr]
      exact ih hτ' hsim h01 n

lemma expire_sim (hτ : Monotone τ) (h : Sim t₀ s r) (ht : t₀ ≤ τ 0) (key : GoString) (seconds : ℤ) :
    Agrees (τ 1) (s.expire key seconds τ) ((r.advance (τ 0)).expire key seconds (τ 1)) := by
  have h01 : (τ 0 : ℤ) ≤ τ 1 := hτ (Nat.zero_le 1)
  rcases getLocked_sim h ht key with ⟨e, v, hget, hv, -, hr, hsim⟩ | ⟨s', hget, hr, hsim⟩
  · have hne : (τ 1 : ℤ) + wrap64 (seconds * second) ≠ 0 :=
      (τ 1).add_ne_zero (wrap64_bounds _).1
    have hdl : some ((τ 1 : ℤ) + wrap64 (seconds * second)) =
        deadline { e with expiresAt := τ 1 + wrap64 (seconds * second) } := by
      simp [deadline, isZero, hne]
    simp only [Agrees, expire, Ref.expire, hget, hr, true_and, hdl]
    exact (hsim.mono h01).put key hv
  · simp only [Agrees, expire, Ref.expire, hget, hr, true_and]
    exact hsim.mono h01

lemma sub_neg_iff (d t : ℤ) : sub d t < 0 ↔ d < t := by
  simp only [sub, minInt64, maxInt64]
  omega

lemma ttl_sim (hτ : Monotone τ) (h : Sim t₀ s r) (ht : t₀ ≤ τ 0) (key : GoString) :
    Agrees (τ 1) (s.ttl key τ) ((r.advance (τ 1)).ttl key (τ 1), r.advance (τ 1)) := by
  have h01 : (τ 0 : ℤ) ≤ τ 1 := hτ (Nat.zero_le 1)
  have hlater : r.advance (τ 1) = (r.advance (τ 0)).advance (τ 1) :=
    (Ref.advance_advance h01 r).symm
  rcases getLocked_sim h ht key with ⟨e, v, hget, hv, -, hr, hsim⟩ | ⟨s', hget, hr, hsim⟩
  · have hcell := cell_of_value hv
    have hr1 : r.advance (τ 1) key =
        (some (Cell.mk v e.deadline)).filter fun c => c.lives (τ 1) := by
      rw [hlater]
      show ((r.advance (τ 0)) key).filter _ = _
      rw [hr]
    have hstore : Sim (τ 1) s (r.advance (τ 1)) := hlater ▸ (hsim.mono h01).purge
    by_cases hz : e.expiresAt = 0
    · simp only [Agrees, ttl, hget, Ref.ttl, hr1, Option.filter, Cell.lives,
        deadline, isZero, hz, decide_true, if_true]
      exact ⟨trivial, hstore⟩
    · have hdl : e.deadline = some e.expiresAt := by simp [deadline, isZero, hz]
      by_cases hlt : e.expiresAt < τ 1
      · simp only [Agrees, ttl, hget, Ref.ttl, hr1, Option.filter, Cell.lives, hdl,
          isZero, hz, decide_false, not_le.mpr hlt, (sub_neg_iff _ _).mpr hlt, Bool.false_eq_true,
          if_false, if_true]
        exact ⟨trivial, hstore⟩
      · have hneg : ¬ sub e.expiresAt (τ 1) < 0 := fun hs => hlt ((sub_neg_iff _ _).mp hs)
        simp only [Agrees, ttl, hget, Ref.ttl, hr1, Option.filter, Cell.lives, hdl, isZero, hz,
          decide_false, not_lt.mp hlt, hneg, decide_true, Bool.false_eq_true, if_false, if_true]
        exact ⟨trivial, hstore⟩
  · have hr1 : r.advance (τ 1) key = none := by
      rw [hlater]
      show ((r.advance (τ 0)) key).filter _ = _
      rw [hr]
      rfl
    simp only [Agrees, ttl, hget, Ref.ttl, hr1]
    exact ⟨trivial, hlater ▸ (hsim.mono h01).purge⟩

/-- **One operation.**  The reply is the reference's, and the stores hold the same at the end. -/
theorem exec_sim (hτ : Monotone τ) (h : Sim t₀ s r) (ht : t₀ ≤ τ 0) (op : Op) :
    Agrees (τ op.readings) (s.exec τ op) (r.exec τ op) := by
  have h01 : (τ 0 : ℤ) ≤ τ 1 := hτ (Nat.zero_le 1)
  have h12 : (τ 1 : ℤ) ≤ τ 2 := hτ (Nat.le_succ 1)
  suffices hact : ∃ t : ℤ, t ≤ τ op.readings ∧ Agrees t (s.exec τ op) (r.act τ op) by
    obtain ⟨t, hle, hreply, hsim⟩ := hact
    exact ⟨hreply, (hsim.mono hle).purge⟩
  cases op with
  | set key value ttl => exact ⟨τ 0, h01, rfl, set_sim h ht key value ttl⟩
  | get key => exact ⟨_, h01, get_sim h ht key⟩
  | del keys => exact ⟨_, le_rfl, (del_sim hτ h ht 0 keys).ok fun n => .count n⟩
  | «exists» keys => exact ⟨_, le_rfl, (exists_sim hτ h ht 0 keys).ok fun n => .count n⟩
  | expire key seconds =>
    exact ⟨_, h12, (expire_sim hτ h ht key seconds).ok fun b => .flag b⟩
  | ttl key => exact ⟨_, h12, (ttl_sim hτ h ht key).ok fun n => .count n⟩
  | persist key => exact ⟨_, h01, (persist_sim h ht key).ok fun b => .flag b⟩
  | incrBy key delta => exact ⟨_, h01, incrBy_sim h ht key delta⟩
  | append key value => exact ⟨_, h01, append_sim h ht key value⟩
  | hSet key fields => exact ⟨_, h01, hSet_sim h ht key fields⟩
  | hGet key field => exact ⟨_, h01, hGet_sim h ht key field⟩
  | hGetAll key => exact ⟨_, h01, hGetAll_sim h ht key⟩
  | hDel key fields => exact ⟨_, h01, hDel_sim h ht key fields⟩
  | hExists key field => exact ⟨_, h01, hExists_sim h ht key field⟩
  | lPush key values => exact ⟨_, h01, lPush_sim h ht key values⟩
  | rPush key values => exact ⟨_, h01, rPush_sim h ht key values⟩
  | lLen key => exact ⟨_, h01, lLen_sim h ht key⟩
  | flush => exact ⟨τ 0, h01, rfl, sim_empty _⟩

end Operations

/-! ## Histories -/

/-- An operation with the clock it reads. -/
structure Call where
  op : Op
  clock : ℕ → Clock
  mono : Monotone clock

/-- No call begins before the one before it has ended. -/
def NonDecreasing (calls : List Call) : Prop :=
  calls.IsChain fun c d => c.clock c.op.readings ≤ d.clock 0

def DataStore.run (s : DataStore) : List Call → List Reply × DataStore
  | [] => ([], s)
  | c :: cs =>
    let out := s.exec c.clock c.op
    (out.1 :: (run out.2 cs).1, (run out.2 cs).2)

def Ref.run (r : Ref) : List Call → List Reply × Ref
  | [] => ([], r)
  | c :: cs =>
    let out := r.exec c.clock c.op
    (out.1 :: (run out.2 cs).1, (run out.2 cs).2)

theorem run_sim {t₀ : ℤ} (calls : List Call) (hchain : NonDecreasing calls) (h : Sim t₀ s r)
    (ht : ∀ c ∈ calls.head?, t₀ ≤ c.clock 0) :
    (s.run calls).1 = (r.run calls).1 ∧
      ∃ t, Sim t (s.run calls).2 (r.run calls).2 ∧
        ∀ d : Call, NonDecreasing (calls ++ [d]) → (calls = [] → t₀ ≤ d.clock 0) →
          t ≤ d.clock 0 := by
  induction calls generalizing t₀ s r with
  | nil => exact ⟨rfl, t₀, h, fun d _ hd => hd rfl⟩
  | cons c cs ih =>
    obtain ⟨hreply, hsim⟩ := exec_sim c.mono h (ht c rfl) c.op
    have hhead : ∀ d ∈ cs.head?, (c.clock c.op.readings : ℤ) ≤ d.clock 0 := by
      intro d hd
      cases cs with
      | nil => cases hd
      | cons d' cs =>
        cases hd
        exact (isChain_cons_cons.mp hchain).1
    obtain ⟨hrest, t, hend, hlast⟩ := ih hchain.tail hsim hhead
    refine ⟨?_, t, hend, fun d hd _ => hlast d hd.tail ?_⟩
    · show _ :: _ = _ :: _
      rw [hreply, hrest]
    · intro hcs
      subst hcs
      exact (isChain_cons_cons.mp hd).1

/-! ## The statement -/

variable {err : Err}

lemma Ref.modify_error {key : GoString} {fresh : Value}
    (h : (r.modify key fresh f).1 = .error err) :
    (r.modify key fresh f).2 = r := by
  unfold Ref.modify at h ⊢
  dsimp only at h ⊢
  split at h
  · rfl
  · cases h

lemma Ref.act_error {τ : ℕ → Clock} {op : Op} (h : (r.act τ op).1 = .error err) :
    (r.act τ op).2 = r.advance (τ 0) := by
  cases op with
  | incrBy | append | hSet | lPush | rPush => exact Ref.modify_error h
  | hDel key fields =>
    simp only [Ref.act, Ref.hDel] at h ⊢
    split at h
    · cases h
    · split at h
      · cases h
      · rfl
  | get key => rfl
  | hGet key field => rfl
  | hGetAll key => rfl
  | hExists key field => rfl
  | lLen key => rfl
  | _ => cases h

lemma exec_error {t₀ : ℤ} {τ : ℕ → Clock} (hτ : Monotone τ) (h : Sim t₀ s r) (ht : t₀ ≤ τ 0)
    {op : Op} (herr : (s.exec τ op).1 = .error err) {t : ℤ} (hend : τ op.readings ≤ t) :
    (s.exec τ op).2.live t = s.live t := by
  obtain ⟨hreply, hsim⟩ := exec_sim hτ h ht op
  have hle : (τ 0 : ℤ) ≤ τ op.readings := hτ (Nat.zero_le _)
  have hact : (r.act τ op).2 = r.advance (τ 0) := Ref.act_error (hreply.symm.trans herr)
  calc (s.exec τ op).2.live t
      = (r.exec τ op).2.advance t := (hsim.mono hend).agree
    _ = ((r.advance (τ 0)).advance (τ op.readings)).advance t := by rw [Ref.exec, hact]
    _ = r.advance t := by
        rw [Ref.advance_advance hle, Ref.advance_advance hend]
    _ = s.live t := ((h.mono (ht.trans (hle.trans hend))).agree).symm

lemma exec_expired {t₀ : ℤ} {τ : ℕ → Clock} (hτ : Monotone τ) (h : Sim t₀ s r) (ht : t₀ ≤ τ 0)
    (op : Op) {k : GoString} {e : Entry} (hk : s.data.get? k = some e)
    (he : e.expired (τ 0) = true) {t : ℤ} (hend : τ op.readings ≤ t) :
    (s.exec τ op).1 = (exec ⟨s.data.del k⟩ τ op).1 ∧
      (s.exec τ op).2.live t = (exec ⟨s.data.del k⟩ τ op).2.live t := by
  have hget : s.getLocked k (τ 0) = (none, ⟨s.data.del k⟩) := by
    simp [getLocked, hk, he]
  have hdel : Sim (τ 0) ⟨s.data.del k⟩ (r.advance (τ 0)) := by
    rcases getLocked_sim h ht k with ⟨e', v, hget', -⟩ | ⟨s', hget', -, hsim⟩
    · rw [hget] at hget'
      cases hget'
    · rw [hget] at hget'
      cases hget'
      exact hsim
  obtain ⟨hreply, hsim⟩ := exec_sim hτ ((h.mono ht).purge) le_rfl op
  obtain ⟨hreply', hsim'⟩ := exec_sim hτ hdel le_rfl op
  exact ⟨hreply.trans hreply'.symm, ((hsim.mono hend).agree).trans ((hsim'.mono hend).agree).symm⟩

/-- **The data store refines the reference store.** For every history at non-decreasing clock
readings the replies are the same. At each call an expired key is treated as one that is not there,
`Set` stores exactly the new value and deadline, and an error leaves what the store holds as it was.
-/
theorem dataStore_refines_reference (calls : List Call) (hcalls : NonDecreasing calls) :
    (newDataStore.run calls).1 = (Ref.empty.run calls).1 ∧
      ∀ before c after, calls = before ++ c :: after →
        ∀ s, s = (newDataStore.run before).2 →
          (∀ k e, s.data.get? k = some e → e.expired (c.clock 0) = true →
            ∀ t : ℤ, c.clock c.op.readings ≤ t →
              (s.exec c.clock c.op).1 = (exec ⟨s.data.del k⟩ c.clock c.op).1 ∧
                (s.exec c.clock c.op).2.live t =
                  (exec ⟨s.data.del k⟩ c.clock c.op).2.live t) ∧
          (∀ key value ttl, c.op = .set key value ttl →
            (s.exec c.clock c.op).2.contents key =
              some ⟨.string value, if ttl > 0 then some (c.clock 0 + ttl) else none⟩) ∧
          ∀ err, (s.exec c.clock c.op).1 = .error err →
            ∀ t : ℤ, c.clock c.op.readings ≤ t → (s.exec c.clock c.op).2.live t = s.live t := by
  refine ⟨(run_sim calls hcalls (sim_empty unixEpoch) fun c _ => (c.clock 0).2).1, ?_⟩
  intro before c after hsplit s hs
  -- the prefix of the history leaves related stores, no later than `c` begins
  have hprefix : NonDecreasing (before ++ [c]) := by
    have : before ++ c :: after = (before ++ [c]) ++ after := by simp
    rw [hsplit, this] at hcalls
    exact hcalls.left_of_append
  obtain ⟨-, t₀, hsim, hlast⟩ := run_sim before hprefix.left_of_append (sim_empty unixEpoch)
    fun c _ => (c.clock 0).2
  have ht : t₀ ≤ c.clock 0 := hlast c hprefix fun _ => (c.clock 0).2
  rw [← hs] at hsim
  refine ⟨fun k e hk he t hend => exec_expired c.mono hsim ht c.op hk he hend, ?_,
    fun err herr t hend => exec_error c.mono hsim ht herr hend⟩
  intro key value ttl hop
  rw [hop]
  show (put s key (stringEntry value ttl (c.clock 0))).contents key = _
  rw [contents_put, Function.update_self, ← stringEntry_deadline value]
  rfl

def Call.instant (op : Op) (n : ℕ) : Call := ⟨op, fun _ => Clock.epochPlus n, fun _ _ _ => le_rfl⟩

/-- A string with a TTL of one nanosecond, and a hash at the same key once it is over. -/
theorem expired_string_becomes_hash :
    let calls := [Call.instant (.set (go "k") (go "v") 1) 0,
      Call.instant (.hSet (go "k") (GoMap.ofList [(go "f", go "x")])) 2,
      Call.instant (.ttl (go "k")) 3]
    NonDecreasing calls ∧ (newDataStore.run calls).1 = (Ref.empty.run calls).1 := by
  intro calls
  have hcalls : NonDecreasing calls := by
    refine .cons_cons ?_ (.cons_cons ?_ (.singleton _))
    all_goals simp [Call.instant, Clock.epochPlus, Subtype.mk_le_mk]
  exact ⟨hcalls, (dataStore_refines_reference calls hcalls).1⟩

end Mockly.Redis
