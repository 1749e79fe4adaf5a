import Mockly.STOMP.Server

/-!
# Subscriptions and deliveries

An id that is subscribed again with another destination stays in the table under the old one, where
neither `UNSUBSCRIBE` nor the end of the connection finds it.

Main result: **`mirror_iff`**.
-/

namespace Mockly.STOMP

open Transition GoMap List Option STOMP.State

/-! ## The two tables -/

def ClientConn.connected (c : ClientConn) : Bool :=
  match c.status with
  | .gone => false
  | _ => true

/-- The destination of a client's subscription, by the client's own map. -/
def held (s : State) (client : ℕ) (id : GoString) : Option GoString :=
  (s.clients client).bind fun c => if c.connected then c.subs.get? id else none

/-- What is in the table of the server under a destination. -/
def lookup (subscriptions : GoMap (GoMap Subscription)) (dest key : GoString) :
    Option Subscription :=
  (subscriptions.get? dest).bind (·.get? key)

/-- The table has an entry for the client and the id under the destination. -/
def Listed (s : State) (client : ℕ) (id dest : GoString) : Prop :=
  ∃ key, lookup s.subscriptions dest key = some ⟨id, client⟩

/-- **The tables are mirror images**: there is an entry exactly if the client is connected and its
own map has the destination for the id. -/
def Mirror (s : State) : Prop :=
  ∀ client id dest, Listed s client id dest ↔ held s client id = some dest

def Keyed (s : State) : Prop :=
  ∀ dest key sub, lookup s.subscriptions dest key = some sub → key = subKey sub.client sub.id

/-! ### Keys -/

lemma colon_notMem_formatNat (n : ℕ) : 0x3A ∉ formatNat n := fun h =>
  absurd (digit_of_mem_formatNat h) (by decide)

lemma subKey_inj {c c' : ℕ} {i i' : GoString} (h : subKey c i = subKey c' i') :
    c = c' ∧ i = i' := by
  have hindex : ∀ c i, index (subKey c i) [0x3A] = some (formatNat c).length := by
    intro c i
    have hkey : subKey c i = formatNat c ++ 0x3A :: i := by
      rw [subKey, append_assoc]
      rfl
    rw [hkey]
    exact index_singleton (colon_notMem_formatNat c) i
  have hlen : (formatNat c).length = (formatNat c').length := by
    rw [← some_inj, ← hindex c i, ← hindex c' i', h]
  rw [subKey, subKey, append_assoc, append_assoc] at h
  obtain ⟨hc, hi⟩ := append_inj h hlen
  exact ⟨formatNat_injective hc, append_cancel_left hi⟩

lemma listed_iff {s : State} (hk : Keyed s) (c : ℕ) (i d : GoString) :
    Listed s c i d ↔ lookup s.subscriptions d (subKey c i) = some ⟨i, c⟩ := by
  constructor
  · rintro ⟨key, hkey⟩
    rwa [← hk d key _ hkey]
  · exact fun h => ⟨_, h⟩

/-! ### Adding and removing -/

variable (subscriptions : GoMap (GoMap Subscription)) (dest : GoString)

lemma lookup_set_set (key d k : GoString) (sub : Subscription) :
    lookup (subscriptions.set dest (((subscriptions.get? dest).getD ∅).set key sub)) d k =
      if d = dest ∧ k = key then some sub else lookup subscriptions d k := by
  rw [lookup, get?_set]
  by_cases hd : d = dest
  · subst hd
    rw [if_pos rfl, bind_some, get?_set]
    by_cases hk : k = key
    · simp [hk]
    · cases h : subscriptions.get? d <;> simp [hk, lookup, h]
  · simp [hd, lookup]

lemma get?_of_size_eq_zero {V : Type} {m : GoMap V} (h : m.size = 0) (k : GoString) :
    m.get? k = none := by
  cases hk : m.get? k with
  | none => rfl
  | some v =>
    have hmem : (k, v) ∈ m.toList := mem_toList.mpr hk
    rw [length_eq_zero_iff.mp ((size_toList m).trans h)] at hmem
    cases hmem

lemma lookup_removeKey (key d k : GoString) :
    lookup (removeKey subscriptions dest key) d k =
      if d = dest ∧ k = key then none else lookup subscriptions d k := by
  unfold removeKey
  cases hdest : subscriptions.get? dest with
  | none =>
    by_cases hd : d = dest
    · simp [hd, lookup, hdest]
    · simp [hd]
  | some inner =>
    by_cases hd : d = dest
    · subst hd
      have hinner : ∀ k, (inner.del key).get? k = if k = key then none else inner.get? k :=
        fun k => get?_del inner key k
      have hlookup : lookup subscriptions d k = inner.get? k := by simp [lookup, hdest]
      dsimp only
      split_ifs with hempty hk hk
      · simp [lookup, get?_del]
      · have hnone := get?_of_size_eq_zero hempty k
        rw [hinner, if_neg (by simpa using hk)] at hnone
        rw [hlookup, hnone]
        simp [lookup, get?_del]
      · simp [lookup, hinner, hk.2]
      · rw [hlookup]
        simp [lookup, hinner, (by simpa using hk : k ≠ key)]
    · dsimp only
      split_ifs with hempty hboth hboth
      · exact absurd hboth.1 hd
      · simp [lookup, get?_del, hd]
      · exact absurd hboth.1 hd
      · simp [lookup, get?_set, hd]

lemma held_setClient (s : State) (client : ℕ) (conn : ClientConn) (c : ℕ) (i : GoString) :
    held (s.setClient client conn) c i =
      if c = client then (if conn.connected then conn.subs.get? i else none) else held s c i := by
  by_cases hc : c = client
  · subst hc
    simp [held, setClient]
  · simp [held, setClient, hc]

/-! ## What an event does to the tables -/

/-- What an event does to the map of a client. -/
inductive Change
  | quiet
  | add (client : ℕ) (id dest : GoString)
  | remove (client : ℕ) (id : GoString)

def changeOf : Event → Change
  | .frame client f _ =>
    if f.cmd = go "SUBSCRIBE" then
      .add client (f.headers.getD (go "id")) (f.headers.getD (go "destination"))
    else if f.cmd = go "UNSUBSCRIBE" then .remove client (f.headers.getD (go "id"))
    else .quiet
  | .remove client id => .remove client id
  | _ => .quiet

/-- The tables of `s'` are those of `s` after the change. -/
def Change.Leads (s s' : State) : Change → Prop
  | .quiet => s'.subscriptions = s.subscriptions ∧ ∀ c i, held s' c i = held s c i
  | .add client id dest =>
    (∀ d k, lookup s'.subscriptions d k =
      if d = dest ∧ k = subKey client id then some ⟨id, client⟩ else lookup s.subscriptions d k) ∧
    ∀ c i, held s' c i = if c = client ∧ i = id then some dest else held s c i
  | .remove client id =>
    (∀ d k, lookup s'.subscriptions d k =
      if d = (held s client id).getD [] ∧ k = subKey client id then none
      else lookup s.subscriptions d k) ∧
    ∀ c i, held s' c i = if c = client ∧ i = id then none else held s c i

section Steps

variable {s : State} {client : ℕ} {c : ClientConn}

lemma held_of_client (hc : s.clients client = some c) (hconn : c.connected = true) (id : GoString) :
    held s client id = c.subs.get? id := by
  simp [held, hc, hconn]

lemma held_setClient_same (hc : s.clients client = some c) (hconn : c.connected = true)
    {c' : ClientConn} (hsubs : c'.subs = c.subs) (hconn' : c'.connected = true) (d : ℕ)
    (i : GoString) : held (s.setClient client c') d i = held s d i := by
  rw [held_setClient]
  split_ifs with hd
  · rw [hd, held_of_client hc hconn, hsubs]
  · rfl

open Change

lemma leads_add (hc : s.clients client = some c) (hconn : c.connected = true)
    (id dest : GoString) :
    (add client id dest).Leads s (addSubscription s client c id dest) := by
  refine ⟨fun d k => lookup_set_set s.subscriptions dest (subKey client id) d k ⟨id, client⟩,
    fun d i => ?_⟩
  change held (s.setClient client { c with subs := c.subs.set id dest }) d i = _
  have hconn' : ({ c with subs := c.subs.set id dest } : ClientConn).connected = true := hconn
  rw [held_setClient, hconn', if_pos rfl, get?_set]
  by_cases hd : d = client
  · subst hd
    simp [held_of_client hc hconn]
  · simp [hd]

lemma leads_remove (hc : s.clients client = some c) (hconn : c.connected = true)
    (id : GoString) : (remove client id).Leads s (removeSubscription s client c id) := by
  have hdest : c.subs.getD id = (held s client id).getD [] := by
    rw [held_of_client hc hconn]
    rfl
  refine ⟨fun d k => ?_, fun d i => ?_⟩
  · rw [removeSubscription, hdest]
    exact lookup_removeKey s.subscriptions _ (subKey client id) d k
  · change held (s.setClient client { c with subs := c.subs.del id }) d i = _
    have hconn' : ({ c with subs := c.subs.del id } : ClientConn).connected = true := hconn
    rw [held_setClient, hconn', if_pos rfl, get?_del]
    by_cases hd : d = client
    · subst hd
      simp [held_of_client hc hconn]
    · simp [hd]

lemma leads_quiet_write (t : State) (f : Frame) : quiet.Leads t (t.write client f) :=
  ⟨rfl, fun _ _ => rfl⟩

lemma leads_quiet_writeReceipt (f : Frame) : quiet.Leads s (writeReceipt s client f) := by
  rw [writeReceipt]
  split_ifs
  · exact ⟨rfl, fun _ _ => rfl⟩
  · exact leads_quiet_write s _

/-- The end of a handler that changes where the loop is, after a quiet change. -/
lemma leads_quiet_setStatus (hc : s.clients client = some c) (hconn : c.connected = true)
    {t : State} (hsubs : t.subscriptions = s.subscriptions) (hclients : t.clients = s.clients)
    {status : Status} (hstatus : (⟨c.subs, status⟩ : ClientConn).connected = true) :
    quiet.Leads s (t.setStatus client c status) := by
  refine ⟨hsubs, fun d i => ?_⟩
  have hsubs' : (⟨c.subs, status⟩ : ClientConn).subs = c.subs := rfl
  have hsame := held_setClient_same hc hconn hsubs' hstatus d i
  rw [← hsame, held, held, setStatus, setClient, setClient, hclients]

lemma leads_handleSend (hc : s.clients client = some c) (hconn : c.connected = true) (γ : Moment)
    (f : Frame) : quiet.Leads s (handleSend γ s client c f) := by
  cases hfault : γ.fault with
  | some fault =>
    simp only [handleSend, hfault]
    exact leads_quiet_setStatus hc hconn rfl rfl rfl
  | none =>
    cases hresp : (matchMock γ (f.headers.getD (go "destination"))).bind STOMPMock.response with
    | none =>
      simp only [handleSend, hfault, hresp]
      exact ⟨rfl, fun _ _ => rfl⟩
    | some resp =>
      simp only [handleSend, hfault, hresp]
      exact leads_quiet_setStatus hc hconn rfl rfl rfl

lemma leads_handleFrame (hc : s.clients client = some c) (hconn : c.connected = true) (γ : Moment)
    (f : Frame) : (changeOf (.frame client f γ)).Leads s (handleFrame γ s client c f) := by
  rw [handleFrame, changeOf]
  by_cases hadd : f.cmd = go "SUBSCRIBE"
  · rw [if_neg (by rw [hadd]; decide), if_pos hadd, if_pos hadd]
    exact leads_add hc hconn _ _
  by_cases hremove : f.cmd = go "UNSUBSCRIBE"
  · rw [if_neg (by rw [hremove]; decide), if_neg hadd, if_neg hadd, if_pos hremove, if_pos hremove]
    exact leads_remove hc hconn _
  rw [if_neg hadd, if_neg hadd, if_neg hremove, if_neg hremove]
  split_ifs
  · exact leads_quiet_write s _
  · exact leads_handleSend hc hconn γ f
  · exact leads_quiet_writeReceipt f
  · have hreceipt : (writeReceipt s client f).clients = s.clients := by
      rw [writeReceipt]
      split_ifs <;> rfl
    exact leads_quiet_setStatus hc hconn (leads_quiet_writeReceipt f).1 hreceipt rfl
  · exact ⟨rfl, fun _ _ => rfl⟩

end Steps

variable {s' : State} {a : Event}

/-- **What an event does to the two tables.** -/
lemma step_spec {s : State} (h : step s a = some s') : (changeOf a).Leads s s' := by
  cases a with
  | connect client =>
    simp only [step] at h
    split at h
    · rename_i hnone
      cases h
      refine ⟨rfl, fun c i => ?_⟩
      rw [held_setClient]
      by_cases hc : c = client
      · simp [hc, held, hnone]
      · rw [if_neg hc]
    · cases h
  | frame client f γ =>
    simp only [step] at h
    split at h
    · rename_i subs hc
      cases h
      exact leads_handleFrame hc rfl γ f
    · cases h
  | fail client =>
    simp only [step] at h
    split at h
    · rename_i subs hc
      cases h
      exact ⟨rfl, held_setClient_same hc rfl rfl rfl⟩
    · cases h
  | deliver client ord nanos =>
    simp only [step] at h
    split at h
    · rename_i subs dest resp hc
      cases h
      exact ⟨rfl, held_setClient_same hc rfl rfl rfl⟩
    · cases h
  | remove client id =>
    simp only [step] at h
    split at h
    · rename_i subs hc
      split_ifs at h
      cases h
      exact leads_remove hc rfl id
    · cases h
  | finish client =>
    simp only [step] at h
    split at h
    · rename_i subs hc
      split_ifs at h with hempty
      cases h
      refine ⟨rfl, fun c i => ?_⟩
      rw [held_setClient]
      split_ifs with hcc hgone
      · cases hgone
      · rw [hcc, held_of_client hc rfl, get?_of_size_eq_zero hempty]
      · rfl
    · cases h

/-! ## Mirror images -/

/-- A `SUBSCRIBE` that points an id of its client to another destination. -/
def Repoints (s : State) : Event → Prop
  | .frame client f _ =>
    f.cmd = go "SUBSCRIBE" ∧ ∃ dest ∈ held s client (f.headers.getD (go "id")),
      dest ≠ f.headers.getD (go "destination")
  | _ => False

instance (s : State) : DecidablePred (Repoints s) := fun a => by
  cases a <;> unfold Repoints <;> infer_instance

lemma keyed_step {s : State} (hk : Keyed s) (h : step s a = some s') : Keyed s' := by
  have hspec := step_spec h
  intro d k sub hsub
  cases hchange : changeOf a with
  | quiet =>
    rw [hchange] at hspec
    rw [hspec.1] at hsub
    exact hk d k sub hsub
  | add client id dest =>
    rw [hchange] at hspec
    rw [hspec.1] at hsub
    split_ifs at hsub with hkey
    · cases hsub
      exact hkey.2
    · exact hk d k sub hsub
  | remove client id =>
    rw [hchange] at hspec
    rw [hspec.1] at hsub
    split_ifs at hsub
    exact hk d k sub hsub

lemma mirror_add_iff {s : State} {client : ℕ} {id dest : GoString} (hk : Keyed s) (hk' : Keyed s')
    (hm : Mirror s) (h : (Change.add client id dest).Leads s s') :
    Mirror s' ↔ ∀ d, held s client id = some d → d = dest := by
  have hlisted : ∀ c i d, Listed s' c i d ↔
      (c = client ∧ i = id ∧ d = dest) ∨ held s c i = some d := by
    intro c i d
    rw [listed_iff hk', h.1, ← hm c i d, listed_iff hk]
    split_ifs with hkey
    · obtain ⟨hc, hi⟩ := subKey_inj hkey.2
      simp [hc, hi, hkey.1]
    · rw [or_iff_right]
      rintro ⟨rfl, rfl, rfl⟩
      exact hkey ⟨rfl, rfl⟩
  constructor
  · intro hm' d hd
    have hentry := (hm' client id d).mp ((hlisted client id d).mpr (.inr hd))
    rw [h.2, if_pos ⟨rfl, rfl⟩] at hentry
    exact (Option.some.inj hentry).symm
  · intro hsame c i d
    rw [hlisted, h.2]
    split_ifs with hci
    · obtain ⟨rfl, rfl⟩ := hci
      rw [some_inj]
      constructor
      · rintro (⟨-, -, rfl⟩ | hd)
        · rfl
        · exact (hsame d hd).symm
      · rintro rfl
        exact .inl ⟨rfl, rfl, rfl⟩
    · rw [or_iff_right]
      rintro ⟨rfl, rfl, -⟩
      exact hci ⟨rfl, rfl⟩

lemma mirror_remove {s : State} {client : ℕ} {id : GoString} (hk : Keyed s) (hk' : Keyed s')
    (hm : Mirror s) (h : (Change.remove client id).Leads s s') : Mirror s' := by
  intro c i d
  have hbefore := hm c i d
  rw [listed_iff hk] at hbefore
  rw [listed_iff hk', h.1, h.2]
  by_cases hci : c = client ∧ i = id
  · obtain ⟨rfl, rfl⟩ := hci
    rw [if_pos (show c = c ∧ i = i from ⟨rfl, rfl⟩)]
    -- The entry is under the destination the client's map has, if it has one.
    split_ifs with hd
    · simp
    · rw [hbefore]
      refine iff_of_false (fun hheld => hd ⟨?_, rfl⟩) (by simp)
      rw [hheld, getD_some]
  · rw [if_neg hci, if_neg, hbefore]
    rintro ⟨-, hkey⟩
    exact hci (subKey_inj hkey)

lemma repoints_iff (s : State) (a : Event) :
    Repoints s a ↔ ∃ client id dest, changeOf a = .add client id dest ∧
      ∃ d, held s client id = some d ∧ d ≠ dest := by
  cases a with
  | frame client f γ =>
    rw [Repoints, changeOf]
    by_cases hadd : f.cmd = go "SUBSCRIBE"
    · simp [hadd]
    · rw [if_neg hadd]
      split_ifs <;> simp [hadd]
  | _ => simp [Repoints, changeOf]

/-- **Whether the tables are still mirror images after an event.** -/
lemma mirror_step_iff {s : State} (hk : Keyed s) (hm : Mirror s) (h : step s a = some s') :
    ¬Repoints s a ↔ Mirror s' := by
  have hspec := step_spec h
  have hk' := keyed_step hk h
  rw [repoints_iff]
  cases hchange : changeOf a with
  | quiet =>
    rw [hchange] at hspec
    refine iff_of_true (by simp) fun c i d => ?_
    rw [listed_iff hk', hspec.1, hspec.2, ← listed_iff hk]
    exact hm c i d
  | add client id dest =>
    rw [hchange] at hspec
    rw [mirror_add_iff hk hk' hm hspec]
    simp
  | remove client id =>
    rw [hchange] at hspec
    exact iff_of_true (by simp) (mirror_remove hk hk' hm hspec)

/-! ## Deliveries -/

/-- A response is written once for each current subscription to its destination, to the client that
holds it and under the id it has there. -/
def DeliversToCurrent (s : State) : Prop :=
  ∀ client subs dest resp ord nanos s', s.clients client = some ⟨subs, .sending dest resp⟩ →
    step s (.deliver client ord nanos) = some s' →
    ∃ current : List Subscription, current.Nodup ∧
      (∀ sub, sub ∈ current ↔ held s sub.client sub.id = some dest) ∧
      s'.sent = s.sent ++ current.zipIdx.map fun p =>
        (p.1.client, messageFrame dest resp p.1 (formatNat (nanos p.2)))

lemma mem_seq_iff {ord : RangeOrder Subscription} {s : State} {dest key : GoString}
    {sub : Subscription} :
    (key, sub) ∈ ord.seq ((s.subscriptions.get? dest).getD ∅) ↔
      lookup s.subscriptions dest key = some sub := by
  rw [ord.mem_seq, lookup]
  cases s.subscriptions.get? dest <;> simp

lemma mem_recipients {ord : RangeOrder Subscription} {s : State} {dest : GoString}
    {sub : Subscription} :
    sub ∈ recipients ord s dest ↔ Listed s sub.client sub.id dest := by
  rw [recipients, List.mem_map, Listed]
  constructor
  · rintro ⟨⟨key, sub⟩, hmem, rfl⟩
    exact ⟨key, mem_seq_iff.mp hmem⟩
  · rintro ⟨key, hkey⟩
    exact ⟨(key, sub), mem_seq_iff.mpr hkey, rfl⟩

lemma deliversToCurrent_of_mirror {s : State} (hk : Keyed s) (hm : Mirror s) :
    DeliversToCurrent s := by
  intro client subs dest resp ord nanos s' hsending hstep
  simp only [step, hsending, Option.some_inj] at hstep
  subst hstep
  refine ⟨recipients ord s dest, ?_, fun sub => mem_recipients.trans (hm _ _ _), rfl⟩
  -- Equal subscriptions are stored under equal keys, and a map has a key once.
  refine List.Nodup.map_on ?_ ((ord.nodup_seq _).of_map Prod.fst)
  rintro ⟨key, sub⟩ hmem ⟨key', sub'⟩ hmem' heq
  obtain rfl : sub = sub' := heq
  rw [hk dest key sub (mem_seq_iff.mp hmem), hk dest key' sub (mem_seq_iff.mp hmem')]

lemma keyed_new : Keyed new := by
  intro dest key sub h
  cases h

lemma mirror_new : Mirror new := by
  intro client id dest
  refine iff_of_false ?_ (by simp [held, new])
  rintro ⟨key, h⟩
  cases h

/-- **The two tables of subscriptions.** For every interleaving of any number of clients: the tables
are mirror images, and responses go to the current subscribers, exactly if no `SUBSCRIBE` points an
id of its client to another destination. -/
theorem mirror_iff (events : List Event) (t : State) (hrun : run step new events = some t) :
    (∀ pre, pre <+: events → ∀ s, run step new pre = some s → Mirror s ∧ DeliversToCurrent s) ↔
      Along step (fun s a => ¬Repoints s a) new events := by
  have hiff : Along step (fun s a => ¬Repoints s a) new events ↔
      ∀ pre, pre <+: events → ∀ s, run step new pre = some s → Keyed s ∧ Mirror s :=
    along_iff_invariant
      (fun s a s' hs h => (mirror_step_iff hs.1 hs.2 h).trans
        ⟨fun hm => ⟨keyed_step hs.1 h, hm⟩, And.right⟩)
      ⟨keyed_new, mirror_new⟩ hrun
  rw [hiff]
  constructor
  · intro h pre hpre s hs
    exact ⟨run_preserves (fun _ _ _ => keyed_step) keyed_new hs, (h pre hpre s hs).1⟩
  · intro h pre hpre s hs
    obtain ⟨hk, hm⟩ := h pre hpre s hs
    exact ⟨hm, deliversToCurrent_of_mirror hk hm⟩

def subscribe (id dest : GoString) : Frame where
  cmd := go "SUBSCRIBE"
  headers := .ofList [(go "id", id), (go "destination", dest)]
  body := []

def twoSubscriptions : List Event :=
  [.connect 7, .frame 7 (subscribe (go "0") (go "/a")) {},
    .frame 7 (subscribe (go "1") (go "/b")) {}, .frame 7 (subscribe (go "0") (go "/a")) {}]

theorem mirror_two_subscriptions :
    ∃ t, run step new twoSubscriptions = some t ∧ Mirror t ∧
      held t 7 (go "1") = some (go "/b") := by
  have hok : Along step (fun s a => ¬Repoints s a) new twoSubscriptions := by decide
  exact ⟨_, rfl, ((mirror_iff twoSubscriptions _ rfl).mpr hok _ List.prefix_rfl _ rfl).1, rfl⟩

/-- **A subscription that cannot be removed.** The client is gone, and a response to its first
destination is still sent to it. -/
theorem stale_subscription :
    ∃ t, run step new [.connect 7, .frame 7 (subscribe (go "0") (go "/a")) {},
        .frame 7 (subscribe (go "0") (go "/b")) {}, .fail 7, .remove 7 (go "0"), .finish 7] =
          some t ∧
      Listed t 7 (go "0") (go "/a") ∧ held t 7 (go "0") = none ∧
      ∀ nanos resp, deliver (.stored _) nanos t (go "/a") resp =
        [(7, messageFrame (go "/a") resp ⟨go "0", 7⟩ (formatNat (nanos 0)))] := by
  refine ⟨_, rfl, ⟨subKey 7 (go "0"), rfl⟩, rfl, fun _ _ => rfl⟩

end Mockly.STOMP
