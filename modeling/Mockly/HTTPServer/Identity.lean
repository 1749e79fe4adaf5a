import Mockly.HTTPServer.Server

/-!
# Which mock a response belongs to

The handler finds the mock again by the ID that `HTTPMatch` returns: the first one that bears it.
But an empty ID passes validation, and recorded mocks are numbered without regard to the IDs that
are there.

Main result: **`usesOnlySelected_iff`**.
-/

namespace Mockly

open List

/-! ## Positions

A position in the list of a listener is turned into a place in the live list by cutting the live
list there. -/

lemma exists_split_of_filter {α : Type*} {p : α → Bool} {l : List α} {j : ℕ} {a : α}
    (h : (l.filter p)[j]? = some a) :
    ∃ pre post, l = pre ++ a :: post ∧ p a = true ∧ j = (pre.filter p).length := by
  induction l generalizing j with
  | nil => simp at h
  | cons x l ih =>
    by_cases hx : p x = true
    · rw [filter_cons_of_pos hx] at h
      cases j with
      | zero =>
        simp only [List.getElem?_cons_zero, Option.some.injEq] at h
        subst h
        exact ⟨[], l, rfl, hx, rfl⟩
      | succ j =>
        rw [List.getElem?_cons_succ] at h
        obtain ⟨pre, post, rfl, ha, hj⟩ := ih h
        refine ⟨x :: pre, post, rfl, ha, ?_⟩
        rw [filter_cons_of_pos hx, length_cons, hj]
    · rw [filter_cons_of_neg hx] at h
      obtain ⟨pre, post, rfl, ha, hj⟩ := ih h
      exact ⟨x :: pre, post, rfl, ha, by rw [filter_cons_of_neg hx, hj]⟩

/-- One element is known to satisfy `p`; it is the only one if none of the others does. -/
lemma countP_eq_one_iff {α : Type*} {p : α → Bool} {pre post : List α} {a : α} (ha : p a = true) :
    (pre ++ a :: post).countP p = 1 ↔ ∀ b ∈ pre ++ post, ¬ p b = true := by
  rw [← countP_eq_zero, countP_append, countP_append, countP_cons_of_pos ha]
  omega

/-! ## Finding the mock again -/

/-- If nothing before a mock has its ID, looking for the ID finds that mock. -/
lemma consult_eq {id : GoString} {m : HTTPMock} (hm : m.id = id) :
    ∀ (pre post : List HTTPMock) (i : ℕ), (∀ x ∈ pre, x.id ≠ id) →
      consult id i (pre ++ m :: post) = some (i + pre.length, m)
  | [], post, i, _ => by simp [consult, hm]
  | x :: pre, post, i, hpre => by
      have hx : x.id ≠ id := hpre x mem_cons_self
      have ih := consult_eq hm pre post (i + 1)
        fun y hy => hpre y (mem_cons_of_mem x hy)
      rw [cons_append, consult, if_neg hx, ih, length_cons,
        show i + 1 + pre.length = i + (pre.length + 1) by omega]

/-- The handler consults the mock at the position `HTTPMatch` stopped at, and of all mocks of the
live list it is the only one whose call count is affected. -/
def UsesOnlySelected (s s' : Server) (listener : GoString) (u : Used) : Prop :=
  u.consulted = some (u.selected.index, u.selected.mock) ∧
    ∃ pre post, s.mocks = pre ++ u.selected.mock :: post ∧
      u.selected.mock.listener = listener ∧
      u.selected.index = (pre.filter fun m => m.listener = listener).length ∧
      s'.callCount u.selected.mock.id = s.callCount u.selected.mock.id + 1 ∧
      ∀ m ∈ pre ++ post, s'.callCount m.id = s.callCount m.id

lemma callCount_countCall (s : Server) (id id' : GoString) :
    (s.countCall id).callCount id' = s.callCount id' + if id' = id then 1 else 0 := by
  by_cases h : id' = id
  · subst h
    simp [Server.countCall, Server.callCount]
  · simp [Server.countCall, Server.callCount, GoMap.get?_set_ne _ _ h, h]

lemma callCount_respondMatched (mo : Moment) (s : Server) (store : Option State.Store)
    (mocks : List HTTPMock) (req : MatchInput) (sel : Selection) (id : GoString) :
    (respondMatched mo { s with store } mocks req sel).2.callCount id =
      s.callCount id + if id = sel.mock.id then 1 else 0 :=
  callCount_countCall { s with store } sel.mock.id id

/-- **The handler uses the selected mock exactly when its ID is its own.** The sequence entry, the
webhooks, the fault and the call counter belong to the very mock that was selected, and to no other,
if and only if no other mock of the live list bears its ID. -/
theorem usesOnlySelected_iff (mo : Moment) (s : Server) (r : Inbound) (u : Used)
    (h : (handleRequest mo s r).1.used = some u) :
    UsesOnlySelected s (handleRequest mo s r).2 r.listener u ↔
      (s.mocks.countP fun m => m.id = u.selected.mock.id) = 1 := by
  obtain ⟨body, store, -, hsel, -, -, hcons, heq⟩ := handleRequest_used h
  obtain ⟨j, hj, hget, -⟩ := selectMock_eq_some (congrArg Prod.fst hsel)
  rw [zero_add] at hj
  subst hj
  rw [reachable, mocksForListener_eq_filter] at hget hcons
  obtain ⟨pre, post, hlive, hlist, hidx⟩ := exists_split_of_filter hget
  simp only [decide_eq_true_eq] at hlist
  have hcount : ∀ id, (handleRequest mo s r).2.callCount id =
      s.callCount id + if id = u.selected.mock.id then 1 else 0 := by
    intro id
    rw [heq]
    exact callCount_respondMatched mo s store _ _ _ id
  constructor
  · -- every other mock kept its count, so none of them has the ID that was counted
    rintro ⟨-, pre', post', hlive', -, -, -, hothers⟩
    rw [hlive', countP_eq_one_iff (by simp)]
    intro m hm hid
    have hsame := hothers m hm
    rw [hcount, if_pos (of_decide_eq_true hid)] at hsame
    omega
  · intro hone
    rw [hlive, countP_eq_one_iff (by simp)] at hone
    have hne : ∀ m ∈ pre ++ post, m.id ≠ u.selected.mock.id := by
      intro m hm
      simpa using hone m hm
    refine ⟨?_, pre, post, hlive, hlist, hidx, by simp [hcount], ?_⟩
    · rw [hcons, hlive, List.filter_append,
        List.filter_cons_of_pos (by simpa using hlist),
        consult_eq rfl _ _ 0 fun x hx => hne x ?_]
      · rw [hidx, zero_add]
      · exact List.mem_append_left _ (List.mem_of_mem_filter hx)
    · intro m hm
      rw [hcount, if_neg (hne m hm), add_zero]

/-! ## Mocks without an ID of their own -/

def sequenceMock (id path : GoString) (statuses : List ℤ) : HTTPMock where
  id := id
  request := { path := path }
  response := { headers := ∅ }
  sequence := statuses.map fun status => { status := status, headers := ∅ }

/-- With IDs of their own, the second mock serves its own sequence. -/
theorem distinct_ids_are_not_confused :
    let s : Server :=
      { mocks := [sequenceMock (go "a") (go "/a") [201], sequenceMock (go "b") (go "/b") [202]] }
    let out := handleRequest { env := Env.basic } s (plainRequest (go "/b"))
    ∃ u, out.1.used = some u ∧ (s.mocks.countP fun m => m.id = u.selected.mock.id) = 1 ∧
      UsesOnlySelected s out.2 [] u := by
  intro s out
  refine ⟨_, rfl, by decide, ?_⟩
  exact (usesOnlySelected_iff { env := Env.basic } s (plainRequest (go "/b")) _ rfl).mpr
    (by decide)

def Wire.status? : Wire → Option ℤ
  | .response status _ _ => some status
  | _ => none

/-- **Two mocks without an ID are taken for one another.**  The request selects the second mock,
and is answered with the first entry of the first mock's sequence. -/
theorem empty_ids_are_confused :
    let s : Server :=
      { mocks := [sequenceMock [] (go "/a") [201], sequenceMock [] (go "/b") [202]] }
    let out := handleRequest { env := Env.basic } s (plainRequest (go "/b"))
    ∃ u, out.1.used = some u ∧ u.selected.index = 1 ∧ u.selected.mock.request.path = go "/b" ∧
      out.1.wire.status? = some 201 ∧ ¬ UsesOnlySelected s out.2 [] u := by
  intro s out
  refine ⟨_, rfl, rfl, rfl, by decide, ?_⟩
  rintro ⟨hcons, -⟩
  have hidx := congrArg (Option.map Prod.fst) hcons
  exact absurd hidx (by decide)

end Mockly
