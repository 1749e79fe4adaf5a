import Mockly.Go.Strings
import Mockly.Lib.Transition

/-!
# Who handles a WebSocket connection

The handler of a route keeps the mock it was registered for; the catch-all looks the path up in the
list as it is then.

Main result: **`connect_current_iff`**.
-/

namespace Mockly.WebSocket

open Transition List

/-! ## The router -/

def catchAll : GoString := go "/*"

/-- The `chi` router, as far as it is documented. -/
structure Router where
  /-- `HandleFunc` panics at a pattern that is not well formed. -/
  accepts : GoString → Bool
  covers : GoString → GoString → Bool
  choose : List GoString → GoString → Option GoString
  choose_mem : ∀ {patterns path pattern}, choose patterns path = some pattern →
    pattern ∈ patterns ∧ covers pattern path = true
  choose_isSome : ∀ {patterns path pattern}, pattern ∈ patterns → covers pattern path = true →
    (choose patterns path).isSome = true
  covers_catchAll : ∀ path, covers catchAll path = hasPrefix path (go "/")
  catchAll_last : ∀ {patterns path pattern}, pattern ∈ patterns → pattern ≠ catchAll →
    covers pattern path = true → choose patterns path ≠ some catchAll

/-- The handler of a pattern is the one registered last. -/
def registered {H : Type} (routes : List (GoString × H)) (pattern : GoString) : Option H :=
  (routes.reverse.find? fun route => route.1 = pattern).map Prod.snd

/-! ## The server -/

/-- `WebSocketMock`; only the path is looked at. -/
structure WebSocketMock (D : Type) where
  path : GoString
  rest : D
  deriving DecidableEq

section Server

variable {D : Type}

/-- `initialMocks` is the copy of `Start`, once it has run. -/
structure Server (D : Type) where
  mocks : List (WebSocketMock D)
  initialMocks : Option (List (WebSocketMock D)) := none

inductive Handler (D : Type)
  | handleConn (mock : WebSocketMock D)
  | handleDynamic

inductive Outcome (D : Type)
  | handled (mock : WebSocketMock D)
  | notFound
  deriving DecidableEq

def Outcome.ofOption : Option (WebSocketMock D) → Outcome D
  | some mock => .handled mock
  | none => .notFound

/-- A request for a connection.  The router goes by a path of its own, which is not decoded. -/
structure Request where
  path : GoString
  routePath : GoString

def firstAt (path : GoString) (mocks : List (WebSocketMock D)) : Option (WebSocketMock D) :=
  mocks.find? fun m => m.path = path

def lastAt (path : GoString) (mocks : List (WebSocketMock D)) : Option (WebSocketMock D) :=
  mocks.reverse.find? fun m => m.path = path

def routes (initialMocks : List (WebSocketMock D)) : List (GoString × Handler D) :=
  initialMocks.map (fun m => (m.path, .handleConn m)) ++ [(catchAll, .handleDynamic)]

def patterns (initialMocks : List (WebSocketMock D)) : List GoString :=
  (routes initialMocks).map Prod.fst

def Server.new (mocks : List (WebSocketMock D)) : Server D where
  mocks := mocks

def handleDynamic (s : Server D) (path : GoString) : Outcome D := .ofOption (firstAt path s.mocks)

variable (rt : Router)

/-- What becomes of a connection. -/
def connect (s : Server D) (r : Request) : Option (Outcome D) :=
  s.initialMocks.map fun initialMocks =>
    let handler :=
      (rt.choose (patterns initialMocks) r.routePath).bind (registered (routes initialMocks))
    match handler with
    | some (.handleConn mock) => .handled mock
    | some .handleDynamic => handleDynamic s r.path
    | none => .notFound

inductive Event (D : Type)
  | start
  | setMocks (mocks : List (WebSocketMock D))

def step (s : Server D) : Event D → Option (Server D)
  | .start =>
    if s.initialMocks = none ∧ (patterns s.mocks).all rt.accepts then
      some { s with initialMocks := some s.mocks }
    else none
  | .setMocks mocks => some { s with mocks := mocks }

/-- The list set last. -/
def latest (mocks : List (WebSocketMock D)) : List (Event D) → List (WebSocketMock D)
  | [] => mocks
  | .start :: events => latest mocks events
  | .setMocks mocks' :: events => latest mocks' events

variable {rt}

lemma mocks_eq_latest {events : List (Event D)} {s t : Server D}
    (hrun : run (step rt) s events = some t) : t.mocks = latest s.mocks events := by
  induction events generalizing s with
  | nil =>
    cases hrun
    rfl
  | cons e events ih =>
    obtain ⟨u, hu, hrun⟩ := run_cons.mp hrun
    cases e with
    | start =>
      simp only [step] at hu
      split_ifs at hu
      cases hu
      have hmocks := ih hrun
      exact hmocks
    | setMocks mocks =>
      cases hu
      exact ih hrun

/-! ## Routes -/

variable {initialMocks : List (WebSocketMock D)}

lemma mem_patterns {pattern : GoString} :
    pattern ∈ patterns initialMocks ↔
      (∃ m ∈ initialMocks, m.path = pattern) ∨ pattern = catchAll := by
  simp [patterns, routes]

lemma registered_catchAll (initialMocks : List (WebSocketMock D)) :
    registered (routes initialMocks) catchAll = some .handleDynamic := by
  simp [registered, routes]

lemma registered_of_ne (initialMocks : List (WebSocketMock D)) {pattern : GoString}
    (hne : pattern ≠ catchAll) :
    registered (routes initialMocks) pattern = (lastAt pattern initialMocks).map .handleConn := by
  have hcatch : ¬ catchAll = pattern := fun h => hne h.symm
  simp only [registered, routes, lastAt, reverse_append, reverse_singleton, singleton_append,
    List.find?_cons, hcatch, decide_false, ← map_reverse, List.find?_map, Option.map_map]
  rfl

variable (rt) in
/-- A route of `Start` covers the request. -/
def covered (initialMocks : List (WebSocketMock D)) (r : Request) : Bool :=
  initialMocks.any fun m => decide (m.path ≠ catchAll) && rt.covers m.path r.routePath

lemma choose_of_covered {r : Request} (h : covered rt initialMocks r = true) :
    ∃ pattern m, rt.choose (patterns initialMocks) r.routePath = some pattern ∧
      pattern ≠ catchAll ∧ lastAt pattern initialMocks = some m := by
  simp only [covered, any_eq_true, Bool.and_eq_true, decide_eq_true_eq] at h
  obtain ⟨m, hm, hne, hcovers⟩ := h
  have hmem : m.path ∈ patterns initialMocks := mem_patterns.mpr (Or.inl ⟨m, hm, rfl⟩)
  obtain ⟨pattern, hpattern⟩ := Option.isSome_iff_exists.mp (rt.choose_isSome hmem hcovers)
  have hne' : pattern ≠ catchAll := by
    rintro rfl
    exact rt.catchAll_last hmem hne hcovers hpattern
  obtain ⟨m', hm', hpath⟩ : ∃ m' ∈ initialMocks, m'.path = pattern :=
    (mem_patterns.mp (rt.choose_mem hpattern).1).resolve_right hne'
  have hsome : (lastAt pattern initialMocks).isSome = true := by
    rw [lastAt, List.find?_isSome]
    exact ⟨m', mem_reverse.mpr hm', by simpa using hpath⟩
  obtain ⟨last, hlast⟩ := Option.isSome_iff_exists.mp hsome
  exact ⟨pattern, last, hpattern, hne', hlast⟩

lemma choose_of_not_covered {r : Request} (h : covered rt initialMocks r = false) :
    rt.choose (patterns initialMocks) r.routePath =
      if hasPrefix r.routePath (go "/") then some catchAll else none := by
  have honly : ∀ pattern, rt.choose (patterns initialMocks) r.routePath = some pattern →
      pattern = catchAll := by
    intro pattern hpattern
    obtain ⟨hmem, hcovers⟩ := rt.choose_mem hpattern
    by_contra hne
    obtain ⟨m, hm, rfl⟩ := (mem_patterns.mp hmem).resolve_right hne
    have hcovered : covered rt initialMocks r = true :=
      any_eq_true.mpr ⟨m, hm, by simp [hne, hcovers]⟩
    simp [h] at hcovered
  cases hchoose : rt.choose (patterns initialMocks) r.routePath with
  | none =>
    have hnot : ¬ hasPrefix r.routePath (go "/") = true := by
      rw [← rt.covers_catchAll]
      intro hcovers
      have hmem : catchAll ∈ patterns initialMocks := mem_patterns.mpr (Or.inr rfl)
      have hsome := rt.choose_isSome hmem hcovers
      rw [hchoose] at hsome
      cases hsome
    rw [if_neg hnot]
  | some pattern =>
    obtain rfl := honly pattern hchoose
    have hcovers := (rt.choose_mem hchoose).2
    rw [rt.covers_catchAll] at hcovers
    rw [if_pos hcovers]

/-! ## Who handles a connection -/

variable (rt) in
/-- The route that covers the request keeps the first mock for its path in the current list; without
one, the request gets to the catch-all, or there is no mock for its path. -/
def RouteCurrent (initialMocks current : List (WebSocketMock D)) (r : Request) : Prop :=
  if covered rt initialMocks r then
    ∀ pattern, rt.choose (patterns initialMocks) r.routePath = some pattern →
      lastAt pattern initialMocks = firstAt r.path current
  else hasPrefix r.routePath (go "/") = true ∨ firstAt r.path current = none

lemma ofOption_injective {a b : Option (WebSocketMock D)}
    (h : Outcome.ofOption a = Outcome.ofOption b) : a = b := by
  cases a with
  | none =>
    cases b with
    | none => rfl
    | some m => cases h
  | some m =>
    cases b with
    | none => cases h
    | some m' =>
      cases h
      rfl

/-- **A connection is handled by the first mock for its path in the list set last**, or not found if
there is none, exactly when the routes of `Start` do not stand in the way. -/
theorem connect_current_iff {mocks initialMocks : List (WebSocketMock D)} {events : List (Event D)}
    {s : Server D} (hrun : run (step rt) (.new mocks) events = some s)
    (hstart : s.initialMocks = some initialMocks) (r : Request) :
    connect rt s r = some (.ofOption (firstAt r.path (latest mocks events))) ↔
      RouteCurrent rt initialMocks (latest mocks events) r := by
  have hmocks : s.mocks = latest mocks events := mocks_eq_latest hrun
  simp only [connect, hstart, Option.map_some, Option.some.injEq, RouteCurrent]
  cases hcovered : covered rt initialMocks r with
  | true =>
    obtain ⟨pattern, m, hchoose, hne, hlast⟩ := choose_of_covered hcovered
    simp only [hchoose, Option.bind_some, registered_of_ne _ hne, hlast, Option.map_some, if_true,
      Option.some.injEq, forall_eq']
    exact ⟨fun h => ofOption_injective (a := some m) h, fun h => congrArg Outcome.ofOption h⟩
  | false =>
    rw [choose_of_not_covered hcovered]
    simp only [Bool.false_eq_true, if_false]
    by_cases hslash : hasPrefix r.routePath (go "/") = true
    · simp [hslash, registered_catchAll, handleDynamic, hmocks]
    · simp only [hslash, Bool.false_eq_true, if_false, Option.bind_none, false_or]
      exact ⟨fun h => (ofOption_injective (a := none) h).symm,
        fun h => (congrArg Outcome.ofOption h).symm⟩

end Server

/-! ## A router without parameters -/

def plainRouter : Router where
  accepts := fun pattern => hasPrefix pattern (go "/")
  covers := fun pattern path =>
    decide (pattern = path) || (decide (pattern = catchAll) && hasPrefix path (go "/"))
  choose := fun patterns path =>
    if path ∈ patterns then some path
    else if catchAll ∈ patterns ∧ hasPrefix path (go "/") then some catchAll
    else none
  choose_mem := by
    intro patterns path pattern h
    split_ifs at h with hmem hcatch
    · cases h
      exact ⟨hmem, by simp⟩
    · cases h
      exact ⟨hcatch.1, by simp [hcatch.2]⟩
  choose_isSome := by
    intro patterns path pattern hmem hcovers
    simp only [Bool.or_eq_true, Bool.and_eq_true, decide_eq_true_eq] at hcovers
    rcases hcovers with rfl | ⟨rfl, hslash⟩
    · simp [hmem]
    · split_ifs with h h'
      · rfl
      · rfl
      · exact absurd ⟨hmem, hslash⟩ h'
  covers_catchAll := by
    intro path
    cases h : hasPrefix path (go "/") with
    | true => simp
    | false =>
      have hne : catchAll ≠ path := by
        rintro rfl
        exact absurd h (by decide)
      simp [hne]
  catchAll_last := by
    intro patterns path pattern hmem hne hcovers
    have hpath : pattern = path := by simpa [hne] using hcovers
    simpa [← hpath, hmem] using hne

def mockA (n : ℕ) : WebSocketMock ℕ := ⟨go "/a", n⟩

/-- A path that gets its mock later, and another one after that. -/
theorem connect_current_iff_later :
    ∃ s, run (step plainRouter) (.new []) [.start, .setMocks [mockA 1], .setMocks [mockA 2]] =
        some s ∧
      connect plainRouter s ⟨go "/a", go "/a"⟩ = some (.handled (mockA 2)) := by
  have hrun : run (step plainRouter) (.new [])
      [.start, .setMocks [mockA 1], .setMocks [mockA 2]] = some ⟨[mockA 2], some []⟩ := rfl
  exact ⟨_, hrun, (connect_current_iff hrun rfl ⟨go "/a", go "/a"⟩).mpr (Or.inl (by decide))⟩

/-- **A mock that has been removed goes on handling connections**, if it was there at the start. -/
theorem removed_mock_still_handles :
    ∃ s, run (step plainRouter) (.new [mockA 1]) [.start, .setMocks []] = some s ∧
      latest [mockA 1] [.start, .setMocks []] = [] ∧
      connect plainRouter s ⟨go "/a", go "/a"⟩ = some (.handled (mockA 1)) :=
  ⟨_, rfl, rfl, by decide⟩

end Mockly.WebSocket
