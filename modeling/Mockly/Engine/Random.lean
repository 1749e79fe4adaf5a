import Mockly.Engine.Env
import Mockly.Go.Strconv
import Mockly.Lib.Locking

/-!
# The random functions of the templates

`rngIntn` locks `rngMu` without a deferred unlock, and `rand.Intn` panics unless its bound is
positive. The bound of `rand_int` is `max - min + 1` in 64 bits.

Main results: **`sound_invoke`**, **`mutex_free_iff`**.
-/

namespace Mockly

open Locking

/-- The values of the type `int`. -/
abbrev GoInt : Type := {n : ℤ // minInt64 ≤ n ∧ n ≤ maxInt64}

/-- The generator `rng`, and the rest of what the functions are given. -/
structure Rand (G : Type) where
  /-- `rng.Intn(n)` for a positive `n`. -/
  intn : ℤ → G → ℤ × G
  intn_mem : ∀ n g, 0 < n → 0 ≤ (intn n g).1 ∧ (intn n g).1 < n
  /-- `rng.Float64()`. -/
  float64 : G → Float64 × G
  /-- `min + v*(max-min)`. -/
  interpolate : Float64 → Float64 → Float64 → Float64
  /-- `strconv.FormatFloat(v, 'f', decimals, 64)`. -/
  formatFloat : Float64 → ℤ → GoString
  maxAlloc : ℤ

variable {G : Type} (env : Env) (rand : Rand G)

/-- A function that a template calls. -/
abbrev TemplateFn (G α : Type) : Type := Locking G GoString α

/-! ## The generator -/

def rngIntn (n : ℤ) : TemplateFn G ℤ :=
  critical fun g => if n ≤ 0 then none else some (rand.intn n g)

def rngFloat64 : TemplateFn G Float64 := critical fun g => some (rand.float64 g)

/-- `list[i]`. -/
def atIndex {α : Type} (list : List α) (i : ℤ) : TemplateFn G α :=
  if i < 0 then panics
  else
    match list[i.toNat]? with
    | none => panics
    | some a => pure a

/-- `make([]T, n)` for elements of `size` bytes. -/
def allocate (n size : ℤ) : TemplateFn G Unit :=
  if n < 0 ∨ rand.maxAlloc < n * size then panics else pure ()

def randPick (list : List GoString) : TemplateFn G GoString := do
  let i ← rngIntn rand list.length
  atIndex list i

/-! ## Number formats -/

/-- `%0*d` and `%0*x`, given the digits. -/
def zeroPad (width : ℕ) (digits : GoString) : GoString :=
  List.replicate (width - digits.length) 48 ++ digits

def hexDigit (d : ℕ) : UInt8 := UInt8.ofNat (if d < 10 then 48 + d else 87 + d)

/-- `%x` of a number. -/
def formatHex (n : ℕ) : GoString :=
  if n = 0 then [48] else (Nat.digits 16 n).reverse.map hexDigit

/-- `%x` of a byte slice. -/
def hexBytes (bs : List UInt8) : GoString :=
  bs.flatMap fun b => [hexDigit (b.toNat / 16), hexDigit (b.toNat % 16)]

/-! ## Random primitives -/

/-- `b` are the bytes of package crypto/rand. -/
def fnUUID (b : Fin 16 → UInt8) : TemplateFn G GoString :=
  let bytes := ((List.ofFn b).set 6 (b 6 &&& 0x0f ||| 0x40)).set 8 (b 8 &&& 0x3f ||| 0x80)
  let part (lo hi : ℕ) := hexBytes ((bytes.take hi).drop lo)
  pure (part 0 4 ++ go "-" ++ part 4 6 ++ go "-" ++ part 6 8 ++ go "-" ++ part 8 10 ++ go "-" ++
    part 10 16)

def fnRandInt (min max : ℤ) : TemplateFn G GoString :=
  if min > max then
    fail (go "rand_int: min (" ++ formatInt min ++ go ") > max (" ++ formatInt max ++ go ")")
  else do
    let v ← rngIntn rand (wrap64 (wrap64 (max - min) + 1))
    pure (formatInt (wrap64 (min + v)))

def fnRandFloat (min max : Float64) (decimals : ℤ) : TemplateFn G GoString := do
  let v ← rngFloat64 rand
  pure (rand.formatFloat (rand.interpolate min max v) decimals)

def charsetAlphaLower : GoString := go "abcdefghijklmnopqrstuvwxyz"

def charsetAlphaUpper : GoString := go "ABCDEFGHIJKLMNOPQRSTUVWXYZ"

def charsetAlpha : GoString := charsetAlphaLower ++ charsetAlphaUpper

def charsetNumeric : GoString := go "0123456789"

def charsetAlphanumeric : GoString := charsetAlpha ++ charsetNumeric

def charsetHex : GoString := go "0123456789abcdef"

/-- The character set that the optional arguments of `rand_string` select. -/
def charsetOf (args : List GoString) : Except GoString GoString :=
  match args with
  | [] => .ok charsetAlphanumeric
  | arg :: _ =>
    if arg = go "alpha" then .ok charsetAlpha
    else if arg = go "lower" then .ok charsetAlphaLower
    else if arg = go "upper" then .ok charsetAlphaUpper
    else if arg = go "numeric" then .ok charsetNumeric
    else if arg = go "alphanumeric" then .ok charsetAlphanumeric
    else if arg = go "hex" then .ok charsetHex
    else if arg = [] then .error (go "rand_string: custom charset is empty")
    else .ok arg

def fnRandString (length : ℤ) (args : List GoString) : TemplateFn G GoString :=
  if length ≤ 0 then fail (go "rand_string: length must be > 0, got " ++ formatInt length)
  else
    match charsetOf args with
    | .error e => fail e
    | .ok charset => do
        allocate rand length 1
        times (do let i ← rngIntn rand charset.length; atIndex charset i) length.toNat

def fnRandBool : TemplateFn G GoString := do
  let v ← rngIntn rand 2
  pure (if v = 0 then go "false" else go "true")

def fnPick (options : List GoString) : TemplateFn G GoString :=
  if options = [] then fail (go "pick: requires at least one option") else randPick rand options

/-! ## Fake data -/

def fakeFirstNames : List GoString :=
  ["Alice", "Bob", "Charlie", "Diana", "Eve", "Frank", "Grace", "Henry", "Iris", "Jack", "Kate",
    "Liam", "Mia", "Noah", "Olivia", "Paul", "Quinn", "Ruby", "Sam", "Tara"].map go

def fakeLastNames : List GoString :=
  ["Smith", "Jones", "Williams", "Brown", "Taylor", "Davies", "Evans", "Wilson", "Thomas",
    "Roberts", "Johnson", "White", "Martin", "Anderson", "Thompson", "Garcia", "Martinez",
    "Robinson", "Clark", "Lewis"].map go

def fakeCompanyPrefix : List GoString :=
  ["Acme", "Apex", "Atlas", "Blue", "Bright", "Core", "Delta", "Edge", "Fast", "Global", "Horizon",
    "Ionic", "Matrix", "Nova", "Zenith"].map go

def fakeCompanySuffix : List GoString :=
  ["Inc", "LLC", "Corp", "Group", "Labs", "Solutions", "Systems", "Technologies"].map go

def fakeCities : List GoString :=
  ["London", "New York", "Berlin", "Tokyo", "Paris", "Sydney", "Toronto", "Singapore", "Dubai",
    "Amsterdam", "Chicago", "Madrid", "Mumbai", "Seoul", "Austin"].map go

def fakeCountries : List GoString :=
  ["United States", "Germany", "Japan", "United Kingdom", "France", "Australia", "Canada",
    "Singapore", "Netherlands", "Brazil", "India", "Spain", "South Korea", "Mexico",
    "Sweden"].map go

def fakeEmailDomains : List GoString :=
  ["example.com", "test.io", "mockly.dev", "demo.net", "fake.org", "sandbox.io", "acme.com",
    "corp.net", "devlab.io", "staging.co"].map go

def fakeUserAgents : List GoString :=
  [go "Mozilla/5.0 (Windows NT 10.0; Win64; x64) AppleWebKit/537.36 (KHTML, like Gecko) " ++
      go "Chrome/124.0 Safari/537.36",
    go "Mozilla/5.0 (Macintosh; Intel Mac OS X 14_4) AppleWebKit/605.1.15 (KHTML, like Gecko) " ++
      go "Version/17.4 Safari/605.1.15",
    go "Mozilla/5.0 (X11; Linux x86_64; rv:125.0) Gecko/20100101 Firefox/125.0",
    go "Mozilla/5.0 (iPhone; CPU iPhone OS 17_4 like Mac OS X) AppleWebKit/605.1.15 " ++
      go "Mobile/15E148 Safari/604.1",
    go "curl/8.6.0"]

def fakeWords : List GoString :=
  ["lorem", "ipsum", "dolor", "sit", "amet", "consectetur", "adipiscing", "elit", "sed", "do",
    "eiusmod", "tempor", "incididunt", "ut", "labore", "et", "dolore", "magna", "aliqua", "enim",
    "minim", "veniam", "quis", "nostrud", "exercitation", "ullamco", "laboris"].map go

def fakeStreets : List GoString :=
  ["Main St", "Oak Ave", "Maple Rd", "Elm St", "Cedar Blvd", "Park Ave", "Broadway", "Market St",
    "High St", "Church Lane"].map go

def fakeTLDs : List GoString := ["com", "io", "dev", "net", "org", "co"].map go

/-- `fnLorem`; a Go string takes 16 bytes of a slice. -/
def fnLorem (n : ℤ) : TemplateFn G GoString :=
  if n ≤ 0 then pure []
  else do
    allocate rand n 16
    let words ← times (randPick rand fakeWords) n.toNat
    pure (join words (go " "))

inductive FakeKind
  | name
  | firstName
  | lastName
  | email
  | username
  | phone
  | company
  | city
  | country
  | street
  | zip
  | ip
  | ipv6
  | url
  | useragent
  | word
  | sentence

/-- The kinds under the names that `fnFake` knows them by. -/
def fakeKinds : List (GoString × FakeKind) :=
  [(go "name", .name), (go "first_name", .firstName), (go "last_name", .lastName),
    (go "email", .email), (go "username", .username), (go "phone", .phone),
    (go "company", .company), (go "city", .city), (go "country", .country),
    (go "street", .street), (go "zip", .zip), (go "ip", .ip), (go "ipv6", .ipv6),
    (go "url", .url), (go "useragent", .useragent), (go "word", .word),
    (go "sentence", .sentence)]

/-- The branches of `fnFake`. -/
def fakeOf : FakeKind → TemplateFn G GoString
  | .name => do
      let first ← randPick rand fakeFirstNames
      let last ← randPick rand fakeLastNames
      pure (first ++ go " " ++ last)
  | .firstName => randPick rand fakeFirstNames
  | .lastName => randPick rand fakeLastNames
  | .email => do
      let first ← randPick rand fakeFirstNames
      let last ← randPick rand fakeLastNames
      let domain ← randPick rand fakeEmailDomains
      pure (toLower env.caseTable first ++ go "." ++ toLower env.caseTable last ++ go "@" ++ domain)
  | .username => do
      let first ← randPick rand fakeFirstNames
      let n ← rngIntn rand 90
      pure (toLower env.caseTable first ++ formatInt (10 + n))
  | .phone => do
      let n ← rngIntn rand 10000
      pure (go "+1-555-" ++ zeroPad 4 (formatInt n))
  | .company => do
      let first ← randPick rand fakeCompanyPrefix
      let last ← randPick rand fakeCompanySuffix
      pure (first ++ go " " ++ last)
  | .city => randPick rand fakeCities
  | .country => randPick rand fakeCountries
  | .street => do
      let n ← rngIntn rand 999
      let street ← randPick rand fakeStreets
      pure (formatInt (1 + n) ++ go " " ++ street)
  | .zip => do
      let n ← rngIntn rand 100000
      pure (zeroPad 5 (formatInt n))
  | .ip => do
      let m ← rngIntn rand 256
      let n ← rngIntn rand 254
      pure (go "192.168." ++ formatInt m ++ go "." ++ formatInt (1 + n))
  | .ipv6 => do
      let m ← rngIntn rand 0x10000
      let n ← rngIntn rand 0x10000
      pure (go "2001:db8::" ++ zeroPad 4 (formatHex m.toNat) ++ go ":" ++
        zeroPad 4 (formatHex n.toNat))
  | .url => do
      let path ← randPick rand fakeWords
      let tld ← randPick rand fakeTLDs
      let company ← randPick rand fakeCompanyPrefix
      pure (go "https://" ++ toLower env.caseTable company ++ go "." ++ tld ++ go "/api/" ++ path)
  | .useragent => randPick rand fakeUserAgents
  | .word => randPick rand fakeWords
  | .sentence => do
      let n ← rngIntn rand 6
      fnLorem rand (5 + n)

def fnFake (kind : GoString) : TemplateFn G GoString :=
  match fakeKinds.lookup kind with
  | some k => fakeOf env rand k
  | none =>
    fail (go "fake: unknown kind " ++ env.quote kind ++
      go " — valid kinds: name, first_name, last_name, email, username, phone, company, city, " ++
      go "country, street, zip, ip, ipv6, url, useragent, word, sentence")

/-! ## Calls -/

inductive RandomCall
  | uuid (b : Fin 16 → UInt8)
  | randInt (min max : GoInt)
  | randFloat (min max : Float64) (decimals : GoInt)
  | randString (length : GoInt) (args : List GoString)
  | randBool
  | pick (options : List GoString)
  | fake (kind : GoString)
  | lorem (n : GoInt)

/-- A call, as the template engine makes it. -/
def RandomCall.invoke : RandomCall → TemplateFn G GoString
  | .uuid b => fnUUID b
  | .randInt min max => fnRandInt rand min max
  | .randFloat min max decimals => fnRandFloat rand min max decimals
  | .randString length args => fnRandString rand length args
  | .randBool => fnRandBool rand
  | .pick options => fnPick rand options
  | .fake kind => fnFake env rand kind
  | .lorem n => fnLorem rand n

/-- The call asks for no range of more than `2^63 - 1` numbers. -/
def RandomCall.Narrow : RandomCall → Prop
  | .randInt min max => max.val - min.val < maxInt64
  | _ => True

/-! ## What the functions return -/

section Sound

variable {rand}

lemma sound_rngIntn {n : ℤ} (hn : 0 < n) :
    Sound (fun v => 0 ≤ v ∧ v < n) (rngIntn rand n) := by
  refine sound_critical fun g => ⟨(rand.intn n g).1, (rand.intn n g).2, ?_, rand.intn_mem n g hn⟩
  rw [if_neg (not_le.mpr hn)]

variable (n : ℤ)

lemma rngIntn_held (g : G) : rngIntn rand n ⟨true, g⟩ = (.blocked, ⟨true, g⟩) := rfl

lemma sound_atIndex {α : Type} (list : List α) (i : ℤ) :
    Sound (· ∈ list) (atIndex list i : TemplateFn G α) := by
  unfold atIndex
  split_ifs with hi
  · exact sound_panics
  · cases h : list[i.toNat]? with
    | none => exact sound_panics
    | some a => exact sound_pure (List.mem_of_getElem? h)

lemma sound_allocate (size : ℤ) : Sound (fun _ => True) (allocate rand n size) := by
  unfold allocate
  split_ifs
  · exact sound_panics
  · exact sound_pure trivial

lemma sound_draw {α : Type} {list : List α} (h : list ≠ []) :
    Sound (· ∈ list) (do let i ← rngIntn rand list.length; atIndex list i) := by
  have hlen : (0 : ℤ) < list.length := by
    have := List.length_pos_of_ne_nil h
    omega
  exact sound_bind (sound_rngIntn hlen) fun i _ => sound_atIndex list i

lemma sound_randPick {list : List GoString} (h : list ≠ []) :
    Sound (· ∈ list) (randPick rand list) := sound_draw h

lemma charsetOf_ne_nil {args : List GoString} {charset : GoString}
    (h : charsetOf args = .ok charset) : charset ≠ [] := by
  unfold charsetOf at h
  split at h
  · cases h
    decide
  · split_ifs at h with _ _ _ _ _ _ hempty
    all_goals cases h
    all_goals first | exact hempty | decide

/-- `rand_string` returns as many characters of the set as it is asked for. -/
lemma sound_fnRandString (length : ℤ) (args : List GoString) :
    Sound (fun s => s.length = length.toNat ∧ ∀ charset, charsetOf args = .ok charset →
      ∀ c ∈ s, c ∈ charset) (fnRandString rand length args) := by
  unfold fnRandString
  split_ifs with hlength
  · exact sound_fail _
  · cases hset : charsetOf args with
    | error e => exact sound_fail e
    | ok charset =>
      refine sound_bind (sound_allocate length 1) fun _ _ => ?_
      refine (sound_times (sound_draw (charsetOf_ne_nil hset)) _).mono ?_
      rintro s ⟨hlen, hmem⟩
      refine ⟨hlen, fun charset' h => ?_⟩
      cases h
      exact hmem

lemma sound_fnPick (options : List GoString) : Sound (· ∈ options) (fnPick rand options) := by
  unfold fnPick
  split_ifs with h
  · exact sound_fail _
  · exact sound_randPick h

lemma sound_fnLorem : Sound (fun _ => True) (fnLorem rand n) := by
  unfold fnLorem
  split_ifs
  · exact sound_pure trivial
  · refine sound_bind (sound_allocate n 16) fun _ _ => ?_
    exact sound_bind (sound_times (sound_randPick (by decide)) _) fun _ _ => sound_pure trivial

lemma sound_rngIntn_then {n : ℤ} (hn : 0 < n) {f : ℤ → TemplateFn G GoString}
    (hf : ∀ v, Sound (fun _ => True) (f v)) : Sound (fun _ => True) (rngIntn rand n >>= f) :=
  sound_bind (sound_rngIntn hn) fun v _ => hf v

lemma sound_randPick_then {list : List GoString} (h : list ≠ [])
    {f : GoString → TemplateFn G GoString} (hf : ∀ s, Sound (fun _ => True) (f s)) :
    Sound (fun _ => True) (randPick rand list >>= f) :=
  sound_bind (sound_randPick h) fun s _ => hf s

lemma sound_fakeOf (kind : FakeKind) : Sound (fun _ => True) (fakeOf env rand kind) := by
  have one : ∀ {list : List GoString}, list ≠ [] → Sound (fun _ => True) (randPick rand list) :=
    fun h => (sound_randPick h).mono fun _ _ => trivial
  have text : ∀ s, Sound (fun _ => True) (pure s : TemplateFn G GoString) :=
    fun s => sound_pure trivial
  cases kind with
  | name | company =>
    refine sound_randPick_then (by decide) fun first => ?_
    exact sound_randPick_then (by decide) fun last => text _
  | firstName | lastName | city | country | useragent | word => exact one (by decide)
  | email =>
    refine sound_randPick_then (by decide) fun first => ?_
    refine sound_randPick_then (by decide) fun last => ?_
    exact sound_randPick_then (by decide) fun domain => text _
  | username =>
    refine sound_randPick_then (by decide) fun first => ?_
    exact sound_rngIntn_then (by decide) fun n => text _
  | phone | zip => exact sound_rngIntn_then (by decide) fun n => text _
  | street =>
    refine sound_rngIntn_then (by decide) fun n => ?_
    exact sound_randPick_then (by decide) fun street => text _
  | ip | ipv6 =>
    refine sound_rngIntn_then (by decide) fun m => ?_
    exact sound_rngIntn_then (by decide) fun n => text _
  | url =>
    refine sound_randPick_then (by decide) fun path => ?_
    refine sound_randPick_then (by decide) fun tld => ?_
    exact sound_randPick_then (by decide) fun company => text _
  | sentence => exact sound_rngIntn_then (by decide) fun n => sound_fnLorem (5 + n)

lemma sound_fnFake (kind : GoString) : Sound (fun _ => True) (fnFake env rand kind) := by
  unfold fnFake
  cases fakeKinds.lookup kind with
  | none => exact sound_fail _
  | some k => exact sound_fakeOf env k

/-! ## The range of `rand_int` -/

def drawBound (min max : ℤ) : ℤ := wrap64 (wrap64 (max - min) + 1)

variable {min max : ℤ}

lemma drawBound_eq (hle : min ≤ max) (hnarrow : max - min < maxInt64) :
    drawBound min max = max - min + 1 := by
  rw [drawBound, add_comm, wrap64_add_wrap64, add_comm, wrap64_eq_self_iff]
  simp only [minInt64, maxInt64] at *
  omega

lemma drawBound_nonpos (hmin : minInt64 ≤ min) (hmax : max ≤ maxInt64)
    (hwide : ¬ max - min < maxInt64) : drawBound min max ≤ 0 := by
  rw [drawBound, add_comm, wrap64_add_wrap64]
  simp only [minInt64, maxInt64, wrap64, Int.bmod_def] at *
  split <;> omega

lemma fnRandInt_narrow (hmin : minInt64 ≤ min) (hmax : max ≤ maxInt64) (hle : min ≤ max)
    (hnarrow : max - min < maxInt64) (g : G) :
    ∃ v g', min ≤ v ∧ v ≤ max ∧
      fnRandInt rand min max ⟨false, g⟩ = (.done (formatInt v), ⟨false, g'⟩) := by
  have hpos : ¬ drawBound min max ≤ 0 := by
    rw [drawBound_eq hle hnarrow]
    omega
  obtain ⟨hlow, hhigh⟩ := rand.intn_mem (drawBound min max) g (not_le.mp hpos)
  replace hhigh := hhigh.trans_eq (drawBound_eq hle hnarrow)
  have hdraw : rngIntn rand (drawBound min max) ⟨false, g⟩ =
      (.done (rand.intn (drawBound min max) g).1, ⟨false, (rand.intn (drawBound min max) g).2⟩) :=
    critical_of_some (by rw [if_neg hpos])
  have hfit : wrap64 (min + (rand.intn (drawBound min max) g).1) =
      min + (rand.intn (drawBound min max) g).1 := by
    rw [wrap64_eq_self_iff]
    omega
  refine ⟨min + (rand.intn (drawBound min max) g).1, (rand.intn (drawBound min max) g).2,
    by omega, by omega, ?_⟩
  rw [fnRandInt, if_neg (not_lt.mpr hle), ← drawBound, bind_apply_of_done hdraw, hfit, pure_apply]

lemma fnRandInt_wide (hmin : minInt64 ≤ min) (hmax : max ≤ maxInt64)
    (hwide : ¬ max - min < maxInt64) (g : G) :
    fnRandInt rand min max ⟨false, g⟩ = (.panicked, ⟨true, g⟩) := by
  have hle : ¬ min > max := by
    simp only [minInt64, maxInt64] at *
    omega
  have hdraw : rngIntn rand (drawBound min max) ⟨false, g⟩ = (.panicked, ⟨true, g⟩) :=
    critical_of_none (if_pos (drawBound_nonpos hmin hmax hwide))
  rw [fnRandInt, if_neg hle, ← drawBound, bind_apply_of_panicked hdraw]

/-! ## The mutex -/

/-- Every call that asks for no wide range leaves the mutex as it was. -/
theorem sound_invoke {c : RandomCall} (hc : c.Narrow) :
    Sound (fun _ => True) (c.invoke env rand) := by
  cases c with
  | uuid b => exact sound_pure trivial
  | randInt min max =>
    change Sound _ (fnRandInt rand min max)
    unfold fnRandInt
    split_ifs with hgt
    · exact sound_fail _
    · have hpos : 0 < drawBound min.val max.val := by
        rw [drawBound_eq (not_lt.mp hgt) hc]
        omega
      exact sound_rngIntn_then hpos fun v => sound_pure trivial
  | randFloat min max decimals =>
    have hdraw : Sound (fun _ => True) (rngFloat64 rand) :=
      sound_critical fun g => ⟨_, _, rfl, trivial⟩
    exact sound_bind hdraw fun v _ => sound_pure trivial
  | randString length args => exact (sound_fnRandString _ args).mono fun _ _ => trivial
  | randBool => exact sound_rngIntn_then (by decide) fun v => sound_pure trivial
  | pick options => exact (sound_fnPick options).mono fun _ _ => trivial
  | fake kind => exact sound_fnFake env kind
  | lorem n => exact sound_fnLorem n

lemma invoke_held {c : RandomCall} (hc : ¬ c.Narrow) (s : Guarded G) :
    (c.invoke env rand s).2.held = true := by
  cases c with
  | randInt min max =>
    obtain ⟨held, g⟩ := s
    cases held with
    | false =>
      change (fnRandInt rand min max _).2.held = true
      rw [fnRandInt_wide min.2.1 max.2.2 hc]
    | true =>
      change (fnRandInt rand min max _).2.held = true
      unfold fnRandInt
      split_ifs
      · rfl
      · rw [bind_apply_of_blocked (rngIntn_held _ g)]
  | _ => exact absurd trivial hc

lemma invoke_goes (c : RandomCall) {s : Guarded G} (hs : s.held = false) :
    (c.invoke env rand s).1 ≠ .blocked := by
  by_cases hc : c.Narrow
  · exact (sound_invoke env hc).goes s hs
  · cases c with
    | randInt min max =>
      obtain ⟨held, g⟩ := s
      cases hs
      change (fnRandInt rand min max _).1 ≠ .blocked
      rw [fnRandInt_wide min.2.1 max.2.2 hc]
      exact nofun
    | _ => exact absurd trivial hc

lemma invoke_randBool_blocked {s : Guarded G} (hs : s.held = true) :
    (RandomCall.randBool.invoke env rand s).1 = .blocked := by
  obtain ⟨held, g⟩ := s
  cases hs
  change (fnRandBool rand _).1 = .blocked
  rw [fnRandBool, bind_apply_of_blocked (rngIntn_held 2 g)]

end Sound

/-- Asked for a range of at most `2^63 - 1` numbers, and for no larger one, `rand_int` returns one
of them. The mutex is free after some calls exactly if none of them has asked for a larger range,
and exactly then no call that follows waits for ever. -/
theorem mutex_free_iff (calls : List RandomCall) (g : G) :
    (∀ min max : GoInt, min.val ≤ max.val →
      ((∀ g, ∃ v g', min.val ≤ v ∧ v ≤ max.val ∧
        fnRandInt rand min max ⟨false, g⟩ = (.done (formatInt v), ⟨false, g'⟩)) ↔
        (RandomCall.randInt min max).Narrow)) ∧
    ((afterCalls (RandomCall.invoke env rand) calls ⟨false, g⟩).held = false ↔
      ∀ c ∈ calls, c.Narrow) ∧
    ((∀ c : RandomCall,
        (c.invoke env rand (afterCalls (RandomCall.invoke env rand) calls ⟨false, g⟩)).1 ≠
          .blocked) ↔ ∀ c ∈ calls, c.Narrow) := by
  have hfree : (afterCalls (RandomCall.invoke env rand) calls ⟨false, g⟩).held = false ↔
      ∀ c ∈ calls, c.Narrow := by
    rw [afterCalls_held_iff (fun c hc => (sound_invoke env hc).same)
      (fun c hc => invoke_held env hc)]
    exact and_iff_right rfl
  refine ⟨fun min max hle => ⟨fun hall => ?_, fun hnarrow g => ?_⟩, hfree, ?_⟩
  · by_contra hwide
    obtain ⟨v, g', -, -, hrun⟩ := hall g
    rw [fnRandInt_wide min.2.1 max.2.2 hwide] at hrun
    cases hrun
  · exact fnRandInt_narrow min.2.1 max.2.2 hle hnarrow g
  · rw [← hfree]
    constructor
    · -- a mutex that is not free stops the next draw
      intro hgo
      by_contra hheld
      exact hgo .randBool (invoke_randBool_blocked env (Bool.not_eq_false _ ▸ hheld))
    · intro hheld c
      exact invoke_goes env c hheld

def constantRand : Rand Unit where
  intn _ g := (0, g)
  intn_mem _ _ h := ⟨le_rfl, h⟩
  float64 g := (0, g)
  interpolate min _ _ := min
  formatFloat _ _ := []
  maxAlloc := 2 ^ 48

/-- From 0 to the largest `int`: the call panics, and the next template waits for ever. -/
theorem rand_int_locks_up :
    fnRandInt constantRand 0 maxInt64 ⟨false, ()⟩ = (.panicked, ⟨true, ()⟩) ∧
      fnRandBool constantRand ⟨true, ()⟩ = (.blocked, ⟨true, ()⟩) := by
  constructor
  · exact fnRandInt_wide (by decide) le_rfl (by decide) ()
  · rfl

end Mockly
