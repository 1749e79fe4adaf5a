import Mockly.Redis.Commands

/-!
# Amounts

The commands of the data store that take a number compute with it in 64 bits, and nowhere is the
result compared with the exact one.

Main results: **`counter_exact_iff`**, **`amounts_honoured_iff`**.
-/

namespace Mockly.Redis

open DataStore Clock Option

/-! ## Counters -/

/-- The key and the exact amount that is to be added, for a command that `cmdIncrBy` accepts. -/
def counterCall : Command → List GoString → Option (GoString × ℤ)
  | .incr, [key] => some (key, 1)
  | .decr, [key] => some (key, -1)
  | .incrBy, [key, amount] => (parseInt amount).toOption.map fun n => (key, n)
  | .decrBy, [key, amount] => (parseInt amount).toOption.map fun n => (key, -n)
  | _, _ => none

/-- `x` is a 64-bit integer. -/
def Fits (x : ℤ) : Prop := minInt64 ≤ x ∧ x ≤ maxInt64

instance (x : ℤ) : Decidable (Fits x) := inferInstanceAs (Decidable (_ ∧ _))

/-- It is set, or there is an error and nothing has changed. -/
structure SetsExactly (s : DataStore) (key : GoString) (e : Entry) (x : ℤ)
    (result : Except Panic (Resp × DataStore)) : Prop where
  fits : Fits x → result = .ok (.int x, s.put key { e with str := formatInt x })
  overflow : ¬Fits x → ∃ msg, result = .ok (.error msg, s)

section Counter

variable {s : DataStore} {τ : ℕ → Clock} {key : GoString} {e : Entry} {v : ℤ}
  (hlive : s.getLocked key (τ 0) = (some e, s)) (hkind : e.kind = .string)
  (hv : parseInt e.str = .ok v)
include hlive hkind hv

lemma call_incrBy (delta : ℤ) :
    s.call τ (.incrBy key delta) =
      (.int (wrap64 (v + delta)), s.put key { e with str := formatInt (wrap64 (v + delta)) }) := by
  have hexec : s.exec τ (.incrBy key delta) =
      (.ok (.count (wrap64 (v + delta))),
        s.put key { e with str := formatInt (wrap64 (v + delta)) }) := by
    simp [exec, incrBy, getOrCreate, hlive, hkind, hv]
  rw [call, hexec]
  rfl

lemma handleStateful_counter (ut : UpperTable) {cmd : Command} {args : List GoString} {d : ℤ}
    (hcmd : counterCall cmd args = some (key, d)) :
    s.handleStateful ut τ args cmd =
      .ok (.int (wrap64 (v + d)), s.put key { e with str := formatInt (wrap64 (v + d)) }) := by
  have hexplicit {k amount : GoString} {sign : ℤ} {f : ℤ → ℤ} (hf : ∀ n, sign * n = f n)
      (hd : (parseInt amount).toOption.map (fun n => (k, f n)) = some (key, d)) :
      s.cmdIncrBy τ [k, amount] sign true =
        (.int (wrap64 (v + d)), s.put key { e with str := formatInt (wrap64 (v + d)) }) := by
    cases hn : parseInt amount with
    | error err => simp [hn, Except.toOption] at hd
    | ok n =>
      simp only [hn, Except.toOption, map_some, Option.some.injEq, Prod.mk.injEq] at hd
      obtain ⟨rfl, rfl⟩ := hd
      simp only [cmdIncrBy, hn]
      rw [call_incrBy hlive hkind hv, hf, wrap64_add_wrap64]
  unfold counterCall at hcmd
  split at hcmd
  · cases hcmd
    exact congrArg Except.ok (call_incrBy hlive hkind hv 1)
  · cases hcmd
    exact congrArg Except.ok (call_incrBy hlive hkind hv (-1))
  · exact congrArg Except.ok (hexplicit one_mul hcmd)
  · exact congrArg Except.ok (hexplicit neg_one_mul hcmd)
  · cases hcmd

end Counter

/-- **A counter is exact as long as its value fits.** -/
theorem counter_exact_iff (ut : UpperTable) (s : DataStore) (τ : ℕ → Clock) (cmd : Command)
    (args : List GoString) (key : GoString) (d v : ℤ) (e : Entry)
    (hcmd : counterCall cmd args = some (key, d)) (hlive : s.getLocked key (τ 0) = (some e, s))
    (hkind : e.kind = .string) (hv : parseInt e.str = .ok v) :
    SetsExactly s key e (v + d) (s.handleStateful ut τ args cmd) ↔ Fits (v + d) := by
  rw [handleStateful_counter hlive hkind hv ut hcmd]
  constructor
  · intro h
    by_contra hfits
    obtain ⟨msg, hmsg⟩ := h.overflow hfits
    cases hmsg
  · intro hfits
    refine ⟨fun _ => ?_, fun hnot => absurd hfits hnot⟩
    rw [wrap64_eq_self_iff.mpr hfits]

def oneString (str : String) : DataStore :=
  newDataStore.put (go "k") { kind := .string, str := go str }

/-- The most negative amount, taken off a negative number. -/
theorem counter_exact_decrBy :
    SetsExactly (oneString "-1") (go "k") { kind := .string, str := go "-1" } maxInt64
      ((oneString "-1").handleStateful asciiUpperTable (fun _ => epochPlus 0)
        [go "k", go "-9223372036854775808"] .decrBy) := by
  have hsum : (-1 : ℤ) + 9223372036854775808 = maxInt64 := by decide
  have hcall : counterCall .decrBy [go "k", go "-9223372036854775808"] =
      some (go "k", 9223372036854775808) := by decide
  rw [← hsum]
  exact (counter_exact_iff _ _ _ _ _ _ _ (-1) _ hcall rfl rfl (by decide)).mpr (by decide)

/-- **The greatest number is followed by the least.** -/
theorem incr_wraps_around :
    (oneString "9223372036854775807").handleStateful asciiUpperTable
        (fun _ => epochPlus 0) [go "k"] .incr =
      .ok (.int (-9223372036854775808),
        (oneString "9223372036854775807").put (go "k")
          { kind := .string, str := go "-9223372036854775808" }) := by
  have hvalue : parseInt (go "9223372036854775807") = .ok maxInt64 := by decide
  have hwrap : wrap64 (maxInt64 + 1) = -9223372036854775808 := by decide
  have hformat : formatInt (-9223372036854775808) = go "-9223372036854775808" := by decide
  rw [handleStateful_counter (e := { kind := .string, str := go "9223372036854775807" }) rfl rfl
    hvalue asciiUpperTable (d := 1) rfl, hwrap, hformat]

/-! ## Amounts of time -/

def timeAmounts (ut : UpperTable) : List GoString → List ℤ
  | opt :: amount :: rest =>
    if toUpper ut opt = go "EX" then
      match parseInt amount with
      | .error _ => []
      | .ok secs => secs * second :: timeAmounts ut rest
    else if toUpper ut opt = go "PX" then
      match parseInt amount with
      | .error _ => []
      | .ok ms => ms * millisecond :: timeAmounts ut rest
    else timeAmounts ut (amount :: rest)
  | _ => []

/-- The key lives exactly as long as the amount says. -/
def Honours (s : DataStore) (key : GoString) (now d : ℤ) : Prop :=
  if 0 < d then ∃ e, s.data.get? key = some e ∧ e.expiresAt = now + d
  else s.data.get? key = none ∨
    ∃ e, s.data.get? key = some e ∧ e.expiresAt ≠ 0 ∧ e.expiresAt ≤ now

section Time

variable {ut : UpperTable} {s : DataStore} {τ : ℕ → Clock} {key : GoString} {e : Entry}

lemma getD_getLast?_cons (ttl d : ℤ) (ds : List ℤ) :
    ((d :: ds).getLast?.map wrap64).getD ttl = (ds.getLast?.map wrap64).getD (wrap64 d) := by
  rw [List.getLast?_cons]
  cases ds.getLast? <;> rfl

lemma setOptions_eq {ttl₀ ttl : ℤ} {options : List GoString}
    (h : setOptions ut ttl₀ options = .ok ttl) :
    ttl = ((timeAmounts ut options).getLast?.map wrap64).getD ttl₀ := by
  induction ttl₀, options using setOptions.induct ut with
  | case1 ttl₀ =>
    cases h
    rfl
  | case2 ttl₀ opt hopt =>
    rw [setOptions, if_pos hopt] at h
    cases h
  | case3 ttl₀ opt hopt =>
    rw [setOptions, if_neg hopt] at h
    cases h
    rfl
  | case4 ttl₀ opt amount rest hex err hparse =>
    simp only [setOptions, if_pos hex, hparse] at h
    cases h
  | case5 ttl₀ opt amount rest hex secs hparse ih =>
    simp only [setOptions, if_pos hex, hparse] at h
    simp only [timeAmounts, if_pos hex, hparse]
    rw [getD_getLast?_cons, ih h]
  | case6 ttl₀ opt amount rest hex hpx err hparse =>
    simp only [setOptions, if_neg hex, if_pos hpx, hparse] at h
    cases h
  | case7 ttl₀ opt amount rest hex hpx ms hparse ih =>
    simp only [setOptions, if_neg hex, if_pos hpx, hparse] at h
    simp only [timeAmounts, if_neg hex, if_pos hpx, hparse]
    rw [getD_getLast?_cons, ih h]
  | case8 ttl₀ opt amount rest hex hpx ih =>
    rw [setOptions, if_neg hex, if_neg hpx] at h
    rw [timeAmounts, if_neg hex, if_neg hpx, ih h]

lemma honours_put_iff (s : DataStore) (key : GoString) (e : Entry) (now d : ℤ) :
    Honours (s.put key e) key now d ↔
      (0 < d → e.expiresAt = now + d) ∧ (d ≤ 0 → e.expiresAt ≠ 0 ∧ e.expiresAt ≤ now) := by
  have hget : (s.put key e).data.get? key = some e := GoMap.get?_set_self _ _ _
  rw [Honours]
  split_ifs with hd
  · simp [hget, hd, not_le.mpr hd]
  · simp [hget, hd, not_lt.mp hd]

lemma honours_set_iff (s : DataStore) (key value : GoString) (ttl : ℤ) (now : Clock) (d : ℤ) :
    Honours (s.set key value ttl now) key now d ↔ 0 < d ∧ ttl = d := by
  have hnow : (0 : ℤ) < now := lt_of_lt_of_le (by decide) now.2
  have hexpires : (stringEntry value ttl now).expiresAt =
      if ttl > 0 then now + ttl else 0 := rfl
  rw [DataStore.set, honours_put_iff, hexpires]
  split_ifs with httl
  · constructor
    · rintro ⟨hpos, hneg⟩
      by_cases hd : 0 < d
      · exact ⟨hd, add_left_cancel (hpos hd)⟩
      · have := (hneg (not_lt.mp hd)).2
        omega
    · rintro ⟨hd, rfl⟩
      exact ⟨fun _ => rfl, fun hle => absurd hd (not_lt.mpr hle)⟩
  · constructor
    · rintro ⟨hpos, hneg⟩
      by_cases hd : 0 < d
      · have := hpos hd
        omega
      · exact absurd rfl (hneg (not_lt.mp hd)).1
    · rintro ⟨hd, rfl⟩
      exact absurd hd httl

lemma honours_cmdSet_iff (s : DataStore) (τ : ℕ → Clock) (key value : GoString)
    {options : List GoString} {ttl : ℤ} (h : setOptions ut 0 options = .ok ttl) :
    (∀ d ∈ timeAmounts ut options,
      Honours (cmdSet ut s τ (key :: value :: options)).2 key (τ 0) d) ↔
      ∀ d ∈ timeAmounts ut options,
        0 < d ∧ d ≤ maxInt64 ∧ (timeAmounts ut options).getLast? = some d := by
  have hstore : (cmdSet ut s τ (key :: value :: options)).2 = s.set key value ttl (τ 0) := by
    simp only [cmdSet, h]
    rfl
  simp only [hstore, honours_set_iff]
  rw [setOptions_eq h]
  cases hlast : (timeAmounts ut options).getLast? with
  | none =>
    rw [List.getLast?_eq_none_iff.mp hlast]
    simp
  | some last =>
    have hmem := List.mem_of_getLast? hlast
    simp only [map_some, getD_some, Option.some.injEq]
    constructor
    · intro hall d hd
      obtain ⟨hpos, hwrap⟩ := hall d hd
      have hself := (hall last hmem).2
      exact ⟨hpos, hwrap ▸ (wrap64_bounds last).2, hself.symm.trans hwrap⟩
    · intro hall d hd
      obtain ⟨hpos, hmax, rfl⟩ := hall d hd
      have hmin : minInt64 ≤ last := le_trans (by decide) hpos.le
      exact ⟨hpos, wrap64_eq_self_iff.mpr ⟨hmin, hmax⟩⟩

def InTime (secs : ℤ) : Prop :=
  (0 < secs → secs * second ≤ maxInt64) ∧ (secs ≤ 0 → wrap64 (secs * second) ≤ 0)

instance (secs : ℤ) : Decidable (InTime secs) := inferInstanceAs (Decidable (_ ∧ _))

lemma cmdExpire_eq (hlive : s.getLocked key (τ 0) = (some e, s)) {amount : GoString} {secs : ℤ}
    (hsecs : parseInt amount = .ok secs) :
    (s.cmdExpire τ [key, amount]).2 =
      s.put key { e with expiresAt := τ 1 + wrap64 (secs * second) } := by
  simp [cmdExpire, hsecs, call, exec, expire, hlive]

lemma honours_cmdExpire_iff (hlive : s.getLocked key (τ 0) = (some e, s)) {amount : GoString}
    {secs : ℤ} (hsecs : parseInt amount = .ok secs) :
    Honours (s.cmdExpire τ [key, amount]).2 key (τ 1) (secs * second) ↔ InTime secs := by
  have hsecond : 0 < second := by decide
  have hne := (τ 1).add_ne_zero (wrap64_bounds (secs * second)).1
  rw [cmdExpire_eq hlive hsecs, honours_put_iff, InTime]
  dsimp only
  rw [mul_pos_iff_of_pos_right hsecond, ← not_lt, mul_pos_iff_of_pos_right hsecond, not_lt]
  refine and_congr (forall_congr' fun hpos => ?_) (forall_congr' fun hneg => ?_)
  · have hmin : minInt64 ≤ secs * second := le_trans (by decide) (mul_pos hpos hsecond).le
    rw [add_right_inj, wrap64_eq_self_iff]
    exact ⟨And.right, fun hmax => ⟨hmin, hmax⟩⟩
  · rw [add_le_iff_nonpos_right]
    exact ⟨And.right, fun hle => ⟨hne, hle⟩⟩

end Time

def deadlineOf (s : DataStore) (key : GoString) : Option ℤ :=
  (s.data.get? key).map Entry.expiresAt

/-- **The amounts of time that are honoured.** `SET` honours those that are positive and fit into 64
bits as nanoseconds, `EXPIRE` those that are in time; as long as nothing wraps around, more time
does not mean an earlier deadline. -/
theorem amounts_honoured_iff (ut : UpperTable) (s : DataStore) (τ : ℕ → Clock) (key : GoString) :
    (∀ value options ttl, setOptions ut 0 options = .ok ttl →
      ((∀ d ∈ timeAmounts ut options,
        Honours (cmdSet ut s τ (key :: value :: options)).2 key (τ 0) d) ↔
        ∀ d ∈ timeAmounts ut options,
          0 < d ∧ d ≤ maxInt64 ∧ (timeAmounts ut options).getLast? = some d)) ∧
    ∀ e, s.getLocked key (τ 0) = (some e, s) →
      (∀ amount secs, parseInt amount = .ok secs →
        (Honours (s.cmdExpire τ [key, amount]).2 key (τ 1) (secs * second) ↔ InTime secs)) ∧
      ∀ a b m n, parseInt a = .ok m → parseInt b = .ok n → m ≤ n → Fits (m * second) →
        Fits (n * second) → ∃ t u, deadlineOf (s.cmdExpire τ [key, a]).2 key = some t ∧
          deadlineOf (s.cmdExpire τ [key, b]).2 key = some u ∧ t ≤ u := by
  refine ⟨fun value options ttl h => honours_cmdSet_iff s τ key value h, fun e hlive =>
    ⟨fun amount secs hsecs => honours_cmdExpire_iff hlive hsecs, ?_⟩⟩
  intro a b m n hm hn hle hfitsm hfitsn
  have hdeadline {amount : GoString} {secs : ℤ} (hsecs : parseInt amount = .ok secs)
      (hfits : Fits (secs * second)) :
      deadlineOf (s.cmdExpire τ [key, amount]).2 key = some (τ 1 + secs * second) := by
    rw [cmdExpire_eq hlive hsecs, deadlineOf, put, GoMap.get?_set_self,
      wrap64_eq_self_iff.mpr hfits]
    rfl
  refine ⟨_, _, hdeadline hm hfitsm, hdeadline hn hfitsn, ?_⟩
  exact (add_le_add_iff_left _).mpr (mul_le_mul_of_nonneg_right hle (by decide))

/-- One minute, given in two ways. -/
theorem amounts_honoured_minute :
    Honours (cmdSet asciiUpperTable newDataStore (fun _ => epochPlus 0)
        [go "k", go "v", go "px", go "60000"]).2 (go "k") (epochPlus 0) (60 * second) ∧
      Honours ((oneString "v").cmdExpire (fun _ => epochPlus 0) [go "k", go "60"]).2 (go "k")
        (epochPlus 0) (60 * second) := by
  have hpx : toUpper asciiUpperTable (go "px") = go "PX" := by decide
  have hparse : parseInt (go "60000") = .ok 60000 := by decide
  have hoptions : setOptions asciiUpperTable 0 [go "px", go "60000"] =
      .ok (wrap64 (60000 * millisecond)) := by
    rw [setOptions, hpx, if_neg (by decide), if_pos rfl, hparse]
    rfl
  have hset := (amounts_honoured_iff asciiUpperTable newDataStore (fun _ => epochPlus 0)
    (go "k")).1 (go "v") _ _ hoptions
  have hexpire := (amounts_honoured_iff asciiUpperTable (oneString "v")
    (fun _ => epochPlus 0) (go "k")).2 { kind := .string, str := go "v" } rfl
  have hamounts : timeAmounts asciiUpperTable [go "px", go "60000"] = [60 * second] := by decide
  rw [hamounts] at hset
  exact ⟨hset.mpr (by decide) _ (List.mem_singleton_self _),
    (hexpire.1 (go "60") 60 (by decide)).mpr (by decide)⟩

/-- **No time at all means no deadline, and so does more time than fits**; `EXPIRE` with a little
more than 292 years expires the key at once. -/
theorem ttl_wraps_around :
    deadlineOf (cmdSet asciiUpperTable newDataStore (fun _ => epochPlus 0)
        [go "k", go "v", go "EX", go "0"]).2 (go "k") = some 0 ∧
      deadlineOf (cmdSet asciiUpperTable newDataStore (fun _ => epochPlus 0)
        [go "k", go "v", go "EX", go "9223372037"]).2 (go "k") = some 0 ∧
      (∃ t, deadlineOf ((oneString "v").cmdExpire (fun _ => epochPlus 0)
        [go "k", go "9223372037"]).2 (go "k") = some t ∧ t < unixEpoch) ∧
      ∃ t, deadlineOf ((oneString "v").cmdExpire (fun _ => epochPlus 0)
        [go "k", go "-9223372037"]).2 (go "k") = some t ∧ unixEpoch < t := by
  refine ⟨by decide, by decide, ⟨unixEpoch - 9223372036709551616, by decide, by decide⟩,
    unixEpoch + 9223372036709551616, by decide, by decide⟩

end Mockly.Redis
