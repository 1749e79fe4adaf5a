import Mockly.State.Store

/-!
# What a store shows

Two stores are compared by what reading a key will give from some time on (`AgreeFrom`): by that
measure a read changes nothing (`agreeFrom_get`).
-/

namespace Mockly.State

inductive Write
  | setTTL (key value : GoString) (ttl : ℤ)
  | delete (key : GoString)
  | reset
  | resetPrefix (p : GoString)

namespace Store

def apply (s : Store) (now : ℤ) : Write → Store
  | .setTTL key value ttl => s.setTTL key value ttl now
  | .delete key => s.delete key
  | .reset => s.reset
  | .resetPrefix p => s.resetPrefix p

/-- From `t` on, reading a key gives the same in both stores. -/
def AgreeFrom (t : ℤ) (s s' : Store) : Prop :=
  ∀ key now, t ≤ now → (s.get key now).1 = (s'.get key now).1

variable {t : ℤ} {s s' : Store}

lemma AgreeFrom.symm (h : AgreeFrom t s s') : AgreeFrom t s' s :=
  fun key now hnow => (h key now hnow).symm

lemma AgreeFrom.trans {s'' : Store} (h : AgreeFrom t s s') (h' : AgreeFrom t s' s'') :
    AgreeFrom t s s'' :=
  fun key now hnow => (h key now hnow).trans (h' key now hnow)

lemma AgreeFrom.later {t' : ℤ} (h : AgreeFrom t s s') (hle : t ≤ t') : AgreeFrom t' s s' :=
  fun key now hnow => h key now (hle.trans hnow)

lemma agreeFrom_get (s : Store) (key : GoString) (t : ℤ) : AgreeFrom t s (s.get key t).2 := by
  intro k now hnow
  rcases s.get_snd key t with hs | ⟨e, he, hexp, hs⟩
  · rw [hs]
  · rw [hs, get_delete]
    split_ifs with hk
    · -- What had expired then has expired now.
      have hlater : e.expired now = true := deadlinePassed_mono hexp hnow
      rw [hk, get_of_some he, if_pos hlater]
    · rfl

lemma get_setTTL (s : Store) (key value k : GoString) (ttl t now : ℤ) :
    ((s.setTTL key value ttl t).get k now).1 =
      if k = key then (if (newEntry value ttl t).expired now then ([], false)
        else ((newEntry value ttl t).value, true))
      else (s.get k now).1 := by
  simp only [get, setTTL, GoMap.get?_set]
  split_ifs with hk hexp
  · simp [hexp]
  · simp [hexp]
  · cases s.data.get? k with
    | none => rfl
    | some e =>
      dsimp only
      split_ifs <;> rfl

lemma get_resetPrefix (s : Store) (p k : GoString) (now : ℤ) :
    ((s.resetPrefix p).get k now).1 = if hasPrefix k p then ([], false) else (s.get k now).1 := by
  simp only [get, resetPrefix, GoMap.get?_filter]
  cases s.data.get? k with
  | none => simp
  | some e =>
    cases hp : hasPrefix k p with
    | true => simp [Option.filter]
    | false =>
      simp only [Option.filter, Bool.not_false, if_true, Bool.false_eq_true, if_false]
      split_ifs <;> rfl

lemma AgreeFrom.apply (h : AgreeFrom t s s') (w : Write) :
    AgreeFrom t (s.apply t w) (s'.apply t w) := by
  intro k now hnow
  cases w with
  | setTTL key value ttl => simp [Store.apply, get_setTTL, h k now hnow]
  | delete key => simp [Store.apply, get_delete, h k now hnow]
  | reset => rfl
  | resetPrefix p => simp [Store.apply, get_resetPrefix, h k now hnow]

end Store

end Mockly.State
