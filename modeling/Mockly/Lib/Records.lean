import Mathlib

/-!
# Lists of records

Searching and filtering lists, chiefly of records with distinct keys.
-/

namespace Records

open List

variable {α κ : Type*} [DecidableEq κ] {key : α → κ}

lemma find?_key_eq_some {l : List α} (hkeys : (l.map key).Nodup) {k : κ} {a : α} :
    (l.find? fun x => key x = k) = some a ↔ a ∈ l ∧ key a = k := by
  constructor
  · intro h
    exact ⟨mem_of_find?_eq_some h, by simpa using List.find?_some h⟩
  · rintro ⟨hmem, rfl⟩
    have hsome : (l.find? fun x => key x = key a).isSome := List.find?_isSome.mpr ⟨a, hmem, by simp⟩
    obtain ⟨b, hb⟩ := Option.isSome_iff_exists.mp hsome
    have hkey : key b = key a := by simpa using List.find?_some hb
    rw [hb, inj_on_of_nodup_map hkeys (mem_of_find?_eq_some hb) hmem hkey]

lemma find?_key_filter {l : List α} (hkeys : (l.map key).Nodup) (p : α → Bool) (k : κ) :
    ((l.filter p).find? fun x => key x = k) = (l.find? fun x => key x = k).filter p := by
  have hkeys' : ((l.filter p).map key).Nodup := hkeys.sublist (filter_sublist.map key)
  ext a
  rw [find?_key_eq_some hkeys', Option.filter_eq_some_iff, find?_key_eq_some hkeys, mem_filter]
  tauto

omit [DecidableEq κ] in
lemma filter_eq_of_imp {p q : α → Bool} (himp : ∀ a, p a = true → q a = true) {l l' : List α}
    (h : l.filter q = l'.filter q) : l.filter p = l'.filter p := by
  have hboth : ∀ l : List α, l.filter p = (l.filter q).filter p := by
    intro l
    rw [filter_filter]
    refine filter_congr fun a _ => ?_
    cases hp : p a with
    | false => simp
    | true => simp [himp a hp]
  rw [hboth l, hboth l', h]

omit [DecidableEq κ] in
lemma find?_eq_of_perm {l l' : List α} {p : α → Bool} (hperm : l.Perm l')
    (hone : ∀ a ∈ l, ∀ b ∈ l, p a = true → p b = true → a = b) : l.find? p = l'.find? p := by
  cases h : l.find? p with
  | none =>
    have hnone := List.find?_eq_none.mp h
    exact (List.find?_eq_none.mpr fun a ha => hnone a (hperm.mem_iff.mpr ha)).symm
  | some a =>
    have hsome : (l'.find? p).isSome := List.find?_isSome.mpr
      ⟨a, hperm.mem_iff.mp (mem_of_find?_eq_some h), List.find?_some h⟩
    obtain ⟨b, hb⟩ := Option.isSome_iff_exists.mp hsome
    rw [hb, hone a (mem_of_find?_eq_some h) b
      (hperm.mem_iff.mpr (mem_of_find?_eq_some hb)) (List.find?_some h) (List.find?_some hb)]

end Records
