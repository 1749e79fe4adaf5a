import Mockly.Generate.IDs
import Mockly.Go.Runes

/-!
# What slugs look like

`slugify` is a scan with a pending dash in `openapi` and `asyncapi`, and a regular expression in
`protoidl`.

Main result: **`slugify_agree`**.
-/

namespace Mockly

open List

/-- One or more runs of letters and digits, with single dashes between them. -/
inductive IsSlug : GoString → Prop
  | single {c : UInt8} (hc : isSlugRune c.toNat = true) : IsSlug [c]
  | cons {c : UInt8} {s : GoString} (hc : isSlugRune c.toNat = true) (hs : IsSlug s) :
      IsSlug (c :: s)
  | dashed {c : UInt8} {s : GoString} (hc : isSlugRune c.toNat = true) (hs : IsSlug s) :
      IsSlug (c :: dash :: s)

lemma encodeRune_of_slug {r : ℕ} (hr : isSlugRune r = true) :
    encodeRune r = [UInt8.ofNat r] ∧ (UInt8.ofNat r).toNat = r := by
  have hlt : r < 0x80 := by
    simp only [isSlugRune, Bool.or_eq_true, Bool.and_eq_true, decide_eq_true_eq] at hr
    omega
  exact ⟨if_pos hlt, UInt8.toNat_ofNat_of_lt' (hlt.trans (by decide))⟩

/-! ## The two scans -/

lemma replaceOthers_false (rs : List ℕ) :
    replaceOthers false rs = replaceOthers true rs ∨
      replaceOthers false rs = dash :: replaceOthers true rs := by
  cases rs with
  | nil => exact .inl rfl
  | cons r rs =>
    cases hr : isSlugRune r with
    | true => exact .inl (by simp [replaceOthers, hr])
    | false => exact .inr (by simp [replaceOthers, hr])

lemma foldl_slugStep (rs : List ℕ) {out : GoString} (hout : out ≠ []) (lastDash : Bool) :
    (rs.foldl slugStep (out, lastDash)).1 = out ++ replaceOthers lastDash rs := by
  induction rs generalizing out lastDash with
  | nil => simp [replaceOthers]
  | cons r rs ih =>
    cases hr : isSlugRune r with
    | true => simp [slugStep, replaceOthers, hr, ih (append_ne_nil_of_left_ne_nil hout _)]
    | false =>
      cases lastDash with
      | true => simp [slugStep, replaceOthers, hr, ih hout]
      | false =>
        simp [slugStep, replaceOthers, hr, length_pos_of_ne_nil hout,
          ih (append_ne_nil_of_left_ne_nil hout _)]

lemma foldl_slugStep_nil (rs : List ℕ) :
    (rs.foldl slugStep ([], false)).1 = replaceOthers true rs := by
  induction rs with
  | nil => rfl
  | cons r rs ih =>
    cases hr : isSlugRune r with
    | true =>
      have hne : encodeRune r ≠ [] := by simp [(encodeRune_of_slug hr).1]
      simp [slugStep, replaceOthers, hr, foldl_slugStep rs hne]
    | false => simpa [slugStep, replaceOthers, hr] using ih

/-- By induction on the runes: a letter or digit comes in front of a slug, or of a dash and a slug,
or of what is left of one. -/
lemma replaceOthers_true (rs : List ℕ) :
    replaceOthers true rs = [] ∨
      ∃ s, IsSlug s ∧ (replaceOthers true rs = s ∨ replaceOthers true rs = s ++ [dash]) := by
  induction rs with
  | nil => exact .inl rfl
  | cons r rs ih =>
    cases hr : isSlugRune r with
    | false => simpa [replaceOthers, hr] using ih
    | true =>
      obtain ⟨henc, hnat⟩ := encodeRune_of_slug hr
      have hc : isSlugRune (UInt8.ofNat r).toNat = true := by rwa [hnat]
      have heq : replaceOthers true (r :: rs) = UInt8.ofNat r :: replaceOthers false rs := by
        simp [replaceOthers, hr, henc]
      right
      rw [heq]
      rcases replaceOthers_false rs with hf | hf <;> rw [hf] <;>
        rcases ih with hrest | ⟨s, hs, hrest | hrest⟩ <;> rw [hrest]
      · exact ⟨_, .single hc, .inl rfl⟩
      · exact ⟨_, .cons hc hs, .inl rfl⟩
      · exact ⟨_, .cons hc hs, .inr rfl⟩
      · exact ⟨_, .single hc, .inr rfl⟩
      · exact ⟨_, .dashed hc hs, .inl rfl⟩
      · exact ⟨_, .dashed hc hs, .inr rfl⟩

/-! ## Slugs stay -/

section Slug

variable {s : GoString}

lemma ne_dash {c : UInt8} (hc : isSlugRune c.toNat = true) : c ≠ dash := by
  rintro rfl
  exact absurd hc (by decide)

lemma IsSlug.exists_last (h : IsSlug s) : ∃ t c, s = t ++ [c] ∧ c ≠ dash := by
  induction h with
  | single hc => exact ⟨[], _, rfl, ne_dash hc⟩
  | @cons c s hc _ ih =>
    obtain ⟨t, d, rfl, hd⟩ := ih
    exact ⟨c :: t, d, rfl, hd⟩
  | @dashed c s hc _ ih =>
    obtain ⟨t, d, rfl, hd⟩ := ih
    exact ⟨c :: dash :: t, d, rfl, hd⟩

lemma IsSlug.trim_eq (h : IsSlug s) : trim s [dash] = s ∧ trim (s ++ [dash]) [dash] = s := by
  have hfront (t : GoString) : (s ++ t).dropWhile (fun b => decide (b ∈ [dash])) = s ++ t := by
    cases h with
    | single hc | cons hc _ | dashed hc _ => simp [ne_dash hc]
  obtain ⟨t, c, rfl, hc⟩ := h.exists_last
  have hself := hfront []
  rw [append_nil] at hself
  rw [trim, trim, hself, hfront]
  exact ⟨by simp [trimRight, hc], by simp [trimRight, hc]⟩

lemma IsSlug.mem (h : IsSlug s) : ∀ c ∈ s, isSlugRune c.toNat = true ∨ c = dash := by
  induction h with
  | single hc => simpa using .inl hc
  | cons hc _ ih => exact forall_mem_cons.mpr ⟨.inl hc, ih⟩
  | dashed hc _ ih =>
    exact forall_mem_cons.mpr ⟨.inl hc, forall_mem_cons.mpr ⟨.inr rfl, ih⟩⟩

lemma IsSlug.runes_toLower (h : IsSlug s) (ct : CaseTable) :
    runes (toLower ct s) = s.map UInt8.toNat := by
  have hbytes : ∀ c ∈ s, c < 0x80 ∧ encodeRune (ct.lower c.toNat) = [c] := by
    intro c hc
    rcases h.mem c hc with hslug | rfl
    · have hrange := hslug
      simp only [isSlugRune, Bool.or_eq_true, Bool.and_eq_true, decide_eq_true_eq] at hrange
      have hlt : c.toNat < 0x80 := by omega
      rw [ct.lower_ascii _ hlt, asciiLower, if_neg (by omega), (encodeRune_of_slug hslug).1,
        UInt8.ofNat_toNat]
      exact ⟨UInt8.lt_iff_toNat_lt.mpr hlt, rfl⟩
    · rw [ct.lower_ascii _ (by decide)]
      exact ⟨by decide, rfl⟩
  have hrunes := runes_of_ascii fun c hc => (hbytes c hc).1
  have hlower : toLower ct s = s := by
    rw [toLower, hrunes, flatMap_map, flatMap_congr fun c hc => (hbytes c hc).2, flatMap_singleton']
  rw [hlower, hrunes]

lemma IsSlug.replaceOthers_eq (h : IsSlug s) (inside : Bool) :
    replaceOthers inside (s.map UInt8.toNat) = s := by
  have henc {c : UInt8} (hc : isSlugRune c.toNat = true) : encodeRune c.toNat = [c] := by
    rw [(encodeRune_of_slug hc).1, UInt8.ofNat_toNat]
  have hdash : isSlugRune dash.toNat = false := rfl
  induction h generalizing inside with
  | single hc => simp [replaceOthers, hc, henc hc]
  | cons hc _ ih => simp [replaceOthers, hc, henc hc, ih]
  | dashed hc _ ih => simp [replaceOthers, hc, henc hc, hdash, ih]

end Slug

lemma protoSlugify_eq (ct : CaseTable) (s : GoString) :
    ProtoIDL.slugify ct s = trim (replaceOthers true (runes (toLower ct s))) [dash] := by
  rw [ProtoIDL.slugify]
  rcases replaceOthers_false (runes (toLower ct s)) with h | h
  · rw [h]
  · rw [h]
    simp [trim]

lemma slugify_eq (ct : CaseTable) (s : GoString) :
    slugify ct s =
      if ProtoIDL.slugify ct s = [] then go "mock" else ProtoIDL.slugify ct s := by
  rw [slugify, foldl_slugStep_nil, ← protoSlugify_eq]

lemma isSlug_protoSlugify {ct : CaseTable} {s : GoString} (h : ProtoIDL.slugify ct s ≠ []) :
    IsSlug (ProtoIDL.slugify ct s) := by
  rw [protoSlugify_eq] at h ⊢
  rcases replaceOthers_true (runes (toLower ct s)) with hnil | ⟨t, ht, heq | heq⟩
  · rw [hnil] at h
    exact absurd rfl h
  · rwa [heq, ht.trim_eq.1]
  · rwa [heq, ht.trim_eq.2]

lemma IsSlug.protoSlugify_self {s : GoString} (h : IsSlug s) (ct : CaseTable) :
    ProtoIDL.slugify ct s = s := by
  rw [ProtoIDL.slugify, h.runes_toLower, h.replaceOthers_eq, h.trim_eq.1]

/-- **The three functions agree**, apart from the name `mock` that two of them give where the third
gives none, and what they give is a slug and stays what it is. -/
theorem slugify_agree (ct : CaseTable) (s : GoString) :
    AsyncAPI.slugify ct s = OpenAPI.slugify ct s ∧
      OpenAPI.slugify ct s =
        (if ProtoIDL.slugify ct s = [] then go "mock" else ProtoIDL.slugify ct s) ∧
      ∀ slug ∈ [OpenAPI.slugify ct s, AsyncAPI.slugify ct s, ProtoIDL.slugify ct s], slug ≠ [] →
        IsSlug slug ∧ OpenAPI.slugify ct slug = slug ∧ AsyncAPI.slugify ct slug = slug ∧
          ProtoIDL.slugify ct slug = slug := by
  have hmock : IsSlug (go "mock") :=
    .cons rfl (.cons rfl (.cons rfl (.single rfl)))
  have hscan : IsSlug (slugify ct s) := by
    rw [slugify_eq]
    split_ifs with h
    · exact hmock
    · exact isSlug_protoSlugify h
  refine ⟨rfl, slugify_eq ct s, fun slug hslug hne => ?_⟩
  have hshape : IsSlug slug := by
    simp only [List.mem_cons, List.not_mem_nil, or_false] at hslug
    rcases hslug with rfl | rfl | rfl
    · exact hscan
    · exact hscan
    · exact isSlug_protoSlugify hne
  have hself : slugify ct slug = slug := by
    rw [slugify_eq, hshape.protoSlugify_self, if_neg hne]
  exact ⟨hshape, hself, hself, hshape.protoSlugify_self ct⟩

end Mockly
