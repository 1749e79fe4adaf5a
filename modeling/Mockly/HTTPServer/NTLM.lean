import Mockly.HTTPServer.Server

/-!
# The NTLM handshake before the match

`handleNTLM` looks at the method, the path and the token of a request with code of its own, and the
engine looks at them again when it matches.
-/

namespace Mockly

open List

variable {env : Env}

/-! ## Tokens -/

variable (env) in
/-- `isNTLMType3` byte by byte, as the engine has it: the signature, and a 3 behind it. -/
def isNTLMType3Bytes (authHdr : GoString) : Bool :=
  if !hasPrefix authHdr (go "NTLM ") then false
  else
    match env.base64Decode (trimSpace (authHdr.drop (go "NTLM ").length)) with
    | none => false
    | some b =>
      if b.length < 12 then false
      else b.take 8 == go "NTLMSSP" ++ [0] && b[8]? == some 0x03

lemma hasPrefix_signature {b : GoString} (h : 12 ≤ b.length) (type : UInt8) :
    hasPrefix b (ntlmSignature ++ [type]) =
      (b.take 8 == go "NTLMSSP" ++ [0] && b[8]? == some type) := by
  have hlen : (ntlmSignature ++ [type]).length = 9 := by
    rw [length_append, show ntlmSignature.length = 8 by decide, length_singleton]
  have hsplit : b.take 9 = b.take 8 ++ b[8]?.toList := take_add_one
  rw [Bool.eq_iff_iff, hasPrefix, List.isPrefixOf_iff_prefix, prefix_iff_eq_take, hlen, hsplit,
    Bool.and_eq_true, beq_iff_eq, beq_iff_eq, List.getElem?_eq_getElem (by omega)]
  constructor
  · intro heq
    have hlength : ntlmSignature.length = (b.take 8).length := by
      rw [length_take_of_le (by omega)]
      decide
    obtain ⟨hsig, htype⟩ := append_inj heq hlength
    exact ⟨hsig.symm, congrArg some (singleton_inj.mp htype.symm)⟩
  · rintro ⟨hsig, htype⟩
    rw [hsig, htype]
    rfl

lemma isNTLMType3_eq_bytes (authHdr : GoString) :
    isNTLMType3 env authHdr = isNTLMType3Bytes env authHdr := by
  rw [isNTLMType3, isNTLMType3Bytes, ntlmToken]
  split_ifs
  · rfl
  · cases env.base64Decode (trimSpace (authHdr.drop (go "NTLM ").length)) with
    | none => rfl
    | some b =>
      dsimp only
      split_ifs with hshort
      · rfl
      · exact hasPrefix_signature (not_lt.mp hshort) 3

/-- **The handler and the engine agree on tokens of type 3.** -/
lemma ntlmTokenType_eq_three_iff (authHdr : GoString) :
    ntlmTokenType env authHdr = 3 ↔ isNTLMType3 env authHdr = true := by
  rw [ntlmTokenType, isNTLMType3]
  cases htoken : ntlmToken env authHdr with
  | none => simp
  | some b =>
    have hlen : 12 ≤ b.length := by
      rw [ntlmToken] at htoken
      split_ifs at htoken
      split at htoken
      · cases htoken
      · split_ifs at htoken with hshort
        cases htoken
        exact not_lt.mp hshort
    dsimp only
    rw [hasPrefix_signature hlen, hasPrefix_signature hlen]
    by_cases hsig : b.take 8 = go "NTLMSSP" ++ [0]
    · by_cases hone : b[8]? = some 1
      · simp [hsig, hone]
      · simp [hsig, hone]
    · simp [hsig]

/-! ## Mocks -/

/-- The mock asks for NTLM, in whatever case it is written. -/
def IsNTLM (env : Env) (m : HTTPMock) : Prop :=
  ∃ auth, m.request.auth = some auth ∧ equalFold env.caseTable auth.type (go "ntlm") = true

/-- **The handler looks at method and path as `HTTPMatch` does**, where the `path_regex` of the mock
compiles. -/
lemma asksNTLM_iff {m : HTTPMock}
    (hregex : m.request.pathRegex ≠ [] → (env.regexp m.request.pathRegex).isSome)
    (method path : GoString) :
    asksNTLM env method path m = true ↔ IsNTLM env m ∧
      matchMethod env m.request.method method = true ∧
      (matchRequestPath env m.request path).isSome = true := by
  rw [asksNTLM, IsNTLM, matchRequestPath]
  cases m.request.auth with
  | none => simp
  | some auth =>
    simp only [Option.some.injEq, exists_eq_left', Bool.and_eq_true, and_assoc]
    refine and_congr_right fun _ => ?_
    rw [and_comm]
    refine and_congr_right fun _ => ?_
    split_ifs with hset
    · obtain ⟨matchString, hmatch⟩ := Option.isSome_iff_exists.mp (hregex hset)
      simp only [hmatch]
      cases matchString path <;> simp
    · rfl

/-- A rune that folds to a small letter other than k and s is that letter or its capital. -/
lemma CaseTable.lower_eq_fold (ct : CaseTable) {r : ℕ} (h : ct.fold r < 0x80)
    (hk : ct.fold r ≠ 0x6B) (hs : ct.fold r ≠ 0x73) : ct.lower r = ct.fold r := by
  by_cases hascii : r < 0x80
  · rw [ct.lower_ascii r hascii, ct.fold_ascii r hascii]
  · by_cases hkelvin : r = 0x212A
    · exact absurd (hkelvin ▸ ct.fold_kelvin) hk
    · by_cases hlong : r = 0x17F
      · exact absurd (hlong ▸ ct.fold_longS) hs
      · have hother := ct.fold_other r (not_lt.mp hascii) hkelvin hlong
        omega

lemma toLower_of_equalFold_ntlm {type : GoString}
    (h : equalFold env.caseTable type (go "ntlm") = true) :
    toLower env.caseTable type = go "ntlm" := by
  have hrunes : runes (go "ntlm") = [0x6E, 0x74, 0x6C, 0x6D] := by decide
  have hletters : ∀ r ∈ runes (go "ntlm"), r < 0x80 ∧ r ≠ 0x6B ∧ r ≠ 0x73 ∧ asciiLower r = r := by
    rw [hrunes]
    decide
  have hself : (runes (go "ntlm")).map env.caseTable.fold = runes (go "ntlm") := by
    refine (map_congr_left fun r hr => ?_).trans (map_id _)
    obtain ⟨hascii, -, -, hlower⟩ := hletters r hr
    rw [env.caseTable.fold_ascii r hascii, hlower, id]
  rw [equalFold, beq_iff_eq, hself] at h
  have hlower : (runes type).map env.caseTable.lower = runes (go "ntlm") := by
    rw [← h]
    refine map_congr_left fun r hr => ?_
    obtain ⟨hascii, hk, hs, -⟩ := hletters _ (h ▸ mem_map_of_mem hr)
    exact env.caseTable.lower_eq_fold hascii hk hs
  have hflat : toLower env.caseTable type =
      ((runes type).map env.caseTable.lower).flatMap encodeRune := by
    rw [toLower, flatMap_map]
  rw [hflat, hlower, hrunes]
  decide

variable {hdrs : GoMap GoString}

lemma matchAuth_of_isNTLMType3 {auth : HTTPAuth}
    (htype : equalFold env.caseTable auth.type (go "ntlm") = true)
    (h : isNTLMType3 env (authorizationHeader hdrs) = true) (query : GoMap GoString) :
    matchAuth env auth hdrs query = true := by
  rw [matchAuth, toLower_of_equalFold_ntlm htype]
  exact h

/-! ## The header -/

/-- The `Authorization` header as `handleNTLM` reads it, under two spellings. -/
def handlerAuthorization (hdrs : GoMap GoString) : GoString :=
  if hdrs.getD (go "Authorization") = [] then hdrs.getD (go "authorization")
  else hdrs.getD (go "Authorization")

/-- The handler reads what the engine reads, unless that is empty. -/
lemma handlerAuthorization_eq (h : authorizationHeader hdrs ≠ []) :
    handlerAuthorization hdrs = authorizationHeader hdrs := by
  rw [handlerAuthorization, authorizationHeader] at *
  cases hauth : hdrs.get? (go "Authorization") with
  | none => simp [GoMap.getD, hauth]
  | some v =>
    rw [hauth] at h
    have hv : hdrs.getD (go "Authorization") = v := by simp [GoMap.getD, hauth]
    rw [hv, if_neg h]

lemma handleNTLM_isSome_iff {mocks : List HTTPMock} {method path : GoString} :
    (handleNTLM env mocks method path hdrs).isSome = true ↔
      (∃ m ∈ mocks, asksNTLM env method path m = true) ∧
      (handlerAuthorization hdrs = [] ∨
        hasPrefix (handlerAuthorization hdrs) (go "NTLM ") = true) ∧
      ntlmTokenType env (handlerAuthorization hdrs) ≠ 3 := by
  rw [handleNTLM, ← any_eq_true]
  cases mocks.any (asksNTLM env method path) with
  | false => simp
  | true =>
    have hauth : (if hdrs.getD (go "Authorization") = [] then hdrs.getD (go "authorization")
      else hdrs.getD (go "Authorization")) = handlerAuthorization hdrs := rfl
    simp only [hauth]
    generalize handlerAuthorization hdrs = authHdr
    by_cases hscheme : authHdr = [] ∨ hasPrefix authHdr (go "NTLM ") = true
    · have hother : ¬(authHdr ≠ [] ∧ (!hasPrefix authHdr (go "NTLM ")) = true) := by
        rintro ⟨hne, hprefix⟩
        rcases hscheme with hnil | hntlm
        · exact hne hnil
        · simp [hntlm] at hprefix
      simp only [Bool.not_true, Bool.false_eq_true, if_false, if_neg hother, hscheme, true_and]
      split
      · simp [*]
      · simp [*]
      · simpa using ‹ntlmTokenType env authHdr = 3 → False›
    · have hother : authHdr ≠ [] ∧ (!hasPrefix authHdr (go "NTLM ")) = true := by
        simpa [not_or] using hscheme
      simp only [Bool.not_true, Bool.false_eq_true, if_false, if_pos hother, hscheme, false_and,
        and_false, Option.isSome_none]

/-! ## The handshake -/

/-- **The handler and the engine agree.** Where the patterns of the mocks compile, a handshake is
only answered if a mock with NTLM passes the checks of `HTTPMatch` for method and path, and the
request has no `Authorization` or one of this scheme. A request with a token that the handler takes
for type 3 is left to the match, and passes the check of every mock with NTLM. -/
theorem handleNTLM_agrees_with_match (env : Env) :
    (∀ (mocks : List HTTPMock) (method path : GoString) (hdrs : GoMap GoString),
      (∀ m ∈ mocks, m.request.pathRegex ≠ [] → (env.regexp m.request.pathRegex).isSome = true) →
      (handleNTLM env mocks method path hdrs).isSome = true →
      (∃ m ∈ mocks, IsNTLM env m ∧ matchMethod env m.request.method method = true ∧
        (matchRequestPath env m.request path).isSome = true) ∧
      (authorizationHeader hdrs = [] ∨
        hasPrefix (authorizationHeader hdrs) (go "NTLM ") = true)) ∧
    (∀ authHdr : GoString,
      (ntlmTokenType env authHdr = 3 ↔ isNTLMType3 env authHdr = true) ∧
        isNTLMType3 env authHdr = isNTLMType3Bytes env authHdr) ∧
    ∀ (mocks : List HTTPMock) (method path : GoString) (hdrs query : GoMap GoString),
      ntlmTokenType env (authorizationHeader hdrs) = 3 →
      handleNTLM env mocks method path hdrs = none ∧
        ∀ auth : HTTPAuth, equalFold env.caseTable auth.type (go "ntlm") = true →
          matchAuth env auth hdrs query = true := by
  refine ⟨fun mocks method path hdrs hregex hsome => ?_,
    fun authHdr => ⟨ntlmTokenType_eq_three_iff authHdr, isNTLMType3_eq_bytes authHdr⟩,
    fun mocks method path hdrs query hthree => ?_⟩
  · obtain ⟨⟨m, hm, hasks⟩, hscheme, -⟩ := handleNTLM_isSome_iff.mp hsome
    refine ⟨⟨m, hm, (asksNTLM_iff (hregex m hm) method path).mp hasks⟩, ?_⟩
    by_cases hnil : authorizationHeader hdrs = []
    · exact Or.inl hnil
    · rwa [handlerAuthorization_eq hnil] at hscheme
  · have htoken := (ntlmTokenType_eq_three_iff _).mp hthree
    have hne : authorizationHeader hdrs ≠ [] := by
      intro hnil
      rw [hnil] at htoken
      exact absurd htoken (by simp [isNTLMType3, ntlmToken, show hasPrefix [] (go "NTLM ") = false
        by decide])
    refine ⟨?_, fun auth htype => matchAuth_of_isNTLMType3 htype htoken query⟩
    rw [← Option.not_isSome_iff_eq_none, handleNTLM_isSome_iff, handlerAuthorization_eq hne]
    exact fun h => h.2.2 hthree

/-- One token is known, the beginning of a message of type 3. -/
def ntlmEnv : Env :=
  { Env.basic with
    base64Decode := fun text =>
      if text = go "TlRMTVNTUAADAAAA" then some (go "NTLMSSP" ++ [0, 3, 0, 0, 0]) else none }

def ntlmMock : HTTPMock where
  id := go "a"
  request := { path := go "/a", auth := some { type := go "ntlm" } }
  response := { headers := ∅ }

/-- A handshake for the mock, and a request with a token. -/
theorem handleNTLM_agrees_on_token :
    let hdrs := GoMap.ofList [(go "Authorization", go "NTLM TlRMTVNTUAADAAAA")]
    (handleNTLM ntlmEnv [ntlmMock] (go "GET") (go "/a") ∅).isSome = true ∧
      (matchRequestPath ntlmEnv ntlmMock.request (go "/a")).isSome = true ∧
      handleNTLM ntlmEnv [ntlmMock] (go "GET") (go "/a") hdrs = none ∧
      matchAuth ntlmEnv { type := go "ntlm" } hdrs ∅ = true := by
  intro hdrs
  obtain ⟨hstarts, -, htoken⟩ := handleNTLM_agrees_with_match ntlmEnv
  have hsome : (handleNTLM ntlmEnv [ntlmMock] (go "GET") (go "/a") ∅).isSome = true := by decide
  obtain ⟨⟨m, hm, -, -, hpath⟩, -⟩ := hstarts [ntlmMock] _ _ _ (by decide) hsome
  obtain rfl := List.mem_singleton.mp hm
  obtain ⟨hnone, hauth⟩ := htoken [ntlmMock] (go "GET") (go "/a") hdrs ∅ (by decide +kernel)
  exact ⟨hsome, hpath, hnone, hauth { type := go "ntlm" } (by decide)⟩

end Mockly
