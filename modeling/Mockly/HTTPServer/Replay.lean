import Mockly.Engine.Literal
import Mockly.HTTPServer.Escaping
import Mockly.HTTPServer.Identity
import Mockly.HTTPServer.Recording

/-!
# Record, then replay

What is recorded is read back as a template and as a pattern, and must mean itself (`MeansItself`);
and an older mock or an NTLM handshake may answer the second request (`Unanswered`).

Main result: **`replay_after_recording`**.
-/

namespace Mockly

open GoMap

/-- The two responses are the same to a client: status, headers and body. -/
inductive SameResponse : Wire → Wire → Prop
  | intro {status : ℤ} {headers headers' : GoMap GoString} {body body' : List Piece}
      (hheaders : ∀ k, headers.get? k = headers'.get? k)
      (hbody : body.flatMap Piece.text = body'.flatMap Piece.text) :
      SameResponse (.response status headers body) (.response status headers' body')

/-! ## Headers -/

lemma get?_setHeaders (env : Env) {h : GoMap GoString}
    (hcanon : ∀ k v, h.get? k = some v → canonicalHeaderKey k = k) (w : GoMap GoString)
    (k : GoString) : (setHeaders env h w).get? k = (h.get? k).or (w.get? k) := by
  have hseq : (env.writeOrder.seq h).map (fun p => (canonicalHeaderKey p.1, p.2)) =
      env.writeOrder.seq h := by
    refine (List.map_congr_left ?_).trans (List.map_id _)
    rintro ⟨k, v⟩ hp
    rw [id, hcanon k v (env.writeOrder.mem_seq.mp hp)]
  rw [setHeaders, hseq]
  cases hk : h.get? k with
  | some v =>
    exact get?_setAll_of_mem (env.writeOrder.nodup_seq h)
      (env.writeOrder.mem_seq.mpr hk) w
  | none =>
    refine get?_setAll_of_notMem (fun hmem => ?_) w
    obtain ⟨⟨k', v⟩, hp, rfl⟩ := List.mem_map.mp hmem
    rw [env.writeOrder.mem_seq.mp hp] at hk
    cases hk

lemma get?_writtenHeaders_congr (env env' : Env) {h h' : GoMap GoString}
    (hcanon : ∀ k v, h.get? k = some v → canonicalHeaderKey k = k)
    (heq : ∀ k, h.get? k = h'.get? k) (k : GoString) :
    (writtenHeaders env h).get? k = (writtenHeaders env' h').get? k := by
  have hcanon' : ∀ k v, h'.get? k = some v → canonicalHeaderKey k = k :=
    fun k v hv => hcanon k v ((heq k).trans hv)
  have hset (k : GoString) : (setHeaders env h noSniffHeaders).get? k =
      (setHeaders env' h' noSniffHeaders).get? k := by
    rw [get?_setHeaders env hcanon, get?_setHeaders env' hcanon', heq]
  simp only [writtenHeaders, guardContentType]
  have htype : (setHeaders env h noSniffHeaders).getD contentType =
      (setHeaders env' h' noSniffHeaders).getD contentType := by
    simp [getD, hset]
  rw [htype]
  split
  · rw [get?_set, get?_set, hset]
  · exact hset k

lemma UpstreamResponse.canonical_headers (u : UpstreamResponse) (k v : GoString)
    (h : u.headers.get? k = some v) : canonicalHeaderKey k = k := by
  rw [UpstreamResponse.headers, get?_mapVals, get?_filter] at h
  cases hk : u.header.get? k with
  | none => simp [hk] at h
  | some values =>
    refine u.canonical k ?_
    rw [← keys_toList]
    exact List.mem_map.mpr ⟨(k, values), mem_toList.mpr hk, rfl⟩

/-! ## The conditions -/

/-- No template in the response, and no pattern in the request. A path the server has parsed is
never a regular expression. -/
structure MeansItself (r : Inbound) (u : UpstreamResponse) : Prop where
  path : isRegex r.path = false
  query : ∀ k v, (firstQueryValues r.query).get? k = some v → v ≠ queryAbsent ∧ isRegex v = false
  headers : ∀ k v, u.headers.get? k = some v → contains v templateOpen = false
  body : contains u.body templateOpen = false

/-- The recorder and the live list know no recording of this request, and no mock of the listener
has the ID that is next. -/
structure Unrecorded (s : Server) (rec : Recorder) (r : Inbound) : Prop where
  recorded : rec.recorded.find?
    (recordsRequest r.listener r.method r.path (firstQueryValues r.query)) = none
  live : ∀ m ∈ s.mocks,
    recordsRequest r.listener r.method r.path (firstQueryValues r.query) m = false
  id : ∀ m ∈ reachable s r, m.id ≠ recordedID (rec.counter + 1)

/-- No mock of the live list answers the request, and no handshake intercepts it. -/
structure Unanswered (mo : Moment) (s : Server) (r : Inbound) (body : GoString) : Prop where
  ntlm : handleNTLM mo.env (reachable s r) r.method r.path r.hdrs = none
  unmatched : (selectMock mo.env (r.matchInput body) mo.now 0 s.store (reachable s r)).1 = none

def Inbound.withHeader (r : Inbound) (h : GoMap (List GoString)) : Inbound := { r with header := h }

/-- The mock that is recorded for an exchange. -/
def recordingOf (rec : Recorder) (r : Inbound) (u : UpstreamResponse) : HTTPMock :=
  recordedMock (rec.counter + 1) r.listener r.method r.path (firstQueryValues r.query) u

/-! ## The recording answers -/

section Recorded

variable {env : Env} {rec : Recorder} {r : Inbound} {u : UpstreamResponse}

lemma matchMock_recordingOf (rec : Recorder) (hself : MeansItself r u) (h : GoMap (List GoString))
    (body : GoString) (now : ℤ) (store : Option State.Store) :
    ∃ params, matchMock env ((r.withHeader h).matchInput body) now store
      (recordingOf rec r u) = (some params, store) := by
  have hpath : (matchPath env r.path r.path).isSome = true := matchPath_self hself.path
  obtain ⟨params, hparams⟩ := Option.isSome_iff_exists.mp hpath
  have hmatch : matchRequest env (recordingOf rec r u).request
      ((r.withHeader h).matchInput body) = some params :=
    matchRequest_eq_some.mpr
      ⟨by simp [recordingOf, recordedMock, Inbound.withHeader, Inbound.matchInput, matchMethod],
        by simpa [recordingOf, recordedMock, Inbound.withHeader, Inbound.matchInput,
          matchRequestPath] using hparams,
        rfl, matchQuery_self hself.query, rfl⟩
  refine ⟨params, ?_⟩
  rw [matchMock, hmatch]
  simp [recordingOf, recordedMock, matchState]

lemma fromMatch_recordingOf (env : Env) (rec : Recorder) (hself : MeansItself r u)
    (hstatus : u.status ≠ 0) (req : MatchInput) (i : ℕ) (params : GoMap GoString) :
    (fromMatch (matchResult env req ⟨i, recordingOf rec r u, params⟩)).status = u.status ∧
      (fromMatch (matchResult env req ⟨i, recordingOf rec r u, params⟩)).body = .fixed u.body ∧
      (fromMatch (matchResult env req ⟨i, recordingOf rec r u, params⟩)).stream = none ∧
      ∀ k, (fromMatch (matchResult env req ⟨i, recordingOf rec r u, params⟩)).headers.get? k =
        u.headers.get? k := by
  have hbody (declared : GoString) := renderHTTPBody_literal env hself.body
    (req.context params) declared
  refine ⟨?_, ?_, ?_, fun k => ?_⟩
  · simp [fromMatch, matchResult, recordingOf, recordedMock, hstatus]
  · simp [fromMatch, matchResult, recordingOf, recordedMock, hbody]
  · simp [fromMatch, matchResult, recordingOf, recordedMock]
  · have hheaders : (fromMatch (matchResult env req ⟨i, recordingOf rec r u, params⟩)).headers =
        u.headers.mapVals fun v => (render env v (req.context params)).text := by
      simp [fromMatch, matchResult, recordingOf, recordedMock, hbody, inferContentType]
    rw [hheaders, get?_mapVals]
    cases hk : u.headers.get? k with
    | none => rfl
    | some v =>
      rw [Option.map_some, render_eq_of_not_template env (hself.headers k v hk)]
      rfl

lemma handleNTLM_append_recordingOf (rec : Recorder) (r : Inbound) (u : UpstreamResponse)
    (mocks : List HTTPMock) (method path : GoString)
    (hdrs : GoMap GoString) :
    handleNTLM env (mocks ++ [recordingOf rec r u]) method path hdrs =
      handleNTLM env mocks method path hdrs := by
  have hasks : asksNTLM env method path (recordingOf rec r u) = false := rfl
  simp [handleNTLM, List.any_append, hasks]

end Recorded

/-- A request that is recorded leaves its recording at the end of both lists. -/
lemma recordAndServe_server (mo : Moment) {s : Server} {rec : Recorder} {r : Inbound}
    (body : GoString) (u : UpstreamResponse) (hnew : Unrecorded s rec r) :
    (recordAndServe mo s rec r.listener (r.matchInput body) u).2 =
      { s with
        mocks := s.mocks ++ [recordingOf rec r u]
        recorder := some ⟨rec.counter + 1, rec.recorded ++ [recordingOf rec r u]⟩ } := by
  have hcapture : rec.capture r.listener r.method r.path (firstQueryValues r.query) u =
      (recordingOf rec r u, ⟨rec.counter + 1, rec.recorded ++ [recordingOf rec r u]⟩) := by
    rw [Recorder.capture, hnew.recorded]
    rfl
  have happend : appendRecorded s.mocks (recordingOf rec r u) =
      s.mocks ++ [recordingOf rec r u] := by
    rw [appendRecorded, if_neg]
    rw [Bool.not_eq_true, List.any_eq_false]
    exact fun m hm => Bool.eq_false_iff.mp (hnew.live m hm)
  simp [recordAndServe, Inbound.matchInput, hcapture, happend]

lemma matchedReply_of_plain {mo : Moment} {req : MatchInput} {u : Used} {i : ℕ} {m : HTTPMock}
    (hcons : u.consulted = some (i, m)) (hseq : m.sequence = []) (hfault : m.fault = none)
    (hpatch : mo.scenarios.patchFor u.counter = none) :
    matchedReply mo req u = fromMatch (matchResult mo.env req u.selected) := by
  simp [matchedReply, hcons, hpatch, sequenceStep, hseq, hfault, applySequence, applyPatch,
    applyMockFault]

lemma sameResponse_of_reply {env env' : Env} {ctx : RequestContext}
    {turns : List StreamTurn} {u : UpstreamResponse} {reply : Reply}
    (hstatus : reply.status = u.status) (hbody : reply.body = .fixed u.body)
    (hheaders : ∀ k, reply.headers.get? k = u.headers.get? k) (hstream : reply.stream = none) :
    SameResponse (.response u.status (writtenHeaders env u.headers) [⟨u.body, .upstream⟩])
      (writeReply env' ctx turns reply) := by
  have hwire : writeReply env' ctx turns reply =
      .response reply.status (writtenHeaders env' reply.headers) [reply.body] := by
    simp [writeReply, hstream]
  rw [hwire, hstatus, hbody]
  exact .intro (get?_writtenHeaders_congr _ _ u.canonical_headers fun k => (hheaders k).symm) rfl

lemma selectMock_concat {env : Env} {req : MatchInput} {now : ℕ → ℤ}
    {store : Option State.Store} {mocks : List HTTPMock} {m : HTTPMock}
    (hnone : (selectMock env req now 0 store mocks).1 = none)
    (hmatch : ∀ now store, ∃ params, matchMock env req now store m = (some params, store)) :
    ∃ params store', selectMock env req now 0 store (mocks ++ [m]) =
      (some ⟨mocks.length, m, params⟩, store') := by
  rw [selectMock_append]
  cases hsel : selectMock env req now 0 store mocks with
  | mk found store' =>
    rw [hsel] at hnone
    cases hnone
    obtain ⟨params, hparams⟩ := hmatch (now mocks.length) store'
    exact ⟨params, store', by simp [selectMock, hparams]⟩

lemma handleRequest_of_selected {mo : Moment} {s : Server} {r : Inbound} {body : GoString}
    {sel : Selection} {store : Option State.Store} (hbody : s.readBody r = some body)
    (hfault : mo.scenarios.effectiveHTTPFault = none)
    (hntlm : handleNTLM mo.env (reachable s r) r.method r.path r.hdrs = none)
    (hsel : selectMock mo.env (r.matchInput body) mo.now 0 s.store (reachable s r) =
      (some sel, store)) :
    handleRequest mo s r =
      respondMatched mo { s with store } (reachable s r) (r.matchInput body) sel := by
  have hlimit : globalLimit mo = none := by simp [globalLimit, hfault]
  rw [reachable] at hntlm hsel
  simp [handleRequest, hbody, hlimit, hntlm, dispatch, hsel, reachable]

lemma respondMatched_of_plain (mo : Moment) (s : Server) (mocks : List HTTPMock)
    (req : MatchInput) (sel : Selection) {i : ℕ}
    (hcons : consult sel.mock.id 0 mocks = some (i, sel.mock)) (hseq : sel.mock.sequence = [])
    (hmock : sel.mock.fault = none) (hfault : mo.scenarios.effectiveHTTPFault = none)
    (hpatch : ∀ id, mo.scenarios.patchFor id = none) :
    (respondMatched mo s mocks req sel).1.wire = writeReply mo.env (req.context sel.params) mo.turns
        (fromMatch (matchResult mo.env req sel)) := by
  have hfired : firedFault mo = none := by simp [firedFault, hfault]
  simp only [respondMatched, respond, finalReply, hfired]
  rw [matchedReply_of_plain hcons hseq hmock (hpatch _)]

/-- **Record, then replay.** If a second request differs from a recorded one in the headers only, no
older mock answers it, no fault and no scenario is active, and the exchange means itself and is new,
then it is answered with the same status, headers and body, and nothing is forwarded. -/
theorem replay_after_recording (mo mo' : Moment) (s : Server) (rec : Recorder) (r : Inbound)
    (h : GoMap (List GoString)) (body : GoString) (u : UpstreamResponse)
    (hbody : s.readBody r = some body) (hstatus : u.status ≠ 0)
    (hself : MeansItself r u) (hnew : Unrecorded s rec r)
    (hfault : mo'.scenarios.effectiveHTTPFault = none)
    (hpatch : ∀ id, mo'.scenarios.patchFor id = none)
    (hun : Unanswered mo' s (r.withHeader h) body) :
    let first := recordAndServe mo s rec r.listener (r.matchInput body) u
    let second := handleRequest mo' first.2 (r.withHeader h)
    second.1.forwarded = false ∧
      (∃ used, second.1.used = some used ∧ used.selected.mock = recordingOf rec r u) ∧
      SameResponse first.1.wire second.1.wire := by
  intro first second
  have hfirst : first.1.wire =
      .response u.status (writtenHeaders mo.env u.headers) [⟨u.body, .upstream⟩] := rfl
  have hserver : first.2 = _ := recordAndServe_server mo body u hnew
  -- the second request reaches what it reached before, and behind it the recording
  have hreach : reachable first.2 (r.withHeader h) =
      reachable s (r.withHeader h) ++ [recordingOf rec r u] := by
    rw [reachable, reachable, hserver, mocksForListener_eq_filter, mocksForListener_eq_filter,
      List.filter_append, List.filter_singleton]
    simp [recordingOf, recordedMock, Inbound.withHeader]
  have hread : first.2.readBody (r.withHeader h) = some body := by
    rw [hserver]
    exact hbody
  have hntlm := hun.ntlm
  rw [← handleNTLM_append_recordingOf rec r u, ← hreach] at hntlm
  obtain ⟨params, store, hsel⟩ := selectMock_concat hun.unmatched
    (matchMock_recordingOf rec hself h body)
  have hstore : first.2.store = s.store := by rw [hserver]
  rw [← hreach, ← hstore] at hsel
  have hsecond : second = _ := handleRequest_of_selected hread hfault hntlm hsel
  have hcons : consult (recordingOf rec r u).id 0 (reachable first.2 (r.withHeader h)) =
      some (0 + (reachable s (r.withHeader h)).length, recordingOf rec r u) := by
    rw [hreach]
    exact consult_eq rfl _ [] 0 hnew.id
  obtain ⟨hst, hb, hstream, hheaders⟩ :=
    fromMatch_recordingOf mo'.env rec hself hstatus ((r.withHeader h).matchInput body)
      (reachable s (r.withHeader h)).length params
  refine ⟨?_, ?_, ?_⟩
  · rw [hsecond]
    simp [respondMatched]
  · rw [hsecond]
    simp [respondMatched]
  · rw [hfirst, hsecond, respondMatched_of_plain mo' _ _ _ _ hcons rfl rfl hfault hpatch]
    exact sameResponse_of_reply hst hb hheaders hstream

def emptyRecording : Server := { mocks := [], recorder := some newRecorder }

theorem plain_exchange_is_replayed :
    let first := recordAndServe { env := Env.basic } emptyRecording newRecorder []
      ((plainRequest (go "/a")).matchInput []) (plainResponse 200 (go "one"))
    let second := handleRequest { env := Env.basic } first.2
      ((plainRequest (go "/a")).withHeader (ofList [(go "Accept", [go "text/plain"])]))
    second.1.forwarded = false ∧
      (∃ used, second.1.used = some used ∧ used.selected.mock =
        recordingOf newRecorder (plainRequest (go "/a")) (plainResponse 200 (go "one"))) ∧
      SameResponse first.1.wire second.1.wire := by
  have hself : MeansItself (plainRequest (go "/a")) (plainResponse 200 (go "one")) :=
    ⟨by decide, by rintro k v ⟨⟩, by rintro k v ⟨⟩, by decide⟩
  have hnew : Unrecorded emptyRecording newRecorder (plainRequest (go "/a")) :=
    ⟨rfl, by rintro m ⟨⟩, by rintro m ⟨⟩⟩
  exact replay_after_recording { env := Env.basic } { env := Env.basic } emptyRecording
    newRecorder (plainRequest (go "/a")) (ofList [(go "Accept", [go "text/plain"])]) []
    (plainResponse 200 (go "one")) rfl (by decide) hself hnew rfl (fun _ => rfl) ⟨rfl, rfl⟩

def headerMock : HTTPMock where
  id := go "admin"
  request := { path := go "/a", headers := ofList [(go "X-Role", go "admin")] }
  response := { status := 403, headers := ∅ }

def Wire.bodyText (w : Wire) : GoString := w.pieces.flatMap Piece.text

/-- A field that the context has not is rendered as `<no value>`, a text without a field as itself.
-/
def noValueEnv : Env :=
  { Env.basic with
    textTemplate := fun tmpl _ =>
      some (if tmpl = go "\x7b\x7b.zz\x7d\x7d" then go "<no value>" else tmpl) }

/-- **The second client may receive something else.** A request with the header is answered by an
older mock; and a recorded body that looks like a template is executed. -/
theorem replay_changes :
    let s (mocks : List HTTPMock) : Server := { mocks, recorder := some newRecorder }
    let r := plainRequest (go "/a")
    let first (mocks : List HTTPMock) (text : String) := handleRequest
      { env := noValueEnv, upstream := some (plainResponse 200 (go text)) } (s mocks) r
    let second (mocks : List HTTPMock) (text : String) (h : GoMap (List GoString)) :=
      handleRequest { env := noValueEnv } (first mocks text).2 (r.withHeader h)
    let admin := ofList [(go "X-Role", [go "admin"])]
    ((first [headerMock] "one").1.forwarded = true ∧
      (first [headerMock] "one").1.wire.status? = some 200 ∧
      (second [headerMock] "one" admin).1.wire.status? = some 403) ∧
    ((first [] "\x7b\x7b.zz\x7d\x7d").1.forwarded = true ∧
      (first [] "\x7b\x7b.zz\x7d\x7d").1.wire.bodyText = go "\x7b\x7b.zz\x7d\x7d" ∧
      (second [] "\x7b\x7b.zz\x7d\x7d" ∅).1.forwarded = false ∧
      (second [] "\x7b\x7b.zz\x7d\x7d" ∅).1.wire.bodyText = go "<no value>") := by
  decide

end Mockly
