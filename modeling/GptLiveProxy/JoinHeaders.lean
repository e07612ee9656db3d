import GptLiveProxy.Handlers

/-!
# The two joins of one private call

A private call is joined through `/v1/realtime?call_id=…` or through a path alias. Both routes
carry the negotiation value and the attestation; the other four protocol headers travel on the
path alias only.
-/

namespace GptLiveProxy
open CharText OrderedMultimap

/-- One request, accepted as a private join of the same call on both routes. -/
structure JoinedBothWays (debugAssertions : Bool) (decoder : PercentDecoder) (config : Config)
    (queryPath aliasPath : Text) (query : Option Text) (aliasQuery : Text → Option Text)
    (headers : HeaderMap) (classified : ClassifiedWebSocket) (target : SidebandTarget)
    (built : WebSocketHeaders) (merged : HeaderMap) : Prop where
  byQuery : websocketContact decoder config .get queryPath query headers = .ok (classified, built)
  byAlias : sidebandContact debugAssertions decoder config .get aliasPath aliasQuery headers =
    .ok (target, merged)
  isPrivate : classified.selection.dialect ≠ .officialGa
  sameCall : classified.target = .existingCall target.callId

def carried (headers : HeaderMap) (name : HeaderName) : Option (List UInt8) :=
  (singleNonEmpty headers name).map HeaderValue.bytes

/-- The protocol headers of the path alias that the query join does not copy. -/
def ALIAS_ONLY_HEADERS : List HeaderName := ["x-session-id", "session-id", "thread-id", "originator"]

theorem carried_eq_none {headers : HeaderMap} {name : HeaderName} :
    carried headers name = none ↔ ∀ value ∈ headers.get name, isEmpty value = true := by
  simp [carried, singleNonEmpty, Option.filter_eq_none_iff]

theorem carried_copy {headers out : HeaderMap} {name : HeaderName} {mark : HeaderValue → HeaderValue}
    (hmark : ∀ value, (mark value).bytes = value.bytes)
    (hout : out.getAll name = ((singleNonEmpty headers name).map mark).toList) :
    carried out name = carried headers name := by
  unfold carried
  cases hsingle : singleNonEmpty headers name with
  | none =>
    have hget : out.get name = none := by rw [get_eq_head?, hout, hsingle]; rfl
    simp [singleNonEmpty, hget]
  | some value =>
    have hget : out.get name = some (mark value) := by rw [get_eq_head?, hout, hsingle]; rfl
    have hfull : isEmpty (mark value) = false :=
      (isEmpty_congr (hmark value)).trans (singleNonEmpty_eq_some.mp hsingle).2
    simp [singleNonEmpty, hget, Option.filter, hfull, hmark]

theorem carried_nothing {out : HeaderMap} {name : HeaderName} (hout : out.getAll name = []) :
    carried out name = none := by
  simp [carried, singleNonEmpty, get_eq_head?, hout]

section Routes
variable {debugAssertions : Bool} {decoder : PercentDecoder} {config : Config} {method : Method}
  {path : Text} {headers : HeaderMap}

theorem query_join_carries {query : Option Text} {classified : ClassifiedWebSocket}
    {built : WebSocketHeaders}
    (h : websocketContact decoder config method path query headers = .ok (classified, built))
    (hprivate : classified.selection.dialect ≠ .officialGa) {name : HeaderName}
    (hname : name ∈ CLIENT_PROTOCOL_HEADERS) :
    carried built.headers name =
      if name ∈ ALIAS_ONLY_HEADERS then none else carried headers name := by
  obtain ⟨decoded, capability, validated, -, -, -, -, hbuilt⟩ := websocketContact_eq_ok h
  obtain ⟨-, values, -, hcontents⟩ := buildUpstreamWebsocketHeaders_eq_ok hbuilt
  have hget := hcontents name
  have hkeep : ∀ value : HeaderValue, (id value).bytes = value.bytes := fun _ => rfl
  have hmark : ∀ value : HeaderValue, (value.setSensitive true).bytes = value.bytes := fun _ => rfl
  simp only [CLIENT_PROTOCOL_HEADERS, List.mem_cons, List.not_mem_nil, or_false] at hname
  rcases hname with rfl | rfl | rfl | rfl | rfl | rfl
  · rw [if_neg (by decide)]
    apply carried_copy hkeep
    simpa [SEC_WEBSOCKET_PROTOCOL, PUBLIC_METADATA_HEADERS, privateMetadataValues, hprivate] using hget
  iterate 4
    · rw [if_pos (by decide)]
      apply carried_nothing
      simpa [SEC_WEBSOCKET_PROTOCOL, PUBLIC_METADATA_HEADERS, privateMetadataValues] using hget
  · rw [if_neg (by decide)]
    apply carried_copy hmark
    simpa [SEC_WEBSOCKET_PROTOCOL, PUBLIC_METADATA_HEADERS, privateMetadataValues, hprivate] using hget

theorem alias_join_carries {query : Text → Option Text} {target : SidebandTarget}
    {merged : HeaderMap}
    (h : sidebandContact debugAssertions decoder config method path query headers =
      .ok (target, merged)) {name : HeaderName} (hname : name ∈ CLIENT_PROTOCOL_HEADERS) :
    carried merged name = carried headers name := by
  obtain ⟨adapter, -, -, hmerged⟩ := sidebandContact_eq_ok h
  obtain ⟨value, -, hcontents⟩ := mergeUpstreamHeaders_eq_ok hmerged
  have hmark : ∀ value : HeaderValue, (markAttestation name value).bytes = value.bytes := by
    intro value
    unfold markAttestation
    split_ifs <;> rfl
  apply carried_copy hmark
  have haccount : name ≠ "chatgpt-account-id" := by
    rintro rfl
    exact absurd hname (by decide)
  have hcredential : name ≠ "authorization" := by
    rintro rfl
    exact absurd hname (by decide)
  rw [hcontents, if_neg haccount, if_neg hcredential, if_pos hname]
  rfl

end Routes

/-- The joins forward the same protocol headers when the client sends none of the four that the
query join drops. -/
theorem joins_forward_alike_iff {debugAssertions : Bool} {decoder : PercentDecoder}
    {config : Config} {queryPath aliasPath : Text} {query : Option Text}
    {aliasQuery : Text → Option Text} {headers : HeaderMap} {classified : ClassifiedWebSocket}
    {target : SidebandTarget} {built : WebSocketHeaders} {merged : HeaderMap}
    (h : JoinedBothWays debugAssertions decoder config queryPath aliasPath query aliasQuery headers
      classified target built merged) :
    (∀ name ∈ CLIENT_PROTOCOL_HEADERS, carried built.headers name = carried merged name) ↔
      ∀ name ∈ ALIAS_ONLY_HEADERS, ∀ value ∈ headers.get name, isEmpty value = true := by
  have hsub : ∀ name ∈ ALIAS_ONLY_HEADERS, name ∈ CLIENT_PROTOCOL_HEADERS := by decide
  have hquery := fun name hname =>
    @query_join_carries decoder config .get queryPath headers query classified built h.byQuery
      h.isPrivate name hname
  constructor
  · intro hsame name hname
    have hcarried := hsame name (hsub name hname)
    rw [hquery name (hsub name hname), if_pos hname,
      alias_join_carries h.byAlias (hsub name hname)] at hcarried
    exact carried_eq_none.mp hcarried.symm
  · intro hempty name hname
    rw [hquery name hname, alias_join_carries h.byAlias hname]
    split_ifs with honly
    · exact (carried_eq_none.mpr (hempty name honly)).symm
    · rfl

section Instances

def publicManaged : Config :=
  .everyInterface (.apiKeyManaged "https://api.openai.com/v1".toList ⟨"managed".toList⟩)
    "secret".toList

def joinHeaders (extra : List (HeaderName × Text)) : HeaderMap :=
  headersOf ([("upgrade", "websocket".toList), ("openai-alpha", "quicksilver=v1".toList)] ++ extra)

def JoinsCall (extra : List (HeaderName × Text)) (classified : ClassifiedWebSocket)
    (target : SidebandTarget) (built : WebSocketHeaders) (merged : HeaderMap) : Prop :=
  JoinedBothWays true .standard publicManaged "/v1/realtime".toList
    "/v1/realtime/calls/rtc_1".toList (some "call_id=rtc_1".toList) (fun _ => none)
    (joinHeaders extra) classified target built merged

theorem joinsCall_of_checks {extra : List (HeaderName × Text)} {check check' : HeaderMap → Bool}
    (hquery : Outcome.okAnd (fun r => decide (r.1.selection.dialect ≠ .officialGa) &&
        decide (r.1.target = .existingCall "rtc_1".toList) && check r.2.headers)
      (websocketContact .standard publicManaged .get "/v1/realtime".toList
        (some "call_id=rtc_1".toList) (joinHeaders extra)) = true)
    (halias : Outcome.okAnd (fun r => decide (r.1.callId = "rtc_1".toList) && check' r.2)
      (sidebandContact true .standard publicManaged .get "/v1/realtime/calls/rtc_1".toList
        (fun _ => none) (joinHeaders extra)) = true) :
    ∃ classified target built merged, JoinsCall extra classified target built merged ∧
      check built.headers = true ∧ check' merged = true := by
  obtain ⟨⟨classified, built⟩, hbuilt, hcheck⟩ := Outcome.exists_of_okAnd hquery
  obtain ⟨⟨target, merged⟩, hmerged, hcheck'⟩ := Outcome.exists_of_okAnd halias
  simp only [Bool.and_eq_true, decide_eq_true_eq] at hcheck hcheck'
  refine ⟨classified, target, built, merged, ⟨hbuilt, hmerged, hcheck.1.1, ?_⟩, hcheck.2, hcheck'.2⟩
  rw [hcheck.1.2, hcheck'.1]

theorem bare_joins_forward_alike :
    ∃ classified target built merged, JoinsCall [] classified target built merged ∧
      ∀ name ∈ CLIENT_PROTOCOL_HEADERS, carried built.headers name = carried merged name := by
  obtain ⟨classified, target, built, merged, h, -, -⟩ :=
    @joinsCall_of_checks [] (fun _ => true) (fun _ => true) (by decide +kernel) (by decide +kernel)
  exact ⟨classified, target, built, merged, h, (joins_forward_alike_iff h).mpr (by decide +kernel)⟩

theorem session_id_forwarded_by_the_alias_alone :
    ∃ classified target built merged,
      JoinsCall [("x-session-id", "s1".toList)] classified target built merged ∧
        ¬∀ name ∈ CLIENT_PROTOCOL_HEADERS, carried built.headers name = carried merged name := by
  obtain ⟨classified, target, built, merged, h, hbuilt, hmerged⟩ :=
    @joinsCall_of_checks [("x-session-id", "s1".toList)]
      (fun built => decide (carried built "x-session-id" = none))
      (fun merged => decide (carried merged "x-session-id" = some (utf8 "s1".toList)))
      (by decide +kernel) (by decide +kernel)
  rw [decide_eq_true_eq] at hbuilt hmerged
  refine ⟨classified, target, built, merged, h, fun hall => ?_⟩
  have hsame := hall "x-session-id" (by decide)
  rw [hbuilt, hmerged] at hsame
  cases hsame

end Instances

end GptLiveProxy
