import GptLiveProxy.HeaderNoninterference

/-!
# The four upstream header builders

`HeaderBuilder` lists the builders with the parameters they take besides the request. `Accepts` is
the validation in front of each, `names` what it reads of the client, and `Shaped` what every map
it returns looks like.
-/

namespace GptLiveProxy
open CharText OrderedMultimap

inductive HeaderBuilder
  | upstream (selection : ProtocolSelection)
  | upstreamWebsocket (selection : ProtocolSelection) (admission : Option BearerToken)
  | privateCall (selection : ProtocolSelection)
  | sideband (target : SidebandTarget)

namespace HeaderBuilder

def Accepts : HeaderBuilder → HeaderMap → Prop
  | upstream selection, client => validateUpstreamHeaders client selection = .ok ()
  | upstreamWebsocket selection admission, client =>
    ∃ validated, validateUpstreamWebsocketHeaders client selection admission = .ok validated
  | privateCall selection, client =>
    ∃ validated, validatePrivateCallHeaders client selection = .ok validated
  | sideband target, client =>
    ∃ adapter, privateAdapter client target = .ok adapter ∧
      validatePrivateSidebandHeaders client adapter = .ok ()

def build (debugAssertions : Bool) (profile : UpstreamProfile) :
    HeaderBuilder → HeaderMap → Outcome RelayError HeaderMap
  | upstream selection, client => Outcome.ofExcept (buildUpstreamHeaders client profile selection)
  | upstreamWebsocket selection admission, client => do
    let validated ←
      Outcome.ofExcept (validateUpstreamWebsocketHeaders client selection admission)
    let built ←
      Outcome.ofExcept (buildUpstreamWebsocketHeaders client profile selection validated)
    return built.headers
  | privateCall selection, client => do
    let validated ← Outcome.ofExcept (validatePrivateCallHeaders client selection)
    buildPrivateCallHeaders debugAssertions client profile validated
  | sideband target, client => do
    let adapter ← Outcome.ofExcept (privateAdapter client target)
    mergeUpstreamHeaders debugAssertions client profile (some adapter)

/-- The client names the builder forwards. -/
def allowlist : HeaderBuilder → List HeaderName
  | upstream _ => REQUEST_HEADER_ALLOWLIST
  | upstreamWebsocket _ _ => SEC_WEBSOCKET_PROTOCOL :: WEBSOCKET_METADATA_HEADERS
  | privateCall _ => "content-type" :: CLIENT_PROTOCOL_HEADERS
  | sideband _ => CLIENT_PROTOCOL_HEADERS

def credential : HeaderBuilder → List HeaderName
  | upstream selection => credentialNames selection.credential
  | upstreamWebsocket selection _ => credentialNames selection.credential
  | privateCall _ => []
  | sideband _ => []

/-- All that the builder reads of the client. -/
def names (builder : HeaderBuilder) : List HeaderName := builder.allowlist ++ builder.credential

def IsPrivate : HeaderBuilder → Prop
  | upstream selection => selection.dialect ≠ .officialGa
  | upstreamWebsocket selection _ => selection.dialect ≠ .officialGa
  | privateCall selection => selection.dialect ≠ .officialGa
  | sideband target => ∃ dialect, sidebandDialect target.adapter = .ok dialect ∧ dialect ≠ .officialGa

end HeaderBuilder

/-- A map that holds forwarded and proxy-owned names only, each once where it must be. -/
structure Shaped (builder : HeaderBuilder) (out : HeaderMap) : Prop where
  confined : ∀ name, out.getAll name ≠ [] →
    name ∈ builder.allowlist ∨ name = "authorization" ∨ name = "chatgpt-account-id"
  single : ∀ name, name ≠ "accept" → name ≠ "openai-beta" → (out.getAll name).length ≤ 1
  negotiated : ∀ name, name = "chatgpt-account-id" ∨ name = "openai-alpha" →
    out.getAll name ≠ [] → builder.IsPrivate

section Shapes
variable {debugAssertions : Bool} {profile : UpstreamProfile} {client out : HeaderMap}
  {selection : ProtocolSelection}

theorem not_or_not_or {p q r : Prop} (h : ¬(p ∨ q ∨ r)) : ¬p ∧ ¬q ∧ ¬r := by
  simpa only [not_or] using h

theorem length_toList_le {α : Type} (a : Option α) : a.toList.length ≤ 1 := by
  cases a <;> simp

theorem forwardedAlpha_length (dialect : ApiDialect) : (forwardedAlpha client dialect).length ≤ 1 := by
  unfold forwardedAlpha
  split_ifs
  · simp
  · exact length_toList_le _

theorem buildUpstreamHeaders_shaped (h : buildUpstreamHeaders client profile selection = .ok out) :
    Shaped (.upstream selection) out := by
  obtain ⟨value, -, hcontents⟩ := buildUpstreamHeaders_eq_ok h
  refine ⟨fun name hname => ?_, fun name haccept hbeta => ?_, fun name hname hpresent hofficial => ?_⟩
  · by_contra hother
    obtain ⟨hlist, hcredential, haccount⟩ := not_or_not_or hother
    apply hname
    rw [hcontents, if_neg hcredential, if_neg haccount]
    exact if_neg hlist
  · rw [hcontents]
    unfold restValues accountValues
    split_ifs with _ _ _ _ _ _ hlist <;>
      first | exact length_toList_le _ | exact forwardedAlpha_length _ | simp
    exact absurd hlist (not_or.mpr ⟨haccept, hbeta⟩)
  · apply hpresent
    rw [hcontents]
    rcases hname with rfl | rfl
    · simp [hofficial]
    · simp [REQUEST_HEADER_ALLOWLIST, restValues, forwardedAlpha, hofficial]

theorem buildUpstreamWebsocketHeaders_shaped {admission : Option BearerToken}
    {validated : ValidatedWebSocketHeaders} {built : WebSocketHeaders}
    (h : buildUpstreamWebsocketHeaders client profile selection validated = .ok built) :
    Shaped (.upstreamWebsocket selection admission) built.headers := by
  obtain ⟨-, values, hvalues, hcontents⟩ := buildUpstreamWebsocketHeaders_eq_ok h
  have hpublic : ∀ name ∈ PUBLIC_METADATA_HEADERS, name ∈ WEBSOCKET_METADATA_HEADERS := by decide
  refine ⟨fun name hname => ?_, fun name _ hbeta => ?_, fun name hname hpresent hofficial => ?_⟩
  · by_contra hother
    obtain ⟨hlist, hcredential, haccount⟩ := not_or_not_or hother
    simp only [HeaderBuilder.allowlist, List.mem_cons, not_or] at hlist
    obtain ⟨hprotocol, hmetadata⟩ := hlist
    have hnotPublic : name ∉ PUBLIC_METADATA_HEADERS := fun hin => hmetadata (hpublic name hin)
    have halpha : name ≠ "openai-alpha" := by
      rintro rfl
      exact hmetadata (by decide)
    have hattestation : name ≠ "x-oai-attestation" := by
      rintro rfl
      exact hmetadata (by decide)
    apply hname
    rw [hcontents, if_neg hprotocol, if_neg hcredential, if_neg hnotPublic]
    simp [privateMetadataValues, halpha, hattestation, haccount]
  · have hauthorization : values.length ≤ 1 := by
      rcases hvalues with ⟨-, rfl⟩ | ⟨-, value, -, rfl⟩ <;> simp
    rw [hcontents]
    unfold privateMetadataValues publicMetadataValues accountValues
    split_ifs <;> first | exact length_toList_le _ | exact hauthorization | simp
  · apply hpresent
    rw [hcontents]
    rcases hname with rfl | rfl <;>
      simp [SEC_WEBSOCKET_PROTOCOL, PUBLIC_METADATA_HEADERS, privateMetadataValues, hofficial]

theorem mergeUpstreamHeaders_shaped {adapter : Option WireAdapter} (target : SidebandTarget)
    (h : mergeUpstreamHeaders debugAssertions client profile adapter = .ok out) :
    Shaped (.sideband target) out := by
  obtain ⟨value, -, hcontents⟩ := mergeUpstreamHeaders_eq_ok h
  refine ⟨fun name hname => ?_, fun name _ _ => ?_, fun name _ _ => ?_⟩
  · by_contra hother
    obtain ⟨hlist, hcredential, haccount⟩ := not_or_not_or hother
    apply hname
    rw [hcontents, if_neg haccount, if_neg hcredential]
    exact if_neg hlist
  · rw [hcontents]
    unfold protocolValues accountValues
    split_ifs <;> first | exact length_toList_le _ | simp
  · cases target with
    | framelessPath callId => exact ⟨.frameless, rfl, by decide⟩
    | realtimeCallsPath callId => exact ⟨.quicksilverV1, rfl, by decide⟩
    | realtimeQuery callId => exact ⟨.quicksilverV1, rfl, by decide⟩

theorem callAdapter_private {dialect : ApiDialect} {adapter : WireAdapter}
    (h : callAdapter dialect = some adapter) : dialect ≠ .officialGa := by
  rintro rfl
  cases h

theorem buildPrivateCallHeaders_shaped {validated : ValidatedPrivateCallHeaders}
    (hvalidated : validatePrivateCallHeaders client selection = .ok validated)
    (h : buildPrivateCallHeaders debugAssertions client profile validated = .ok out) :
    Shaped (.privateCall selection) out := by
  obtain ⟨merged, value, hmerged, -, hcontents⟩ := buildPrivateCallHeaders_eq_ok h
  obtain ⟨hconfined, hsingle, -⟩ := mergeUpstreamHeaders_shaped (.framelessPath []) hmerged
  have hprivate := callAdapter_private (validatePrivateCallHeaders_eq_ok hvalidated).1
  refine ⟨fun name hname => ?_, fun name haccept hbeta => ?_, fun _ _ _ => hprivate⟩
  · rw [hcontents name] at hname
    split_ifs at hname with hcontent
    · exact Or.inl (by simp [HeaderBuilder.allowlist, hcontent])
    · rcases hconfined name hname with hallowed | howned
      · exact Or.inl (List.mem_cons_of_mem _ hallowed)
      · exact Or.inr howned
  · rw [hcontents name]
    split_ifs
    · simp
    · exact hsingle name haccept hbeta

end Shapes

theorem build_shaped {debugAssertions : Bool} {profile : UpstreamProfile} {builder : HeaderBuilder}
    {client out : HeaderMap} (h : builder.build debugAssertions profile client = .ok out) :
    Shaped builder out := by
  cases builder with
  | upstream selection => exact buildUpstreamHeaders_shaped (Outcome.ofExcept_eq_ok.mp h)
  | upstreamWebsocket selection admission =>
    obtain ⟨validated, -, h⟩ := Outcome.bind_eq_ok.mp h
    obtain ⟨built, hbuilt, h⟩ := Outcome.bind_eq_ok.mp h
    cases h
    exact buildUpstreamWebsocketHeaders_shaped (Outcome.ofExcept_eq_ok.mp hbuilt)
  | privateCall selection =>
    obtain ⟨validated, hvalidated, h⟩ := Outcome.bind_eq_ok.mp h
    exact buildPrivateCallHeaders_shaped (Outcome.ofExcept_eq_ok.mp hvalidated) h
  | sideband target =>
    obtain ⟨adapter, -, h⟩ := Outcome.bind_eq_ok.mp h
    exact mergeUpstreamHeaders_shaped target h

theorem privateAdapter_eq {client : HeaderMap} {target : SidebandTarget} {adapter : WireAdapter}
    (h : privateAdapter client target = .ok adapter) : adapter = target.adapter := by
  unfold privateAdapter at h
  split at h
  · split at h
    · cases h
    · split_ifs at h with hsame
      cases h
      exact not_not.mp hsame
  · cases h

/-- Accepted requests that agree on the names a builder reads get the same upstream map. -/
theorem build_related {debugAssertions : Bool} {profile : UpstreamProfile} {builder : HeaderBuilder}
    {a b : HeaderMap} (ha : builder.Accepts a) (hb : builder.Accepts b)
    (h : AgreeOnNames builder.names a b) :
    Outcome.Related SameHeaders (builder.build debugAssertions profile a)
      (builder.build debugAssertions profile b) := by
  cases builder with
  | upstream selection => exact (buildUpstreamHeaders_related h).ofExcept
  | upstreamWebsocket selection admission =>
    obtain ⟨⟨va⟩, ha⟩ := ha
    obtain ⟨⟨vb⟩, hb⟩ := hb
    -- both requests offer the same subprotocols, so they are validated alike
    have hparsed : va = vb := by
      have hprotocols : AgreeOnNames [SEC_WEBSOCKET_PROTOCOL] a b :=
        h.mono (by simp [HeaderBuilder.names, HeaderBuilder.allowlist])
      have hva := (validateUpstreamWebsocketHeaders_eq_ok ha).1
      have hvb := (validateUpstreamWebsocketHeaders_eq_ok hb).1
      rw [parseProtocols_congr hprotocols, hvb] at hva
      exact (Except.ok.inj hva).symm
    subst hparsed
    simp only [HeaderBuilder.build, ha, hb]
    refine (buildUpstreamWebsocketHeaders_related h _).ofExcept.bind fun x y hxy => ?_
    exact .ok hxy
  | privateCall selection =>
    obtain ⟨va, ha⟩ := ha
    obtain ⟨vb, hb⟩ := hb
    have hadapter : va = vb := by
      have hva := (validatePrivateCallHeaders_eq_ok ha).1
      have hvb := (validatePrivateCallHeaders_eq_ok hb).1
      cases va
      cases vb
      simpa [hva] using hvb
    subst hadapter
    simp only [HeaderBuilder.build, ha, hb]
    exact buildPrivateCallHeaders_related debugAssertions va
      (h.mono fun _ => List.mem_append_left _)
  | sideband target =>
    obtain ⟨aa, ha, -⟩ := ha
    obtain ⟨ab, hb, -⟩ := hb
    obtain rfl := privateAdapter_eq ha
    obtain rfl := privateAdapter_eq hb
    simp only [HeaderBuilder.build, ha, hb]
    exact mergeUpstreamHeaders_related debugAssertions _ (h.mono fun _ => List.mem_append_left _)

/-- Noninterference and confinement of every builder: what it does not read of an accepted request
has no influence, and what it returns holds forwarded and proxy-owned names only. -/
theorem upstream_headers_confined (debugAssertions : Bool) (profile : UpstreamProfile)
    (builder : HeaderBuilder) :
    (∀ a b, builder.Accepts a → builder.Accepts b → AgreeOnNames builder.names a b →
      Outcome.Related SameHeaders (builder.build debugAssertions profile a)
        (builder.build debugAssertions profile b)) ∧
      ∀ client out, builder.build debugAssertions profile client = .ok out → Shaped builder out :=
  ⟨fun _ _ => build_related, fun _ _ => build_shaped⟩

section Instances

/-- A request an official REST route accepts, with these headers besides its own. -/
def acceptingRequest (extra : List (HeaderName × Text)) : HeaderMap :=
  headersOf ([("accept", "text/plain".toList), ("openai-project", "p1".toList)] ++ extra)

def officialManaged : ProtocolSelection := ⟨.officialGa, .http, .realtime, .managed⟩

theorem cookie_and_admission_header_do_not_matter :
    Outcome.Related SameHeaders
      ((HeaderBuilder.upstream officialManaged).build true (.apiKeyManaged [] ⟨"managed".toList⟩)
        (acceptingRequest [("cookie", "c=1".toList)]))
      ((HeaderBuilder.upstream officialManaged).build true (.apiKeyManaged [] ⟨"managed".toList⟩)
        (acceptingRequest [("x-gpt-live-api-key", "secret".toList)])) :=
  (upstream_headers_confined true (.apiKeyManaged [] ⟨"managed".toList⟩)
    (.upstream officialManaged)).1 _ _
    (show validateUpstreamHeaders _ _ = .ok () by decide +kernel)
    (show validateUpstreamHeaders _ _ = .ok () by decide +kernel)
    (show ∀ name ∈ (HeaderBuilder.upstream officialManaged).names, _ by decide +kernel)

end Instances

end GptLiveProxy
