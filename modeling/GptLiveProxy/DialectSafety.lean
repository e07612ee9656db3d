import GptLiveProxy.CallCreate
import GptLiveProxy.CredentialDomain

/-!
# What the classified dialects rule out

The code that consumes a classification declares branches unreachable, asserts, and expects: a
private dialect is a call-create over WebRTC or a joined model or call, and an official operation
never reaches the private builders. The handlers are run here from the request to the upstream
contact. None of these sites panics, on any request and under any profile; the one assertion that
can fail compares the forwarded negotiation header with the adapter's literal.
-/

namespace GptLiveProxy
open CharText

section Handlers

def officialRequest (libraries : CallLibraries) (config : Config) (method : Method) (uri : Uri)
    (headers : HeaderMap) (classified : ClassifiedRest) (capability : Capability)
    (arrival : Arrival) : Except RelayError UpstreamRequest := do
  let out ← officialRestHeaders config headers classified capability
  acquirePermit arrival
  let body ← readRequestBody config.limits arrival
  let target ← officialUrl config.upstream.baseUrl uri
  buildRequest libraries ⟨method, target, out, body⟩

def privateCallRequest (headerAssertions debugAssertions : Bool) (libraries : CallLibraries)
    (config : Config) (method : Method) (headers : HeaderMap) (classified : ClassifiedRest)
    (capability : Capability) (arrival : Arrival) : Outcome RelayError UpstreamRequest := do
  let validated ← Outcome.ofExcept (validatePrivateCallHeaders headers classified.selection)
  Outcome.ofExcept (requireSupport config.upstream capability)
  let out ← buildPrivateCallHeaders headerAssertions headers config.upstream validated
  Outcome.debugAssert debugAssertions (classified.operation = .createCall)
  handleCallCreate debugAssertions libraries config method classified.selection out arrival

/-- `realtime::http::handle` up to the upstream request. The assertion on the forwarded header has
a switch of its own; a build has both switches on or both off. -/
def restHandle (headerAssertions debugAssertions : Bool) (decoder : PercentDecoder)
    (libraries : CallLibraries) (config : Config) (method : Method) (uri : Uri)
    (headers : HeaderMap) (arrival : Arrival) : Outcome RelayError UpstreamRequest := do
  let classified ← (classifyRest decoder (restFacts config method uri.path headers)).mapError
    (RelayError.fromRestContract · method uri.path)
  let capability ← Capability.fromRest classified
  let _ ← assertedSupport debugAssertions (.fromProfile config.upstream) capability
  if classified.selection.dialect = .officialGa then
    Outcome.ofExcept
      (officialRequest libraries config method uri headers classified capability arrival)
  else
    privateCallRequest headerAssertions debugAssertions libraries config method headers classified
      capability arrival

/-- Whether the upgrade can be extracted from the request, and whether a permit is free. -/
structure UpgradeArrival where
  extracted : Bool
  permitFree : Bool

def acquireUpgrade (method : Method) (path : Text) (arrival : UpgradeArrival) :
    Except RelayError Unit :=
  if !arrival.extracted then .error (.unknownEndpoint method path)
  else if !arrival.permitFree then .error .tooManyActiveRealtimeConnections
  else .ok ()

/-- The dialect as the span of a private socket names it. -/
def privateDialectLabel : ApiDialect → Outcome RelayError Text
  | .quicksilverV1 => .ok "quicksilver_v1".toList
  | .frameless => .ok "frameless".toList
  -- declared unreachable: official sockets are handled before
  | .officialGa => .panicked

def websocketUrl (config : Config) (uri : Uri) (classified : ClassifiedWebSocket) :
    Outcome RelayError Text :=
  if classified.selection.dialect = .officialGa then
    Outcome.ofExcept (officialWebsocketUrl config.upstream.baseUrl uri)
  else do
    let url ← privateWebsocketUrl config.upstream.baseUrl config.upstream.usesBackendShape classified
    let _ ← privateDialectLabel classified.selection.dialect
    return url

/-- `realtime::websocket::handle` up to the upstream URL and the maps of the handshake. -/
def websocketHandle (decoder : PercentDecoder) (config : Config) (method : Method) (uri : Uri)
    (headers : HeaderMap) (arrival : UpgradeArrival) : Outcome RelayError (Text × WebSocketHeaders) := do
  let contact ← websocketContact decoder config method uri.path uri.query headers
  Outcome.ofExcept (acquireUpgrade method uri.path arrival)
  let url ← websocketUrl config uri contact.1
  return (url, contact.2)

end Handlers

/-- A `multipart/form-data` content type whose parameters are well formed and have a boundary. -/
def WellFormedMultipart (contentType : Option Text) : Prop :=
  ∃ raw base parameters, contentType = some raw ∧ splitMimeParts raw = some (base :: parameters) ∧
    eqIgnoreAsciiCase (trim base) "multipart/form-data".toList = true ∧
      mediaTypeParameters [] parameters = some true

section Classification
variable {decoder : PercentDecoder} {facts : RouteFacts}

theorem wellFormedMultipart_of_mediaType {contentType : Option Text} {value : Text}
    (h : mediaType contentType = some value)
    (hmultipart : eqIgnoreAsciiCase value "multipart/form-data".toList = true) :
    WellFormedMultipart contentType := by
  unfold mediaType at h
  simp only [Option.bind_eq_bind, Option.bind_eq_some_iff] at h
  obtain ⟨raw, hraw, parts, hparts, base, hbase, ⟨major, minor⟩, -, h⟩ := h
  split_ifs at h with htokens
  simp only [Option.bind_eq_some_iff] at h
  obtain ⟨hasBoundary, hparameters, h⟩ := h
  split_ifs at h with hmissing
  cases h
  obtain ⟨parameters, rfl⟩ := List.head?_eq_some_iff.mp hbase
  refine ⟨raw, base, parameters, hraw, hparts, hmultipart, ?_⟩
  rw [hmultipart, Bool.true_and, Bool.not_eq_true, Bool.not_eq_false'] at hmissing
  rw [← hmissing]
  exact hparameters

theorem wellFormedMultipart_of_rawSdp {contentType : Option Text}
    (h : restCallCreateRawSdp contentType = .ok false) : WellFormedMultipart contentType := by
  unfold restCallCreateRawSdp at h
  cases hmedia : mediaType contentType with
  | none => simp [hmedia] at h
  | some value =>
    simp only [hmedia] at h
    split_ifs at h with hmultipart hsdp
    · exact wellFormedMultipart_of_mediaType hmedia hmultipart
    · cases h

theorem classifyRestCallCreate_private {selection : ProtocolSelection}
    (h : classifyRestCallCreate facts = .ok selection) (hprivate : selection.dialect ≠ .officialGa) :
    selection.transport = .webRtcCall ∧ selection.credential = .managed ∧
      WellFormedMultipart facts.contentType := by
  unfold classifyRestCallCreate at h
  obtain ⟨dialect, -, h⟩ := Except.bind_eq_ok.mp h
  obtain ⟨rawSdp, hraw, h⟩ := Except.bind_eq_ok.mp h
  split_ifs at h with hsdp
  cases h
  have hfalse : rawSdp = false := by
    cases rawSdp with
    | false => rfl
    | true => exact absurd ⟨hprivate, rfl⟩ hsdp
  rw [hfalse] at hraw
  exact ⟨rfl, if_pos hprivate, wellFormedMultipart_of_rawSdp hraw⟩

theorem officialRestSession_safe {operation : RestOperation} (h : operation ≠ .createCall) :
    (officialRestSession operation facts).Safe := by
  cases operation with
  | createCall => exact absurd rfl h
  | createTranslationCall =>
    unfold officialRestSession
    cases mediaType facts.contentType with
    | none => exact Outcome.safe_error _
    | some value =>
      dsimp only
      split_ifs
      · exact Outcome.safe_ok _
      · exact Outcome.safe_error _
  | _ => exact Outcome.safe_ok _

theorem restSelection_safe (operation : RestOperation) (facts : RouteFacts) :
    (restSelection operation facts).Safe := by
  by_cases hcreate : operation = .createCall
  · subst hcreate
    exact Outcome.safe_ofExcept _
  · rw [restSelection_official hcreate, classifyOfficialRest]
    split_ifs
    · exact Outcome.safe_error _
    · exact (officialRestSession_safe hcreate).bind fun _ _ => Outcome.safe_ok _

theorem classifyRest_safe (decoder : PercentDecoder) (facts : RouteFacts) :
    (classifyRest decoder facts).Safe := by
  apply (Outcome.safe_ofExcept _).bind
  intro operation _
  by_cases hmethod : facts.method = .post
  · rw [if_neg (not_not.mpr hmethod)]
    exact (restSelection_safe operation facts).bind fun _ _ => Outcome.safe_ok _
  · rw [if_pos hmethod]
    exact Outcome.safe_error _

theorem classifyRest_official {classified : ClassifiedRest}
    (h : classifyRest decoder facts = .ok classified) (hcreate : classified.operation ≠ .createCall) :
    classified.selection.dialect = .officialGa := by
  obtain ⟨-, hselection⟩ := classifyRest_eq_ok h
  rw [restSelection_official hcreate] at hselection
  exact (classifyOfficialRest_credential hselection).1

theorem classifyRest_private {classified : ClassifiedRest}
    (h : classifyRest decoder facts = .ok classified)
    (hprivate : classified.selection.dialect ≠ .officialGa) :
    classified.operation = .createCall ∧ classified.selection.transport = .webRtcCall ∧
      classified.selection.credential = .managed ∧ WellFormedMultipart facts.contentType := by
  have hcreate : classified.operation = .createCall := by
    by_contra hother
    exact hprivate (classifyRest_official h hother)
  obtain ⟨-, hselection⟩ := classifyRest_eq_ok h
  rw [hcreate] at hselection
  exact ⟨hcreate, classifyRestCallCreate_private (Outcome.ofExcept_eq_ok.mp hselection) hprivate⟩

/-- Only the translations route has a translation target, and its dialect is official. -/
theorem classifyWebsocketTarget_translation {model : Text} {transport : Transport}
    {sessionKind : SessionKind} {dialect : ApiDialect}
    (h : classifyWebsocketTarget facts = .ok (.translation model, transport, sessionKind, dialect)) :
    dialect = .officialGa := by
  rcases classifyWebsocketTarget_cases h with ⟨_, -, hdialect, -⟩ | ⟨_, htarget, -⟩ | ⟨_, htarget, -⟩
  · exact hdialect
  · cases htarget
  · cases htarget

theorem classifyWebsocket_private {classified : ClassifiedWebSocket}
    (h : classifyWebsocket facts = .ok classified)
    (hprivate : classified.selection.dialect ≠ .officialGa) :
    classified.IsPrivate ∧ classified.selection.credential = .managed := by
  refine ⟨⟨hprivate, fun model hmodel => ?_⟩, by rw [classifyWebsocket_credential h, if_neg hprivate]⟩
  unfold classifyWebsocket at h
  split_ifs at h
  obtain ⟨⟨target, transport, sessionKind, dialect⟩, htarget, h⟩ := Except.bind_eq_ok.mp h
  cases h
  obtain rfl : target = .translation model := hmodel
  exact hprivate (classifyWebsocketTarget_translation htarget)

end Classification

section Sites
variable {debugAssertions : Bool} {libraries : CallLibraries} {config : Config} {method : Method}
  {headers : HeaderMap}

theorem fromRest_safe {classified : ClassifiedRest}
    (h : classified.selection.dialect ≠ .officialGa → classified.operation = .createCall) :
    (Capability.fromRest classified : Outcome RelayError Capability).Safe := by
  unfold Capability.fromRest
  split_ifs with hprivate
  · rw [h hprivate]
    exact Outcome.safe_ok _
  · exact Outcome.safe_ok _

theorem fromWebsocket_safe {classified : ClassifiedWebSocket}
    (h : classified.selection.dialect ≠ .officialGa → classified.IsPrivate) :
    (Capability.fromWebsocket classified : Outcome RelayError Capability).Safe := by
  obtain ⟨target, dialect, transport, sessionKind, credential⟩ := classified
  cases target with
  | translation model =>
    cases dialect with
    | officialGa => exact Outcome.safe_ok _
    | quicksilverV1 => exact absurd rfl ((h (by simp)).2 model)
    | frameless => exact absurd rfl ((h (by simp)).2 model)
  | standalone model => cases dialect <;> exact Outcome.safe_ok _
  | existingCall callId => cases dialect <;> exact Outcome.safe_ok _

theorem privateCallCreateUrl_safe (base : Text) (backendShape : Bool) {dialect : ApiDialect}
    (hprivate : dialect ≠ .officialGa) :
    (privateCallCreateUrl debugAssertions base backendShape dialect).Safe := by
  cases backendShape with
  | true =>
    refine (Outcome.safe_debugAssert fun _ => ?_).bind fun _ _ => Outcome.safe_ok _
    exact decide_eq_true hprivate
  | false =>
    obtain ⟨url, hurl, -⟩ := privateCallCreateUrl_eq debugAssertions base hprivate
    rw [hurl]
    exact Outcome.safe_ok url

theorem chatgptOfficialSessionError_eq (capability : OfficialRestCapability) :
    chatgptOfficialSessionError debugAssertions capability =
      .ok (.unsupportedRealtimeCapability (.officialRest capability) .chatGpt API_KEY_PROFILES) := by
  rw [chatgptOfficialSessionError, assertedSupport_eq]
  rfl

theorem checkSession_safe (dialect : ApiDialect) (parsed : Option ParsedPrivateCall) :
    (checkSession debugAssertions dialect parsed).Safe := by
  unfold checkSession
  split_ifs
  · exact Outcome.safe_error _
  · split
    · exact Outcome.safe_ok _
    · rename_i evidence _
      refine Outcome.Safe.bind ?_ fun _ _ => Outcome.safe_error _
      cases evidence with
      | invalidShape => exact Outcome.safe_ok _
      | officialRealtime =>
        rw [sessionError, chatgptOfficialSessionError_eq]
        exact Outcome.safe_ok _
      | officialTranscription =>
        rw [sessionError, chatgptOfficialSessionError_eq]
        exact Outcome.safe_ok _

theorem checkProfileSession_safe (profile : UpstreamProfile) (dialect : ApiDialect)
    (parsed : Option ParsedPrivateCall) :
    (checkProfileSession debugAssertions profile dialect parsed).Safe := by
  unfold checkProfileSession
  split_ifs
  · exact checkSession_safe dialect parsed
  · exact Outcome.safe_ok _

/-- A backend-shaped call has been parsed. -/
theorem outboundBody_safe {profile : UpstreamProfile} {body : List UInt8} {contentType : Text}
    {parsed : Option ParsedPrivateCall}
    (hparsed : parseCall libraries profile body contentType = .ok parsed) :
    (outboundBody libraries profile.usesBackendShape parsed body contentType).Safe := by
  cases hshape : profile.usesBackendShape with
  | false => exact Outcome.safe_ok _
  | true =>
    unfold parseCall at hparsed
    rw [hshape, Bool.or_true, if_pos rfl] at hparsed
    obtain ⟨call, -, hparsed⟩ := Except.bind_eq_ok.mp hparsed
    cases hparsed
    exact Outcome.safe_ok _

theorem handleCallCreate_safe {selection : ProtocolSelection} {arrival : Arrival}
    (hprivate : selection.dialect ≠ .officialGa) (hmethod : method = .post) :
    (handleCallCreate debugAssertions libraries config method selection headers arrival).Safe := by
  have hdialect : selection.dialect = .quicksilverV1 ∨ selection.dialect = .frameless := by
    cases hspoken : selection.dialect with
    | officialGa => exact absurd hspoken hprivate
    | quicksilverV1 => exact .inl rfl
    | frameless => exact .inr rfl
  apply (Outcome.safe_debugAssert fun _ => decide_eq_true hdialect).bind
  intro _ _
  apply (Outcome.safe_debugAssert fun _ => decide_eq_true hmethod).bind
  intro _ _
  apply (Outcome.safe_ofExcept _).bind
  intro _ _
  apply (Outcome.safe_ofExcept _).bind
  intro body _
  apply (Outcome.safe_ofExcept _).bind
  intro parsed hparsed
  apply (checkProfileSession_safe _ _ _).bind
  intro _ _
  apply (outboundBody_safe (Outcome.ofExcept_eq_ok.mp hparsed)).bind
  intro outbound _
  apply (privateCallCreateUrl_safe _ _ hprivate).bind
  intro target _
  exact Outcome.safe_ofExcept _

theorem mergeUpstreamHeaders_safe {profile : UpstreamProfile} {adapter : Option WireAdapter}
    (halpha : debugAssertions = true → alphaAgrees (clientProtocolHeaders headers) adapter = true) :
    (mergeUpstreamHeaders debugAssertions headers profile adapter).Safe := by
  apply (Outcome.safe_debugAssert halpha).bind
  intro _ _
  exact (Outcome.safe_ofExcept _).bind fun _ _ => Outcome.safe_ofExcept _

theorem buildPrivateCallHeaders_safe {profile : UpstreamProfile} {selection : ProtocolSelection}
    {validated : ValidatedPrivateCallHeaders}
    (hvalidated : validatePrivateCallHeaders headers selection = .ok validated)
    (halpha : debugAssertions = true →
      alphaAgrees (clientProtocolHeaders headers) (some validated.adapter) = true) :
    (buildPrivateCallHeaders debugAssertions headers profile validated).Safe := by
  apply (mergeUpstreamHeaders_safe halpha).bind
  intro _ _
  obtain ⟨-, -, hcontent, -⟩ := validatePrivateCallHeaders_eq_ok hvalidated
  obtain ⟨value, hvalue⟩ := List.length_eq_one_iff.mp hcontent
  rw [OrderedMultimap.get_eq_head?, hvalue]
  exact Outcome.safe_ok _

theorem privateWebsocketUrl_safe (base : Text) (backendShape : Bool)
    {classified : ClassifiedWebSocket} (hprivate : classified.IsPrivate) :
    (privateWebsocketUrl base backendShape classified).Safe := by
  obtain ⟨request, hrequest⟩ := privateRequest_eq_ok hprivate
  rw [privateWebsocketUrl_of_request hrequest]
  exact Outcome.safe_ok _

theorem privateDialectLabel_safe {dialect : ApiDialect} (hprivate : dialect ≠ .officialGa) :
    (privateDialectLabel dialect).Safe := by
  cases dialect with
  | officialGa => exact absurd rfl hprivate
  | quicksilverV1 => exact Outcome.safe_ok _
  | frameless => exact Outcome.safe_ok _

end Sites

section Runs
variable {headerAssertions debugAssertions : Bool} {decoder : PercentDecoder}
  {libraries : CallLibraries} {config : Config} {method : Method} {uri : Uri} {headers : HeaderMap}

theorem privateCallRequest_safe {classified : ClassifiedRest} {capability : Capability}
    {arrival : Arrival} (hprivate : classified.selection.dialect ≠ .officialGa)
    (hcreate : classified.operation = .createCall) (hmethod : method = .post)
    (halpha : ∀ adapter, callAdapter classified.selection.dialect = some adapter →
      headerAssertions = true →
        alphaAgrees (clientProtocolHeaders headers) (some adapter) = true) :
    (privateCallRequest headerAssertions debugAssertions libraries config method headers classified
      capability arrival).Safe := by
  apply (Outcome.safe_ofExcept _).bind
  intro validated hvalidated
  rw [Outcome.ofExcept_eq_ok] at hvalidated
  have hadapter := (validatePrivateCallHeaders_eq_ok hvalidated).1
  apply (Outcome.safe_ofExcept _).bind
  intro _ _
  apply (buildPrivateCallHeaders_safe hvalidated (halpha _ hadapter)).bind
  intro out _
  apply (Outcome.safe_debugAssert fun _ => decide_eq_true hcreate).bind
  intro _ _
  exact handleCallCreate_safe hprivate hmethod

/-- The REST handler can only fail the assertion on the forwarded negotiation header. -/
theorem restHandle_safe {arrival : Arrival}
    (halpha : ∀ classified adapter,
      classifyRest decoder (restFacts config method uri.path headers) = .ok classified →
        callAdapter classified.selection.dialect = some adapter → headerAssertions = true →
          alphaAgrees (clientProtocolHeaders headers) (some adapter) = true) :
    (restHandle headerAssertions debugAssertions decoder libraries config method uri headers
      arrival).Safe := by
  apply ((classifyRest_safe _ _).mapError _).bind
  intro classified hclassified
  rw [Outcome.mapError_eq_ok] at hclassified
  have hcreate := fun hprivate => (classifyRest_private hclassified hprivate).1
  apply (fromRest_safe hcreate).bind
  intro capability _
  rw [assertedSupport_eq, Outcome.ok_bind]
  by_cases hofficial : classified.selection.dialect = .officialGa
  · rw [if_pos hofficial]
    exact Outcome.safe_ofExcept _
  · rw [if_neg hofficial]
    refine privateCallRequest_safe hofficial (hcreate hofficial) (classifyRest_eq_ok hclassified).1 ?_
    exact fun adapter => halpha classified adapter hclassified

theorem websocketContact_safe (decoder : PercentDecoder) (config : Config) (method : Method)
    (path : Text) (query : Option Text) (headers : HeaderMap) :
    (websocketContact decoder config method path query headers).Safe := by
  unfold websocketContact
  split_ifs
  · exact Outcome.safe_error _
  · refine (Outcome.safe_ofExcept _).bind fun decoded _ => ?_
    apply (Outcome.safe_ofExcept _).bind
    intro classified hclassified
    rw [Outcome.ofExcept_eq_ok, Except.mapError_eq_ok] at hclassified
    refine (fromWebsocket_safe fun hprivate =>
      (classifyWebsocket_private hclassified hprivate).1).bind fun capability _ => ?_
    exact (Outcome.safe_ofExcept _).bind fun _ _ => Outcome.safe_ok _

theorem websocketHandle_safe (decoder : PercentDecoder) (config : Config) (method : Method)
    (uri : Uri) (headers : HeaderMap) (arrival : UpgradeArrival) :
    (websocketHandle decoder config method uri headers arrival).Safe := by
  apply (websocketContact_safe _ _ _ _ _ _).bind
  intro contact hcontact
  obtain ⟨decoded, _, _, hclassified, -⟩ := websocketContact_eq_ok hcontact
  apply (Outcome.safe_ofExcept _).bind
  intro _ _
  refine Outcome.Safe.bind ?_ fun _ _ => Outcome.safe_ok _
  unfold websocketUrl
  split_ifs with hofficial
  · exact Outcome.safe_ofExcept _
  · have hprivate := (classifyWebsocket_private hclassified hofficial).1
    apply (privateWebsocketUrl_safe _ _ hprivate).bind
    intro _ _
    exact (privateDialectLabel_safe hofficial).bind fun _ _ => Outcome.safe_ok _

theorem privateAdapter_eq_ok {target : SidebandTarget} {adapter : WireAdapter}
    (h : privateAdapter headers target = .ok adapter) : adapter = target.adapter := by
  unfold privateAdapter at h
  split at h
  · split at h
    · cases h
    · split_ifs at h with hadapter
      cases h
      exact not_not.mp hadapter
  · cases h

theorem sidebandDialect_adapter (target : SidebandTarget) :
    ∃ dialect, sidebandDialect target.adapter = .ok dialect ∧ dialect ≠ .officialGa := by
  cases target with
  | framelessPath callId => exact ⟨.frameless, rfl, by simp⟩
  | realtimeCallsPath callId => exact ⟨.quicksilverV1, rfl, by simp⟩
  | realtimeQuery callId => exact ⟨.quicksilverV1, rfl, by simp⟩

theorem sidebandContact_safe {path : Text} {query : Text → Option Text}
    (halpha : ∀ target adapter, parseSidebandTarget decoder path query = some target →
      privateAdapter headers target = .ok adapter → debugAssertions = true →
        alphaAgrees (clientProtocolHeaders headers) (some adapter) = true) :
    (sidebandContact debugAssertions decoder config method path query headers).Safe := by
  unfold sidebandContact
  cases htarget : parseSidebandTarget decoder path query with
  | none => exact Outcome.safe_error _
  | some target =>
    dsimp only
    split_ifs
    · exact Outcome.safe_error _
    · refine (Outcome.safe_ofExcept _).bind fun adapter hadapter => ?_
      rw [Outcome.ofExcept_eq_ok] at hadapter
      have hjoined := privateAdapter_eq_ok hadapter
      apply (Outcome.safe_ofExcept _).bind
      intro _ _
      apply (Outcome.safe_ofExcept _).bind
      intro _ _
      obtain ⟨dialect, hdialect, -⟩ := sidebandDialect_adapter target
      rw [hjoined, hdialect, Outcome.ok_bind]
      apply (Outcome.safe_ofExcept _).bind
      intro _ _
      rw [← hjoined]
      apply (mergeUpstreamHeaders_safe (halpha target adapter htarget hadapter)).bind
      intro _ _
      refine (Outcome.safe_debugAssert fun _ => decide_eq_true ?_).bind fun _ _ => Outcome.safe_ok _
      rw [hjoined]
      cases target <;> rfl

end Runs

section Contact
variable {debugAssertions : Bool} {decoder : PercentDecoder} {libraries : CallLibraries}
  {config : Config} {method : Method} {uri : Uri} {headers : HeaderMap} {arrival : Arrival}
  {request : UpstreamRequest}

theorem outboundBody_contentType {profile : UpstreamProfile} {parsed : Option ParsedPrivateCall}
    {body : List UInt8} {outbound : List UInt8 × Text}
    (h : outboundBody libraries profile.usesBackendShape parsed body (inboundContentType headers) =
      .ok outbound) : outbound.2 = privateCallContentType profile headers := by
  unfold outboundBody at h
  unfold privateCallContentType
  cases hshape : profile.usesBackendShape with
  | false =>
    rw [hshape] at h
    cases h
    rfl
  | true =>
    cases parsed with
    | none => simp [hshape] at h
    | some call =>
      rw [hshape] at h
      cases h
      rfl

theorem setCallContentType_eq (profile : UpstreamProfile) (headers : HeaderMap) :
    setCallContentType profile headers =
      insertContentType headers (privateCallContentType profile headers) := rfl

theorem handleCallCreate_headers {selection : ProtocolSelection}
    (h : handleCallCreate debugAssertions libraries config method selection headers arrival =
      .ok request) : request.headers = setCallContentType config.upstream headers := by
  obtain ⟨body, parsed, outbound, -, -, -, houtbound, hheaders, -⟩ := handleCallCreate_eq_ok h
  rw [hheaders, setCallContentType_eq, outboundBody_contentType houtbound]

/-- The request that goes out has the map that `restContact` computes. -/
theorem restHandle_contact
    (h : restHandle debugAssertions debugAssertions decoder libraries config method uri headers
      arrival = .ok request) :
    ∃ classified, restContact debugAssertions decoder config method uri.path headers =
      .ok (classified, request.headers) := by
  unfold restHandle at h
  obtain ⟨classified, hclassified, h⟩ := Outcome.bind_eq_ok.mp h
  obtain ⟨capability, hcapability, h⟩ := Outcome.bind_eq_ok.mp h
  obtain ⟨_, -, h⟩ := Outcome.bind_eq_ok.mp h
  refine ⟨classified, ?_⟩
  have hout : restHeaders debugAssertions config headers classified capability =
      .ok request.headers := by
    unfold restHeaders
    by_cases hofficial : classified.selection.dialect = .officialGa
    · rw [if_pos hofficial, Outcome.ofExcept_eq_ok] at h
      rw [if_pos hofficial, Outcome.ofExcept_eq_ok]
      obtain ⟨out, hout, h⟩ := Except.bind_eq_ok.mp h
      obtain ⟨_, -, h⟩ := Except.bind_eq_ok.mp h
      obtain ⟨body, -, h⟩ := Except.bind_eq_ok.mp h
      obtain ⟨target, -, h⟩ := Except.bind_eq_ok.mp h
      rw [buildRequest_eq_ok h]
      exact hout
    · rw [if_neg hofficial] at h ⊢
      obtain ⟨validated, hvalidated, h⟩ := Outcome.bind_eq_ok.mp h
      obtain ⟨_, hsupport, h⟩ := Outcome.bind_eq_ok.mp h
      obtain ⟨out, hbuilt, h⟩ := Outcome.bind_eq_ok.mp h
      obtain ⟨_, hcreate, h⟩ := Outcome.bind_eq_ok.mp h
      rw [privateRestHeaders, hvalidated, Outcome.ok_bind, hsupport, Outcome.ok_bind, hbuilt,
        Outcome.ok_bind, hcreate, Outcome.ok_bind, handleCallCreate_headers h]
      rfl
  rw [restContact, hclassified, Outcome.ok_bind, hcapability, Outcome.ok_bind, hout]
  rfl

end Contact

/-- A private dialect is a managed multipart call-create or a managed socket that is no
translation, so no site that consumes a classification panics in any handler. -/
theorem classified_dialects_reach_no_panic (decoder : PercentDecoder) :
    (∀ facts classified, classifyRest decoder facts = .ok classified →
      (classified.selection.dialect ≠ .officialGa →
        classified.operation = .createCall ∧ classified.selection.transport = .webRtcCall ∧
          classified.selection.credential = .managed ∧ WellFormedMultipart facts.contentType) ∧
      (classified.operation ≠ .createCall → classified.selection.dialect = .officialGa)) ∧
    (∀ facts classified, classifyWebsocket facts = .ok classified →
      classified.selection.dialect ≠ .officialGa →
        (∀ model, classified.target ≠ .translation model) ∧
          classified.selection.credential = .managed) ∧
    (∀ facts, (classifyRest decoder facts).Safe) ∧
    (∀ debugAssertions profile capability,
      (assertedSupport debugAssertions profile capability : Outcome RelayError Support).Safe) ∧
    (∀ headerAssertions debugAssertions libraries config method uri headers arrival,
      restHandle headerAssertions debugAssertions decoder libraries config method uri headers
          arrival = .panicked →
        headerAssertions = true ∧ ∃ classified adapter,
          classifyRest decoder (restFacts config method uri.path headers) = .ok classified ∧
            callAdapter classified.selection.dialect = some adapter ∧
              alphaAgrees (clientProtocolHeaders headers) (some adapter) = false) ∧
    (∀ config method uri headers arrival,
      (websocketHandle decoder config method uri headers arrival).Safe) ∧
    ∀ debugAssertions config method path query headers,
      sidebandContact debugAssertions decoder config method path query headers = .panicked →
        debugAssertions = true ∧ ∃ target adapter,
          parseSidebandTarget decoder path query = some target ∧
            privateAdapter headers target = .ok adapter ∧
              alphaAgrees (clientProtocolHeaders headers) (some adapter) = false := by
  refine ⟨fun facts classified h => ⟨classifyRest_private h, classifyRest_official h⟩,
    fun facts classified h hprivate => ?_, classifyRest_safe decoder, ?_, ?_,
    websocketHandle_safe decoder, ?_⟩
  · obtain ⟨hjoins, hmanaged⟩ := classifyWebsocket_private h hprivate
    exact ⟨hjoins.2, hmanaged⟩
  · intro debugAssertions profile capability
    rw [assertedSupport_eq]
    exact Outcome.safe_ok _
  · intro headerAssertions debugAssertions libraries config method uri headers arrival hpanics
    by_contra hnone
    refine absurd hpanics (restHandle_safe fun classified adapter hclassified hadapter hassert => ?_)
    by_contra halpha
    exact hnone ⟨hassert, classified, adapter, hclassified, hadapter, Bool.not_eq_true _ ▸ halpha⟩
  · intro debugAssertions config method path query headers hpanics
    by_contra hnone
    refine absurd hpanics (sidebandContact_safe fun target adapter htarget hadapter hassert => ?_)
    by_contra halpha
    exact hnone ⟨hassert, target, adapter, htarget, hadapter, Bool.not_eq_true _ ▸ halpha⟩

end GptLiveProxy
