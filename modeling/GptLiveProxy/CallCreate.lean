import GptLiveProxy.CallBody
import GptLiveProxy.UpstreamUrls

/-!
# The private call-create handler

A ChatGPT profile reads the session of every private call before anything is sent: a call with a
repeated contract field or with a session that contradicts the negotiated dialect ends here. The
backend shape then rewrites the call to JSON without the session's `id`; a direct target is sent
the original bytes. Either way the session that goes out has the evidence that was checked.
-/

namespace GptLiveProxy
open CharText Json

structure UpstreamRequest where
  method : Method
  target : Text
  headers : HeaderMap
  body : List UInt8
deriving DecidableEq

/-- The libraries of the handler; a request that cannot be built has an error message. -/
structure CallLibraries where
  multer : Multer
  json : SerdeJson
  buildError : UpstreamRequest → Option String

/-- What a request meets: whether a permit is free, and its body unless the deadline passes. -/
structure Arrival where
  permitFree : Bool
  body : Option (List (Except RelayError (List UInt8)))

section Handler

def acquirePermit (arrival : Arrival) : Except RelayError Unit :=
  if arrival.permitFree then .ok () else .error .tooManyActiveRealtimeRequests

def readRequestBody (limits : Limits) (arrival : Arrival) : Except RelayError (List UInt8) :=
  match arrival.body with
  | none => .error .realtimeRequestBodyTimeout
  | some chunks => readCapped limits.requestBytes [] chunks

def inboundContentType (headers : HeaderMap) : Text :=
  ((headers.get "content-type").bind HeaderValue.toStr).getD DEFAULT_CONTENT_TYPE

def isChatgptProfile : UpstreamProfile → Bool
  | .chatGptBackend _ _ _ => true
  | .apiKeyManaged _ _ => false
  | .apiKeyClient _ => false

/-- The call is parsed once, for its evidence or for the rewrite. -/
def parseCall (libraries : CallLibraries) (profile : UpstreamProfile) (body : List UInt8)
    (contentType : Text) : Except RelayError (Option ParsedPrivateCall) :=
  if isChatgptProfile profile || profile.usesBackendShape then do
    let call ← parsePrivateMultipart libraries.multer libraries.json body contentType
    return some call
  else .ok none

def chatgptOfficialSessionError (debugAssertions : Bool) (capability : OfficialRestCapability) :
    Outcome RelayError RelayError := do
  let decision ← assertedSupport debugAssertions .chatGpt (.officialRest capability)
  match decision.requiredProfiles with
  | none => .panicked
  | some requiredProfiles =>
    return .unsupportedRealtimeCapability (.officialRest capability) .chatGpt requiredProfiles

def sessionError (debugAssertions : Bool) : SessionEvidenceError → Outcome RelayError RelayError
  | .invalidShape => .ok .invalidRealtimeSessionShape
  | .officialRealtime => chatgptOfficialSessionError debugAssertions .createCall
  | .officialTranscription =>
    chatgptOfficialSessionError debugAssertions .createTranscriptionSession

def checkSession (debugAssertions : Bool) (dialect : ApiDialect)
    (parsed : Option ParsedPrivateCall) : Outcome RelayError Unit :=
  if parsed.any ParsedPrivateCall.hasDuplicateContractFields then
    .error .invalidRealtimeSessionShape
  else
    match validateSession dialect (classifySession (parsed.bind ParsedPrivateCall.session)) with
    | .ok () => .ok ()
    | .error evidence => do
      let error ← sessionError debugAssertions evidence
      .error error

/-- Only a ChatGPT profile reads the session. -/
def checkProfileSession (debugAssertions : Bool) (profile : UpstreamProfile) (dialect : ApiDialect)
    (parsed : Option ParsedPrivateCall) : Outcome RelayError Unit :=
  if isChatgptProfile profile then checkSession debugAssertions dialect parsed else .ok ()

/-- The body that goes out and its content type. -/
def outboundBody (libraries : CallLibraries) (backendShape : Bool)
    (parsed : Option ParsedPrivateCall) (body : List UInt8) (contentType : Text) :
    Outcome RelayError (List UInt8 × Text) :=
  if backendShape then
    match parsed with
    | none => .panicked
    | some call => .ok (backendJsonFromParsed libraries.json call)
  else .ok (body, contentType)

/-- The proxy sets the content type last. -/
def insertContentType (headers : HeaderMap) (contentType : Text) : HeaderMap :=
  match HeaderValue.fromStr contentType with
  | none => headers
  | some value => headers.insert "content-type" value

def buildRequest (libraries : CallLibraries) (request : UpstreamRequest) :
    Except RelayError UpstreamRequest :=
  match libraries.buildError request with
  | none => .ok request
  | some message => .error (.upstreamFailed message)

/-- `live::handle_call_create` up to the upstream request. -/
def handleCallCreate (debugAssertions : Bool) (libraries : CallLibraries) (config : Config)
    (method : Method) (selection : ProtocolSelection) (headers : HeaderMap) (arrival : Arrival) :
    Outcome RelayError UpstreamRequest := do
  Outcome.debugAssert debugAssertions
    (selection.dialect = .quicksilverV1 ∨ selection.dialect = .frameless)
  Outcome.debugAssert debugAssertions (method = .post)
  Outcome.ofExcept (acquirePermit arrival)
  let body ← Outcome.ofExcept (readRequestBody config.limits arrival)
  let parsed ← Outcome.ofExcept
    (parseCall libraries config.upstream body (inboundContentType headers))
  checkProfileSession debugAssertions config.upstream selection.dialect parsed
  let outbound ← outboundBody libraries config.upstream.usesBackendShape parsed body
    (inboundContentType headers)
  let target ← privateCallCreateUrl debugAssertions config.upstream.baseUrl
    config.upstream.usesBackendShape selection.dialect
  Outcome.ofExcept (buildRequest libraries
    ⟨method, target, insertContentType headers outbound.2, outbound.1⟩)

end Handler

/-- The session in the body that goes out: rewritten for the backend shape, else as it came. -/
def forwardedSession (backendShape : Bool) (call : ParsedPrivateCall) : Option Value :=
  if backendShape then call.session.map sanitized else call.session

/-- A session and the one sent in its place. -/
def SentAs (backendShape : Bool) (session sent : Value) : Prop :=
  if backendShape then LosesId session sent else sent = session

/-- How the body that goes out holds a call: as JSON, or as the bytes it was parsed from. -/
def Forwards (libraries : CallLibraries) (backendShape : Bool) (call : ParsedPrivateCall)
    (received sent : List UInt8) : Prop :=
  if backendShape then
    ∃ value : Value, sent = libraries.json.toVec value ∧
      value.child (.key "sdp".toList) = some (.string call.sdp) ∧
        value.child (.key "session".toList) = forwardedSession backendShape call
  else sent = received

section Accepted
variable {debugAssertions : Bool} {libraries : CallLibraries} {config : Config} {method : Method}
  {selection : ProtocolSelection} {headers : HeaderMap} {arrival : Arrival}

theorem checkSession_eq_ok {dialect : ApiDialect} {parsed : Option ParsedPrivateCall}
    (h : checkSession debugAssertions dialect parsed = .ok ()) :
    parsed.any ParsedPrivateCall.hasDuplicateContractFields = false ∧
      (classifySession (parsed.bind ParsedPrivateCall.session)).Compatible dialect := by
  unfold checkSession at h
  split_ifs at h with hduplicates
  refine ⟨by simpa using hduplicates, validateSession_eq_ok.mp ?_⟩
  cases hvalid : validateSession dialect (classifySession (parsed.bind ParsedPrivateCall.session)) with
  | ok u => rfl
  | error evidence =>
    rw [hvalid] at h
    obtain ⟨_, -, h⟩ := Outcome.bind_eq_ok.mp h
    cases h

theorem classifySession_forwarded (backendShape : Bool) (call : ParsedPrivateCall) :
    classifySession (forwardedSession backendShape call) = classifySession call.session := by
  cases backendShape with
  | true => exact classifySession_sanitized call.session
  | false => rfl

theorem forwardedSession_sentAs (backendShape : Bool) (call : ParsedPrivateCall) :
    Option.Rel (SentAs backendShape) call.session (forwardedSession backendShape call) := by
  cases hsession : call.session with
  | none => cases backendShape <;> simp [forwardedSession, hsession]
  | some session =>
    cases backendShape with
    | true => simpa [forwardedSession, hsession, SentAs] using sanitized_losesId session
    | false => simp [forwardedSession, hsession, SentAs]

theorem outboundBody_forwards {backendShape : Bool} {call : ParsedPrivateCall}
    {body : List UInt8} {contentType : Text} {outbound : List UInt8 × Text}
    (h : outboundBody libraries backendShape (some call) body contentType = .ok outbound) :
    Forwards libraries backendShape call body outbound.1 := by
  cases backendShape with
  | true =>
    cases h
    obtain ⟨hsdp, hsession⟩ := backendJsonCallBody_child call.sdp call.session
    exact ⟨_, rfl, hsdp, hsession⟩
  | false =>
    cases h
    exact rfl

theorem buildRequest_eq_ok {request built : UpstreamRequest}
    (h : buildRequest libraries request = .ok built) : built = request := by
  unfold buildRequest at h
  split at h
  · cases h
    rfl
  · cases h

/-- What the handler has done when it contacts the upstream. -/
theorem handleCallCreate_eq_ok {request : UpstreamRequest}
    (h : handleCallCreate debugAssertions libraries config method selection headers arrival =
      .ok request) :
    ∃ body parsed outbound, readRequestBody config.limits arrival = .ok body ∧
      parseCall libraries config.upstream body (inboundContentType headers) = .ok parsed ∧
        checkProfileSession debugAssertions config.upstream selection.dialect parsed = .ok () ∧
          outboundBody libraries config.upstream.usesBackendShape parsed body
            (inboundContentType headers) = .ok outbound ∧
            request.headers = insertContentType headers outbound.2 ∧
              request.body = outbound.1 := by
  unfold handleCallCreate at h
  obtain ⟨_, -, h⟩ := Outcome.bind_eq_ok.mp h
  obtain ⟨_, -, h⟩ := Outcome.bind_eq_ok.mp h
  obtain ⟨_, -, h⟩ := Outcome.bind_eq_ok.mp h
  obtain ⟨body, hbody, h⟩ := Outcome.bind_eq_ok.mp h
  obtain ⟨parsed, hparsed, h⟩ := Outcome.bind_eq_ok.mp h
  obtain ⟨_, hcheck, h⟩ := Outcome.bind_eq_ok.mp h
  obtain ⟨outbound, houtbound, h⟩ := Outcome.bind_eq_ok.mp h
  obtain ⟨target, -, h⟩ := Outcome.bind_eq_ok.mp h
  rw [Outcome.ofExcept_eq_ok] at hbody hparsed h
  rw [buildRequest_eq_ok h]
  exact ⟨body, parsed, outbound, hbody, hparsed, hcheck, houtbound, rfl, rfl⟩

theorem parseCall_chatgpt {body : List UInt8} {contentType : Text}
    {parsed : Option ParsedPrivateCall} (hchat : isChatgptProfile config.upstream = true)
    (h : parseCall libraries config.upstream body contentType = .ok parsed) :
    ∃ call, parsed = some call ∧
      parsePrivateMultipart libraries.multer libraries.json body contentType = .ok call := by
  unfold parseCall at h
  rw [hchat, Bool.true_or, if_pos rfl] at h
  obtain ⟨call, hcall, h⟩ := Except.bind_eq_ok.mp h
  cases h
  exact ⟨call, rfl, hcall⟩

end Accepted

/-- The call a ChatGPT profile let through: one offer, at most one session, and a session that
goes out with the evidence of no other dialect. -/
structure CheckedCall (libraries : CallLibraries) (profile : UpstreamProfile) (dialect : ApiDialect)
    (contentType : Text) (received sent : List UInt8) (call : ParsedPrivateCall) : Prop where
  parsed : parsePrivateMultipart libraries.multer libraries.json received contentType = .ok call
  counts : call.sdpFields = 1 ∧ call.sessionFields ≤ 1
  /-- The counts are those of the fields of the body. -/
  fields : ∃ boundary, ∃ all : List MultipartField,
    libraries.multer.parseBoundary contentType = some boundary ∧
      libraries.multer.fields boundary received = all.map .ok ∧
        (named "sdp".toList all).length = 1 ∧ (named "session".toList all).length ≤ 1
  forwards : Forwards libraries profile.usesBackendShape call received sent
  /-- The backend shape sends the session without its top-level `id`, a direct call all of it. -/
  sentAs : Option.Rel (SentAs profile.usesBackendShape) call.session
    (forwardedSession profile.usesBackendShape call)
  compatible : (classifySession (forwardedSession profile.usesBackendShape call)).Compatible dialect
  excluded : ∀ evidence, evidence = classifySession (forwardedSession profile.usesBackendShape call) →
    evidence ≠ .officialRealtime ∧ evidence ≠ .officialTranscription ∧ evidence ≠ .contradictory ∧
      ∀ other, other ≠ dialect → SessionEvidence.ofDialect other ≠ some evidence

theorem chatgpt_call_forwards_checked_session (debugAssertions : Bool) (libraries : CallLibraries)
    (config : Config) (method : Method) (selection : ProtocolSelection) (headers : HeaderMap)
    (arrival : Arrival) (request : UpstreamRequest)
    (hchat : isChatgptProfile config.upstream = true)
    (h : handleCallCreate debugAssertions libraries config method selection headers arrival =
      .ok request) :
    (∃ body call, readRequestBody config.limits arrival = .ok body ∧
      CheckedCall libraries config.upstream selection.dialect (inboundContentType headers) body
        request.body call) ∧
    (∀ session, classifySession (session.map sanitized) = classifySession session) ∧
    (∀ session step path, step ≠ .key "id".toList →
      (sanitized session).lookup (step :: path) = session.lookup (step :: path)) ∧
    (∀ session, (sanitized session).child (.key "id".toList) = none) ∧
    ∀ session, (sanitized session).child (.key "type".toList) =
      session.child (.key "type".toList) := by
  refine ⟨?_, classifySession_sanitized, fun session _ path hstep =>
    sanitized_lookup session hstep path, sanitized_id, fun session =>
      sanitized_child session (by decide)⟩
  obtain ⟨body, parsed, outbound, hbody, hparsed, hcheck, houtbound, -, hsent⟩ :=
    handleCallCreate_eq_ok h
  obtain ⟨call, rfl, hcall⟩ := parseCall_chatgpt hchat hparsed
  rw [checkProfileSession, if_pos hchat] at hcheck
  obtain ⟨hduplicates, hcompatible⟩ := checkSession_eq_ok hcheck
  obtain ⟨boundary, all, hboundary, hall, hsdp, hsession, hfirst, -⟩ :=
    parsePrivateMultipart_eq_ok hcall
  have hcounts := single_of_no_duplicates hsdp hfirst hduplicates
  have hsessions : (named "session".toList all).length ≤ 1 := by omega
  -- the verdict on the parsed session is the verdict on the forwarded one
  have hforwarded : (classifySession
      (forwardedSession config.upstream.usesBackendShape call)).Compatible selection.dialect := by
    rw [classifySession_forwarded]
    exact hcompatible
  refine ⟨body, call, hbody, hcall, hcounts, ?_, ?_, forwardedSession_sentAs _ call, hforwarded, ?_⟩
  · exact ⟨boundary, all, hboundary, hall, by omega, hsessions⟩
  · rw [hsent]
    exact outboundBody_forwards houtbound
  · rintro _ rfl
    exact hforwarded.excluded

def chatgptBackend : Config := .everyInterface
  (.chatGptBackend "https://chatgpt.com/backend-api".toList ⟨"managed".toList⟩ none) "secret".toList

def sessionText : Text := "\x7b\"id\":\"s_1\",\"type\":\"quicksilver\"\x7d".toList

def callBytes : List UInt8 := utf8 ("--b\r\n".toList ++
  "Content-Disposition: form-data; name=\"sdp\"\r\n\r\nv=0\r\n--b\r\n".toList ++
  "Content-Disposition: form-data; name=\"session\"\r\n\r\n".toList ++ sessionText ++
  "\r\n--b--\r\n".toList)

/-- Libraries that know this one call. -/
def callLibraries : CallLibraries where
  multer :=
    { parseBoundary := fun contentType =>
        if contentType = "multipart/form-data; boundary=b".toList then some ['b'] else none
      fields := fun boundary body =>
        if boundary = ['b'] ∧ body = callBytes then
          [.ok ⟨some "sdp".toList, none, some (utf8 "v=0".toList)⟩,
            .ok ⟨some "session".toList, none, some (utf8 sessionText)⟩]
        else [.error ()] }
  json :=
    { fromStr := fun raw => if raw = sessionText then some sessionWithId else none
      toVec := fun _ =>
        utf8 "\x7b\"sdp\":\"v=0\",\"session\":\x7b\"type\":\"quicksilver\"\x7d\x7d".toList }
  buildError := fun _ => none

def callHeaders : HeaderMap :=
  headersOf [("content-type", "multipart/form-data; boundary=b".toList)]

def quicksilverSelection : ProtocolSelection := ⟨.quicksilverV1, .webRtcCall, .opaqueSession, .managed⟩

theorem callBytes_parsed :
    parsePrivateMultipart callLibraries.multer callLibraries.json callBytes
      (inboundContentType callHeaders) = .ok ⟨"v=0".toList, some sessionWithId, 1, 1⟩ := by
  have hboundary : callLibraries.multer.parseBoundary (inboundContentType callHeaders) =
      some ['b'] := by decide +kernel
  have hfields : callLibraries.multer.fields ['b'] callBytes =
      [.ok ⟨some "sdp".toList, none, some (utf8 "v=0".toList)⟩,
        .ok ⟨some "session".toList, none, some (utf8 sessionText)⟩] := by decide +kernel
  have hread := readFields_pair (decodeUtf8_utf8 "v=0".toList) (decodeUtf8_utf8 sessionText)
  have hsession : callLibraries.json.fromStr sessionText = some sessionWithId := by
    change (if sessionText = sessionText then some sessionWithId else none) = some sessionWithId
    exact if_pos rfl
  unfold parsePrivateMultipart
  simp only [hboundary, hfields, hread, Except.ok_bind, parseSession, hsession]
  rfl

theorem quicksilver_session_loses_its_id :
    sessionWithId.child (.key "id".toList) = some (.string "s_1".toList) ∧
    ∃ request body call sent,
      handleCallCreate true callLibraries chatgptBackend .post quicksilverSelection callHeaders
        ⟨true, some [.ok callBytes]⟩ = .ok request ∧
      CheckedCall callLibraries chatgptBackend.upstream .quicksilverV1 (inboundContentType callHeaders)
        body request.body call ∧
      call.session = some sessionWithId ∧
      forwardedSession chatgptBackend.upstream.usesBackendShape call = some sent ∧
      sent.child (.key "id".toList) = none ∧
      sent.child (.key "type".toList) = some (.string "quicksilver".toList) := by
  refine ⟨rfl, ?_⟩
  obtain ⟨request, hrequest, -⟩ := Outcome.exists_of_okAnd
    (show Outcome.okAnd (fun _ => true) (handleCallCreate true callLibraries chatgptBackend .post
      quicksilverSelection callHeaders ⟨true, some [.ok callBytes]⟩) = true by decide +kernel)
  obtain ⟨⟨body, call, hbody, hchecked⟩, -, -, hgone, htype⟩ :=
    chatgpt_call_forwards_checked_session true callLibraries chatgptBackend .post
      quicksilverSelection callHeaders ⟨true, some [.ok callBytes]⟩ request rfl hrequest
  have hreceived : readRequestBody chatgptBackend.limits ⟨true, some [.ok callBytes]⟩ =
      .ok callBytes := by decide +kernel
  obtain rfl := Except.ok.inj (hreceived.symm.trans hbody)
  obtain rfl := Except.ok.inj (callBytes_parsed.symm.trans hchecked.parsed)
  exact ⟨request, callBytes, _, sanitized sessionWithId, hrequest, hchecked, rfl, rfl,
    hgone sessionWithId, htype sessionWithId⟩

end GptLiveProxy
