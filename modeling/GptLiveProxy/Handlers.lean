import GptLiveProxy.LiveHeaders

/-!
# The handlers up to upstream contact

Each handler classifies its request, applies the capability policy, validates the headers, and
builds the map it contacts the upstream with. Extracting the upgrade, taking a permit, reading the
body, and resolving the URL come after the map is built or do not look at it: they can only end
the request, so they are left out here.
-/

namespace GptLiveProxy
open CharText

inductive QueryDecodeError
  | malformedPercentEscape
  | invalidUtf8
deriving DecidableEq

def plusAsSpace (b : UInt8) : UInt8 := if b = 0x2b then 0x20 else b

def decodeComponent (decoder : PercentDecoder) (raw : Text) : Except QueryDecodeError Text :=
  if !wellFormedEscapes (utf8 raw) then .error .malformedPercentEscape
  else
    match decodeUtf8 (decoder.decode ((utf8 raw).map plusAsSpace)) with
    | none => .error .invalidUtf8
    | some decoded => .ok decoded

def decodePair (decoder : PercentDecoder) (pair : Text) : Except QueryDecodeError (Text × Text) := do
  let parts := (splitOnce '=' pair).getD (pair, [])
  let key ← decodeComponent decoder parts.1
  let value ← decodeComponent decoder parts.2
  return (key, value)

def decodeOrdered (decoder : PercentDecoder) (raw : Option Text) :
    Except QueryDecodeError (List (Text × Text)) :=
  match raw with
  | none => .ok []
  | some raw => (raw.splitOn '&').mapM (decodePair decoder)

def isWebsocketUpgrade (headers : HeaderMap) : Bool :=
  ((headers.get "upgrade").bind HeaderValue.toStr).any (eqIgnoreAsciiCase · "websocket".toList)

section Rest

def restFacts (config : Config) (method : Method) (path : Text) (headers : HeaderMap) : RouteFacts where
  method := method
  path := path
  query := []
  contentType := (headers.get "content-type").bind HeaderValue.toStr
  openaiAlpha := (headers.get "openai-alpha").bind HeaderValue.toStr
  credentialMode := config.upstream.credentialMode

def DEFAULT_CONTENT_TYPE : Text := "application/octet-stream".toList

/-- The content type of a private call, which the proxy sets last. -/
def privateCallContentType (profile : UpstreamProfile) (headers : HeaderMap) : Text :=
  if profile.usesBackendShape then "application/json".toList
  else ((headers.get "content-type").bind HeaderValue.toStr).getD DEFAULT_CONTENT_TYPE

def setCallContentType (profile : UpstreamProfile) (headers : HeaderMap) : HeaderMap :=
  match HeaderValue.fromStr (privateCallContentType profile headers) with
  | none => headers
  | some value => headers.insert "content-type" value

def officialRestHeaders (config : Config) (headers : HeaderMap) (classified : ClassifiedRest)
    (capability : Capability) : Except RelayError HeaderMap := do
  requireSupport config.upstream capability
  validateUpstreamHeaders headers classified.selection
  buildUpstreamHeaders headers config.upstream classified.selection

def privateRestHeaders (debugAssertions : Bool) (config : Config) (headers : HeaderMap)
    (classified : ClassifiedRest) (capability : Capability) : Outcome RelayError HeaderMap := do
  let validated ← Outcome.ofExcept (validatePrivateCallHeaders headers classified.selection)
  Outcome.ofExcept (requireSupport config.upstream capability)
  let out ← buildPrivateCallHeaders debugAssertions headers config.upstream validated
  Outcome.debugAssert debugAssertions (classified.operation = .createCall)
  return setCallContentType config.upstream out

def restHeaders (debugAssertions : Bool) (config : Config) (headers : HeaderMap)
    (classified : ClassifiedRest) (capability : Capability) : Outcome RelayError HeaderMap :=
  if classified.selection.dialect = .officialGa then
    Outcome.ofExcept (officialRestHeaders config headers classified capability)
  else privateRestHeaders debugAssertions config headers classified capability

/-- `realtime::http::handle`: the classification and the map sent upstream. -/
def restContact (debugAssertions : Bool) (decoder : PercentDecoder) (config : Config)
    (method : Method) (path : Text) (headers : HeaderMap) :
    Outcome RelayError (ClassifiedRest × HeaderMap) := do
  let classified ← (classifyRest decoder (restFacts config method path headers)).mapError
    (RelayError.fromRestContract · method path)
  let capability ← Capability.fromRest classified
  let out ← restHeaders debugAssertions config headers classified capability
  return (classified, out)

end Rest

section WebSocket

def inboundAlpha (headers : HeaderMap) : Option Text :=
  ((headers.get "openai-alpha").bind HeaderValue.toStr).map trim

/-- `/v1/realtime/` serves the private dialects only. -/
def isSlashPrivate (path : Text) (alpha : Option Text) : Bool :=
  path == "/v1/realtime/".toList &&
    (alpha == some "quicksilver=v1".toList || alpha == some "quicksilver=v2".toList)

def isWebsocketRoute (path : Text) : Bool :=
  path == "/v1/realtime".toList || path == "/v1/realtime/translations".toList

def websocketFacts (config : Config) (method : Method) (path : Text) (headers : HeaderMap)
    (query : List (Text × Text)) : RouteFacts where
  method := method
  path := if isSlashPrivate path (inboundAlpha headers) then "/v1/realtime".toList else path
  query := query
  contentType := none
  openaiAlpha := inboundAlpha headers
  credentialMode := config.upstream.credentialMode

/-- An official capability is rejected before the headers are looked at, a private one after. -/
def websocketHeaders (config : Config) (headers : HeaderMap) (classified : ClassifiedWebSocket)
    (capability : Capability) : Except RelayError WebSocketHeaders :=
  if classified.selection.dialect = .officialGa then do
    requireSupport config.upstream capability
    let validated ←
      validateUpstreamWebsocketHeaders headers classified.selection config.admissionToken
    buildUpstreamWebsocketHeaders headers config.upstream classified.selection validated
  else do
    let validated ←
      validateUpstreamWebsocketHeaders headers classified.selection config.admissionToken
    requireSupport config.upstream capability
    buildUpstreamWebsocketHeaders headers config.upstream classified.selection validated

/-- `realtime::websocket::handle`: the classification and the maps of the handshake. -/
def websocketContact (decoder : PercentDecoder) (config : Config) (method : Method) (path : Text)
    (query : Option Text) (headers : HeaderMap) :
    Outcome RelayError (ClassifiedWebSocket × WebSocketHeaders) :=
  if method ≠ .get ∨
      (isWebsocketRoute path = false ∧ isSlashPrivate path (inboundAlpha headers) = false) ∨
      isWebsocketUpgrade headers = false then
    .error (.unknownEndpoint method path)
  else do
    let decoded ← Outcome.ofExcept
      ((decodeOrdered decoder query).mapError fun _ => RelayError.invalidRealtimeQuery)
    let classified ← Outcome.ofExcept
      ((classifyWebsocket (websocketFacts config method path headers decoded)).mapError
        (RelayError.fromWebsocketContract · method path))
    let capability ← Capability.fromWebsocket classified
    let built ← Outcome.ofExcept (websocketHeaders config headers classified capability)
    return (classified, built)

end WebSocket

section Sideband

inductive SidebandTarget
  | framelessPath (callId : Text)
  | realtimeCallsPath (callId : Text)
  | realtimeQuery (callId : Text)
deriving DecidableEq

namespace SidebandTarget

def callId : SidebandTarget → Text
  | framelessPath callId => callId
  | realtimeCallsPath callId => callId
  | realtimeQuery callId => callId

def adapter : SidebandTarget → WireAdapter
  | framelessPath _ => .framelessBidi
  | realtimeCallsPath _ => .v1
  | realtimeQuery _ => .v1

def joinStyle : SidebandTarget → SidebandJoinStyle
  | framelessPath _ => .path
  | realtimeCallsPath _ => .query
  | realtimeQuery _ => .query

end SidebandTarget

def decodeSegment (decoder : PercentDecoder) (segment : Text) : Option Text :=
  decodeUtf8 (decoder.decode (utf8 segment))

/-- A call id in the last path segment. -/
def sidebandCallId (decoder : PercentDecoder) (rest : Text) : Option Text :=
  if '/' ∈ rest then none
  else (decodeSegment decoder rest).filter fun callId => (validateCallId callId).toBool

/-- The query values arrive decoded. -/
def parseSidebandTarget (decoder : PercentDecoder) (path : Text) (query : Text → Option Text) :
    Option SidebandTarget :=
  let trimmed := (path.dropSuffix? ['/']).getD path
  match trimmed.dropPrefix? "/v1/live/".toList with
  | some rest => (sidebandCallId decoder rest).map .framelessPath
  | none =>
    match trimmed.dropPrefix? "/v1/realtime/calls/".toList with
    | some rest => (sidebandCallId decoder rest).map .realtimeCallsPath
    | none =>
      if trimmed = "/v1/realtime".toList then
        ((query "call_id".toList).filter fun callId => (validateCallId callId).toBool).map
          .realtimeQuery
      else none

/-- The path and the negotiation header must form one unambiguous pair. -/
def privateAdapter (headers : HeaderMap) (target : SidebandTarget) : Except RelayError WireAdapter :=
  match headers.getAll "openai-alpha" with
  | [value] =>
    match value.toStr.bind WireAdapter.fromOpenaiAlpha with
    | none => .error .invalidRealtimeHeader
    | some adapter => if adapter ≠ target.adapter then .error .invalidRealtimeHeader else .ok adapter
  | _ => .error .invalidRealtimeHeader

def sidebandDialect : WireAdapter → Outcome RelayError ApiDialect
  | .v1 => .ok .quicksilverV1
  | .framelessBidi => .ok .frameless
  | .realtimeV2 => .panicked

/-- Credential subprotocols belong to the public surface. -/
def rejectSubprotocols (headers : HeaderMap) (admission : Option BearerToken) :
    Except RelayError Unit := do
  let protocols ← parseProtocols headers admission
  if protocols.offered = [] then .ok () else .error .invalidRealtimeSubprotocol

/-- `live::sideband::handle_sideband`: the target and the map sent upstream. -/
def sidebandContact (debugAssertions : Bool) (decoder : PercentDecoder) (config : Config)
    (method : Method) (path : Text) (query : Text → Option Text) (headers : HeaderMap) :
    Outcome RelayError (SidebandTarget × HeaderMap) :=
  match parseSidebandTarget decoder path query with
  | none => .error (.unknownEndpoint method path)
  | some target =>
    if !isWebsocketUpgrade headers then .error (.unknownEndpoint method path)
    else do
      let adapter ← Outcome.ofExcept (privateAdapter headers target)
      Outcome.ofExcept (validatePrivateSidebandHeaders headers adapter)
      Outcome.ofExcept (rejectSubprotocols headers config.admissionToken)
      let dialect ← sidebandDialect adapter
      Outcome.ofExcept (requireSupport config.upstream (.privateSidebandAlias dialect))
      let out ← mergeUpstreamHeaders debugAssertions headers config.upstream (some adapter)
      Outcome.debugAssert debugAssertions (adapter.sidebandJoin = target.joinStyle)
      return (target, out)

end Sideband

section Accepted
variable {debugAssertions : Bool} {decoder : PercentDecoder} {config : Config} {method : Method}
  {path : Text} {headers : HeaderMap}

theorem restContact_eq_ok {classified : ClassifiedRest} {out : HeaderMap}
    (h : restContact debugAssertions decoder config method path headers = .ok (classified, out)) :
    ∃ capability, classifyRest decoder (restFacts config method path headers) = .ok classified ∧
      (Capability.fromRest classified : Outcome RelayError Capability) = .ok capability ∧
        restHeaders debugAssertions config headers classified capability = .ok out := by
  unfold restContact at h
  obtain ⟨classified', hclassified, h⟩ := Outcome.bind_eq_ok.mp h
  obtain ⟨capability, hcapability, h⟩ := Outcome.bind_eq_ok.mp h
  obtain ⟨out', hout, h⟩ := Outcome.bind_eq_ok.mp h
  cases h
  exact ⟨capability, Outcome.mapError_eq_ok.mp hclassified, hcapability, hout⟩

theorem websocketContact_eq_ok {query : Option Text} {classified : ClassifiedWebSocket}
    {built : WebSocketHeaders}
    (h : websocketContact decoder config method path query headers = .ok (classified, built)) :
    ∃ decoded capability validated,
      classifyWebsocket (websocketFacts config method path headers decoded) = .ok classified ∧
        (Capability.fromWebsocket classified : Outcome RelayError Capability) = .ok capability ∧
          requireSupport config.upstream capability = .ok () ∧
            validateUpstreamWebsocketHeaders headers classified.selection config.admissionToken =
              .ok validated ∧
              buildUpstreamWebsocketHeaders headers config.upstream classified.selection validated =
                .ok built := by
  unfold websocketContact at h
  split_ifs at h
  obtain ⟨decoded, -, h⟩ := Outcome.bind_eq_ok.mp h
  obtain ⟨classified', hclassified, h⟩ := Outcome.bind_eq_ok.mp h
  obtain ⟨capability, hcapability, h⟩ := Outcome.bind_eq_ok.mp h
  obtain ⟨built', hbuilt, h⟩ := Outcome.bind_eq_ok.mp h
  cases h
  rw [Outcome.ofExcept_eq_ok, Except.mapError_eq_ok] at hclassified
  rw [Outcome.ofExcept_eq_ok] at hbuilt
  unfold websocketHeaders at hbuilt
  split_ifs at hbuilt
  · obtain ⟨_, hsupport, hbuilt⟩ := Except.bind_eq_ok.mp hbuilt
    obtain ⟨validated, hvalidated, hbuilt⟩ := Except.bind_eq_ok.mp hbuilt
    exact ⟨decoded, capability, validated, hclassified, hcapability, hsupport, hvalidated, hbuilt⟩
  · obtain ⟨validated, hvalidated, hbuilt⟩ := Except.bind_eq_ok.mp hbuilt
    obtain ⟨_, hsupport, hbuilt⟩ := Except.bind_eq_ok.mp hbuilt
    exact ⟨decoded, capability, validated, hclassified, hcapability, hsupport, hvalidated, hbuilt⟩

theorem sidebandContact_eq_ok {query : Text → Option Text} {target : SidebandTarget}
    {merged : HeaderMap}
    (h : sidebandContact debugAssertions decoder config method path query headers =
      .ok (target, merged)) :
    ∃ adapter, privateAdapter headers target = .ok adapter ∧
      validatePrivateSidebandHeaders headers adapter = .ok () ∧
        mergeUpstreamHeaders debugAssertions headers config.upstream (some adapter) = .ok merged := by
  unfold sidebandContact at h
  cases htarget : parseSidebandTarget decoder path query with
  | none => simp [htarget] at h
  | some parsed =>
    simp only [htarget] at h
    split_ifs at h
    obtain ⟨adapter, hadapter, h⟩ := Outcome.bind_eq_ok.mp h
    obtain ⟨_, hvalidated, h⟩ := Outcome.bind_eq_ok.mp h
    obtain ⟨_, -, h⟩ := Outcome.bind_eq_ok.mp h
    obtain ⟨_, -, h⟩ := Outcome.bind_eq_ok.mp h
    obtain ⟨_, -, h⟩ := Outcome.bind_eq_ok.mp h
    obtain ⟨out, hout, h⟩ := Outcome.bind_eq_ok.mp h
    obtain ⟨_, -, h⟩ := Outcome.bind_eq_ok.mp h
    cases h
    rw [Outcome.ofExcept_eq_ok] at hadapter hvalidated
    exact ⟨adapter, hadapter, hvalidated, hout⟩

end Accepted

end GptLiveProxy
