import GptLiveProxy.Subprotocol

/-!
# Header policy of the Realtime routes

The upstream maps are built from an allowlist, never cloned from the request. Validation is
separate from construction and consults no credential. Each builder has one theorem that gives
the values of every name in the map it returns.
-/

namespace GptLiveProxy
open CharText

def REQUEST_HEADER_ALLOWLIST : List HeaderName :=
  ["content-type", "accept", "openai-organization", "openai-project", "openai-safety-identifier",
    "openai-beta", "idempotency-key", "openai-alpha", "x-oai-attestation"]

def SINGLETON_REQUEST_HEADERS : List HeaderName :=
  ["content-type", "openai-organization", "openai-project", "openai-safety-identifier",
    "idempotency-key", "openai-alpha", "authorization", "x-oai-attestation"]

def SENSITIVE_REQUEST_HEADERS : List HeaderName :=
  ["openai-organization", "openai-project", "openai-safety-identifier", "idempotency-key",
    "x-oai-attestation"]

def WEBSOCKET_SINGLETON_HEADERS : List HeaderName :=
  ["origin", "openai-organization", "openai-project", "openai-safety-identifier", "openai-alpha",
    "x-oai-attestation"]

def WEBSOCKET_METADATA_HEADERS : List HeaderName :=
  ["origin", "openai-organization", "openai-project", "openai-safety-identifier", "openai-alpha",
    "x-oai-attestation", "openai-beta"]

structure WebSocketHeaders where
  headers : HeaderMap
  protocols : ParsedProtocols

/-- Credential-free result of the WebSocket header validation. -/
structure ValidatedWebSocketHeaders where
  protocols : ParsedProtocols

/-- Readable and blank. -/
def isEmpty (value : HeaderValue) : Bool := value.toStr.any fun t => trim t == []

def nonEmptyValues (client : HeaderMap) (name : HeaderName) : List HeaderValue :=
  (client.getAll name).filter fun value => !isEmpty value

def singleNonEmpty (client : HeaderMap) (name : HeaderName) : Option HeaderValue :=
  (client.get name).filter fun value => !isEmpty value

def appendNonEmptyValues (client out : HeaderMap) (name : HeaderName) (sensitive : Bool) : HeaderMap :=
  (nonEmptyValues client name).foldl (fun out value => out.append name (value.setSensitive sensitive)) out

def copySingleNonEmpty (client out : HeaderMap) (name : HeaderName) (sensitive : Bool) : HeaderMap :=
  match singleNonEmpty client name with
  | none => out
  | some value => out.insert name (value.setSensitive sensitive)

/-- The negotiation value of a private dialect. -/
def expectedAlpha : ApiDialect → Option Text
  | .quicksilverV1 => some "quicksilver=v1".toList
  | .frameless => some "quicksilver=v2".toList
  | .officialGa => none

def copyPrivateAlpha (client out : HeaderMap) (dialect : ApiDialect) : Except RelayError HeaderMap :=
  match expectedAlpha dialect with
  | none => .ok out
  | some expected =>
    match singleNonEmpty client "openai-alpha" with
    | none => .error .invalidRealtimeHeader
    | some value =>
      if value.toStr.map trim ≠ some expected then .error .invalidRealtimeHeader
      else .ok (out.insert "openai-alpha" value)

section Authorization

def isBearerChar (c : Char) : Bool :=
  isAsciiAlphanumeric c || c == '-' || c == '.' || c == '_' || c == '~' || c == '+' || c == '/'

/-- The scan of the token bytes, with the two flags it carries. -/
def validToken68 (padding hasBase : Bool) : Text → Bool
  | [] => hasBase
  | c :: t =>
    if c == '=' then hasBase && validToken68 true hasBase t
    else if padding then false
    else isBearerChar c && validToken68 padding true t

def validBearer (value : HeaderValue) : Bool :=
  match value.toStr.map splitAsciiWhitespace with
  | some [scheme, token] =>
    eqIgnoreAsciiCase scheme "bearer".toList && !token.isEmpty && validToken68 false false token
  | _ => false

def managedAuthorization (managedAuth : Option BearerToken) : Except RelayError HeaderValue :=
  match managedAuth with
  | none => .error .noCredential
  | some token =>
    match token.authorizationHeader with
    | none => .error .noCredential
    | some value => .ok value

def authorization (client : HeaderMap) (profile : UpstreamProfile) (policy : CredentialPolicy) :
    Except RelayError HeaderValue :=
  match policy with
  | .managed => managedAuthorization profile.managedAuth
  | .clientBearer | .ephemeral =>
    match (client.get "authorization").filter validBearer with
    | none => .error .noCredential
    | some value => .ok (value.setSensitive true)

end Authorization

section Validation

/-- Every listed name occurs at most once; the attestation only matters to a private dialect. -/
def singletonsOccurOnce (headers : HeaderMap) (dialect : ApiDialect) (names : List HeaderName) : Bool :=
  names.all fun name =>
    (name == "x-oai-attestation" && dialect == .officialGa) || (headers.getAll name).length ≤ 1

def rejectWebsocketSingletons (inbound : HeaderMap) (dialect : ApiDialect) : Except RelayError Unit :=
  if !singletonsOccurOnce inbound dialect WEBSOCKET_SINGLETON_HEADERS then
    .error .invalidRealtimeHeader
  else if (inbound.getAll "authorization").length > 1 then .error .ambiguousAuthorization
  else .ok ()

def validateWebsocketMetadata (inbound : HeaderMap) : Except RelayError Unit :=
  if WEBSOCKET_METADATA_HEADERS.any fun name => (inbound.getAll name).any (·.toStr.isNone) then
    .error .invalidRealtimeHeader
  else .ok ()

/-- The first repeated name decides the error. -/
def rejectDuplicateSingletons (client : HeaderMap) (dialect : ApiDialect) : Except RelayError Unit :=
  match SINGLETON_REQUEST_HEADERS.find? fun name => !singletonsOccurOnce client dialect [name] with
  | none => .ok ()
  | some name =>
    if name = "authorization" then .error .ambiguousAuthorization else .error .invalidRealtimeHeader

def validateUpstreamHeaders (client : HeaderMap) (selection : ProtocolSelection) :
    Except RelayError Unit :=
  rejectDuplicateSingletons client selection.dialect

def validateUpstreamWebsocketHeaders (inbound : HeaderMap) (selection : ProtocolSelection)
    (admission : Option BearerToken) : Except RelayError ValidatedWebSocketHeaders := do
  let protocols ← parseProtocols inbound admission
  rejectWebsocketSingletons inbound selection.dialect
  validateWebsocketMetadata inbound
  if selection.dialect ≠ .officialGa ∧ protocols.offered ≠ [] then
    .error .invalidRealtimeSubprotocol
  else if (protocols.hasOrganization && inbound.containsKey "openai-organization") ||
      (protocols.hasProject && inbound.containsKey "openai-project") then
    .error .invalidRealtimeSubprotocol
  else if protocols.browserCredential.isSome = true ∧ (inbound.getAll "authorization").length ≠ 0 then
    .error .invalidRealtimeSubprotocol
  else .ok ⟨protocols⟩

end Validation

section Build

/-- The account id of the profile, which must be a legal header value. -/
def insertAccountId (profile : UpstreamProfile) (invalid : RelayError) (out : HeaderMap) :
    Except RelayError HeaderMap :=
  match profile.accountIdRaw with
  | none => .ok out
  | some accountId =>
    match HeaderValue.fromStr accountId with
    | none => .error invalid
    | some value => .ok (out.insert "chatgpt-account-id" (value.setSensitive true))

/-- One round of the loop over the allowlist. -/
def copyRequestHeader (client : HeaderMap) (dialect : ApiDialect) (out : HeaderMap)
    (name : HeaderName) : Except RelayError HeaderMap :=
  if name = "openai-alpha" then copyPrivateAlpha client out dialect
  else if name = "x-oai-attestation" then
    if dialect ≠ .officialGa then .ok (copySingleNonEmpty client out name true) else .ok out
  else if name = "accept" ∨ name = "openai-beta" then
    .ok (appendNonEmptyValues client out name false)
  else .ok (copySingleNonEmpty client out name (SENSITIVE_REQUEST_HEADERS.contains name))

/-- The account id travels on the private dialects only. -/
def insertPrivateAccount (profile : UpstreamProfile) (dialect : ApiDialect) (out : HeaderMap) :
    Except RelayError HeaderMap :=
  if dialect ≠ .officialGa then insertAccountId profile .invalidRealtimeHeader out else .ok out

def buildUpstreamHeaders (client : HeaderMap) (profile : UpstreamProfile)
    (selection : ProtocolSelection) : Except RelayError HeaderMap := do
  let out ← REQUEST_HEADER_ALLOWLIST.foldlM (copyRequestHeader client selection.dialect) .empty
  let out ← insertPrivateAccount profile selection.dialect out
  let value ← authorization client profile selection.credential
  return out.insert "authorization" value

/-- The client headers a WebSocket handshake forwards on every dialect. -/
def copyWebsocketMetadata (inbound : HeaderMap) : HeaderMap :=
  let out := copySingleNonEmpty inbound .empty "origin" false
  let out := copySingleNonEmpty inbound out "openai-organization" true
  let out := copySingleNonEmpty inbound out "openai-project" true
  let out := copySingleNonEmpty inbound out "openai-safety-identifier" true
  appendNonEmptyValues inbound out "openai-beta" false

/-- The attestation and the account id travel on the private dialects only. -/
def insertPrivateMetadata (inbound : HeaderMap) (profile : UpstreamProfile) (dialect : ApiDialect)
    (out : HeaderMap) : Except RelayError HeaderMap :=
  if dialect ≠ .officialGa then
    insertAccountId profile .invalidRealtimeHeader
      (copySingleNonEmpty inbound out "x-oai-attestation" true)
  else .ok out

/-- `Authorization` is sent unless the browser brought its credential as a subprotocol. -/
def insertAuthorization (inbound : HeaderMap) (profile : UpstreamProfile)
    (selection : ProtocolSelection) (protocols : ParsedProtocols) (out : HeaderMap) :
    Except RelayError HeaderMap :=
  if protocols.browserCredential.isNone then do
    let value ← authorization inbound profile selection.credential
    return out.insert "authorization" value
  else .ok out

def insertProtocols (protocols : ParsedProtocols) (out : HeaderMap) : HeaderMap :=
  match protocols.upstreamHeader with
  | none => out
  | some value => out.insert SEC_WEBSOCKET_PROTOCOL value

def buildUpstreamWebsocketHeaders (inbound : HeaderMap) (profile : UpstreamProfile)
    (selection : ProtocolSelection) (validated : ValidatedWebSocketHeaders) :
    Except RelayError WebSocketHeaders := do
  let protocols := validated.protocols
  let out ← copyPrivateAlpha inbound (copyWebsocketMetadata inbound) selection.dialect
  let out ← insertPrivateMetadata inbound profile selection.dialect out
  let out ← insertAuthorization inbound profile selection protocols out
  return ⟨insertProtocols protocols out, protocols⟩

end Build

end GptLiveProxy
