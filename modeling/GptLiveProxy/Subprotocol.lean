import GptLiveProxy.RelayError

/-!
# The browser WebSocket subprotocol list

A browser offers `realtime` and at most one credential, organization, and project token in
`Sec-WebSocket-Protocol`. The parser accepts the tokens of every field in wire order, refuses the
admission secret as a credential, and canonicalizes the list into one sensitive header value.
-/

namespace GptLiveProxy
open CharText

def SEC_WEBSOCKET_PROTOCOL : HeaderName := "sec-websocket-protocol"

def REALTIME : Text := "realtime".toList

def CREDENTIAL_PREFIX : Text := "openai-insecure-api-key.".toList

def ORGANIZATION_PREFIX : Text := "openai-organization.".toList

def PROJECT_PREFIX : Text := "openai-project.".toList

def MAX_PROTOCOL_TOKEN_BYTES : Nat := 4096

def MAX_PROTOCOL_AGGREGATE_BYTES : Nat := 8192

structure ParsedProtocols where
  offered : List Text
  upstreamHeader : Option HeaderValue
  browserCredential : Option HeaderValue
  hasOrganization : Bool
  hasProject : Bool
deriving DecidableEq

/-- The accumulators of the scan over the fields and their tokens. -/
structure ProtocolScan where
  offered : List Text
  aggregate : Nat
  hasRealtime : Bool
  credential : Option HeaderValue
  hasOrganization : Bool
  hasProject : Bool

def ProtocolScan.start : ProtocolScan := ⟨[], 0, false, none, false, false⟩

def isOws (c : Char) : Bool := c == ' ' || c == '\t'

def isRfcTokenByte (c : Char) : Bool := isTokenChar c

/-- The comma-separated pieces of one field. -/
def protocolTokens (raw : Text) : List Text := (raw.splitOn ',').map (trimMatches isOws)

namespace ProtocolScan

def acceptCredential (scan : ProtocolScan) (admission : Option BearerToken) (suffix : Text) :
    Except RelayError ProtocolScan :=
  if suffix = [] ∨ scan.credential.isSome then .error .invalidRealtimeSubprotocol
  else if admission.any (·.ctEq suffix) then .error .admissionSecretNotForwardable
  else
    match HeaderValue.fromStr suffix with
    | none => .error .invalidRealtimeSubprotocol
    | some value => .ok { scan with credential := some (value.setSensitive true) }

/-- The class of a token and the flag it sets. -/
def acceptClass (scan : ProtocolScan) (admission : Option BearerToken) (token : Text) :
    Except RelayError ProtocolScan :=
  if token = REALTIME then
    if scan.hasRealtime then .error .invalidRealtimeSubprotocol
    else .ok { scan with hasRealtime := true }
  else
    match token.dropPrefix? CREDENTIAL_PREFIX with
    | some suffix => scan.acceptCredential admission suffix
    | none =>
      match token.dropPrefix? ORGANIZATION_PREFIX with
      | some suffix =>
        if suffix = [] ∨ scan.hasOrganization = true then .error .invalidRealtimeSubprotocol
        else .ok { scan with hasOrganization := true }
      | none =>
        match token.dropPrefix? PROJECT_PREFIX with
        | some suffix =>
          if suffix = [] ∨ scan.hasProject = true then .error .invalidRealtimeSubprotocol
          else .ok { scan with hasProject := true }
        | none => .error .invalidRealtimeSubprotocol

def acceptToken (admission : Option BearerToken) (scan : ProtocolScan) (token : Text) :
    Except RelayError ProtocolScan :=
  if token = [] ∨ byteLen token > MAX_PROTOCOL_TOKEN_BYTES ∨ token.all isRfcTokenByte = false ∨
      token ∈ scan.offered then
    .error .invalidRealtimeSubprotocol
  else do
    let scan ← scan.acceptClass admission token
    return { scan with offered := scan.offered ++ [token] }

def acceptField (admission : Option BearerToken) (scan : ProtocolScan) (field : HeaderValue) :
    Except RelayError ProtocolScan :=
  match field.toStr with
  | none => .error .invalidRealtimeSubprotocol
  | some raw =>
    -- an overflow of the checked sum is above the cap as well
    let aggregate := scan.aggregate + byteLen raw
    if aggregate > MAX_PROTOCOL_AGGREGATE_BYTES then .error .invalidRealtimeSubprotocol
    else (protocolTokens raw).foldlM (acceptToken admission) { scan with aggregate }

end ProtocolScan

/-- The length of the canonical list: two bytes before every token but the first. -/
def canonicalLen (offered : List Text) : Nat :=
  offered.zipIdx.foldl (fun length entry => length + (if entry.2 ≠ 0 then 2 else 0) + byteLen entry.1) 0

def canonicalList (offered : List Text) : Text := (", ".toList).intercalate offered

def canonicalHeader (offered : List Text) : Except RelayError (Option HeaderValue) :=
  if offered = [] then .ok none
  else
    match HeaderValue.fromStr (canonicalList offered) with
    | none => .error .invalidRealtimeSubprotocol
    | some value => .ok (some (value.setSensitive true))

/-- `subprotocol::parse`. -/
def parseProtocols (headers : HeaderMap) (admission : Option BearerToken) :
    Except RelayError ParsedProtocols := do
  let scan ← (headers.getAll SEC_WEBSOCKET_PROTOCOL).foldlM (ProtocolScan.acceptField admission) .start
  if (scan.credential.isSome = true ∨ scan.hasOrganization = true ∨ scan.hasProject = true) ∧
      scan.hasRealtime = false then
    .error .invalidRealtimeSubprotocol
  else if canonicalLen scan.offered > MAX_PROTOCOL_AGGREGATE_BYTES then
    .error .invalidRealtimeSubprotocol
  else do
    let upstreamHeader ← canonicalHeader scan.offered
    return ⟨scan.offered, upstreamHeader, scan.credential, scan.hasOrganization, scan.hasProject⟩

/-- `subprotocol::validate_selected`, on the upstream's response headers. -/
def validateSelected (upstream : HeaderMap) (offered : ParsedProtocols) :
    Except RelayError (Option Text) :=
  match upstream.getAll SEC_WEBSOCKET_PROTOCOL with
  | [] => .ok none
  | [value] =>
    match value.toStr.map (trimMatches isOws) with
    | none => .error .upstreamWebSocketProtocol
    | some token =>
      if token ≠ REALTIME ∨ token.all isRfcTokenByte = false ∨ token ∉ offered.offered then
        .error .upstreamWebSocketProtocol
      else .ok (some REALTIME)
  | _ => .error .upstreamWebSocketProtocol

/-- The credential a token carries, if it is a credential token. -/
def credentialSuffix (token : Text) : Option Text := token.dropPrefix? CREDENTIAL_PREFIX

/-- The credentials among the subprotocol tokens of a header map, decodable fields only. -/
def credentialTokens (headers : HeaderMap) : List Text :=
  (((headers.getAll SEC_WEBSOCKET_PROTOCOL).filterMap HeaderValue.toStr).flatMap protocolTokens).filterMap
    credentialSuffix

end GptLiveProxy
