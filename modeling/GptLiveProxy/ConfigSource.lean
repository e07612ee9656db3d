import GptLiveProxy.Config
import GptLiveProxy.IntegerText
import GptLiveProxy.Outcome
import GptLiveProxy.UrlParser

/-!
# Configuration from the environment

`fromSource` reads some twenty variables, each through its own validator, and matches the upstream
mode with the credential mode. The rest of the program computes with the result: it adds the frame
overhead to the frame cap, sizes two semaphores, and extends the base URL by concatenation.
-/

namespace GptLiveProxy
open CharText

def U64_MAX : Nat := 2 ^ 64 - 1

def MAX_PERMITS : Nat := USIZE_MAX / 8

def MAX_WEBSOCKET_FRAME_OVERHEAD : Nat := 14

def DEFAULT_BIND : Text := "127.0.0.1:10110".toList

def CHATGPT_BACKEND_BASE : Text := "https://chatgpt.com/backend-api/codex".toList

def OPENAI_API_BASE : Text := "https://api.openai.com/v1".toList

inductive ConfigError
  | missing (key : String)
  | invalid (key reason : String)
deriving DecidableEq

/-- The configuration with the frame log's path, which the relay model leaves out. -/
structure SourcedConfig extends Config where
  frameLog : Option Text

section Validators

def invalidBaseUrl (reason : String) : ConfigError := .invalid "GPT_LIVE_BASE_URL" reason

/-- What a parsed base must be, so that paths can be appended to it. -/
def checkBaseUrl (parsed : WebUrl.Url) : Except ConfigError Unit :=
  if parsed.scheme ≠ "http".toList ∧ parsed.scheme ≠ "https".toList then
    .error (invalidBaseUrl "must use the http or https scheme")
  else
    match parsed.host with
    | none => .error (invalidBaseUrl "must include a host")
    | some host =>
      if trim host = [] then .error (invalidBaseUrl "must include a host")
      else if parsed.query.isSome ∨ parsed.fragment.isSome then
        .error (invalidBaseUrl "must not carry a query or fragment")
      else if parsed.username ≠ [] ∨ parsed.password.isSome then
        .error (invalidBaseUrl "must not embed credentials")
      else .ok ()

/-- The URL is parsed to be checked, and the trimmed text itself is kept. -/
def validateBaseUrl (urls : WebUrl.Externals) (raw : Text) : Except ConfigError Text :=
  let trimmed := trim raw
  if trimmed = [] then .error (invalidBaseUrl "must not be empty")
  else do
    let parsed ← (WebUrl.parse urls trimmed).mapError invalidBaseUrl
    checkBaseUrl parsed
    return trimmed

/-- A positive integer of a type with the given largest value. -/
def parsePositive (max : Nat) (raw : Option Text) (key : String) (default : Nat) :
    Except ConfigError Nat :=
  match raw with
  | none => .ok default
  | some raw =>
    match parseInt max raw with
    | .error err => .error (.invalid key s!"expected a positive integer: {err.text}")
    | .ok value =>
      if value = 0 then .error (.invalid key "expected a positive integer") else .ok value

def positiveUsize (raw : Option Text) (key : String) (default : Nat) : Except ConfigError Nat :=
  parsePositive USIZE_MAX raw key default

def positiveUpTo (bound : Nat) (reason : String) (raw : Option Text) (key : String)
    (default : Nat) : Except ConfigError Nat := do
  let value ← positiveUsize raw key default
  if value > bound then .error (.invalid key reason) else .ok value

def positiveSemaphorePermits (raw : Option Text) (key : String) (default : Nat) :
    Except ConfigError Nat :=
  positiveUpTo MAX_PERMITS s!"must not exceed {MAX_PERMITS}" raw key default

def positiveWebsocketFrameBytes (raw : Option Text) (key : String) (default : Nat) :
    Except ConfigError Nat :=
  positiveUpTo (USIZE_MAX - MAX_WEBSOCKET_FRAME_OVERHEAD)
    s!"must leave {MAX_WEBSOCKET_FRAME_OVERHEAD} bytes for WebSocket framing" raw key default

def positiveMillis (raw : Option Text) (key : String) (default : Nat) : Except ConfigError Nat :=
  parsePositive U64_MAX raw key default

def nonnegativeMillis (raw : Option Text) (key : String) (default : Nat) : Except ConfigError Nat :=
  match raw with
  | none => .ok default
  | some raw =>
    match parseInt U64_MAX raw with
    | .error err => .error (.invalid key s!"expected a non-negative integer: {err.text}")
    | .ok value => .ok value

end Validators

section Bind

def parsePort (digits : Text) : Option UInt16 :=
  if digits = [] then none else ((digitsValue 0 digits).filter (· ≤ 65535)).map UInt16.ofNat

def isScopeId (digits : Text) : Bool := digits ≠ [] && (digitsValue 0 digits).any (· ≤ 2 ^ 32 - 1)

/-- An IPv6 address in brackets, with an optional scope, or an IPv4 address; then a port. -/
def SocketAddr.parse (t : Text) : Option SocketAddr :=
  match t with
  | '[' :: rest => do
    let (inner, port) ← splitOnce ']' rest
    let (addr, scope) :=
      ((splitOnce '%' inner).map fun parts => (parts.1, some parts.2)).getD (inner, none)
    let ip ← Ipv6Addr.parse addr
    let digits ← port.dropPrefix? [':']
    let port ← parsePort digits
    if scope.all isScopeId then some ⟨.v6 ip, port⟩ else none
  | t => do
    let (addr, digits) ← splitOnce ':' t
    let ip ← Ipv4Addr.parse addr
    let port ← parsePort digits
    return ⟨.v4 ip, port⟩

end Bind

section Source
variable (urls : WebUrl.Externals) (get : String → Option Text)

def readTrimmed (key : String) : Option Text := ((get key).map trim).filter (· ≠ [])

def readBind : Except ConfigError SocketAddr :=
  match SocketAddr.parse ((get "GPT_LIVE_BIND").getD DEFAULT_BIND) with
  | some bind => .ok bind
  | none => .error (.invalid "GPT_LIVE_BIND" "invalid socket address syntax")

def readCredentialMode : Except ConfigError UpstreamCredentialMode :=
  match get "GPT_LIVE_CREDENTIAL_MODE" with
  | none => .ok .managed
  | some mode =>
    if mode = "managed".toList then .ok .managed
    else if mode = "client".toList then .ok .client
    else
      let other := String.ofList mode
      .error (.invalid "GPT_LIVE_CREDENTIAL_MODE" s!"expected `managed` or `client`, got `{other}`")

def readBaseUrl (default : Text) : Except ConfigError Text :=
  match get "GPT_LIVE_BASE_URL" with
  | some raw => validateBaseUrl urls raw
  | none => .ok default

def readManagedAuth : Except ConfigError BearerToken :=
  match readTrimmed get "GPT_LIVE_TOKEN" with
  | some token => .ok ⟨token⟩
  | none => .error (.missing "GPT_LIVE_TOKEN")

def unknownMode (mode : Text) : ConfigError :=
  let other := String.ofList mode
  .invalid "GPT_LIVE_UPSTREAM_MODE" s!"expected `chatgpt` or `apikey`, got `{other}`"

def readUpstream (credentialMode : UpstreamCredentialMode) : Except ConfigError UpstreamProfile :=
  let mode := (get "GPT_LIVE_UPSTREAM_MODE").getD "chatgpt".toList
  match credentialMode with
  | .managed =>
    if mode = "chatgpt".toList then do
      let baseUrl ← readBaseUrl urls get CHATGPT_BACKEND_BASE
      let auth ← readManagedAuth get
      return .chatGptBackend baseUrl auth ((readTrimmed get "GPT_LIVE_ACCOUNT_ID").map AccountId.mk)
    else if mode = "apikey".toList then do
      let baseUrl ← readBaseUrl urls get OPENAI_API_BASE
      let auth ← readManagedAuth get
      return .apiKeyManaged baseUrl auth
    else .error (unknownMode mode)
  | .client =>
    if mode = "chatgpt".toList then
      .error (.invalid "GPT_LIVE_CREDENTIAL_MODE"
        "client credentials require GPT_LIVE_UPSTREAM_MODE=apikey")
    else if mode = "apikey".toList then do
      let baseUrl ← readBaseUrl urls get OPENAI_API_BASE
      return .apiKeyClient baseUrl
    else .error (unknownMode mode)

/-- The alias is read when the primary variable is unset or blank. -/
def readFrameLog : Option Text :=
  match readTrimmed get "GPT_LIVE_FRAME_LOG" with
  | some path => some path
  | none => readTrimmed get "OCX_LIVE_FRAME_LOG"

def readCorsOrigins : List Text :=
  match get "GPT_LIVE_CORS_ORIGINS" with
  | none => []
  | some raw => ((raw.splitOn ',').map trim).filter (· ≠ [])

def readWith (validator : Option Text → String → Nat → Except ConfigError Nat) (key : String)
    (default : Nat) : Except ConfigError Nat := validator (get key) key default

def readLimits : Except ConfigError Limits := do
  let defaults := Limits.default
  let requestBytes ←
    readWith get positiveUsize "GPT_LIVE_REQUEST_MAX_BYTES" defaults.requestBytes
  let responseBytes ←
    readWith get positiveUsize "GPT_LIVE_RESPONSE_MAX_BYTES" defaults.responseBytes
  let websocketFrameBytes ← readWith get positiveWebsocketFrameBytes
    "GPT_LIVE_WS_FRAME_MAX_BYTES" defaults.websocketFrameBytes
  let activeRequests ←
    readWith get positiveSemaphorePermits "GPT_LIVE_MAX_REQUESTS" defaults.activeRequests
  let activeConnections ←
    readWith get positiveSemaphorePermits "GPT_LIVE_MAX_CONNECTIONS" defaults.activeConnections
  let requestReadTimeout ← readWith get positiveMillis
    "GPT_LIVE_REQUEST_READ_TIMEOUT_MS" defaults.requestReadTimeout
  let upstreamTimeout ←
    readWith get positiveMillis "GPT_LIVE_UPSTREAM_TIMEOUT_MS" defaults.upstreamTimeout
  let websocketConnectTimeout ← readWith get positiveMillis
    "GPT_LIVE_WS_CONNECT_TIMEOUT_MS" defaults.websocketConnectTimeout
  let websocketSendTimeout ←
    readWith get positiveMillis "GPT_LIVE_WS_SEND_TIMEOUT_MS" defaults.websocketSendTimeout
  let websocketIdleTimeout ←
    readWith get nonnegativeMillis "GPT_LIVE_WS_IDLE_TIMEOUT_MS" defaults.websocketIdleTimeout
  return {
    requestBytes
    responseBytes
    websocketFrameBytes
    activeRequests
    activeConnections
    requestReadTimeout
    upstreamTimeout
    websocketConnectTimeout
    websocketSendTimeout
    websocketIdleTimeout
  }

def fromSource : Except ConfigError SourcedConfig := do
  let bind ← readBind get
  let credentialMode ← readCredentialMode get
  let upstream ← readUpstream urls get credentialMode
  let limits ← readLimits get
  return {
    bind
    upstream
    limits
    admissionToken := (readTrimmed get "GPT_LIVE_API_KEY").map BearerToken.mk
    corsAllowOrigins := readCorsOrigins get
    frameLog := readFrameLog get
  }

end Source

section Uses

/-- What a WebSocket endpoint is configured with. -/
structure WebSocketConfig where
  writeBufferSize : Nat
  maxWriteBufferSize : Nat
  maxMessageSize : Nat
  maxFrameSize : Nat
deriving DecidableEq

/-- The endpoint asserts that the larger buffer is larger. -/
def WebSocketConfig.isValid (config : WebSocketConfig) : Bool :=
  config.writeBufferSize < config.maxWriteBufferSize

/-- The buffer of one frame and its overhead; absent when the sum overflows. -/
def cappedConfig (cap : Nat) : Option WebSocketConfig :=
  (checkedAdd cap MAX_WEBSOCKET_FRAME_OVERHEAD).map fun buffer => ⟨0, buffer, cap, cap⟩

def configuredDownstreamUpgrade (limits : Limits) : Option WebSocketConfig :=
  cappedConfig limits.websocketFrameBytes

def upstreamConfig (limits : Limits) : Option WebSocketConfig :=
  cappedConfig limits.websocketFrameBytes

/-- The downstream upgrade of `handle_sideband`. -/
def sidebandUpgrade (limits : Limits) : Option WebSocketConfig :=
  cappedConfig limits.websocketFrameBytes

/-- The upstream configuration of `handle_sideband`. -/
def sidebandUpstreamConfig (limits : Limits) : Option WebSocketConfig :=
  cappedConfig limits.websocketFrameBytes

/-- A semaphore refuses to hold more permits than it can count. -/
def semaphoreNew (permits : Nat) : Option Nat := if permits ≤ MAX_PERMITS then some permits else none

end Uses

end GptLiveProxy
