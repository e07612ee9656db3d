import GptLiveProxy.Capability

/-!
# Relay errors

The taxonomy of rejections and upstream failures. Contract errors of the two classifiers map onto
it, and every variant that carries data keeps it.
-/

namespace GptLiveProxy
open CharText

/-- Which surface rejected a request. -/
inductive RequestKind
  | http
  | webSocketUpgrade
deriving DecidableEq

inductive RelayError
  | bodyTooLarge
  | responseTooLarge (observed : Nat)
  | clientCanceled
  | bodyUnreadable (message : String)
  | multipartParse
  | multipartMissingSdp
  | multipartSessionNotString
  | multipartSessionNotJson
  | noUpstream
  | noCredential
  | upstreamTimeout
  | upstreamFailed (message : String)
  | admissionRequired
  | admissionSecretNotForwardable
  | ambiguousAuthorization
  | invalidRealtimeHeader
  | invalidRealtimeCallId
  | invalidRealtimeQuery
  | invalidRealtimeSubprotocol
  | unsupportedRealtimeContentType
  | unsupportedRealtimeCapability (capability : Capability) (configuredProfile : ProfileKind)
      (requiredProfiles : List ProfileKind)
  | unsupportedRealtimeNegotiation
  | invalidRealtimeSessionShape
  | realtimeRequestBodyTimeout
  | tooManyActiveRealtimeRequests
  | tooManyActiveRealtimeConnections
  | realtimeWebSocketConnectTimeout
  | realtimeWebSocketUpstreamFailed
  | upstreamWebSocketProtocol
  | originBlocked (kind : RequestKind)
  | draining
  | upgradeFailed
  | unknownEndpoint (method : Method) (path : Text)
deriving DecidableEq

namespace RelayError

def fromRestContract (error : RestContractError) (method : Method) (path : Text) : RelayError :=
  match error with
  | .unknownRoute | .methodNotAllowed => .unknownEndpoint method path
  | .invalidCallId => .invalidRealtimeCallId
  | .unsupportedContentType => .unsupportedRealtimeContentType
  | .privateDialectRequiresManaged | .privateDialectNotSupported => .unsupportedRealtimeNegotiation

def fromWebsocketContract (error : WebSocketContractError) (method : Method) (path : Text) :
    RelayError :=
  match error with
  | .unknownRoute | .methodNotAllowed => .unknownEndpoint method path
  | .missingSelector | .ambiguousQuery => .invalidRealtimeQuery
  | .invalidCallId => .invalidRealtimeCallId
  | .privateDialectRequiresManaged | .privateDialectNotSupported => .unsupportedRealtimeNegotiation

def status : RelayError → Nat
  | bodyTooLarge => 413
  | responseTooLarge _ | upstreamFailed _ | realtimeWebSocketUpstreamFailed
  | upstreamWebSocketProtocol => 502
  | clientCanceled => 499
  | bodyUnreadable _ | multipartParse | multipartMissingSdp | multipartSessionNotString
  | multipartSessionNotJson | noUpstream => 400
  | ambiguousAuthorization | invalidRealtimeHeader | invalidRealtimeCallId | invalidRealtimeQuery
  | invalidRealtimeSubprotocol | unsupportedRealtimeContentType
  | unsupportedRealtimeCapability _ _ _ | unsupportedRealtimeNegotiation
  | invalidRealtimeSessionShape => 400
  | realtimeRequestBodyTimeout => 408
  | tooManyActiveRealtimeRequests | tooManyActiveRealtimeConnections => 429
  | upstreamTimeout | realtimeWebSocketConnectTimeout => 504
  | admissionRequired | admissionSecretNotForwardable | noCredential => 401
  | originBlocked _ => 403
  | draining => 503
  | upgradeFailed => 426
  | unknownEndpoint _ _ => 404

/-- The `code` field of the JSON envelope. -/
def errorCode : RelayError → String
  | clientCanceled => "client_closed_request"
  | responseTooLarge _ | upstreamFailed _ | upstreamTimeout | realtimeWebSocketConnectTimeout
  | realtimeWebSocketUpstreamFailed => "upstream_server_error"
  | admissionRequired | admissionSecretNotForwardable | noCredential => "invalid_api_key"
  | originBlocked _ => "origin_rejected"
  | upgradeFailed => "upgrade_required"
  | invalidRealtimeCallId => "invalid_call_id"
  | invalidRealtimeQuery => "invalid_realtime_query"
  | invalidRealtimeSubprotocol => "invalid_realtime_subprotocol"
  | unsupportedRealtimeCapability _ _ _ | unsupportedRealtimeNegotiation =>
    "unsupported_realtime_capability"
  | invalidRealtimeSessionShape => "invalid_realtime_session_shape"
  | realtimeRequestBodyTimeout => "request_timeout"
  | tooManyActiveRealtimeRequests | tooManyActiveRealtimeConnections => "rate_limit_exceeded"
  | upstreamWebSocketProtocol => "upstream_websocket_protocol_error"
  | _ => "invalid_request_error"

/-- Status 499 and its code tell a client that it left, and nothing else does. -/
theorem clientCanceled_of_status {error : RelayError} (h : error.status = 499) :
    error = clientCanceled := by
  cases error <;> first | rfl | cases h

theorem clientCanceled_of_errorCode {error : RelayError}
    (h : error.errorCode = "client_closed_request") : error = clientCanceled := by
  cases error <;> first | rfl | simp [errorCode] at h

end RelayError

def requireSupport (profile : UpstreamProfile) (capability : Capability) : Except RelayError Unit :=
  let kind := ProfileKind.fromProfile profile
  match (support kind capability).requiredProfiles with
  | none => .ok ()
  | some requiredProfiles =>
    .error (.unsupportedRealtimeCapability capability kind requiredProfiles)

end GptLiveProxy
