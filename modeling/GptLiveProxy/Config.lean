import GptLiveProxy.HeaderMap
import GptLiveProxy.IpAddr
import Mathlib.Algebra.Group.Nat.Defs
import Mathlib.Data.List.Infix

/-!
# Configuration

Credentials, upstream profiles, resource limits, and the relay's configuration. The two credential
domains are separate values: the admission token authenticates a caller to the proxy, and the
managed token authenticates the proxy to its upstream.
-/

namespace GptLiveProxy
open CharText

/-- The largest `usize` of a 64-bit target. -/
def USIZE_MAX : Nat := 2 ^ 64 - 1

def checkedAdd (a b : Nat) : Option Nat := if a + b ≤ USIZE_MAX then some (a + b) else none

structure BearerToken where
  raw : Text
deriving DecidableEq

structure AccountId where
  raw : Text
deriving DecidableEq

inductive UpstreamCredentialMode
  | managed
  | client
deriving DecidableEq

inductive UpstreamProfile
  | chatGptBackend (baseUrl : Text) (auth : BearerToken) (accountId : Option AccountId)
  | apiKeyManaged (baseUrl : Text) (auth : BearerToken)
  | apiKeyClient (baseUrl : Text)
deriving DecidableEq

/-- Byte caps, permit counts, and deadlines; deadlines are in milliseconds. -/
structure Limits where
  requestBytes : Nat
  responseBytes : Nat
  websocketFrameBytes : Nat
  activeRequests : Nat
  activeConnections : Nat
  requestReadTimeout : Nat
  upstreamTimeout : Nat
  websocketConnectTimeout : Nat
  websocketSendTimeout : Nat
  websocketIdleTimeout : Nat
deriving DecidableEq

def Limits.default : Limits where
  requestBytes := 16 * 1024 * 1024
  responseBytes := 16 * 1024 * 1024
  websocketFrameBytes := 16 * 1024 * 1024
  activeRequests := 128
  activeConnections := 128
  requestReadTimeout := 30000
  upstreamTimeout := 120000
  websocketConnectTimeout := 15000
  websocketSendTimeout := 15000
  websocketIdleTimeout := 0

structure Config where
  bind : SocketAddr
  upstream : UpstreamProfile
  limits : Limits
  admissionToken : Option BearerToken
  corsAllowOrigins : List Text
deriving DecidableEq

namespace BearerToken

/-- Equality of the encoded bytes, length first. -/
def ctEq (token : BearerToken) (candidate : Text) : Bool :=
  let a := utf8 token.raw
  let b := utf8 candidate
  a.length == b.length && a == b

/-- `Bearer` and the token, marked sensitive; absent when a byte is illegal in a header value. -/
def authorizationHeader (token : BearerToken) : Option HeaderValue :=
  (HeaderValue.fromStr ("Bearer ".toList ++ token.raw)).map (·.setSensitive true)

theorem ctEq_iff (token : BearerToken) (candidate : Text) :
    token.ctEq candidate = true ↔ candidate = token.raw := by
  simp only [ctEq, Bool.and_eq_true, beq_iff_eq]
  constructor
  · rintro ⟨-, h⟩
    exact (utf8_injective h).symm
  · rintro rfl
    exact ⟨rfl, rfl⟩

theorem authorizationHeader_bytes {token : BearerToken} {v : HeaderValue}
    (h : token.authorizationHeader = some v) : v.bytes = utf8 ("Bearer ".toList ++ token.raw) := by
  obtain ⟨w, hw, rfl⟩ := Option.map_eq_some_iff.mp h
  rw [HeaderValue.setSensitive_bytes]
  exact HeaderValue.fromStr_bytes hw

end BearerToken

namespace UpstreamProfile

def baseUrl : UpstreamProfile → Text
  | chatGptBackend baseUrl _ _ => baseUrl
  | apiKeyManaged baseUrl _ => baseUrl
  | apiKeyClient baseUrl => baseUrl

def managedAuth : UpstreamProfile → Option BearerToken
  | chatGptBackend _ auth _ => some auth
  | apiKeyManaged _ auth => some auth
  | apiKeyClient _ => none

def accountIdRaw : UpstreamProfile → Option Text
  | chatGptBackend _ _ accountId => accountId.map AccountId.raw
  | apiKeyManaged _ _ => none
  | apiKeyClient _ => none

def credentialMode : UpstreamProfile → UpstreamCredentialMode
  | chatGptBackend _ _ _ => .managed
  | apiKeyManaged _ _ => .managed
  | apiKeyClient _ => .client

/-- The body shape and the call-create path follow the base URL, not the variant. -/
def usesBackendShape (profile : UpstreamProfile) : Bool :=
  decide ("/backend-api".toList <:+: profile.baseUrl)

end UpstreamProfile

/-- A service reachable on every interface, with default limits; its callers need admission. -/
def Config.everyInterface (upstream : UpstreamProfile) (admission : Text) : Config where
  bind := ⟨.v4 ⟨0, 0, 0, 0⟩, 10100⟩
  upstream := upstream
  limits := .default
  admissionToken := some ⟨admission⟩
  corsAllowOrigins := []

/-- A loopback bind exempts callers from admission. -/
def Config.requiresAdmissionAuth (config : Config) : Bool := !config.bind.ip.isLoopback

end GptLiveProxy
