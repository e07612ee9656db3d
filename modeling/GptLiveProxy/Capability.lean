import GptLiveProxy.Contract

/-!
# Upstream-profile policy

`support` decides, for each upstream profile and each classified capability, whether the relay
serves it natively, adapts it, or rejects it with the profiles that would serve it.
-/

namespace GptLiveProxy

inductive ProfileKind
  | apiKeyManaged
  | apiKeyClient
  | chatGpt
deriving DecidableEq

def ProfileKind.fromProfile : UpstreamProfile → ProfileKind
  | .apiKeyManaged _ _ => .apiKeyManaged
  | .apiKeyClient _ => .apiKeyClient
  | .chatGptBackend _ _ _ => .chatGpt

inductive OfficialRestCapability
  | createCall
  | acceptCall
  | rejectCall
  | referCall
  | hangupCall
  | createClientSecret
  | createLegacySession
  | createTranscriptionSession
  | createTranslationClientSecret
  | createTranslationCall
deriving DecidableEq

inductive OfficialWebSocketCapability
  | standalone
  | existingCall
  | translation
deriving DecidableEq

inductive Capability
  | officialRest (capability : OfficialRestCapability)
  | officialWebSocket (capability : OfficialWebSocketCapability)
  | privateCallCreate (dialect : ApiDialect)
  | privateStandaloneWebSocket (dialect : ApiDialect)
  | privateExistingCallWebSocket (dialect : ApiDialect)
  | privateSidebandAlias (dialect : ApiDialect)
deriving DecidableEq

def OfficialRestCapability.ofOperation : RestOperation → OfficialRestCapability
  | .createCall => .createCall
  | .acceptCall _ => .acceptCall
  | .rejectCall _ => .rejectCall
  | .referCall _ => .referCall
  | .hangupCall _ => .hangupCall
  | .createClientSecret => .createClientSecret
  | .createLegacySession => .createLegacySession
  | .createTranscriptionSession => .createTranscriptionSession
  | .createTranslationClientSecret => .createTranslationClientSecret
  | .createTranslationCall => .createTranslationCall

namespace Capability

def fromRest {ε : Type} (classified : ClassifiedRest) : Outcome ε Capability :=
  if classified.selection.dialect ≠ .officialGa then do
    Outcome.assert (classified.operation = .createCall)
    return .privateCallCreate classified.selection.dialect
  else .ok (.officialRest (OfficialRestCapability.ofOperation classified.operation))

def fromWebsocket {ε : Type} (classified : ClassifiedWebSocket) : Outcome ε Capability :=
  match classified.selection.dialect, classified.target with
  | .officialGa, .standalone _ => .ok (.officialWebSocket .standalone)
  | .officialGa, .existingCall _ => .ok (.officialWebSocket .existingCall)
  | .officialGa, .translation _ => .ok (.officialWebSocket .translation)
  | dialect, .standalone _ => .ok (.privateStandaloneWebSocket dialect)
  | dialect, .existingCall _ => .ok (.privateExistingCallWebSocket dialect)
  -- declared unreachable: private translation is rejected during classification
  | _, .translation _ => .panicked

def isOfficial : Capability → Bool
  | officialRest _ => true
  | officialWebSocket _ => true
  | _ => false

def isPrivateStandalone : Capability → Bool
  | privateStandaloneWebSocket _ => true
  | _ => false

def isPrivate : Capability → Bool
  | privateCallCreate _ => true
  | privateStandaloneWebSocket _ => true
  | privateExistingCallWebSocket _ => true
  | privateSidebandAlias _ => true
  | _ => false

theorem isPrivate_eq (capability : Capability) : capability.isPrivate = !capability.isOfficial := by
  cases capability <;> rfl

end Capability

inductive Support
  | native
  | adapted
  | unsupported (requiredProfiles : List ProfileKind)
deriving DecidableEq

def API_KEY_PROFILES : List ProfileKind := [.apiKeyManaged, .apiKeyClient]

def MANAGED_PROFILES : List ProfileKind := [.apiKeyManaged, .chatGpt]

def API_KEY_MANAGED_PROFILE : List ProfileKind := [.apiKeyManaged]

def support (profile : ProfileKind) (capability : Capability) : Support :=
  if capability.isOfficial then
    match profile with
    | .apiKeyManaged | .apiKeyClient => .native
    | .chatGpt => .unsupported API_KEY_PROFILES
  else
    match profile with
    | .apiKeyManaged => .adapted
    | .apiKeyClient =>
      .unsupported
        (if capability.isPrivateStandalone then API_KEY_MANAGED_PROFILE else MANAGED_PROFILES)
    | .chatGpt =>
      if capability.isPrivateStandalone then .unsupported API_KEY_MANAGED_PROFILE else .adapted

/-- `support` with its assertion that a capability is official or private. -/
def assertedSupport {ε : Type} (debugAssertions : Bool) (profile : ProfileKind)
    (capability : Capability) : Outcome ε Support :=
  if capability.isOfficial then .ok (support profile capability)
  else do
    Outcome.debugAssert debugAssertions capability.isPrivate
    return support profile capability

theorem assertedSupport_eq {ε : Type} (debugAssertions : Bool) (profile : ProfileKind)
    (capability : Capability) :
    (assertedSupport debugAssertions profile capability : Outcome ε Support) =
      .ok (support profile capability) := by
  unfold assertedSupport
  cases hofficial : capability.isOfficial with
  | true => rfl
  | false =>
    rw [Capability.isPrivate_eq, hofficial]
    cases debugAssertions <;> rfl

/-- The profiles that would serve a capability this profile rejects. -/
def Support.requiredProfiles : Support → Option (List ProfileKind)
  | native => none
  | adapted => none
  | unsupported requiredProfiles => some requiredProfiles

end GptLiveProxy
