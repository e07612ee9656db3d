import GptLiveProxy.PercentDecoding

/-!
# Paths of the official REST surface

Fixed segments are matched without decoding. Only the call id is percent-decoded, exactly once,
and a decoded call id is one to 128 letters, digits, underscores, or hyphens.
-/

namespace GptLiveProxy
open CharText

inductive RestOperation
  | createCall
  | acceptCall (callId : Text)
  | rejectCall (callId : Text)
  | referCall (callId : Text)
  | hangupCall (callId : Text)
  | createClientSecret
  | createLegacySession
  | createTranscriptionSession
  | createTranslationClientSecret
  | createTranslationCall
deriving DecidableEq

inductive PathError
  | unknownRoute
  | invalidCallId
deriving DecidableEq

def MAX_CALL_ID_LEN : Nat := 128

def isAlphanumericByte (b : UInt8) : Bool :=
  (0x30 ≤ b && b ≤ 0x39) || (0x41 ≤ b && b ≤ 0x5a) || (0x61 ≤ b && b ≤ 0x7a)

def isCallIdByte (b : UInt8) : Bool := isAlphanumericByte b || b == 0x5f || b == 0x2d

def validateCallId (decoded : Text) : Except PathError Unit :=
  if decoded = [] ∨ byteLen decoded > MAX_CALL_ID_LEN then .error .invalidCallId
  else if (utf8 decoded).all isCallIdByte then .ok ()
  else .error .invalidCallId

def decodeCallId (decoder : PercentDecoder) (raw : Text) : Except PathError Text :=
  if wellFormedEscapes (utf8 raw) then
    match decodeUtf8 (decoder.decode (utf8 raw)) with
    | some decoded => .ok decoded
    | none => .error .invalidCallId
  else .error .invalidCallId

def controlOperation (action callId : Text) : Option RestOperation :=
  if action = "accept".toList then some (.acceptCall callId)
  else if action = "reject".toList then some (.rejectCall callId)
  else if action = "refer".toList then some (.referCall callId)
  else if action = "hangup".toList then some (.hangupCall callId)
  else none

def fixedRestPath (rawPath : Text) : Option RestOperation :=
  if rawPath = "/v1/realtime/calls".toList then some .createCall
  else if rawPath = "/v1/realtime/client_secrets".toList then some .createClientSecret
  else if rawPath = "/v1/realtime/sessions".toList then some .createLegacySession
  else if rawPath = "/v1/realtime/transcription_sessions".toList then some .createTranscriptionSession
  else if rawPath = "/v1/realtime/translations/client_secrets".toList then
    some .createTranslationClientSecret
  else if rawPath = "/v1/realtime/translations/calls".toList then some .createTranslationCall
  else none

def parseRestPath (decoder : PercentDecoder) (rawPath : Text) : Except PathError RestOperation :=
  match fixedRestPath rawPath with
  | some operation => .ok operation
  | none =>
    match rawPath.dropPrefix? "/v1/realtime/calls/".toList with
    | none => .error .unknownRoute
    | some rest =>
      match rest.splitOn '/' with
      | [rawCallId, action] =>
        if rawCallId = [] ∨ action = [] then .error .unknownRoute
        else if (controlOperation action []).isNone then .error .unknownRoute
        else do
          let callId ← decodeCallId decoder rawCallId
          validateCallId callId
          match controlOperation action callId with
          | some operation => .ok operation
          | none => .error .unknownRoute
      | _ => .error .unknownRoute

end GptLiveProxy
