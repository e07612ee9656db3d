import GptLiveProxy.Json
import GptLiveProxy.RelayError

/-!
# What a client is answered

Every rejection is rendered as a status, a few headers and a JSON envelope; only a service that
drains answers in plain text. A client tells failures apart by these fields, so the message, the
type and the code are the source's literals.
-/

namespace GptLiveProxy
open CharText Json

/-- A JSON body stands for the text its value prints as. -/
inductive ResponseBody
  | empty
  | json (value : Value)
  | text (text : Text)
  | bytes (bytes : List UInt8)

structure Response where
  status : Nat
  headers : HeaderMap
  body : ResponseBody

/-- `HeaderValue::from_static`, for literals without control characters. -/
def HeaderValue.fromStatic (t : Text) : HeaderValue :=
  (HeaderValue.fromStr t).getD ⟨[], false, List.forall_mem_nil _⟩

theorem HeaderValue.fromStatic_toStr {t : Text} (ht : ∀ c ∈ t, isVisibleChar c = true) :
    (HeaderValue.fromStatic t).toStr = some t := by
  obtain ⟨v, hv, htext⟩ := HeaderValue.toStr_fromStr ht
  rw [fromStatic, hv]
  exact htext

def Method.asStr : Method → Text
  | .options => "OPTIONS".toList
  | .get => "GET".toList
  | .post => "POST".toList
  | .put => "PUT".toList
  | .delete => "DELETE".toList
  | .head => "HEAD".toList
  | .trace => "TRACE".toList
  | .connect => "CONNECT".toList
  | .patch => "PATCH".toList
  | .extension name => name.toList

section Labels

def ProfileKind.label : ProfileKind → Text
  | .apiKeyManaged => "apikey_managed".toList
  | .apiKeyClient => "apikey_client".toList
  | .chatGpt => "chatgpt".toList

def OfficialRestCapability.label : OfficialRestCapability → Text
  | .createCall => "official_webrtc_call_create".toList
  | .acceptCall => "official_call_accept".toList
  | .rejectCall => "official_call_reject".toList
  | .referCall => "official_call_refer".toList
  | .hangupCall => "official_call_hangup".toList
  | .createClientSecret => "official_realtime_client_secret".toList
  | .createLegacySession => "official_legacy_session_token".toList
  | .createTranscriptionSession => "official_transcription_session_token".toList
  | .createTranslationClientSecret => "official_translation_client_secret".toList
  | .createTranslationCall => "official_translation_webrtc_call".toList

def OfficialWebSocketCapability.label : OfficialWebSocketCapability → Text
  | .standalone => "official_standalone_websocket".toList
  | .existingCall => "official_existing_call_websocket".toList
  | .translation => "official_translation_websocket".toList

def Capability.label : Capability → Text
  | .officialRest capability => capability.label
  | .officialWebSocket capability => capability.label
  | .privateCallCreate .quicksilverV1 => "private_v1_call_create".toList
  | .privateCallCreate .frameless => "private_frameless_call_create".toList
  | .privateStandaloneWebSocket .quicksilverV1 => "private_v1_standalone_websocket".toList
  | .privateStandaloneWebSocket .frameless => "private_frameless_standalone_websocket".toList
  | .privateExistingCallWebSocket .quicksilverV1 => "private_v1_existing_call_websocket".toList
  | .privateExistingCallWebSocket .frameless => "private_frameless_existing_call_websocket".toList
  | .privateSidebandAlias .quicksilverV1 => "private_v1_sideband_alias".toList
  | .privateSidebandAlias .frameless => "private_frameless_sideband_alias".toList
  | .privateCallCreate .officialGa | .privateStandaloneWebSocket .officialGa
  | .privateExistingCallWebSocket .officialGa | .privateSidebandAlias .officialGa =>
    "invalid_private_official_capability".toList

end Labels

namespace RelayError

def errorType : RelayError → String
  | admissionRequired | admissionSecretNotForwardable | noCredential => "authentication_error"
  | tooManyActiveRealtimeRequests | tooManyActiveRealtimeConnections => "rate_limit_error"
  | responseTooLarge _ | upstreamFailed _ | upstreamTimeout | realtimeWebSocketConnectTimeout
  | realtimeWebSocketUpstreamFailed | upstreamWebSocketProtocol => "server_error"
  | _ => "invalid_request_error"

/-- How the message names the profiles that would serve the request. -/
def requirement : List ProfileKind → Text
  | [.apiKeyManaged, .apiKeyClient] => "`apikey`".toList
  | [.apiKeyManaged, .chatGpt] => "a managed".toList
  | [.apiKeyManaged] => "the `apikey_managed`".toList
  | _ => "a supported".toList

def message : RelayError → Text
  | bodyTooLarge => "live request body too large".toList
  | responseTooLarge observed =>
    "live response too large (".toList ++ Nat.toDigits 10 observed ++ " bytes)".toList
  | clientCanceled => "live request canceled by client".toList
  | bodyUnreadable reason => "live request body unreadable: ".toList ++ reason.toList
  | multipartParse => "ChatGPT voice relay could not parse multipart call-create body".toList
  | multipartMissingSdp =>
    "ChatGPT voice relay expects multipart field sdp on call-create".toList
  | multipartSessionNotString =>
    "ChatGPT voice relay expected a string multipart session field".toList
  | multipartSessionNotJson =>
    "ChatGPT voice relay expected JSON in the multipart session field".toList
  | noUpstream =>
    ("Built-in voice needs an OpenAI upstream (ChatGPT login or an OpenAI API-key provider), but " ++
      "none is configured. Routed providers cannot serve voice call-create.").toList
  | noCredential =>
    ("voice relay needs ChatGPT auth (Authorization header) or an OpenAI API-key " ++
      "provider").toList
  | upstreamTimeout => "live upstream timed out".toList
  | upstreamFailed reason => "live relay failed: ".toList ++ reason.toList
  | admissionRequired => "gpt-live-proxy API key required".toList
  | admissionSecretNotForwardable =>
    "gpt-live-proxy admission credentials cannot be forwarded upstream".toList
  | ambiguousAuthorization => "ambiguous Authorization: send exactly one credential".toList
  | invalidRealtimeHeader => "invalid or repeated Realtime header".toList
  | invalidRealtimeCallId => "invalid Realtime call_id".toList
  | invalidRealtimeQuery => "invalid Realtime WebSocket query".toList
  | invalidRealtimeSubprotocol => "invalid Realtime WebSocket subprotocol".toList
  | unsupportedRealtimeContentType => "unsupported Realtime content type".toList
  | unsupportedRealtimeCapability _ _ requiredProfiles =>
    "gpt-live-proxy: this Realtime capability requires ".toList ++ requirement requiredProfiles ++
      " upstream profile".toList
  | unsupportedRealtimeNegotiation => "Realtime protocol negotiation is not supported".toList
  | invalidRealtimeSessionShape =>
    "Realtime session body contradicts the negotiated private dialect".toList
  | realtimeRequestBodyTimeout => "Realtime request body timed out".toList
  | tooManyActiveRealtimeRequests => "too many active Realtime requests".toList
  | tooManyActiveRealtimeConnections => "too many active Realtime connections".toList
  | realtimeWebSocketConnectTimeout => "Realtime upstream WebSocket handshake timed out".toList
  | realtimeWebSocketUpstreamFailed => "Realtime upstream WebSocket handshake failed".toList
  | upstreamWebSocketProtocol =>
    "Realtime upstream selected an invalid WebSocket subprotocol".toList
  | originBlocked .http => "cross-origin data-plane request blocked".toList
  | originBlocked .webSocketUpgrade => "WebSocket upgrade blocked: non-local Origin".toList
  | draining => "Service shutting down".toList
  | upgradeFailed => "WebSocket upgrade failed".toList
  | unknownEndpoint method path => "Unknown endpoint: ".toList ++ method.asStr ++ ' ' :: path

/-- The fields of the envelope that every error has. -/
def commonFields (error : RelayError) : Members Text Value :=
  ((Members.empty.insert "message".toList (.string error.message)).insert "type".toList
    (.string error.errorType.toList)).insert "code".toList (.string error.errorCode.toList)

/-- A refused capability also says where it was refused and which profiles would serve it. -/
def envelope (error : RelayError) : Members Text Value :=
  match error with
  | unsupportedRealtimeCapability capability configuredProfile requiredProfiles =>
    ((((error.commonFields.insert "param".toList (.string "upstream_profile".toList)).insert
      "source".toList (.string "gpt-live-proxy".toList)).insert
      "capability".toList (.string capability.label)).insert
      "configured_profile".toList (.string configuredProfile.label)).insert
      "required_profiles".toList (.array (requiredProfiles.map fun kind => .string kind.label))
  | _ => error.commonFields

def isRateLimited : RelayError → Bool
  | tooManyActiveRealtimeRequests => true
  | tooManyActiveRealtimeConnections => true
  | _ => false

def intoResponse (error : RelayError) : Response :=
  if error = draining then
    { status := 503
      headers := (OrderedMultimap.empty.insert "content-type"
        (.fromStatic "text/plain; charset=utf-8".toList)).insert "retry-after" (.fromStatic "5".toList)
      body := .text "Service shutting down".toList }
  else
    let headers := OrderedMultimap.empty.insert "content-type" (.fromStatic "application/json".toList)
    { status := error.status
      headers :=
        if error.isRateLimited then headers.insert "retry-after" (.fromStatic "1".toList) else headers
      body := .json (.object (Members.empty.insert "error".toList (.object error.envelope))) }

def typeOfStatus (status : Nat) : String :=
  if status = 401 then "authentication_error"
  else if status = 429 then "rate_limit_error"
  else if status = 502 ∨ status = 504 then "server_error"
  else "invalid_request_error"

theorem errorType_eq (error : RelayError) : error.errorType = typeOfStatus error.status := by
  cases error <;> rfl

theorem isRateLimited_iff (error : RelayError) :
    error.isRateLimited = true ↔ error.status = 429 := by
  cases error <;> simp [isRateLimited, status]

theorem draining_iff (error : RelayError) : error = draining ↔ error.status = 503 := by
  cases error <;> simp [status]

@[simp] theorem intoResponse_status (error : RelayError) : error.intoResponse.status = error.status := by
  unfold intoResponse
  by_cases h : error = draining
  · rw [h]
    rfl
  · rw [if_neg h]

theorem intoResponse_body {error : RelayError} (h : error ≠ draining) :
    error.intoResponse.body =
      .json (.object (Members.empty.insert "error".toList (.object error.envelope))) := by
  rw [intoResponse, if_neg h]

end RelayError

section Refusals

theorem requireSupport_eq_error {profile : UpstreamProfile} {capability : Capability}
    {error : RelayError} (h : requireSupport profile capability = .error error) :
    ∃ requiredProfiles, (support (.fromProfile profile) capability).requiredProfiles =
        some requiredProfiles ∧
      error = .unsupportedRealtimeCapability capability (.fromProfile profile) requiredProfiles := by
  unfold requireSupport at h
  dsimp only at h
  split at h
  · cases h
  · rename_i requiredProfiles hrequired
    cases h
    exact ⟨requiredProfiles, hrequired, rfl⟩

/-- The listed profiles are those that serve the capability. -/
theorem requiredProfiles_serve {kind : ProfileKind} {capability : Capability}
    {requiredProfiles : List ProfileKind}
    (h : (support kind capability).requiredProfiles = some requiredProfiles) (other : ProfileKind) :
    other ∈ requiredProfiles ↔ (support other capability).requiredProfiles = none := by
  unfold support at h ⊢
  cases hofficial : capability.isOfficial with
  | true =>
    simp only [hofficial, if_true] at h ⊢
    cases kind with
    | chatGpt =>
      obtain rfl := Option.some.inj h
      cases other <;> simp [API_KEY_PROFILES, Support.requiredProfiles]
    | _ => cases h
  | false =>
    simp only [hofficial, Bool.false_eq_true, if_false] at h ⊢
    cases hstandalone : capability.isPrivateStandalone with
    | true =>
      simp only [hstandalone, if_true] at h ⊢
      cases kind with
      | apiKeyManaged => cases h
      | _ =>
        obtain rfl := Option.some.inj h
        cases other <;> simp [API_KEY_MANAGED_PROFILE, Support.requiredProfiles]
    | false =>
      simp only [hstandalone, Bool.false_eq_true, if_false] at h ⊢
      cases kind with
      | apiKeyClient =>
        obtain rfl := Option.some.inj h
        cases other <;> simp [MANAGED_PROFILES, Support.requiredProfiles]
      | _ => cases h

/-- The listed profiles make a message of their own, never the fallback. -/
theorem requirement_of_support {kind : ProfileKind} {capability : Capability}
    {requiredProfiles : List ProfileKind}
    (h : (support kind capability).requiredProfiles = some requiredProfiles) :
    requiredProfiles = API_KEY_PROFILES ∨ requiredProfiles = MANAGED_PROFILES ∨
      requiredProfiles = API_KEY_MANAGED_PROFILE := by
  unfold support at h
  split_ifs at h with hofficial hstandalone
  · cases kind with
    | chatGpt => exact .inl (Option.some.inj h).symm
    | _ => cases h
  · cases kind with
    | apiKeyManaged => cases h
    | _ => exact .inr (.inr (Option.some.inj h).symm)
  · cases kind with
    | apiKeyClient => exact .inr (.inl (Option.some.inj h).symm)
    | _ => cases h

theorem envelope_field {error : RelayError} (herror : error ≠ .draining) {value : Value}
    (hbody : error.intoResponse.body = .json value) (field : Text) :
    value.lookup [.key "error".toList, .key field] = error.envelope.get field := by
  rw [RelayError.intoResponse_body herror] at hbody
  cases hbody
  rw [Value.lookup, Value.child, Members.get_insert_self]
  change ((error.envelope.get field).bind fun inner => inner.lookup []) = _
  cases error.envelope.get field <;> rfl

/-- A refused capability tells which profiles serve it: exactly those, never the configured one. -/
theorem refusal_names_serving_profiles {profile : UpstreamProfile} {capability : Capability}
    {error : RelayError} (h : requireSupport profile capability = .error error) :
    ∃ requiredProfiles value,
      (∀ kind, kind ∈ requiredProfiles ↔ (support kind capability).requiredProfiles = none) ∧
      requiredProfiles ≠ [] ∧ ProfileKind.fromProfile profile ∉ requiredProfiles ∧
      RelayError.requirement requiredProfiles ≠ "a supported".toList ∧
      error.intoResponse.status = 400 ∧ error.intoResponse.body = .json value ∧
      value.lookup [.key "error".toList, .key "required_profiles".toList] =
        some (.array (requiredProfiles.map fun kind => .string kind.label)) ∧
      value.lookup [.key "error".toList, .key "configured_profile".toList] =
        some (.string (ProfileKind.fromProfile profile).label) ∧
      value.lookup [.key "error".toList, .key "capability".toList] =
        some (.string capability.label) := by
  obtain ⟨requiredProfiles, hrequired, rfl⟩ := requireSupport_eq_error h
  have hserve := requiredProfiles_serve hrequired
  have herror : RelayError.unsupportedRealtimeCapability capability (.fromProfile profile)
      requiredProfiles ≠ .draining := by
    intro heq
    cases heq
  have hbody := RelayError.intoResponse_body herror
  refine ⟨requiredProfiles, _, hserve, ?_, ?_, ?_, ?_, hbody, ?_, ?_, ?_⟩
  · rcases requirement_of_support hrequired with rfl | rfl | rfl
    · exact List.cons_ne_nil _ _
    · exact List.cons_ne_nil _ _
    · exact List.cons_ne_nil _ _
  · intro hmem
    rw [(hserve _).mp hmem] at hrequired
    cases hrequired
  · rcases requirement_of_support hrequired with rfl | rfl | rfl
    · decide
    · decide
    · decide
  · exact RelayError.intoResponse_status _
  · rw [envelope_field herror hbody]
    exact Members.get_insert_self _ _ _
  · rw [envelope_field herror hbody]
    exact (Members.get_insert_of_ne _ _ (by decide) _).trans (Members.get_insert_self _ _ _)
  · rw [envelope_field herror hbody]
    refine (Members.get_insert_of_ne _ _ (by decide) _).trans ?_
    exact (Members.get_insert_of_ne _ _ (by decide) _).trans (Members.get_insert_self _ _ _)

theorem client_key_refused_frameless : ∃ error value,
    requireSupport (.apiKeyClient "https://api.openai.com/v1".toList)
        (.privateCallCreate .frameless) = .error error ∧
      error.intoResponse.status = 400 ∧ error.intoResponse.body = .json value ∧
      value.lookup [.key "error".toList, .key "configured_profile".toList] =
        some (.string "apikey_client".toList) := by
  obtain ⟨requiredProfiles, value, -, -, -, -, hstatus, hbody, -, hconfigured, -⟩ :=
    @refusal_names_serving_profiles (.apiKeyClient "https://api.openai.com/v1".toList)
      (.privateCallCreate .frameless) _ rfl
  exact ⟨_, value, rfl, hstatus, hbody, hconfigured⟩

end Refusals

end GptLiveProxy
