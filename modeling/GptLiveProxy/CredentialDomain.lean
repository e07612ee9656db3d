import GptLiveProxy.Handlers
import GptLiveProxy.ProtocolTokens

/-!
# The credential of an upstream request

`CredentialSource` names whose credential a request is sent with and `Carries` says what the
upstream map then holds. The source is decided by the dialect, the operation, the profile, and the
browser's subprotocols; classification, validation, and construction together realize it.
-/

namespace GptLiveProxy
open CharText OrderedMultimap

inductive CredentialSource
  | managed
  | client
  | browser
deriving DecidableEq

/-- Exactly one credential, from the given source. -/
def Carries (profile : UpstreamProfile) (client out : HeaderMap) : CredentialSource → Prop
  | .managed => ∃ token, profile.managedAuth = some token ∧
      (out.getAll "authorization").map HeaderValue.bytes = [utf8 ("Bearer ".toList ++ token.raw)] ∧
        credentialTokens out = []
  | .client => ∃ value, client.getAll "authorization" = [value] ∧
      (out.getAll "authorization").map HeaderValue.bytes = [value.bytes] ∧ credentialTokens out = []
  | .browser => ∃ token value, credentialTokens client = [token] ∧
      out.getAll "authorization" = [] ∧ out.getAll SEC_WEBSOCKET_PROTOCOL = [value] ∧
        credentialTokens out = [token]

/-- The credential of an official request that brings none of its own. -/
def profileSource : UpstreamProfile → CredentialSource
  | .chatGptBackend _ _ _ => .managed
  | .apiKeyManaged _ _ => .managed
  | .apiKeyClient _ => .client

def isRawSdp (contentType : Option Text) : Bool :=
  (mediaType contentType).any (eqIgnoreAsciiCase · "application/sdp".toList)

/-- A call-create that is authorized by a client's ephemeral key. -/
def IsEphemeralCreate (contentType : Option Text) (operation : RestOperation) : Prop :=
  (operation = .createCall ∧ isRawSdp contentType = true) ∨ operation = .createTranslationCall

instance (contentType : Option Text) (operation : RestOperation) :
    Decidable (IsEphemeralCreate contentType operation) := by
  unfold IsEphemeralCreate
  infer_instance

def restSource (profile : UpstreamProfile) (contentType : Option Text) (classified : ClassifiedRest) :
    CredentialSource :=
  if classified.selection.dialect ≠ .officialGa then .managed
  else if IsEphemeralCreate contentType classified.operation then .client
  else profileSource profile

def websocketSource (profile : UpstreamProfile) (headers : HeaderMap)
    (classified : ClassifiedWebSocket) : CredentialSource :=
  if classified.selection.dialect ≠ .officialGa then .managed
  else if credentialTokens headers ≠ [] then .browser
  else profileSource profile

section Classification
variable {decoder : PercentDecoder} {facts : RouteFacts}

theorem restCallCreateRawSdp_eq_ok {contentType : Option Text} {rawSdp : Bool}
    (h : restCallCreateRawSdp contentType = .ok rawSdp) : rawSdp = isRawSdp contentType := by
  unfold restCallCreateRawSdp at h
  unfold isRawSdp
  cases hmedia : mediaType contentType with
  | none => simp [hmedia] at h
  | some value =>
    simp only [hmedia] at h
    rw [Option.any_some]
    split_ifs at h with hmultipart hsdp
    · cases h
      unfold eqIgnoreAsciiCase at hmultipart ⊢
      rw [beq_iff_eq] at hmultipart
      rw [hmultipart]
      decide
    · cases h
      exact hsdp.symm

theorem classifyRestCallCreate_credential {selection : ProtocolSelection}
    (h : classifyRestCallCreate facts = .ok selection) :
    selection.credential =
      if selection.dialect ≠ .officialGa then .managed
      else if isRawSdp facts.contentType = true then .ephemeral
      else configuredCredential facts.credentialMode := by
  unfold classifyRestCallCreate at h
  obtain ⟨dialect, -, h⟩ := Except.bind_eq_ok.mp h
  obtain ⟨rawSdp, hraw, h⟩ := Except.bind_eq_ok.mp h
  split_ifs at h
  cases h
  rw [← restCallCreateRawSdp_eq_ok hraw]
  rfl

/-- Every official operation but call-create has the configured credential, translation calls an
ephemeral one. -/
theorem classifyOfficialRest_credential {operation : RestOperation} {selection : ProtocolSelection}
    (h : classifyOfficialRest operation facts = .ok selection) :
    selection.dialect = .officialGa ∧ operation ≠ .createCall ∧
      selection.credential = if operation = .createTranslationCall then .ephemeral
        else configuredCredential facts.credentialMode := by
  unfold classifyOfficialRest at h
  split_ifs at h with hprivate
  obtain ⟨session, hsession, h⟩ := Outcome.bind_eq_ok.mp h
  cases h
  refine ⟨rfl, ?_⟩
  cases operation with
  | createCall => cases hsession
  | createTranslationCall =>
    unfold officialRestSession at hsession
    cases hmedia : mediaType facts.contentType with
    | none => simp [hmedia] at hsession
    | some value =>
      simp only [hmedia] at hsession
      split_ifs at hsession
      cases hsession
      exact ⟨by simp, rfl⟩
  | acceptCall callId => cases hsession; exact ⟨by simp, rfl⟩
  | rejectCall callId => cases hsession; exact ⟨by simp, rfl⟩
  | referCall callId => cases hsession; exact ⟨by simp, rfl⟩
  | hangupCall callId => cases hsession; exact ⟨by simp, rfl⟩
  | createClientSecret => cases hsession; exact ⟨by simp, rfl⟩
  | createLegacySession => cases hsession; exact ⟨by simp, rfl⟩
  | createTranscriptionSession => cases hsession; exact ⟨by simp, rfl⟩
  | createTranslationClientSecret => cases hsession; exact ⟨by simp, rfl⟩

theorem classifyRest_credential {classified : ClassifiedRest}
    (h : classifyRest decoder facts = .ok classified) :
    classified.selection.credential =
      if classified.selection.dialect ≠ .officialGa then .managed
      else if IsEphemeralCreate facts.contentType classified.operation then .ephemeral
      else configuredCredential facts.credentialMode := by
  obtain ⟨-, hselection⟩ := classifyRest_eq_ok h
  by_cases hcreate : classified.operation = .createCall
  · rw [hcreate] at hselection
    rw [classifyRestCallCreate_credential (Outcome.ofExcept_eq_ok.mp hselection)]
    simp [IsEphemeralCreate, hcreate]
  · rw [restSelection_official hcreate] at hselection
    obtain ⟨hdialect, -, hcredential⟩ := classifyOfficialRest_credential hselection
    rw [hcredential]
    simp [IsEphemeralCreate, hdialect, hcreate]

theorem classifyWebsocket_credential {classified : ClassifiedWebSocket}
    (h : classifyWebsocket facts = .ok classified) :
    classified.selection.credential =
      if classified.selection.dialect = .officialGa then configuredCredential facts.credentialMode
      else .managed := by
  unfold classifyWebsocket at h
  split_ifs at h
  obtain ⟨target, -, h⟩ := Except.bind_eq_ok.mp h
  cases h
  rfl

end Classification

section Authorization
variable {client : HeaderMap} {profile : UpstreamProfile} {value : HeaderValue}

theorem managedAuthorization_eq_ok {managedAuth : Option BearerToken}
    (h : managedAuthorization managedAuth = .ok value) :
    ∃ token, managedAuth = some token ∧ value.bytes = utf8 ("Bearer ".toList ++ token.raw) := by
  unfold managedAuthorization at h
  cases managedAuth with
  | none => cases h
  | some token =>
    cases hheader : token.authorizationHeader with
    | none => simp [hheader] at h
    | some header =>
      simp only [hheader] at h
      cases h
      exact ⟨token, rfl, BearerToken.authorizationHeader_bytes hheader⟩

/-- A client credential is a copy of a valid bearer value of the request. -/
theorem authorization_client {policy : CredentialPolicy} (hpolicy : policy ≠ .managed)
    (h : authorization client profile policy = .ok value) :
    ∃ sent, client.get "authorization" = some sent ∧ validBearer sent = true ∧
      value = sent.setSensitive true := by
  have hclient : authorization client profile .clientBearer = .ok value := by
    cases policy with
    | managed => exact absurd rfl hpolicy
    | clientBearer => exact h
    | ephemeral => exact h
  unfold authorization at hclient
  cases hsent : (client.get "authorization").filter validBearer with
  | none => simp [hsent] at hclient
  | some sent =>
    simp only [hsent] at hclient
    cases hclient
    obtain ⟨hget, hvalid⟩ := Option.filter_eq_some_iff.mp hsent
    exact ⟨sent, hget, hvalid, rfl⟩

theorem getAll_of_single {headers : HeaderMap} {name : HeaderName} {value : HeaderValue}
    (hget : headers.get name = some value) (hsingle : (headers.getAll name).length ≤ 1) :
    headers.getAll name = [value] := by
  rw [get_eq_head?] at hget
  cases hvalues : headers.getAll name with
  | nil => simp [hvalues] at hget
  | cons first rest =>
    rw [hvalues] at hget hsingle
    rw [List.length_cons] at hsingle
    obtain rfl : rest = [] := List.length_eq_zero_iff.mp (by omega)
    rw [← Option.some.inj hget]

/-- A map whose only credential is the authorization of the policy carries it. -/
theorem carries_authorization {policy : CredentialPolicy} {out : HeaderMap}
    (hsingle : (client.getAll "authorization").length ≤ 1)
    (hvalue : authorization client profile policy = .ok value)
    (hout : out.getAll "authorization" = [value]) (htokens : credentialTokens out = []) :
    Carries profile client out (if policy = .managed then .managed else .client) := by
  by_cases hpolicy : policy = .managed
  · subst hpolicy
    obtain ⟨token, hauth, hbytes⟩ := managedAuthorization_eq_ok hvalue
    rw [if_pos rfl]
    exact ⟨token, hauth, by rw [hout, List.map_singleton, hbytes], htokens⟩
  · obtain ⟨sent, hget, -, rfl⟩ := authorization_client hpolicy hvalue
    rw [if_neg hpolicy]
    exact ⟨sent, getAll_of_single hget hsingle, by rw [hout]; rfl, htokens⟩

theorem profileSource_eq (profile : UpstreamProfile) :
    profileSource profile =
      if configuredCredential profile.credentialMode = .managed then .managed else .client := by
  cases profile <;> rfl

theorem credentialTokens_of_absent {out : HeaderMap} (h : out.getAll SEC_WEBSOCKET_PROTOCOL = []) :
    credentialTokens out = [] := by
  simp [credentialTokens, h]

end Authorization

section Rest
variable {debugAssertions : Bool} {decoder : PercentDecoder} {config : Config} {method : Method}
  {path : Text} {headers out : HeaderMap} {classified : ClassifiedRest}

theorem officialRestHeaders_carries {capability : Capability}
    (hclassified : classifyRest decoder (restFacts config method path headers) = .ok classified)
    (hofficial : classified.selection.dialect = .officialGa)
    (h : officialRestHeaders config headers classified capability = .ok out) :
    Carries config.upstream headers out
      (restSource config.upstream (restFacts config method path headers).contentType classified) := by
  unfold officialRestHeaders at h
  obtain ⟨_, -, h⟩ := Except.bind_eq_ok.mp h
  obtain ⟨_, hvalidated, hbuilt⟩ := Except.bind_eq_ok.mp h
  obtain ⟨value, hvalue, hcontents⟩ := buildUpstreamHeaders_eq_ok hbuilt
  have hsource : restSource config.upstream (restFacts config method path headers).contentType
      classified = if classified.selection.credential = .managed then .managed else .client := by
    rw [classifyRest_credential hclassified, if_neg (not_not_intro hofficial)]
    unfold restSource
    rw [profileSource_eq, if_neg (not_not_intro hofficial)]
    by_cases hcreate : IsEphemeralCreate (restFacts config method path headers).contentType
        classified.operation
    · rw [if_pos hcreate, if_pos hcreate, if_neg (by decide)]
    · rw [if_neg hcreate, if_neg hcreate]
      rfl
  rw [hsource]
  refine carries_authorization (validateUpstreamHeaders_authorization hvalidated) hvalue
    (hcontents _) (credentialTokens_of_absent ?_)
  exact buildUpstreamHeaders_subprotocol hbuilt

theorem setCallContentType_getAll {profile : UpstreamProfile} {name : HeaderName}
    (hname : name ≠ "content-type") :
    (setCallContentType profile out).getAll name = out.getAll name := by
  unfold setCallContentType
  cases HeaderValue.fromStr (privateCallContentType profile out) with
  | none => rfl
  | some value => exact getAll_insert_of_ne out hname.symm value

theorem privateRestHeaders_carries {capability : Capability}
    (hprivate : classified.selection.dialect ≠ .officialGa)
    (h : privateRestHeaders debugAssertions config headers classified capability = .ok out) :
    Carries config.upstream headers out
      (restSource config.upstream (restFacts config method path headers).contentType classified) := by
  unfold privateRestHeaders at h
  obtain ⟨validated, -, h⟩ := Outcome.bind_eq_ok.mp h
  obtain ⟨_, -, h⟩ := Outcome.bind_eq_ok.mp h
  obtain ⟨built, hbuilt, h⟩ := Outcome.bind_eq_ok.mp h
  obtain ⟨_, -, h⟩ := Outcome.bind_eq_ok.mp h
  cases h
  obtain ⟨merged, content, hmerged, -, hcontent⟩ := buildPrivateCallHeaders_eq_ok hbuilt
  obtain ⟨value, hvalue, hcontents⟩ := mergeUpstreamHeaders_eq_ok hmerged
  obtain ⟨token, hauth, hbytes⟩ := managedAuthorization_eq_ok hvalue
  have hsource : restSource config.upstream (restFacts config method path headers).contentType
      classified = .managed := if_pos hprivate
  rw [hsource]
  refine ⟨token, hauth, ?_, credentialTokens_of_absent ?_⟩
  · rw [setCallContentType_getAll (by decide), hcontent, if_neg (by decide), hcontents]
    simp [hbytes]
  · rw [setCallContentType_getAll (by decide), hcontent, if_neg (by decide), hcontents]
    simp [SEC_WEBSOCKET_PROTOCOL, CLIENT_PROTOCOL_HEADERS]

theorem restContact_carries
    (h : restContact debugAssertions decoder config method path headers = .ok (classified, out)) :
    Carries config.upstream headers out
      (restSource config.upstream (restFacts config method path headers).contentType classified) := by
  obtain ⟨capability, hclassified, -, hout⟩ := restContact_eq_ok h
  unfold restHeaders at hout
  split_ifs at hout with hofficial
  · exact officialRestHeaders_carries hclassified hofficial (Outcome.ofExcept_eq_ok.mp hout)
  · exact privateRestHeaders_carries hofficial hout

end Rest

section WebSocket
variable {decoder : PercentDecoder} {config : Config} {method : Method} {path : Text}
  {query : Option Text} {headers : HeaderMap} {classified : ClassifiedWebSocket}
  {built : WebSocketHeaders}

/-- The reported browser credential is the only credential token the request offers. -/
theorem browserCredential_tokens {admission : Option BearerToken} {parsed : ParsedProtocols}
    (h : parseProtocols headers admission = .ok parsed) :
    (parsed.browserCredential = none ∧ credentialTokens headers = []) ∨
      ∃ token, parsed.browserCredential.isSome = true ∧ credentialTokens headers = [token] := by
  have hcredentials := (parseProtocols_accepted h).2.1
  rw [← credentialTokens_of_parse h] at hcredentials
  cases hbrowser : parsed.browserCredential with
  | none => exact Or.inl ⟨rfl, by simpa [hbrowser] using hcredentials⟩
  | some value =>
    cases htokens : credentialTokens headers with
    | nil => simp [hbrowser, htokens] at hcredentials
    | cons token rest =>
      rw [hbrowser, htokens] at hcredentials
      obtain rfl : rest = [] := by simpa using (List.cons.inj hcredentials).2
      exact Or.inr ⟨token, rfl, rfl⟩

theorem upstreamHeader_some {admission : Option BearerToken} {parsed : ParsedProtocols}
    (h : parseProtocols headers admission = .ok parsed) (hoffered : parsed.offered ≠ []) :
    ∃ value, parsed.upstreamHeader = some value := by
  obtain ⟨scan, -, hheader, hscan, -⟩ := parseProtocols_eq_ok h
  have htokens := (parseProtocols_accepted h).1
  rw [hscan] at htokens hoffered
  rcases canonicalHeader_eq_ok htokens hheader with ⟨hempty, -⟩ | ⟨value, hvalue, -⟩
  · exact absurd hempty hoffered
  · exact ⟨value, hvalue⟩

theorem websocketContact_carries
    (h : websocketContact decoder config method path query headers = .ok (classified, built)) :
    Carries config.upstream headers built.headers
      (websocketSource config.upstream headers classified) := by
  obtain ⟨decoded, capability, validated, hclassified, -, -, hvalidated, hbuilt⟩ :=
    websocketContact_eq_ok h
  obtain ⟨hparsed, hsingle, hprivate, -⟩ := validateUpstreamWebsocketHeaders_eq_ok hvalidated
  obtain ⟨-, values, hvalues, hcontents⟩ := buildUpstreamWebsocketHeaders_eq_ok hbuilt
  have hprotocol : built.headers.getAll SEC_WEBSOCKET_PROTOCOL =
      validated.protocols.upstreamHeader.toList := by rw [hcontents, if_pos rfl]
  have hauthorization : built.headers.getAll "authorization" = values := by
    rw [hcontents, if_neg (by decide), if_pos rfl]
  have htokens := credentialTokens_of_canonical hparsed hprotocol
  rcases hvalues with ⟨hsome, hnone⟩ | ⟨hnone, value, hvalue, hvalues⟩
  · -- the browser's own credential, which only an official handshake may offer
    rcases browserCredential_tokens hparsed with ⟨habsent, -⟩ | ⟨token, -, htoken⟩
    · simp [habsent] at hsome
    have hoffered : validated.protocols.offered ≠ [] := by
      intro hempty
      rw [credentialTokens_of_parse hparsed, hempty] at htoken
      cases htoken
    have hofficial : classified.selection.dialect = .officialGa := by
      by_contra hdialect
      exact hoffered (hprivate hdialect)
    have hsource : websocketSource config.upstream headers classified = .browser := by
      simp [websocketSource, hofficial, htoken]
    obtain ⟨header, hheader⟩ := upstreamHeader_some hparsed hoffered
    rw [hsource]
    exact ⟨token, header, htoken, by rw [hauthorization, hnone], by rw [hprotocol, hheader]; rfl,
      htokens.trans htoken⟩
  · have hno : credentialTokens headers = [] := by
      rcases browserCredential_tokens hparsed with ⟨-, htoken⟩ | ⟨token, hsome, -⟩
      · exact htoken
      · simp [hnone] at hsome
    have hsource : websocketSource config.upstream headers classified =
        if classified.selection.credential = .managed then .managed else .client := by
      rw [classifyWebsocket_credential hclassified]
      unfold websocketSource
      by_cases hofficial : classified.selection.dialect = .officialGa
      · rw [if_neg (not_not_intro hofficial), if_neg (not_not_intro hno), if_pos hofficial]
        exact profileSource_eq config.upstream
      · rw [if_pos hofficial, if_neg hofficial, if_pos rfl]
    rw [hsource]
    exact carries_authorization hsingle hvalue (hauthorization.trans hvalues) (htokens.trans hno)

end WebSocket

/-- Both handlers contact the upstream with exactly one credential, from the right source. -/
theorem upstream_credential_domain (debugAssertions : Bool) (decoder : PercentDecoder)
    (config : Config) (method : Method) (path : Text) (query : Option Text) (headers : HeaderMap) :
    (∀ classified out,
      restContact debugAssertions decoder config method path headers = .ok (classified, out) →
        Carries config.upstream headers out
          (restSource config.upstream (restFacts config method path headers).contentType
            classified)) ∧
      ∀ classified built,
        websocketContact decoder config method path query headers = .ok (classified, built) →
          Carries config.upstream headers built.headers
            (websocketSource config.upstream headers classified) :=
  ⟨fun _ _ => restContact_carries, fun _ _ => websocketContact_carries⟩

section Instances

def clientKeys : Config := .everyInterface (.apiKeyClient "https://api.openai.com/v1".toList)
  "secret".toList

/-- A browser's handshake with an ephemeral key among its subprotocols. -/
def browserHandshake : HeaderMap :=
  headersOf [("upgrade", "websocket".toList),
    ("sec-websocket-protocol", "realtime, openai-insecure-api-key.ek_1".toList)]

def sessionRequest : HeaderMap :=
  headersOf [("x-api-key", "secret".toList), ("authorization", "Bearer sk_1".toList)]

theorem browser_and_client_credentials_carried :
    (∃ built classified,
      websocketContact .standard clientKeys .get "/v1/realtime".toList (some "model=m".toList)
        browserHandshake = .ok (classified, built) ∧
      Carries clientKeys.upstream browserHandshake built.headers .browser) ∧
    ∃ out classified,
      restContact true .standard clientKeys .post "/v1/realtime/sessions".toList sessionRequest =
        .ok (classified, out) ∧
      Carries clientKeys.upstream sessionRequest out .client := by
  obtain ⟨⟨classified, built⟩, hbuilt, hbrowser⟩ := Outcome.exists_of_okAnd
    (show Outcome.okAnd (fun r => decide
        (websocketSource clientKeys.upstream browserHandshake r.1 = .browser))
      (websocketContact .standard clientKeys .get "/v1/realtime".toList (some "model=m".toList)
        browserHandshake) = true by decide +kernel)
  obtain ⟨⟨classified', out⟩, hout, hclient⟩ := Outcome.exists_of_okAnd
    (show Outcome.okAnd (fun r => decide (restSource clientKeys.upstream
        (restFacts clientKeys .post "/v1/realtime/sessions".toList sessionRequest).contentType r.1 =
          .client))
      (restContact true .standard clientKeys .post "/v1/realtime/sessions".toList
        sessionRequest) = true by decide +kernel)
  rw [decide_eq_true_eq] at hbrowser hclient
  refine ⟨⟨built, classified, hbuilt, ?_⟩, out, classified', hout, ?_⟩
  · rw [← hbrowser]
    exact (upstream_credential_domain true .standard clientKeys .get "/v1/realtime".toList
      (some "model=m".toList) browserHandshake).2 classified built hbuilt
  · rw [← hclient]
    exact (upstream_credential_domain true .standard clientKeys .post
      "/v1/realtime/sessions".toList none sessionRequest).1 classified' out hout

end Instances

end GptLiveProxy
