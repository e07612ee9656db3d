import GptLiveProxy.AdmissionDecision
import GptLiveProxy.ServiceRuns

/-!
# What the service sends upstream

Whatever runs at the same time, a contact is made for an admitted request and is what the handler of
its route computes. So it goes to a root that the configuration alone fixes, carries listed header
names only, and exactly one credential, from the source that its route prescribes.
-/

namespace GptLiveProxy
open CharText OrderedMultimap

/-- The roots upstream; no request has a say in them. -/
def upstreamRoots (profile : UpstreamProfile) : List Text :=
  [apiRoot profile.baseUrl, rewriteScheme (apiRoot profile.baseUrl)] ++
    if profile.usesBackendShape then
      [trimEnd '/' profile.baseUrl, rewriteScheme SIDEBAND_API_ROOT]
    else []

def Reaches (profile : UpstreamProfile) (url : Text) : Prop :=
  ∃ root ∈ upstreamRoots profile, ∃ rest, url = root ++ '/' :: rest

section Targets
variable {profile : UpstreamProfile} {uri : Uri} {url : Text}

theorem apiRoot_mem (profile : UpstreamProfile) : apiRoot profile.baseUrl ∈ upstreamRoots profile :=
  List.mem_cons_self

theorem websocketRoot_mem (profile : UpstreamProfile) :
    rewriteScheme (apiRoot profile.baseUrl) ∈ upstreamRoots profile :=
  List.mem_cons_of_mem _ List.mem_cons_self

theorem Uri.UnderV1.drop_pathAndQuery (h : uri.UnderV1) :
    ∃ rest, uri.pathAndQuery.drop 3 = '/' :: rest := by
  obtain ⟨rest, hpath⟩ := h
  refine ⟨rest ++ uri.query.elim [] ('?' :: ·), ?_⟩
  simp [Uri.pathAndQuery, ← hpath]

theorem underV1_of_rest {path : Text} (h : routeOf path = .rest) : "/v1/".toList <+: path := by
  rcases (routeOf_rest_iff path).mp h with rfl | hfixed | ⟨raw, action, -, -, -, rfl⟩
  · exact ⟨"live".toList, rfl⟩
  · unfold fixedRestPath at hfixed
    split_ifs at hfixed with h1 h2 h3 h4 h5 h6
    case neg => cases hfixed
    all_goals
      subst path
      decide
  · rw [← List.append_assoc]
    exact ⟨"realtime/calls/".toList ++ (raw ++ '/' :: action), by simp⟩

theorem underV1_of_websocket {path : Text} (h : routeOf path = .websocket) :
    "/v1/".toList <+: path := by
  rcases (routeOf_websocket_iff path).mp h with hroute | rfl
  · unfold isWebsocketRoute at hroute
    rcases Bool.or_eq_true_iff.mp hroute with hpath | hpath
    · rw [eq_of_beq hpath]
      decide
    · rw [eq_of_beq hpath]
      decide
  · decide

theorem officialUrl_root (h : uri.UnderV1) (hurl : officialUrl profile.baseUrl uri = .ok url) :
    ∃ rest, url = apiRoot profile.baseUrl ++ '/' :: rest := by
  rw [officialUrl_eq profile.baseUrl h] at hurl
  obtain ⟨rest, hrest⟩ := h.drop_pathAndQuery
  exact ⟨rest, by rw [← Except.ok.inj hurl, hrest]⟩

theorem officialWebsocketUrl_reaches (h : uri.UnderV1)
    (hurl : officialWebsocketUrl profile.baseUrl uri = .ok url) : Reaches profile url := by
  unfold officialWebsocketUrl at hurl
  cases hofficial : officialUrl profile.baseUrl uri with
  | error error =>
    rw [hofficial] at hurl
    cases hurl
  | ok target =>
    rw [hofficial] at hurl
    cases hurl
    obtain ⟨rest, rfl⟩ := officialUrl_root h hofficial
    exact ⟨_, websocketRoot_mem profile, rest, rewriteScheme_append _ _⟩

/-- What is joined to the root of a private socket starts with a slash. -/
theorem joinRoot_reaches (profile : UpstreamProfile) (rest : Text) :
    Reaches profile (rewriteScheme
      (joinRoot profile.baseUrl profile.usesBackendShape ++ '/' :: rest)) := by
  cases hshape : profile.usesBackendShape with
  | false => exact ⟨_, websocketRoot_mem profile, rest, rewriteScheme_append _ _⟩
  | true =>
    refine ⟨rewriteScheme SIDEBAND_API_ROOT, ?_, rest,
      rewriteScheme_append "https://api.openai.com".toList _⟩
    rw [upstreamRoots, hshape]
    simp

theorem sidebandUpstreamUrl_reaches (profile : UpstreamProfile) (target : SidebandTarget) :
    Reaches profile (sidebandUpstreamUrl profile.baseUrl profile.usesBackendShape target) := by
  cases target with
  | framelessPath callId => exact joinRoot_reaches profile _
  | realtimeCallsPath callId => exact joinRoot_reaches profile _
  | realtimeQuery callId => exact joinRoot_reaches profile _

theorem privateWebsocketUrl_reaches {classified : ClassifiedWebSocket}
    (hurl : privateWebsocketUrl profile.baseUrl profile.usesBackendShape classified = .ok url) :
    Reaches profile url := by
  obtain ⟨request, hrequest, hurl⟩ := Outcome.bind_eq_ok.mp hurl
  cases hurl
  unfold privateRequest at hrequest
  split at hrequest
  case h_5 => cases hrequest
  all_goals
    cases hrequest
    exact joinRoot_reaches profile _

theorem privateCallCreateUrl_reaches {debugAssertions : Bool} {dialect : ApiDialect}
    (hurl : privateCallCreateUrl debugAssertions profile.baseUrl profile.usesBackendShape dialect =
      .ok url) : Reaches profile url := by
  unfold privateCallCreateUrl at hurl
  cases hshape : profile.usesBackendShape with
  | true =>
    rw [hshape, if_pos rfl] at hurl
    obtain ⟨_, -, hurl⟩ := Outcome.bind_eq_ok.mp hurl
    cases hurl
    obtain ⟨query, hquery⟩ := prefix_withAvasQuery
      (trimEnd '/' profile.baseUrl ++ "/realtime/calls".toList)
    refine ⟨trimEnd '/' profile.baseUrl, ?_, "realtime/calls".toList ++ query, ?_⟩
    · rw [upstreamRoots, hshape]
      simp
    · rw [← hquery, List.append_assoc]
      rfl
  | false =>
    rw [hshape, if_neg Bool.false_ne_true] at hurl
    cases dialect with
    | quicksilverV1 =>
      cases hurl
      obtain ⟨query, hquery⟩ := prefix_withAvasQuery
        (stripV1Suffix profile.baseUrl ++ "/v1/realtime/calls".toList)
      refine ⟨_, apiRoot_mem profile, "realtime/calls".toList ++ query, ?_⟩
      rw [← hquery, apiRoot, List.append_assoc, List.append_assoc]
      rfl
    | frameless =>
      cases hurl
      refine ⟨_, apiRoot_mem profile, "live".toList, ?_⟩
      rw [apiRoot, List.append_assoc]
      rfl
    | officialGa => cases hurl

end Targets

/-- The names a contact of a call may carry besides those of its credential. -/
def CALL_NAMES : List HeaderName :=
  REQUEST_HEADER_ALLOWLIST ++ "content-type" :: CLIENT_PROTOCOL_HEADERS

def SOCKET_NAMES : List HeaderName :=
  CLIENT_REQUEST_HEADERS ++
    (SEC_WEBSOCKET_PROTOCOL :: WEBSOCKET_METADATA_HEADERS ++ CLIENT_PROTOCOL_HEADERS)

/-- Whose credential the route of a request prescribes. -/
inductive CredentialFor (d : Deployment) (r : Inbound) : CredentialSource → Prop
  | rest {classified : ClassifiedRest} (hroute : routeOf r.uri.path = .rest)
      (hclassified : classifyRest d.decoder (restFacts d.config r.method r.uri.path r.headers) =
        .ok classified) :
    CredentialFor d r (restSource d.config.upstream
      (restFacts d.config r.method r.uri.path r.headers).contentType classified)
  | websocket {classified : ClassifiedWebSocket} {built : WebSocketHeaders}
      (hroute : routeOf r.uri.path = .websocket)
      (hcontact : websocketContact d.decoder d.config r.method r.uri.path r.uri.query r.headers =
        .ok (classified, built)) :
    CredentialFor d r (websocketSource d.config.upstream r.headers classified)
  | sideband (hroute : routeOf r.uri.path = .sideband) : CredentialFor d r .managed

/-- A contact that the request has no say in beyond the listed names. -/
structure Confined (d : Deployment) (r : Inbound) (names : List HeaderName) (url : Text)
    (headers : HeaderMap) : Prop where
  reaches : Reaches d.config.upstream url
  names : ∀ name, headers.getAll name ≠ [] →
    name ∈ names ∨ name = "authorization" ∨ name = "chatgpt-account-id"
  credential : ∃ source, CredentialFor d r source ∧ Carries d.config.upstream r.headers headers source

section Calls
variable {d : Deployment} {r : Inbound} {chunks : List (Except RelayError (List UInt8))}
  {request : UpstreamRequest}

theorem restContact_names {classified : ClassifiedRest} {out : HeaderMap}
    (h : restContact d.debugAssertions d.decoder d.config r.method r.uri.path r.headers =
      .ok (classified, out)) {name : HeaderName} (hname : out.getAll name ≠ []) :
    name ∈ CALL_NAMES ∨ name = "authorization" ∨ name = "chatgpt-account-id" := by
  obtain ⟨capability, -, -, hout⟩ := restContact_eq_ok h
  unfold restHeaders at hout
  split_ifs at hout with hofficial
  · obtain ⟨_, -, hout⟩ := Except.bind_eq_ok.mp (Outcome.ofExcept_eq_ok.mp hout)
    obtain ⟨_, -, hbuilt⟩ := Except.bind_eq_ok.mp hout
    exact ((buildUpstreamHeaders_shaped hbuilt).confined name hname).imp_left
      (List.mem_append_left _)
  · obtain ⟨validated, hvalidated, hout⟩ := Outcome.bind_eq_ok.mp hout
    obtain ⟨_, -, hout⟩ := Outcome.bind_eq_ok.mp hout
    obtain ⟨built, hbuilt, hout⟩ := Outcome.bind_eq_ok.mp hout
    obtain ⟨_, -, hout⟩ := Outcome.bind_eq_ok.mp hout
    cases hout
    by_cases hcontent : name = "content-type"
    · subst hcontent
      exact .inl (by decide)
    · rw [setCallContentType_getAll hcontent] at hname
      have hshaped := buildPrivateCallHeaders_shaped (Outcome.ofExcept_eq_ok.mp hvalidated) hbuilt
      exact (hshaped.confined name hname).imp_left (List.mem_append_right _)

theorem restPlan_uri {plan : RestPlan} (h : restPlan d r.method r.uri r.headers = .ok plan) :
    plan.uri = r.uri := by
  obtain ⟨classified, -, h⟩ := Outcome.bind_eq_ok.mp h
  obtain ⟨capability, -, h⟩ := Outcome.bind_eq_ok.mp h
  obtain ⟨_, -, h⟩ := Outcome.bind_eq_ok.mp h
  split_ifs at h
  · obtain ⟨out, -, h⟩ := Outcome.bind_eq_ok.mp h
    cases h
    rfl
  · obtain ⟨validated, -, h⟩ := Outcome.bind_eq_ok.mp h
    obtain ⟨_, -, h⟩ := Outcome.bind_eq_ok.mp h
    obtain ⟨out, -, h⟩ := Outcome.bind_eq_ok.mp h
    obtain ⟨_, -, h⟩ := Outcome.bind_eq_ok.mp h
    obtain ⟨_, -, h⟩ := Outcome.bind_eq_ok.mp h
    obtain ⟨_, -, h⟩ := Outcome.bind_eq_ok.mp h
    cases h
    rfl

theorem complete_reaches {plan : RestPlan} {body : List UInt8} (hunder : plan.uri.UnderV1)
    (h : plan.complete d body = .ok request) : Reaches d.config.upstream request.target := by
  unfold RestPlan.complete at h
  split at h
  · obtain ⟨target, htarget, hbuilt⟩ := Except.bind_eq_ok.mp (Outcome.ofExcept_eq_ok.mp h)
    rw [buildRequest_eq_ok hbuilt]
    obtain ⟨rest, hrest⟩ := officialUrl_root hunder htarget
    exact ⟨_, apiRoot_mem _, rest, hrest⟩
  · obtain ⟨parsed, -, h⟩ := Outcome.bind_eq_ok.mp h
    obtain ⟨_, -, h⟩ := Outcome.bind_eq_ok.mp h
    obtain ⟨outbound, -, h⟩ := Outcome.bind_eq_ok.mp h
    obtain ⟨target, htarget, h⟩ := Outcome.bind_eq_ok.mp h
    rw [buildRequest_eq_ok (Outcome.ofExcept_eq_ok.mp h)]
    exact privateCallCreateUrl_reaches htarget

theorem CallFor.confined (h : CallFor d r chunks request) :
    Confined d r CALL_NAMES request.target request.headers := by
  obtain ⟨hroute, hhandle⟩ := h
  obtain ⟨classified, hcontact⟩ := restHandle_contact hhandle
  obtain ⟨capability, hclassified, -⟩ := restContact_eq_ok hcontact
  constructor
  · rw [restHandle_eq] at hhandle
    obtain ⟨plan, hplan, hhandle⟩ := Outcome.bind_eq_ok.mp hhandle
    obtain ⟨_, -, hhandle⟩ := Outcome.bind_eq_ok.mp hhandle
    obtain ⟨body, -, hcomplete⟩ := Outcome.bind_eq_ok.mp hhandle
    refine complete_reaches ?_ hcomplete
    rw [restPlan_uri hplan]
    exact underV1_of_rest hroute
  · intro name hname
    exact restContact_names hcontact hname
  · exact ⟨_, .rest hroute hclassified, restContact_carries hcontact⟩

end Calls

section Sockets
variable {d : Deployment} {clientRequest : ClientRequest} {r : Inbound} {url : Text}
  {headers : HeaderMap}

/-- A map that agrees on the two credential headers carries the same credential. -/
theorem Carries.congr {profile : UpstreamProfile} {client out out' : HeaderMap}
    {source : CredentialSource} (h : Carries profile client out source)
    (hauthorization : out'.getAll "authorization" = out.getAll "authorization")
    (hprotocol : out'.getAll SEC_WEBSOCKET_PROTOCOL = out.getAll SEC_WEBSOCKET_PROTOCOL) :
    Carries profile client out' source := by
  have htokens : credentialTokens out' = credentialTokens out := by
    rw [credentialTokens, credentialTokens, hprotocol]
  cases source with
  | managed =>
    obtain ⟨token, hauth, hvalue, hnone⟩ := h
    exact ⟨token, hauth, by rw [hauthorization, hvalue], htokens.trans hnone⟩
  | client =>
    obtain ⟨value, hsent, hvalue, hnone⟩ := h
    exact ⟨value, hsent, by rw [hauthorization, hvalue], htokens.trans hnone⟩
  | browser =>
    obtain ⟨token, value, hsent, hnone, hvalue, hone⟩ := h
    exact ⟨token, value, hsent, hauthorization.trans hnone, hprotocol.trans hvalue,
      htokens.trans hone⟩

theorem websocketUrl_reaches {classified : ClassifiedWebSocket} (hunder : r.uri.UnderV1)
    (h : websocketUrl d.config r.uri classified = .ok url) : Reaches d.config.upstream url := by
  unfold websocketUrl at h
  split_ifs at h
  · exact officialWebsocketUrl_reaches hunder (Outcome.ofExcept_eq_ok.mp h)
  · obtain ⟨url', hurl, h⟩ := Outcome.bind_eq_ok.mp h
    obtain ⟨_, -, h⟩ := Outcome.bind_eq_ok.mp h
    cases h
    exact privateWebsocketUrl_reaches hurl

theorem sidebandContact_carries {query : Text → Option Text} {target : SidebandTarget}
    {built : HeaderMap} (h : sidebandContact d.debugAssertions d.decoder d.config r.method r.uri.path
      query r.headers = .ok (target, built)) :
    Carries d.config.upstream r.headers built .managed := by
  obtain ⟨adapter, -, -, hmerged⟩ := sidebandContact_eq_ok h
  obtain ⟨value, hvalue, hcontents⟩ := mergeUpstreamHeaders_eq_ok hmerged
  obtain ⟨token, hauth, hbytes⟩ := managedAuthorization_eq_ok hvalue
  refine ⟨token, hauth, ?_, credentialTokens_of_absent ?_⟩
  · rw [hcontents]
    simp [hbytes]
  · rw [hcontents]
    simp [SEC_WEBSOCKET_PROTOCOL, CLIENT_PROTOCOL_HEADERS]

/-- What the library adds of its own is listed, and it touches no credential. -/
theorem names_of_intact {base built : HeaderMap} {allowed : List HeaderName}
    (hintact : ∀ name, headers.getAll name =
      if name ∈ CLIENT_REQUEST_HEADERS then base.getAll name else built.getAll name)
    (hbuilt : ∀ name, built.getAll name ≠ [] →
      name ∈ allowed ∨ name = "authorization" ∨ name = "chatgpt-account-id")
    {name : HeaderName} (hname : headers.getAll name ≠ []) :
    name ∈ CLIENT_REQUEST_HEADERS ++ allowed ∨ name = "authorization" ∨
      name = "chatgpt-account-id" := by
  rw [hintact] at hname
  split_ifs at hname with hown
  · exact .inl (List.mem_append_left _ hown)
  · exact (hbuilt name hname).imp_left (List.mem_append_right _)

theorem HandshakeFor.confined (h : HandshakeFor d clientRequest r url headers) :
    Confined d r SOCKET_NAMES url headers := by
  have hauthorization : "authorization" ∉ CLIENT_REQUEST_HEADERS := by decide
  have hprotocol : SEC_WEBSOCKET_PROTOCOL ∉ CLIENT_REQUEST_HEADERS := by decide
  cases h with
  | @websocket built hroute hhandle hheaders =>
    obtain ⟨⟨classified, built⟩, hcontact, hhandle⟩ := Outcome.bind_eq_ok.mp hhandle
    obtain ⟨_, -, hhandle⟩ := Outcome.bind_eq_ok.mp hhandle
    obtain ⟨url', hurl, hhandle⟩ := Outcome.bind_eq_ok.mp hhandle
    cases hhandle
    obtain ⟨decoded, capability, validated, -, -, -, -, hbuilt⟩ := websocketContact_eq_ok hcontact
    have hshaped : Shaped (.upstreamWebsocket classified.selection none) built.headers :=
      buildUpstreamWebsocketHeaders_shaped hbuilt
    have hintact (name : HeaderName) : headers.getAll name = _ :=
      hheaders ▸ getAll_upstreamRequestHeaders hshaped (clientRequest.own url) name
    constructor
    · exact websocketUrl_reaches (underV1_of_websocket hroute) hurl
    · intro name hname
      refine names_of_intact hintact (fun name hname => ?_) hname
      exact (hshaped.confined name hname).imp_left (List.mem_append_left _)
    · refine ⟨_, .websocket hroute hcontact, (websocketContact_carries hcontact).congr ?_ ?_⟩
      · rw [hintact, if_neg hauthorization]
      · rw [hintact, if_neg hprotocol]
  | @sideband built query target hroute hquery hcontact hurl hheaders =>
    obtain ⟨adapter, -, -, hmerged⟩ := sidebandContact_eq_ok hcontact
    have hintact (name : HeaderName) : headers.getAll name = _ :=
      hheaders ▸ getAll_sidebandRequestHeaders hmerged (clientRequest.own url) name
    constructor
    · rw [hurl]
      exact sidebandUpstreamUrl_reaches _ target
    · intro name hname
      refine names_of_intact hintact (fun name hname => ?_) hname
      exact ((mergeUpstreamHeaders_shaped target hmerged).confined name hname).imp_left
        (List.mem_append_right _)
    · refine ⟨_, .sideband hroute, (sidebandContact_carries hcontact).congr ?_ ?_⟩
      · rw [hintact, if_neg hauthorization]
      · rw [hintact, if_neg hprotocol]

end Sockets

/-- A caller the deployment trusts: one who presents the admission token where the service listens
beyond the loopback, or one who addresses a loopback name; its first `Origin`, when that is readable
text, is an allowed one. -/
structure Authorized (d : Deployment) (r : Inbound) : Prop where
  token : d.config.bind.ip.isLoopback = false → ∃ token, d.config.admissionToken = some token ∧
    token.raw ≠ [] ∧ ∃ name ∈ admissionCandidates d.config.upstream.credentialMode,
      Presents r.headers name token.raw
  host : d.config.bind.ip.isLoopback = true →
    hostAllowed (requestHost d.uris r.headers) d.config = true
  origin : ∀ origin, requestOrigin r.headers = some origin →
    originAllowed d.uris origin (requestHost d.uris r.headers) d.config = true

theorem Admitted.authorized {d : Deployment} {t : List ServiceOutput} {r : Inbound}
    (h : Admitted d t r) : Authorized d r := by
  obtain ⟨-, hadmission, -, horigin⟩ := guard_eq_ok.mp h.guarded
  unfold checkOrigin at horigin
  dsimp only at horigin
  split_ifs at horigin with hblocked
  rw [Bool.and_eq_true, not_and_or, Bool.not_eq_true', Bool.not_eq_true', Bool.not_eq_false,
    Bool.not_eq_false] at hblocked
  constructor
  · intro hremote
    rcases (checkAdmission_eq_ok.mp hadmission).2 with hloopback | ⟨token, htoken, hfound⟩
    · rw [hloopback] at hremote
      cases hremote
    · obtain ⟨hne, name, hdecided, -, hpresents⟩ := presented_any.mp hfound
      exact ⟨token, htoken, hne, name, hdecided.mem, hpresents⟩
  · intro hloopback
    rcases hblocked with hauth | hallowed
    · rw [Config.requiresAdmissionAuth, hloopback] at hauth
      cases hauth
    · exact hallowed
  · intro origin hrequest
    rw [requestOrigin] at hrequest
    rw [hrequest] at horigin
    dsimp only at horigin
    split_ifs at horigin with hallowed
    exact hallowed

section Runs
variable {d : Deployment} {es : List ServiceEvent} {s : Service} {t : List ServiceOutput}

theorem sample_day_contacts : ∃ s t request,
    (Service.machine sampleDeployment).run (Service.start sampleDeployment.config.limits) sampleDay =
        some (s, t) ∧ .call 0 (.contact request) ∈ t ∧ request.body = [7] := by
  obtain ⟨s, t, hrun, hcontact⟩ := TraceMachine.exists_run_of_any
    (show ((Service.machine sampleDeployment).run (Service.start sampleDeployment.config.limits)
      sampleDay).any (fun r => (RestCall.contacts (PermitUser.outputsAt 0
        (Service.callTrace r.2))).any fun q => q.body == [7]) = true by decide +kernel)
  obtain ⟨request, hrequest, hbody⟩ := List.any_eq_true.mp hcontact
  exact ⟨s, t, request, hrun, Service.call_of_contacts hrequest, eq_of_beq hbody⟩

/-- Whatever else the service does, each contact is made for the request of its call or socket,
which the boundary has admitted before the contact and before any drain, and it is the one that the
handler of the request's route computes, with the body that this same call has read. -/
theorem contacts_are_admitted
    (hrun : (Service.machine d).run (Service.start d.config.limits) es = some (s, t)) :
    (∀ front i request back, t = front ++ .call i (.contact request) :: back →
      ∃ r chunks, s.callers[i]? = some r ∧ .call i (.read (some chunks)) ∈ es ∧
        Admitted d front r ∧ CallFor d r chunks request) ∧
    ∀ front i url headers back, t = front ++ .socket i (.contact url headers) :: back →
      ∃ r k clientRequest, s.clients[i]? = some r ∧ .enter k clientRequest ∈ es ∧
        Admitted d front r ∧ HandshakeFor d clientRequest r url headers := by
  have hsound := Service.sound_run hrun
  have hjustified := Service.justified_run hrun
  constructor
  · intro front i request back hsplit
    obtain ⟨r, hr, hadmitted⟩ := hjustified front _ back hsplit
    obtain ⟨r', chunks, hr', hread, hfor⟩ :=
      Service.call_contact hsound (hsplit ▸ List.mem_append_right front List.mem_cons_self)
    obtain rfl := Option.some.inj (hr.symm.trans hr')
    exact ⟨r, chunks, hr, hread, hadmitted, hfor⟩
  · intro front i url headers back hsplit
    obtain ⟨r, hr, hadmitted⟩ := hjustified front _ back hsplit
    obtain ⟨r', k, clientRequest, hr', henter, hfor⟩ :=
      Service.socket_contact hsound (hsplit ▸ List.mem_append_right front List.mem_cons_self)
    obtain rfl := Option.some.inj (hr.symm.trans hr')
    exact ⟨r, k, clientRequest, hr, henter, hadmitted, hfor⟩

theorem sample_contact_is_admitted : ∃ s t front request back r chunks,
    (Service.machine sampleDeployment).run (Service.start sampleDeployment.config.limits) sampleDay =
        some (s, t) ∧
      t = front ++ .call 0 (.contact request) :: back ∧ request.body = [7] ∧
      s.callers[0]? = some r ∧ .call 0 (.read (some chunks)) ∈ sampleDay ∧
      Admitted sampleDeployment front r ∧ CallFor sampleDeployment r chunks request := by
  obtain ⟨s, t, request, hrun, hmem, hbody⟩ := sample_day_contacts
  obtain ⟨front, back, hsplit⟩ := List.append_of_mem hmem
  obtain ⟨r, chunks, hr⟩ := (contacts_are_admitted hrun).1 front 0 request back hsplit
  exact ⟨s, t, front, request, back, r, chunks, hrun, hsplit, hbody, hr⟩

/-- Whatever else the service does, it contacts the upstream for authorized callers only. -/
theorem contacts_are_authorized
    (hrun : (Service.machine d).run (Service.start d.config.limits) es = some (s, t)) :
    (∀ i request, .call i (.contact request) ∈ t →
      ∃ r, s.callers[i]? = some r ∧ Authorized d r) ∧
    ∀ i url headers, .socket i (.contact url headers) ∈ t →
      ∃ r, s.clients[i]? = some r ∧ Authorized d r := by
  have hsound := Service.sound_run hrun
  constructor
  · intro i request hmem
    obtain ⟨r, -, hr, -⟩ := Service.call_contact hsound hmem
    exact ⟨r, hr, (hsound.admitted r (.inl (List.mem_of_getElem? hr))).authorized⟩
  · intro i url headers hmem
    obtain ⟨r, -, -, hr, -⟩ := Service.socket_contact hsound hmem
    exact ⟨r, hr, (hsound.admitted r (.inr (List.mem_of_getElem? hr))).authorized⟩

theorem sample_contact_is_authorized : ∃ s t request r,
    (Service.machine sampleDeployment).run (Service.start sampleDeployment.config.limits) sampleDay =
        some (s, t) ∧
      .call 0 (.contact request) ∈ t ∧ s.callers[0]? = some r ∧ Authorized sampleDeployment r := by
  obtain ⟨s, t, request, hrun, hmem, -⟩ := sample_day_contacts
  obtain ⟨r, hr, hauthorized⟩ := (contacts_are_authorized hrun).1 0 request hmem
  exact ⟨s, t, request, r, hrun, hmem, hr, hauthorized⟩

/-- Whatever else the service does, a contact goes to a configured root, carries listed header names
only, and exactly one credential, from the source the route of its request prescribes. -/
theorem contacts_are_confined
    (hrun : (Service.machine d).run (Service.start d.config.limits) es = some (s, t)) :
    (∀ i request, .call i (.contact request) ∈ t →
      ∃ r, s.callers[i]? = some r ∧ Confined d r CALL_NAMES request.target request.headers) ∧
    ∀ i url headers, .socket i (.contact url headers) ∈ t →
      ∃ r, s.clients[i]? = some r ∧ Confined d r SOCKET_NAMES url headers := by
  have hsound := Service.sound_run hrun
  constructor
  · intro i request hmem
    obtain ⟨r, chunks, hr, -, hfor⟩ := Service.call_contact hsound hmem
    exact ⟨r, hr, hfor.confined⟩
  · intro i url headers hmem
    obtain ⟨r, -, clientRequest, hr, -, hfor⟩ := Service.socket_contact hsound hmem
    exact ⟨r, hr, hfor.confined⟩

theorem sample_contact_is_confined : ∃ s t request r,
    (Service.machine sampleDeployment).run (Service.start sampleDeployment.config.limits) sampleDay =
        some (s, t) ∧
      .call 0 (.contact request) ∈ t ∧ s.callers[0]? = some r ∧
      Confined sampleDeployment r CALL_NAMES request.target request.headers := by
  obtain ⟨s, t, request, hrun, hmem, -⟩ := sample_day_contacts
  obtain ⟨r, hr, hconfined⟩ := (contacts_are_confined hrun).1 0 request hmem
  exact ⟨s, t, request, r, hrun, hmem, hr, hconfined⟩

end Runs

end GptLiveProxy
