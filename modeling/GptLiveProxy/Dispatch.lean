import GptLiveProxy.Boundary
import GptLiveProxy.Connection
import GptLiveProxy.RestCall
import GptLiveProxy.Router

/-!
# From a request to what it starts

Behind the boundary the router picks a handler, and the handler either answers or starts a call or a
connection with everything it has prepared. Nothing is sent here: what a call or a connection sends
later is what the handler of its route computes for the request.
-/

namespace GptLiveProxy
open CharText

/-- A request as the router sees it. `upgrade` is the accept value when an upgrade can be extracted,
and `query` the decoded query, or the rejection of one that cannot be decoded. -/
structure Inbound where
  method : Method
  uri : Uri
  headers : HeaderMap
  upgrade : Option HeaderValue
  query : Except Response (Text → Option Text)

inductive Dispatched
  | answer (response : Response)
  | call (plan : RestPlan)
  | socket (plan : ConnectionPlan)

namespace Inbound

def unknown (r : Inbound) : RelayError := .unknownEndpoint r.method r.uri.path

def extractUpgrade (r : Inbound) : Except RelayError HeaderValue :=
  match r.upgrade with
  | none => .error r.unknown
  | some accept => .ok accept

def kind (r : Inbound) : RequestKind :=
  if routeOf r.uri.path = .protectedFallback then .http else requestKind r.headers

def isProbe (r : Inbound) : Bool :=
  routeOf r.uri.path == .healthz || routeOf r.uri.path == .readyz

end Inbound

section Sockets
variable (d : Deployment) (clientRequest : ClientRequest) (r : Inbound)

def websocketEndpoint (classified : ClassifiedWebSocket) :
    Outcome RelayError (Pump.Entry × Except RelayError Text) :=
  if classified.selection.dialect = .officialGa then
    .ok (.runConnected, officialWebsocketUrl d.config.upstream.baseUrl r.uri)
  else do
    let url ← privateWebsocketUrl d.config.upstream.baseUrl d.config.upstream.usesBackendShape
      classified
    let _ ← privateDialectLabel classified.selection.dialect
    return (.runPrivateWith, .ok url)

def handshakeHeaders (url : Except RelayError Text) (built : HeaderMap) : HeaderMap :=
  match url with
  | .error _ => built
  | .ok url => upstreamRequestHeaders (clientRequest.headers url) built

/-- `realtime::websocket::handle` up to the permit. -/
def websocketPlan : Outcome RelayError ConnectionPlan := do
  let contact ← websocketContact d.decoder d.config r.method r.uri.path r.uri.query r.headers
  let accept ← Outcome.ofExcept r.extractUpgrade
  let endpoint ← websocketEndpoint d r contact.1
  return {
    entry := endpoint.1
    url := endpoint.2
    headers := handshakeHeaders clientRequest endpoint.2 contact.2.headers
    protocols := contact.2.protocols
    request := canonicalizeDownstreamProtocol r.headers contact.2
    accept := accept }

/-- `live::sideband::handle_sideband` up to the extraction of the upgrade. -/
def sidebandChecked (query : Text → Option Text) :
    Outcome RelayError (SidebandTarget × WireAdapter) :=
  match parseSidebandTarget d.decoder r.uri.path query with
  | none => .error r.unknown
  | some target =>
    if !isWebsocketUpgrade r.headers then .error r.unknown
    else do
      let adapter ← Outcome.ofExcept (privateAdapter r.headers target)
      Outcome.ofExcept (validatePrivateSidebandHeaders r.headers adapter)
      Outcome.ofExcept (rejectSubprotocols r.headers d.config.admissionToken)
      let dialect ← sidebandDialect adapter
      Outcome.ofExcept (requireSupport d.config.upstream (.privateSidebandAlias dialect))
      return (target, adapter)

/-- The map sent upstream, merged once the upgrade is there. -/
def sidebandMerged (checked : SidebandTarget × WireAdapter) : Outcome RelayError HeaderMap := do
  let out ← mergeUpstreamHeaders d.debugAssertions r.headers d.config.upstream (some checked.2)
  Outcome.debugAssert d.debugAssertions (checked.2.sidebandJoin = checked.1.joinStyle)
  return out

def sidebandPlan (query : Text → Option Text) : Outcome RelayError ConnectionPlan := do
  let checked ← sidebandChecked d r query
  let accept ← Outcome.ofExcept r.extractUpgrade
  let out ← sidebandMerged d r checked
  let url := sidebandUpstreamUrl d.config.upstream.baseUrl d.config.upstream.usesBackendShape
    checked.1
  return {
    entry := .runPrivateWith
    url := .ok url
    headers := sidebandRequestHeaders (clientRequest.headers url) out
    protocols := ⟨[], none, none, false, false⟩
    request := r.headers
    accept := accept }

/-- What the routed handler does up to the permit. -/
def dispatch : Outcome RelayError Dispatched :=
  match routeOf r.uri.path with
  | .rest => do
    let plan ← restPlan d r.method r.uri r.headers
    return .call plan
  | .websocket => do
    let plan ← websocketPlan d clientRequest r
    return .socket plan
  | .sideband =>
    match r.query with
    | .error response => .ok (.answer response)
    | .ok query => do
      let plan ← sidebandPlan d clientRequest r query
      return .socket plan
  | _ => .error r.unknown

end Sockets

section Plans
variable {d : Deployment} {clientRequest : ClientRequest} {r : Inbound}

theorem sidebandContact_eq (query : Text → Option Text) :
    sidebandContact d.debugAssertions d.decoder d.config r.method r.uri.path query r.headers = (do
      let checked ← sidebandChecked d r query
      let out ← sidebandMerged d r checked
      return (checked.1, out)) := by
  unfold sidebandContact sidebandChecked
  cases parseSidebandTarget d.decoder r.uri.path query with
  | none => rfl
  | some target =>
    dsimp only
    split_ifs
    · rfl
    · simp only [Outcome.bind_assoc, Outcome.pure_eq_ok, Outcome.ok_bind, sidebandMerged]

/-- A contact that the handler of a socket route computes for the request. -/
inductive HandshakeFor (d : Deployment) (clientRequest : ClientRequest) (r : Inbound) (url : Text)
    (headers : HeaderMap) : Prop
  | websocket {built : WebSocketHeaders} (hroute : routeOf r.uri.path = .websocket)
      (hhandle : websocketHandle d.decoder d.config r.method r.uri r.headers ⟨true, true⟩ =
        .ok (url, built))
      (hheaders : headers = upstreamRequestHeaders (clientRequest.headers url) built.headers)
  | sideband {built : HeaderMap} {query : Text → Option Text} {target : SidebandTarget}
      (hroute : routeOf r.uri.path = .sideband) (hquery : r.query = .ok query)
      (hcontact : sidebandContact d.debugAssertions d.decoder d.config r.method r.uri.path query
        r.headers = .ok (target, built))
      (hurl : url = sidebandUpstreamUrl d.config.upstream.baseUrl
        d.config.upstream.usesBackendShape target)
      (hheaders : headers = sidebandRequestHeaders (clientRequest.headers url) built)

/-- The request that the REST handler sends upstream for this one, whose body has come so. -/
def CallFor (d : Deployment) (r : Inbound) (chunks : List (Except RelayError (List UInt8)))
    (request : UpstreamRequest) : Prop :=
  routeOf r.uri.path = .rest ∧
    restHandle d.debugAssertions d.debugAssertions d.decoder d.libraries d.config r.method r.uri
      r.headers ⟨true, some chunks⟩ = .ok request

theorem dispatch_call {plan : RestPlan} (h : dispatch d clientRequest r = .ok (.call plan)) :
    routeOf r.uri.path = .rest ∧ restPlan d r.method r.uri r.headers = .ok plan := by
  unfold dispatch at h
  split at h
  next hroute =>
    obtain ⟨plan', hplan, h⟩ := Outcome.bind_eq_ok.mp h
    cases h
    exact ⟨hroute, hplan⟩
  next =>
    obtain ⟨_, -, h⟩ := Outcome.bind_eq_ok.mp h
    cases h
  next =>
    split at h
    · cases h
    · obtain ⟨_, -, h⟩ := Outcome.bind_eq_ok.mp h
      cases h
  next => cases h

theorem dispatch_socket {plan : ConnectionPlan} (h : dispatch d clientRequest r = .ok (.socket plan)) :
    (routeOf r.uri.path = .websocket ∧ websocketPlan d clientRequest r = .ok plan) ∨
      routeOf r.uri.path = .sideband ∧ ∃ query, r.query = .ok query ∧
        sidebandPlan d clientRequest r query = .ok plan := by
  unfold dispatch at h
  split at h
  next =>
    obtain ⟨_, -, h⟩ := Outcome.bind_eq_ok.mp h
    cases h
  next hroute =>
    obtain ⟨plan', hplan, h⟩ := Outcome.bind_eq_ok.mp h
    cases h
    exact .inl ⟨hroute, hplan⟩
  next hroute =>
    split at h
    next => cases h
    next query hquery =>
      obtain ⟨plan', hplan, h⟩ := Outcome.bind_eq_ok.mp h
      cases h
      exact .inr ⟨hroute, query, hquery, hplan⟩
  next => cases h

theorem callFor_of_plan {plan : RestPlan} {chunks : List (Except RelayError (List UInt8))}
    {body : List UInt8} {request : UpstreamRequest}
    (h : dispatch d clientRequest r = .ok (.call plan))
    (hread : readCapped d.config.limits.requestBytes [] chunks = .ok body)
    (hcomplete : plan.complete d body = .ok request) : CallFor d r chunks request := by
  obtain ⟨hroute, hplan⟩ := dispatch_call h
  refine ⟨hroute, ?_⟩
  have hbody : readRequestBody d.config.limits ⟨true, some chunks⟩ = .ok body := hread
  rw [restHandle_eq, hplan, Outcome.ok_bind, hbody]
  exact hcomplete

theorem websocketEndpoint_eq_ok {classified : ClassifiedWebSocket} {entry : Pump.Entry}
    {url : Text} (h : websocketEndpoint d r classified = .ok (entry, .ok url)) :
    websocketUrl d.config r.uri classified = .ok url := by
  unfold websocketEndpoint at h
  unfold websocketUrl
  split_ifs at h ⊢ with hofficial
  · obtain ⟨-, hurl⟩ := Prod.mk.inj (Outcome.ok.inj h)
    rw [hurl]
    rfl
  · obtain ⟨url', hurl, h⟩ := Outcome.bind_eq_ok.mp h
    obtain ⟨label, hlabel, h⟩ := Outcome.bind_eq_ok.mp h
    cases h
    rw [hurl, Outcome.ok_bind, hlabel]
    rfl

theorem handshakeFor_of_plan {plan : ConnectionPlan} {url : Text}
    (h : dispatch d clientRequest r = .ok (.socket plan)) (hurl : plan.url = .ok url) :
    HandshakeFor d clientRequest r url plan.headers := by
  rcases dispatch_socket h with ⟨hroute, hplan⟩ | ⟨hroute, query, hquery, hplan⟩
  · obtain ⟨contact, hcontact, hplan⟩ := Outcome.bind_eq_ok.mp hplan
    obtain ⟨accept, -, hplan⟩ := Outcome.bind_eq_ok.mp hplan
    obtain ⟨⟨entry, endpoint⟩, hendpoint, hplan⟩ := Outcome.bind_eq_ok.mp hplan
    cases hplan
    obtain rfl : endpoint = .ok url := hurl
    refine .websocket hroute ?_ rfl
    rw [websocketHandle, hcontact, Outcome.ok_bind, websocketEndpoint_eq_ok hendpoint]
    rfl
  · obtain ⟨checked, hchecked, hplan⟩ := Outcome.bind_eq_ok.mp hplan
    obtain ⟨accept, -, hplan⟩ := Outcome.bind_eq_ok.mp hplan
    obtain ⟨out, hout, hplan⟩ := Outcome.bind_eq_ok.mp hplan
    cases hplan
    cases hurl
    refine .sideband hroute hquery ?_ rfl rfl
    rw [sidebandContact_eq, hchecked, Outcome.ok_bind, hout]
    rfl

end Plans

section Release
variable {d : Deployment} {clientRequest : ClientRequest} {r : Inbound}

theorem websocketPlan_safe (d : Deployment) (clientRequest : ClientRequest) (r : Inbound) :
    (websocketPlan d clientRequest r).Safe := by
  apply (websocketContact_safe _ _ _ _ _ _).bind
  intro contact hcontact
  obtain ⟨decoded, _, _, hclassified, -⟩ := websocketContact_eq_ok hcontact
  apply (Outcome.safe_ofExcept _).bind
  intro _ _
  refine Outcome.Safe.bind ?_ fun _ _ => Outcome.safe_ok _
  unfold websocketEndpoint
  split_ifs with hofficial
  · exact Outcome.safe_ok _
  · have hprivate := (classifyWebsocket_private hclassified hofficial).1
    apply (privateWebsocketUrl_safe _ _ hprivate).bind
    intro _ _
    exact (privateDialectLabel_safe hofficial).bind fun _ _ => Outcome.safe_ok _

theorem sidebandPlan_safe (hrelease : d.debugAssertions = false) (query : Text → Option Text) :
    (sidebandPlan d clientRequest r query).Safe := by
  have hcontact : (sidebandContact d.debugAssertions d.decoder d.config r.method r.uri.path query
      r.headers).Safe := by
    apply sidebandContact_safe
    intro target adapter _ _ hassert
    rw [hrelease] at hassert
    cases hassert
  rw [sidebandContact_eq] at hcontact
  apply hcontact.of_bind.bind
  intro checked _
  apply (Outcome.safe_ofExcept _).bind
  intro _ _
  refine Outcome.Safe.bind ?_ fun _ _ => Outcome.safe_ok _
  rw [sidebandMerged, hrelease]
  refine (mergeUpstreamHeaders_safe ?_).bind fun _ _ => Outcome.safe_ok _
  intro hassert
  cases hassert

/-- In a build without assertions no request makes its handler panic. -/
theorem dispatch_safe (hrelease : d.debugAssertions = false) : (dispatch d clientRequest r).Safe := by
  unfold dispatch
  split
  · exact (restPlan_safe hrelease _ _ _).bind fun _ _ => Outcome.safe_ok _
  · exact (websocketPlan_safe d clientRequest r).bind fun _ _ => Outcome.safe_ok _
  · split
    · exact Outcome.safe_ok _
    · exact (sidebandPlan_safe hrelease _).bind fun _ _ => Outcome.safe_ok _
  · exact Outcome.safe_error _

end Release

end GptLiveProxy
