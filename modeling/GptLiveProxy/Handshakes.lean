import GptLiveProxy.CredentialDomain
import GptLiveProxy.HeaderBuilders
import GptLiveProxy.JoinHeaders
import GptLiveProxy.ProtocolAcceptance
import GptLiveProxy.ResponseHeaders

/-!
# The two handshakes of a socket

Upstream, the built headers join those that the WebSocket library puts into every client request.
Downstream, the request is canonicalized before the upgrade is extracted, and the upgrade answers
with a subprotocol only where the upstream has selected one. Each side's protocol headers survive
the headers of the other.
-/

namespace GptLiveProxy
open CharText OrderedMultimap

def CLIENT_REQUEST_HEADERS : List HeaderName :=
  ["host", "connection", "upgrade", "sec-websocket-version", "sec-websocket-key"]

/-- `realtime::websocket::upstream_request`: the built headers are appended. -/
def upstreamRequestHeaders (base built : HeaderMap) : HeaderMap := base.appendEntries built

/-- The request of a sideband, where the built headers are inserted. -/
def sidebandRequestHeaders (base built : HeaderMap) : HeaderMap := base.insertEntries built

/-- What the WebSocket library makes of a URL, with a key of its own choice: its own headers only. -/
structure ClientRequest where
  headers : Text → HeaderMap
  own : ∀ url name, (headers url).getAll name ≠ [] → name ∈ CLIENT_REQUEST_HEADERS

def canonicalizeDownstreamProtocol (headers : HeaderMap) (built : WebSocketHeaders) : HeaderMap :=
  let headers := headers.remove SEC_WEBSOCKET_PROTOCOL
  match built.protocols.upstreamHeader with
  | none => headers
  | some value => headers.insert SEC_WEBSOCKET_PROTOCOL value

def requestedProtocols (headers : HeaderMap) : List Text :=
  ((headers.getAll SEC_WEBSOCKET_PROTOCOL).filterMap HeaderValue.toStr).flatMap fun raw =>
    (raw.splitOn ',').map trim

def upgradeProtocol (headers : HeaderMap) (supported : List Text) : Option Text :=
  supported.find? fun protocol => (requestedProtocols headers).contains protocol

def switchingHeaders (accept : HeaderValue) (protocol : Option Text) : HeaderMap :=
  let headers := ((empty.append "connection" (.fromStatic "upgrade".toList)).append "upgrade"
    (.fromStatic "websocket".toList)).append "sec-websocket-accept" accept
  match protocol with
  | none => headers
  | some protocol => headers.append SEC_WEBSOCKET_PROTOCOL (.fromStatic protocol)

/-- `realtime::websocket::public_response`, on the request's headers and the upstream's answer. -/
def publicResponse (request : HeaderMap) (accept : HeaderValue) (selected : Option Text)
    (upstream : HeaderMap) : Response where
  status := 101
  headers :=
    let protocol := if selected.isSome then upgradeProtocol request [REALTIME] else none
    (switchingHeaders accept protocol).extend (websocketResponseHeaders upstream)
  body := .empty

def privateResponse (accept : HeaderValue) : Response where
  status := 101
  headers := switchingHeaders accept none
  body := .empty

section Upstream
variable {base : HeaderMap}

theorem built_outside {builder : HeaderBuilder} {built : HeaderMap} (h : Shaped builder built)
    {name : HeaderName} (hname : name ∈ CLIENT_REQUEST_HEADERS) : built.getAll name = [] := by
  by_contra hpresent
  have houtside : ∀ name ∈ CLIENT_REQUEST_HEADERS, name ∉ REQUEST_HEADER_ALLOWLIST ∧
      name ∉ SEC_WEBSOCKET_PROTOCOL :: WEBSOCKET_METADATA_HEADERS ∧
      name ∉ "content-type" :: CLIENT_PROTOCOL_HEADERS ∧ name ≠ "authorization" ∧
      name ≠ "chatgpt-account-id" := by decide
  obtain ⟨hrest, hsocket, hcall, hcredential, haccount⟩ := houtside name hname
  rcases h.confined name hpresent with hlisted | rfl | rfl
  · cases builder with
    | upstream selection => exact hrest hlisted
    | upstreamWebsocket selection admission => exact hsocket hlisted
    | privateCall selection => exact hcall hlisted
    | sideband target => exact hcall (List.mem_cons_of_mem _ hlisted)
  · exact hcredential rfl
  · exact haccount rfl

theorem getAll_upstreamRequestHeaders {builder : HeaderBuilder} {built : HeaderMap}
    (h : Shaped builder built) (hbase : ∀ name, base.getAll name ≠ [] → name ∈ CLIENT_REQUEST_HEADERS)
    (name : HeaderName) : (upstreamRequestHeaders base built).getAll name =
      if name ∈ CLIENT_REQUEST_HEADERS then base.getAll name else built.getAll name := by
  rw [upstreamRequestHeaders, getAll_appendEntries]
  split_ifs with hname
  · rw [built_outside h hname, List.append_nil]
  · rw [not_imp_comm.mp (hbase name) hname, List.nil_append]

theorem mergeUpstreamHeaders_single {debugAssertions : Bool} {client built : HeaderMap}
    {profile : UpstreamProfile} {adapter : Option WireAdapter}
    (h : mergeUpstreamHeaders debugAssertions client profile adapter = .ok built)
    (name : HeaderName) : (built.getAll name).length ≤ 1 := by
  obtain ⟨value, -, hcontents⟩ := mergeUpstreamHeaders_eq_ok h
  rw [hcontents]
  unfold protocolValues accountValues
  split_ifs
  all_goals first | exact length_toList_le _ | simp

theorem getAll_sidebandRequestHeaders {debugAssertions : Bool} {client built : HeaderMap}
    {profile : UpstreamProfile} {adapter : Option WireAdapter}
    (h : mergeUpstreamHeaders debugAssertions client profile adapter = .ok built)
    (hbase : ∀ name, base.getAll name ≠ [] → name ∈ CLIENT_REQUEST_HEADERS) (name : HeaderName) :
    (sidebandRequestHeaders base built).getAll name =
      if name ∈ CLIENT_REQUEST_HEADERS then base.getAll name else built.getAll name := by
  have hshaped := mergeUpstreamHeaders_shaped (.framelessPath []) h
  have hsingle := mergeUpstreamHeaders_single h name
  rw [sidebandRequestHeaders, getAll_insertEntries]
  by_cases hname : name ∈ CLIENT_REQUEST_HEADERS
  · rw [if_pos (built_outside hshaped hname), if_pos hname]
  · rw [if_neg hname]
    match hvalues : built.getAll name with
    | [] =>
      rw [if_pos rfl]
      exact not_imp_comm.mp (hbase name) hname
    | [value] => rfl
    | _ :: _ :: _ =>
      rw [hvalues] at hsingle
      simp only [List.length_cons] at hsingle
      omega

end Upstream

section Downstream
variable {headers upstream : HeaderMap} {built : WebSocketHeaders}

theorem getAll_canonicalizeDownstreamProtocol :
    (canonicalizeDownstreamProtocol headers built).getAll SEC_WEBSOCKET_PROTOCOL =
      built.protocols.upstreamHeader.toList := by
  unfold canonicalizeDownstreamProtocol
  cases built.protocols.upstreamHeader with
  | none => simp [getAll_remove]
  | some value => simp

theorem getAll_switchingHeaders (accept : HeaderValue) (protocol : Option Text) :
    (switchingHeaders accept protocol).getAll SEC_WEBSOCKET_PROTOCOL =
      protocol.toList.map HeaderValue.fromStatic := by
  cases protocol with
  | none => rfl
  | some protocol => rfl

theorem switchingHeaders_names {accept : HeaderValue} {protocol : Option Text} {name : HeaderName}
    (h : (switchingHeaders accept protocol).getAll name ≠ []) :
    name ∈ ["connection", "upgrade", "sec-websocket-accept", SEC_WEBSOCKET_PROTOCOL] := by
  by_contra hother
  simp only [List.mem_cons, List.not_mem_nil, or_false, not_or] at hother
  obtain ⟨hconnection, hupgrade, haccept, hprotocol⟩ := hother
  apply h
  cases protocol with
  | none => simp [switchingHeaders, getAll_append, Ne.symm hconnection, Ne.symm hupgrade,
      Ne.symm haccept, getAll_empty]
  | some protocol => simp [switchingHeaders, getAll_append, Ne.symm hconnection, Ne.symm hupgrade,
      Ne.symm haccept, Ne.symm hprotocol, getAll_empty]

theorem switchingHeaders_unrelayed {accept : HeaderValue} {protocol : Option Text}
    {name : HeaderName} (h : isRelayedName WEBSOCKET_RESPONSE_HEADER_ALLOWLIST name = true) :
    (switchingHeaders accept protocol).getAll name = [] := by
  by_contra hpresent
  have hunrelayed : ∀ name ∈
      ["connection", "upgrade", "sec-websocket-accept", SEC_WEBSOCKET_PROTOCOL],
      isRelayedName WEBSOCKET_RESPONSE_HEADER_ALLOWLIST name = false := by decide
  rw [hunrelayed name (switchingHeaders_names hpresent)] at h
  cases h

theorem trim_piece {piece : Text} (h : trimMatches isOws piece = REALTIME) :
    trim piece = REALTIME := by
  obtain ⟨front, back, hpiece, hfront, hback⟩ := exists_pad_of_trimMatches isOws piece
  have hspace : ∀ c, isOws c = true → isWhitespace c = true := by
    intro c hc
    simp only [isOws, Bool.or_eq_true, beq_iff_eq] at hc
    rcases hc with rfl | rfl
    all_goals decide
  rw [hpiece, h, trim]
  apply trimMatches_pad
  · exact fun c hc => hspace c (hfront c hc)
  · exact fun c hc => hspace c (hback c hc)
  · have hhead : REALTIME.head? = some 'r' := by decide
    intro c hc
    obtain rfl : 'r' = c := Option.some.inj (hhead.symm.trans hc)
    decide
  · have hlast : REALTIME.getLast? = some 'e' := by decide
    intro c hc
    obtain rfl : 'e' = c := Option.some.inj (hlast.symm.trans hc)
    decide

theorem requested_of_offered (headers : HeaderMap) {admission : Option BearerToken} {inbound : HeaderMap}
    (hparsed : parseProtocols inbound admission = .ok built.protocols)
    (hoffered : REALTIME ∈ built.protocols.offered) :
    REALTIME ∈ requestedProtocols (canonicalizeDownstreamProtocol headers built) := by
  obtain ⟨hacceptable, heq⟩ := parseProtocols_iff.mp hparsed
  rw [heq] at hoffered
  have htokens : REALTIME ∈ fieldTokens (inbound.getAll SEC_WEBSOCKET_PROTOCOL) := hoffered
  obtain ⟨value, hvalue, hread⟩ :=
    parsedOf_upstreamHeader hacceptable.offered (List.ne_nil_of_mem htokens)
  have hsame := (acceptable_canonical hacceptable hread (List.ne_nil_of_mem htokens)).1
  rw [← hsame, fieldTokens_singleton hread] at htokens
  obtain ⟨piece, hpiece, htrim⟩ := List.mem_map.mp htokens
  rw [requestedProtocols, getAll_canonicalizeDownstreamProtocol, heq, hvalue]
  simp only [Option.toList_some, List.filterMap_cons, hread, List.filterMap_nil,
    List.flatMap_singleton]
  exact List.mem_map.mpr ⟨piece, hpiece, trim_piece htrim⟩

theorem upgradeProtocol_selected (headers : HeaderMap) {admission : Option BearerToken} {inbound : HeaderMap}
    {selected : Option Text} (hparsed : parseProtocols inbound admission = .ok built.protocols)
    (hselected : validateSelected upstream built.protocols = .ok selected) :
    (if selected.isSome then
      upgradeProtocol (canonicalizeDownstreamProtocol headers built) [REALTIME] else none) =
      selected := by
  rcases validateSelected_cases upstream built.protocols with h | h | ⟨h, hoffered⟩
  · rw [hselected] at h
    cases h
  · rw [hselected] at h
    cases h
    rfl
  · rw [hselected] at h
    cases h
    have hrequested := requested_of_offered headers hparsed hoffered
    simp only [Option.isSome_some, if_true]
    rw [upgradeProtocol, List.find?_singleton,
      List.contains_iff_mem.mpr hrequested]
    rfl

theorem validateSelected_congr {a b : HeaderMap} (h : AgreeWhere (· = SEC_WEBSOCKET_PROTOCOL) a b)
    (offered : ParsedProtocols) : validateSelected a offered = validateSelected b offered := by
  have hvalues := h SEC_WEBSOCKET_PROTOCOL rfl
  unfold validateSelected
  match ha : a.getAll SEC_WEBSOCKET_PROTOCOL, hb : b.getAll SEC_WEBSOCKET_PROTOCOL with
  | [], [] => rfl
  | [v], [w] =>
    rw [ha, hb] at hvalues
    have hread : v.toStr = w.toStr := HeaderValue.toStr_congr (List.cons.inj hvalues).1
    simp only [hread]
  | _ :: _ :: _, _ :: _ :: _ => rfl
  | [], _ :: _ => simp [ha, hb] at hvalues
  | _ :: _, [] => simp [ha, hb] at hvalues
  | [_], _ :: _ :: _ => simp [ha, hb] at hvalues
  | _ :: _ :: _, [_] => simp [ha, hb] at hvalues

theorem getAll_publicResponse (request : HeaderMap) (accept : HeaderValue) (selected : Option Text)
    (name : HeaderName) : (publicResponse request accept selected upstream).headers.getAll name =
      if isRelayedName WEBSOCKET_RESPONSE_HEADER_ALLOWLIST name = true then upstream.getAll name
      else (switchingHeaders accept
        (if selected.isSome then upgradeProtocol request [REALTIME] else none)).getAll name := by
  rw [publicResponse]
  dsimp only
  rw [getAll_extend, getAll_websocketResponseHeaders]
  by_cases hname : isRelayedName WEBSOCKET_RESPONSE_HEADER_ALLOWLIST name = true
  · rw [if_pos hname, if_pos hname, switchingHeaders_unrelayed hname]
    split_ifs with hpresent
    · rfl
    · exact (not_not.mp hpresent).symm
  · rw [if_neg hname, if_neg hname]
    exact if_neg (not_not.mpr rfl)

theorem publicResponse_sameAs {a b : HeaderMap}
    (h : AgreeWhere (isRelayedName WEBSOCKET_RESPONSE_HEADER_ALLOWLIST · = true) a b)
    (request : HeaderMap) (accept : HeaderValue) (selected : Option Text) :
    (publicResponse request accept selected a).SameAs (publicResponse request accept selected b) where
  status := rfl
  headers := by
    intro name
    rw [getAll_publicResponse, getAll_publicResponse]
    split_ifs with hname
    · exact h name hname
    · rfl
    · rfl
  body := rfl

/-- The relayed headers of an upstream answer, and the subprotocol it selects for a switch, are all
that a client is told of it. -/
theorem upstream_answers_confined (a b : HeaderMap) (status : UInt16) (body : List UInt8) :
    (AgreeWhere (isRelayedName RESPONSE_HEADER_ALLOWLIST · = true) a b →
      (relayResponse ⟨status, a, body⟩).SameAs (relayResponse ⟨status, b, body⟩)) ∧
    (AgreeWhere (· ∈ RELAY_HEADERS) a b →
      (relayCallResponse ⟨status, a, body⟩).SameAs (relayCallResponse ⟨status, b, body⟩)) ∧
    (AgreeWhere (fun name => isRelayedName WEBSOCKET_RESPONSE_HEADER_ALLOWLIST name = true ∨
        name = "retry-after") a b →
      (rejectedResponse status a).SameAs (rejectedResponse status b)) ∧
    (AgreeWhere (isRelayedName WEBSOCKET_RESPONSE_HEADER_ALLOWLIST · = true) a b →
      ∀ request accept selected, (publicResponse request accept selected a).SameAs
        (publicResponse request accept selected b)) ∧
    (AgreeWhere (· = SEC_WEBSOCKET_PROTOCOL) a b → ∀ offered,
      validateSelected a offered = validateSelected b offered) ∧
    (∀ name, isRelayedName RESPONSE_HEADER_ALLOWLIST name = false →
      (relayResponse ⟨status, a, body⟩).headers.getAll name = [] ∧
        (relayCallResponse ⟨status, a, body⟩).headers.getAll name = [] ∧
        (rejectedResponse status a).headers.getAll name = [] ∧
        ∀ request accept selected,
          (publicResponse request accept selected a).headers.getAll name =
            (switchingHeaders accept (if selected.isSome then
              upgradeProtocol request [REALTIME] else none)).getAll name) ∧
    ∀ request accept selected,
      (publicResponse request accept selected a).headers.getAll SEC_WEBSOCKET_PROTOCOL =
        (if selected.isSome then upgradeProtocol request [REALTIME] else none).toList.map
          HeaderValue.fromStatic := by
  refine ⟨fun h => relayResponse_sameAs h status body, fun h => relayCallResponse_sameAs h status body,
    fun h => rejectedResponse_sameAs h status, publicResponse_sameAs, validateSelected_congr, ?_, ?_⟩
  · intro name hname
    obtain ⟨hrest, hcall, hrejected⟩ := unrelayed_absent hname a status body
    have hsocket : ¬isRelayedName WEBSOCKET_RESPONSE_HEADER_ALLOWLIST name = true := by
      intro hrelayed
      rw [isRelayedName_of_websocket hrelayed] at hname
      cases hname
    refine ⟨hrest, hcall, hrejected, fun request accept selected => ?_⟩
    rw [getAll_publicResponse, if_neg hsocket]
  · intro request accept selected
    rw [getAll_publicResponse, if_neg (by decide), getAll_switchingHeaders]

end Downstream

section Contacts
variable {decoder : PercentDecoder} {config : Config} {method : Method} {path : Text}
  {headers base : HeaderMap}

/-- Whichever way the built headers join the client request, its own headers stay as they are and
every other name carries what was built. -/
theorem upstream_handshake_intact (debugAssertions : Bool)
    (hbase : ∀ name, base.getAll name ≠ [] → name ∈ CLIENT_REQUEST_HEADERS) :
    (∀ query classified built,
      websocketContact decoder config method path query headers = .ok (classified, built) →
        ∀ name, (upstreamRequestHeaders base built.headers).getAll name =
          if name ∈ CLIENT_REQUEST_HEADERS then base.getAll name
          else built.headers.getAll name) ∧
    ∀ query target built,
      sidebandContact debugAssertions decoder config method path query headers =
          .ok (target, built) →
        ∀ name, (sidebandRequestHeaders base built).getAll name =
          if name ∈ CLIENT_REQUEST_HEADERS then base.getAll name else built.getAll name := by
  constructor
  · intro query classified built h name
    obtain ⟨decoded, capability, validated, -, -, -, hvalidated, hbuilt⟩ := websocketContact_eq_ok h
    have hshaped : Shaped (.upstreamWebsocket classified.selection none) built.headers :=
      buildUpstreamWebsocketHeaders_shaped hbuilt
    exact getAll_upstreamRequestHeaders hshaped hbase name
  · intro query target built h name
    obtain ⟨adapter, -, -, hmerged⟩ := sidebandContact_eq_ok h
    exact getAll_sidebandRequestHeaders hmerged hbase name

/-- Both sides of an official socket see one negotiation: the two requests carry the same offer, the
client's switch names the subprotocol that the upstream has selected, the rest of the switch is the
proxy's, and the upstream adds the names of its allowlist only. -/
theorem negotiation_agrees {query : Option Text} {classified : ClassifiedWebSocket}
    {built : WebSocketHeaders}
    (h : websocketContact decoder config method path query headers = .ok (classified, built)) :
    (canonicalizeDownstreamProtocol headers built).getAll SEC_WEBSOCKET_PROTOCOL =
        built.headers.getAll SEC_WEBSOCKET_PROTOCOL ∧
      ∀ upstream selected accept, validateSelected upstream built.protocols = .ok selected →
        ∀ name, (publicResponse (canonicalizeDownstreamProtocol headers built) accept selected
            upstream).headers.getAll name =
          if isRelayedName WEBSOCKET_RESPONSE_HEADER_ALLOWLIST name = true then
            upstream.getAll name
          else (switchingHeaders accept selected).getAll name := by
  obtain ⟨decoded, capability, validated, -, -, -, hvalidated, hbuilt⟩ := websocketContact_eq_ok h
  have hparsed := (validateUpstreamWebsocketHeaders_eq_ok hvalidated).1
  obtain ⟨hprotocols, values, -, hcontents⟩ := buildUpstreamWebsocketHeaders_eq_ok hbuilt
  rw [← hprotocols] at hparsed
  constructor
  · rw [getAll_canonicalizeDownstreamProtocol, hcontents, if_pos rfl, hprotocols]
  · intro upstream selected accept hselected name
    have hprotocol := upgradeProtocol_selected headers hparsed hselected
    rw [getAll_publicResponse, hprotocol]

end Contacts

section Instances

def clientRequest : HeaderMap :=
  headersOf [("host", "api.openai.com".toList), ("upgrade", "websocket".toList)]

theorem clientRequest_names (name : HeaderName) (h : clientRequest.getAll name ≠ []) :
    name ∈ CLIENT_REQUEST_HEADERS := by
  by_contra hother
  simp only [CLIENT_REQUEST_HEADERS, List.mem_cons, List.not_mem_nil, or_false, not_or] at hother
  apply h
  have hhost : ("host" == name) = false := beq_false_of_ne (Ne.symm hother.1)
  have hupgrade : ("upgrade" == name) = false := beq_false_of_ne (Ne.symm hother.2.2.1)
  simp_all [clientRequest, headersOf, getAll]

theorem sideband_handshake_is_intact : ∃ target built,
    sidebandContact true .standard publicManaged .get "/v1/realtime/calls/rtc_1".toList
        (fun _ => none) (joinHeaders []) = .ok (target, built) ∧
      (sidebandRequestHeaders clientRequest built).getAll "host" = clientRequest.getAll "host" := by
  obtain ⟨⟨target, built⟩, hbuilt, -⟩ := Outcome.exists_of_okAnd
    (show Outcome.okAnd (fun _ => true) (sidebandContact true .standard publicManaged .get
      "/v1/realtime/calls/rtc_1".toList (fun _ => none) (joinHeaders [])) = true by decide +kernel)
  refine ⟨target, built, hbuilt, ?_⟩
  have hintact := (upstream_handshake_intact true clientRequest_names).2 _ target built hbuilt "host"
  rwa [if_pos (by decide)] at hintact

theorem browser_negotiation_agrees : ∃ classified built,
    websocketContact .standard clientKeys .get "/v1/realtime".toList (some "model=m".toList)
        browserHandshake = .ok (classified, built) ∧
      (canonicalizeDownstreamProtocol browserHandshake built).getAll SEC_WEBSOCKET_PROTOCOL =
        built.headers.getAll SEC_WEBSOCKET_PROTOCOL := by
  obtain ⟨⟨classified, built⟩, hbuilt, -⟩ := Outcome.exists_of_okAnd
    (show Outcome.okAnd (fun _ => true) (websocketContact .standard clientKeys .get
      "/v1/realtime".toList (some "model=m".toList) browserHandshake) = true by decide +kernel)
  exact ⟨classified, built, hbuilt, (negotiation_agrees hbuilt).1⟩

end Instances

end GptLiveProxy
