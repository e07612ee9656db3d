import GptLiveProxy.Exchange
import GptLiveProxy.HeaderNoninterference
import GptLiveProxy.MultimapCopies
import GptLiveProxy.Responses

/-!
# What of an upstream answer reaches the client

A relayed response carries the headers of its allowlist and no others, whoever the upstream is and
whatever it sets. A rejected handshake keeps its status and a few headers; its body is the proxy's
own. Two answers that differ only outside the allowlist are relayed alike.
-/

namespace GptLiveProxy
open CharText OrderedMultimap

def RESPONSE_HEADER_ALLOWLIST : List HeaderName :=
  ["content-type", "location", "retry-after", "x-request-id", "openai-processing-ms",
    "openai-version"]

def WEBSOCKET_RESPONSE_HEADER_ALLOWLIST : List HeaderName :=
  ["x-request-id", "openai-processing-ms", "openai-version"]

/-- The response headers a private call is relayed with. -/
def RELAY_HEADERS : List HeaderName := ["content-type", "location"]

def REJECTED_BODY : Text :=
  ("\x7b\"error\":\x7b\"message\":\"Realtime upstream WebSocket handshake rejected\"," ++
    "\"type\":\"server_error\",\"code\":\"upstream_websocket_rejected\"\x7d\x7d").toList

/-- A listed name, or one of the rate-limit family. -/
def isRelayedName (allowlist : List HeaderName) (name : HeaderName) : Bool :=
  allowlist.contains name || "x-ratelimit-".toList.isPrefixOf name.toList

def responseHeaders (upstream : HeaderMap) : HeaderMap :=
  upstream.copyKeys (isRelayedName RESPONSE_HEADER_ALLOWLIST)

def websocketResponseHeaders (upstream : HeaderMap) : HeaderMap :=
  upstream.copyKeys (isRelayedName WEBSOCKET_RESPONSE_HEADER_ALLOWLIST)

/-- `realtime::http::relay_response`. -/
def relayResponse (upstream : OpaqueResponse) : Response where
  status := upstream.status.toNat
  headers := responseHeaders upstream.headers
  body := .bytes upstream.body

def copyRelayHeader (upstream out : HeaderMap) (name : HeaderName) : HeaderMap :=
  match (upstream.get name).filter fun value => value.bytes ≠ [] with
  | none => out
  | some value => out.insert name value

/-- `live::call_create::relay_response`. -/
def relayCallResponse (result : OpaqueResponse) : Response where
  status := result.status.toNat
  headers := RELAY_HEADERS.foldl (copyRelayHeader result.headers) .empty
  body := .bytes result.body

def rejectedResponse (status : UInt16) (upstream : HeaderMap) : Response where
  status := status.toNat
  headers :=
    let headers := websocketResponseHeaders upstream
    let headers := match upstream.get "retry-after" with
      | none => headers
      | some retryAfter => headers.insert "retry-after" retryAfter
    headers.insert "content-type" (.fromStatic "application/json".toList)
  body := .text REJECTED_BODY

inductive HandshakeResult
  | accepted (headers : HeaderMap)
  | http (status : UInt16) (headers : HeaderMap)
  | subprotocol
  | failed

def connectErrorResponse : HandshakeResult → Option Response
  | .accepted _ => none
  | .http status headers => some (rejectedResponse status headers)
  | .subprotocol => some RelayError.upstreamWebSocketProtocol.intoResponse
  | .failed => some RelayError.realtimeWebSocketUpstreamFailed.intoResponse

section Contents
variable (upstream : HeaderMap) (name : HeaderName)

theorem getAll_responseHeaders :
    (responseHeaders upstream).getAll name =
      if isRelayedName RESPONSE_HEADER_ALLOWLIST name = true then upstream.getAll name else [] :=
  getAll_copyKeys ..

theorem getAll_websocketResponseHeaders :
    (websocketResponseHeaders upstream).getAll name =
      if isRelayedName WEBSOCKET_RESPONSE_HEADER_ALLOWLIST name = true then upstream.getAll name
      else [] :=
  getAll_copyKeys ..

/-- The value a private call relays under a name. -/
def relayedValue : Option HeaderValue := (upstream.get name).filter fun value => value.bytes ≠ []

theorem writes_copyRelayHeader {out : HeaderMap} (hfresh : out.getAll name = []) :
    Writes out (copyRelayHeader upstream out name) name (relayedValue upstream name).toList := by
  unfold copyRelayHeader
  rw [relayedValue]
  cases hvalue : (upstream.get name).filter fun value => value.bytes ≠ [] with
  | none => exact writes_nothing hfresh
  | some value => exact writes_insert out name value

theorem getAll_relayCallResponse (result : OpaqueResponse) :
    (relayCallResponse result).headers.getAll name =
      if name ∈ RELAY_HEADERS then (relayedValue result.headers name).toList else [] := by
  have hwrites := foldl_writes (f := copyRelayHeader result.headers)
    (fun name => (relayedValue result.headers name).toList) (l := RELAY_HEADERS) (m := .empty)
    (by decide) (fun _ name hfresh => writes_copyRelayHeader result.headers name hfresh)
    (fun _ _ => rfl) name
  rw [relayCallResponse, hwrites]
  rfl

theorem getAll_rejectedResponse (status : UInt16) :
    (rejectedResponse status upstream).headers.getAll name =
      if name = "content-type" then [.fromStatic "application/json".toList]
      else if name = "retry-after" then (upstream.get "retry-after").toList
      else if isRelayedName WEBSOCKET_RESPONSE_HEADER_ALLOWLIST name = true then
        upstream.getAll name
      else [] := by
  simp only [rejectedResponse]
  rw [getAll_insert]
  by_cases htype : name = "content-type"
  · rw [if_pos htype.symm, if_pos htype]
  · rw [if_neg (Ne.symm htype), if_neg htype]
    cases hretry : upstream.get "retry-after" with
    | none =>
      rw [getAll_websocketResponseHeaders]
      by_cases hname : name = "retry-after"
      · subst hname
        simp only [if_true]
        have hnone : upstream.getAll "retry-after" = [] := List.head?_eq_none_iff.mp hretry
        rw [hnone, ite_self]
        rfl
      · rw [if_neg hname]
    | some retryAfter =>
      dsimp only
      rw [getAll_insert, getAll_websocketResponseHeaders]
      by_cases hname : name = "retry-after"
      · rw [if_pos hname.symm, if_pos hname]
        rfl
      · rw [if_neg (Ne.symm hname), if_neg hname]

end Contents

/-- A client cannot tell the two responses apart. -/
structure Response.SameAs (a b : Response) : Prop where
  status : a.status = b.status
  headers : SameHeaders a.headers b.headers
  body : a.body = b.body

section Confinement
variable {a b : HeaderMap}

/-- The upstream maps hold the same bytes under the names that pass. -/
abbrev AgreeWhere (p : HeaderName → Prop) (a b : HeaderMap) : Prop := AgreeOn HeaderValue.bytes p a b

theorem relayResponse_sameAs (h : AgreeWhere (isRelayedName RESPONSE_HEADER_ALLOWLIST · = true) a b)
    (status : UInt16) (body : List UInt8) :
    (relayResponse ⟨status, a, body⟩).SameAs (relayResponse ⟨status, b, body⟩) where
  status := rfl
  headers := AgreeOn.copyKeys h
  body := rfl

theorem relayCallResponse_sameAs (h : AgreeWhere (· ∈ RELAY_HEADERS) a b) (status : UInt16)
    (body : List UInt8) :
    (relayCallResponse ⟨status, a, body⟩).SameAs (relayCallResponse ⟨status, b, body⟩) where
  status := rfl
  headers := by
    intro name
    rw [getAll_relayCallResponse, getAll_relayCallResponse]
    split_ifs with hname
    · have hvalue := option_filter_map_bytes (p := fun value => decide (value.bytes ≠ []))
        (fun _ _ hvw => by rw [hvw]) (AgreeOn.get h hname)
      rw [← Option.toList_map, ← Option.toList_map]
      exact congrArg Option.toList hvalue
    · rfl
  body := rfl

theorem rejectedResponse_sameAs
    (h : AgreeWhere (fun name => isRelayedName WEBSOCKET_RESPONSE_HEADER_ALLOWLIST name = true ∨
      name = "retry-after") a b) (status : UInt16) :
    (rejectedResponse status a).SameAs (rejectedResponse status b) where
  status := rfl
  headers := by
    intro name
    rw [getAll_rejectedResponse, getAll_rejectedResponse]
    split_ifs with htype hretry hname
    · rfl
    · rw [← Option.toList_map, ← Option.toList_map]
      exact congrArg Option.toList (AgreeOn.get h (.inr rfl))
    · exact h name (.inl hname)
    · rfl
  body := rfl

theorem isRelayedName_of_websocket {name : HeaderName}
    (h : isRelayedName WEBSOCKET_RESPONSE_HEADER_ALLOWLIST name = true) :
    isRelayedName RESPONSE_HEADER_ALLOWLIST name = true := by
  simp only [isRelayedName, Bool.or_eq_true, List.contains_eq_mem, decide_eq_true_eq,
    WEBSOCKET_RESPONSE_HEADER_ALLOWLIST, RESPONSE_HEADER_ALLOWLIST, List.mem_cons] at h ⊢
  tauto

theorem isRelayedName_of_relayHeaders {name : HeaderName} (h : name ∈ RELAY_HEADERS) :
    isRelayedName RESPONSE_HEADER_ALLOWLIST name = true := by
  simp only [isRelayedName, Bool.or_eq_true, List.contains_eq_mem, decide_eq_true_eq,
    RELAY_HEADERS, RESPONSE_HEADER_ALLOWLIST, List.mem_cons, List.not_mem_nil] at h ⊢
  tauto

theorem unrelayed_absent {name : HeaderName}
    (hname : isRelayedName RESPONSE_HEADER_ALLOWLIST name = false) (a : HeaderMap)
    (status : UInt16) (body : List UInt8) :
    (relayResponse ⟨status, a, body⟩).headers.getAll name = [] ∧
      (relayCallResponse ⟨status, a, body⟩).headers.getAll name = [] ∧
      (rejectedResponse status a).headers.getAll name = [] := by
  have hlisted : ∀ listed, listed ∈ RESPONSE_HEADER_ALLOWLIST → name ≠ listed := by
    rintro listed hlisted rfl
    rw [isRelayedName, List.contains_iff_mem.mpr hlisted] at hname
    cases hname
  have hcall : name ∉ RELAY_HEADERS := fun hmem => by
    rw [isRelayedName_of_relayHeaders hmem] at hname
    cases hname
  have hsocket : ¬isRelayedName WEBSOCKET_RESPONSE_HEADER_ALLOWLIST name = true := fun hrelayed => by
    rw [isRelayedName_of_websocket hrelayed] at hname
    cases hname
  refine ⟨?_, ?_, ?_⟩
  · rw [relayResponse, getAll_responseHeaders, if_neg (by simp [hname])]
  · rw [getAll_relayCallResponse, if_neg hcall]
  · rw [getAll_rejectedResponse, if_neg (hlisted "content-type" (by simp [RESPONSE_HEADER_ALLOWLIST])),
      if_neg (hlisted "retry-after" (by simp [RESPONSE_HEADER_ALLOWLIST])), if_neg hsocket]

end Confinement

end GptLiveProxy
