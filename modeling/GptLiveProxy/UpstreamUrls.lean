import GptLiveProxy.Handlers
import GptLiveProxy.Origin
import GptLiveProxy.PercentEncoding
import GptLiveProxy.TextPieces

/-!
# Upstream URLs

Four builders extend the configured base. The official builder joins the inbound path and query to
it; the private call-create builder, the sideband builder, and the private WebSocket builder
append paths of their own. Each removes trailing slashes and avoids a doubled `/v1` in its own
way, and the WebSocket builders rewrite the scheme of the result.

Outside the backend shape all four extend one API root, so the spellings of one base with and
without trailing slashes or a trailing `/v1` are interchangeable. The backend shape of the
call-create builder keeps a trailing `/v1`: it addresses another API.
-/

namespace GptLiveProxy
open CharText

def AVAS_QUERY : Text := "intent=quicksilver&architecture=avas".toList

def SIDEBAND_API_ROOT : Text := "https://api.openai.com/v1".toList

/-- The path and query of a URI as they arrived; `/` where there is neither. -/
def Uri.pathAndQuery (uri : Uri) : Text :=
  let data := uri.path ++ uri.query.elim [] ('?' :: ·)
  if data = [] then ['/'] else data

def Uri.UnderV1 (uri : Uri) : Prop := "/v1/".toList <+: uri.path

section Builders

/-- `https` becomes `wss`, `http` becomes `ws`, anything else is left alone. -/
def rewriteScheme (url : Text) : Text :=
  match url.dropPrefix? "https://".toList with
  | some rest => "wss://".toList ++ rest
  | none =>
    match url.dropPrefix? "http://".toList with
    | some rest => "ws://".toList ++ rest
    | none => url

def toWebsocketScheme (url : Text) : Text := rewriteScheme url

def toWsScheme (url : Text) : Text := rewriteScheme url

def stripV1Suffix (base : Text) : Text := removeSuffix "/v1".toList (trimEnd '/' base)

def contains (part url : Text) : Bool := decide (part <:+: url)

/-- Append the pair unless the URL carries both of its parameters. -/
def withAvasQuery (url : Text) : Text :=
  let hasIntent := contains "?intent=".toList url || contains "&intent=".toList url
  let hasArchitecture :=
    contains "?architecture=".toList url || contains "&architecture=".toList url
  if hasIntent && hasArchitecture then url
  else url ++ (if url.contains '?' then '&' else '?') :: AVAS_QUERY

def privateCallCreateUrl (debugAssertions : Bool) (base : Text) (backendShape : Bool)
    (dialect : ApiDialect) : Outcome RelayError Text :=
  if backendShape then do
    Outcome.debugAssert debugAssertions (dialect ≠ .officialGa)
    return withAvasQuery (trimEnd '/' base ++ "/realtime/calls".toList)
  else
    match dialect with
    | .quicksilverV1 => .ok (withAvasQuery (stripV1Suffix base ++ "/v1/realtime/calls".toList))
    | .frameless => .ok (stripV1Suffix base ++ "/v1/live".toList)
    -- declared unreachable: the official surface has its own builder
    | .officialGa => .panicked

def officialUrl (base : Text) (original : Uri) : Except RelayError Text :=
  let base := trimEnd '/' base
  if "/v1".toList <:+ base then
    match original.pathAndQuery.dropPrefix? "/v1".toList with
    | some suffix => .ok (base ++ suffix)
    | none => .error (.upstreamFailed "official Realtime path is outside /v1")
  else .ok (base ++ original.pathAndQuery)

def officialWebsocketUrl (base : Text) (original : Uri) : Except RelayError Text :=
  (officialUrl base original).map toWebsocketScheme

/-- The root the sideband and the private WebSocket builder extend. -/
def joinRoot (base : Text) (backendShape : Bool) : Text :=
  if backendShape then SIDEBAND_API_ROOT
  else removeSuffix "/v1".toList (trimEnd '/' base) ++ "/v1".toList

def SidebandTarget.request : SidebandTarget → Text
  | framelessPath callId => "/live/".toList ++ callId
  | realtimeCallsPath callId => "/realtime/calls/".toList ++ callId
  | realtimeQuery callId => "/realtime?intent=quicksilver&call_id=".toList ++ callId

def sidebandUpstreamUrl (base : Text) (backendShape : Bool) (target : SidebandTarget) : Text :=
  toWsScheme (joinRoot base backendShape ++ target.request)

def isQueryLiteral (b : UInt8) : Bool :=
  isAlphanumericByte b || b == 0x2d || b == 0x2e || b == 0x5f || b == 0x7e

def encodeQueryComponent (value : Text) : Text :=
  (utf8 value).flatMap fun byte =>
    if isQueryLiteral byte then [Char.ofNat byte.toNat] else escapeByte byte

/-- The request a private target is joined with. -/
def privateRequest : ApiDialect → WebSocketTarget → Outcome RelayError Text
  | .quicksilverV1, .standalone model =>
    .ok ("/realtime?intent=quicksilver&model=".toList ++ encodeQueryComponent model)
  | .quicksilverV1, .existingCall callId =>
    .ok ("/realtime?intent=quicksilver&call_id=".toList ++ callId)
  | .frameless, .standalone model => .ok ("/live?model=".toList ++ encodeQueryComponent model)
  | .frameless, .existingCall callId => .ok ("/live/".toList ++ callId)
  -- declared unreachable: translation and official targets are not private
  | _, _ => .panicked

def privateWebsocketUrl (base : Text) (backendShape : Bool) (classified : ClassifiedWebSocket) :
    Outcome RelayError Text := do
  let request ← privateRequest classified.selection.dialect classified.target
  return toWebsocketScheme (joinRoot base backendShape ++ request)

end Builders

/-- The base without trailing slashes and without one trailing `/v1`, followed by `/v1`. -/
def apiRoot (base : Text) : Text := stripV1Suffix base ++ "/v1".toList

/-- The private targets: a private dialect joins a call or a model, never a translation. -/
def ClassifiedWebSocket.IsPrivate (classified : ClassifiedWebSocket) : Prop :=
  classified.selection.dialect ≠ .officialGa ∧ ∀ model, classified.target ≠ .translation model

section Roots

theorem Uri.UnderV1.pathAndQuery {uri : Uri} (h : uri.UnderV1) :
    uri.pathAndQuery = "/v1".toList ++ uri.pathAndQuery.drop 3 := by
  obtain ⟨rest, hpath⟩ := h
  have hall : uri.pathAndQuery = "/v1/".toList ++ (rest ++ uri.query.elim [] ('?' :: ·)) := by
    simp [Uri.pathAndQuery, ← hpath]
  rw [hall]
  rfl

/-- The official builder avoids the doubled `/v1` by stripping the inbound path instead. -/
theorem officialUrl_eq (base : Text) {uri : Uri} (h : uri.UnderV1) :
    officialUrl base uri = .ok (apiRoot base ++ uri.pathAndQuery.drop 3) := by
  have hinbound := h.pathAndQuery
  by_cases hv1 : "/v1".toList <:+ trimEnd '/' base
  · obtain ⟨front, hfront⟩ := hv1
    have hroot : apiRoot base = trimEnd '/' base := by
      rw [apiRoot, stripV1Suffix, ← hfront, removeSuffix_append]
    rw [officialUrl, if_pos ⟨front, hfront⟩, hinbound, dropPrefix?_append, hroot]
    rfl
  · have hroot : apiRoot base = trimEnd '/' base ++ "/v1".toList := by
      rw [apiRoot, stripV1Suffix, removeSuffix_of_not_suffix hv1]
    rw [officialUrl, if_neg hv1, hroot, List.append_assoc, ← hinbound]

/-- What the encoder writes is a literal or part of an escape. -/
theorem forall_encodeQueryComponent (p : Char → Bool)
    (hliteral : ∀ b : UInt8, isQueryLiteral b = true → p (Char.ofNat b.toNat) = true)
    (hescape : "%0123456789ABCDEF".toList.all p = true) (value : Text) :
    ∀ c ∈ encodeQueryComponent value, p c = true := by
  intro c hc
  obtain ⟨b, -, hb⟩ := List.mem_flatMap.mp hc
  split_ifs at hb with hb'
  · obtain rfl := List.mem_singleton.mp hb
    exact hliteral b hb'
  · have hlt : b.toNat < 256 := b.toNat_lt
    apply List.all_eq_true.mp hescape
    change c ∈ '%' :: "0123456789ABCDEF".toList
    simp only [escapeByte, List.mem_cons, List.not_mem_nil, or_false] at hb
    rcases hb with rfl | rfl | rfl
    · exact List.mem_cons_self
    · exact List.mem_cons_of_mem _ (upperHexDigit_mem _ (by omega))
    · exact List.mem_cons_of_mem _ (upperHexDigit_mem _ (by omega))

theorem prefix_withAvasQuery (url : Text) : url <+: withAvasQuery url := by
  simp only [withAvasQuery]
  split
  · exact List.prefix_rfl
  · exact List.prefix_append _ _

theorem privateCallCreateUrl_eq (debugAssertions : Bool) (base : Text) {dialect : ApiDialect}
    (hprivate : dialect ≠ .officialGa) :
    ∃ url, privateCallCreateUrl debugAssertions base false dialect = .ok url ∧
      apiRoot base <+: url := by
  cases dialect with
  | officialGa => exact absurd rfl hprivate
  | quicksilverV1 =>
    refine ⟨_, rfl, List.IsPrefix.trans ?_ (prefix_withAvasQuery _)⟩
    exact ⟨"/realtime/calls".toList, by rw [apiRoot, List.append_assoc]; rfl⟩
  | frameless =>
    exact ⟨_, rfl, "/live".toList, by rw [apiRoot, List.append_assoc]; rfl⟩

/-- A root that ends in `/v1` is not cut short inside a scheme, so the rewrite stays in the root. -/
theorem rewriteScheme_append (front rest : Text) :
    rewriteScheme (front ++ "/v1".toList ++ rest) = rewriteScheme (front ++ "/v1".toList) ++ rest := by
  have hnever (scheme : Text) (hlast : '1' ∉ scheme) :
      front ++ "/v1".toList <+: scheme → front ++ "/v1".toList = scheme := by
    intro hstart
    exact absurd (hstart.subset (by simp)) hlast
  simp only [rewriteScheme]
  rw [dropPrefix?_append_right rest (hnever "https://".toList (by decide)),
    dropPrefix?_append_right rest (hnever "http://".toList (by decide))]
  cases (front ++ "/v1".toList).dropPrefix? "https://".toList with
  | some host => simp
  | none =>
    cases (front ++ "/v1".toList).dropPrefix? "http://".toList with
    | some host => simp
    | none => simp

theorem sidebandUpstreamUrl_eq (base : Text) (target : SidebandTarget) :
    sidebandUpstreamUrl base false target = toWsScheme (apiRoot base) ++ target.request :=
  rewriteScheme_append _ _

theorem privateRequest_eq_ok {classified : ClassifiedWebSocket} (hprivate : classified.IsPrivate) :
    ∃ request, privateRequest classified.selection.dialect classified.target = .ok request := by
  obtain ⟨hdialect, htarget⟩ := hprivate
  cases hjoined : classified.target with
  | translation model => exact absurd hjoined (htarget model)
  | standalone model =>
    cases hspoken : classified.selection.dialect with
    | officialGa => exact absurd hspoken hdialect
    | quicksilverV1 => exact ⟨_, rfl⟩
    | frameless => exact ⟨_, rfl⟩
  | existingCall callId =>
    cases hspoken : classified.selection.dialect with
    | officialGa => exact absurd hspoken hdialect
    | quicksilverV1 => exact ⟨_, rfl⟩
    | frameless => exact ⟨_, rfl⟩

theorem privateWebsocketUrl_of_request {base : Text} {backendShape : Bool}
    {classified : ClassifiedWebSocket} {request : Text}
    (h : privateRequest classified.selection.dialect classified.target = .ok request) :
    privateWebsocketUrl base backendShape classified =
      .ok (toWebsocketScheme (joinRoot base backendShape ++ request)) := by
  rw [privateWebsocketUrl, h]
  rfl

theorem privateWebsocketUrl_eq (base : Text) {classified : ClassifiedWebSocket}
    (hprivate : classified.IsPrivate) :
    ∃ request, privateRequest classified.selection.dialect classified.target = .ok request ∧
      privateWebsocketUrl base false classified =
        .ok (toWebsocketScheme (apiRoot base) ++ request) := by
  obtain ⟨request, hrequest⟩ := privateRequest_eq_ok hprivate
  refine ⟨request, hrequest, (privateWebsocketUrl_of_request hrequest).trans ?_⟩
  exact congrArg Outcome.ok (rewriteScheme_append _ _)

end Roots

section Spellings

/-- Two bases that no builder tells apart, whatever the request. -/
structure SameUrls (debugAssertions : Bool) (base base' : Text) : Prop where
  official : ∀ uri : Uri, uri.UnderV1 → officialUrl base uri = officialUrl base' uri
  callCreate : ∀ dialect, privateCallCreateUrl debugAssertions base false dialect =
    privateCallCreateUrl debugAssertions base' false dialect
  sideband : ∀ backendShape target,
    sidebandUpstreamUrl base backendShape target = sidebandUpstreamUrl base' backendShape target
  websocket : ∀ backendShape classified,
    privateWebsocketUrl base backendShape classified =
      privateWebsocketUrl base' backendShape classified

theorem SameUrls.of_stripV1Suffix {debugAssertions : Bool} {base base' : Text}
    (h : stripV1Suffix base = stripV1Suffix base') : SameUrls debugAssertions base base' := by
  have hroot : apiRoot base = apiRoot base' := by rw [apiRoot, apiRoot, h]
  have hjoin (backendShape : Bool) : joinRoot base backendShape = joinRoot base' backendShape := by
    cases backendShape with
    | true => rfl
    | false => exact hroot
  constructor
  · intro uri huri
    rw [officialUrl_eq base huri, officialUrl_eq base' huri, hroot]
  · intro dialect
    simp only [privateCallCreateUrl, Bool.false_eq_true, if_false, h]
  · intro backendShape target
    rw [sidebandUpstreamUrl, sidebandUpstreamUrl, hjoin]
  · intro backendShape classified
    rw [privateWebsocketUrl, privateWebsocketUrl, hjoin]

theorem stripV1Suffix_slashes (base : Text) (n : Nat) :
    stripV1Suffix (base ++ List.replicate n '/') = stripV1Suffix base := by
  rw [stripV1Suffix, stripV1Suffix, trimEnd_append_replicate]

theorem stripV1Suffix_eq_self {base : Text} (hslash : base.getLast? ≠ some '/')
    (hv1 : ¬ "/v1".toList <:+ base) : stripV1Suffix base = base := by
  rw [stripV1Suffix, trimEnd_eq_self hslash, removeSuffix_of_not_suffix hv1]

theorem stripV1Suffix_v1 (base : Text) : stripV1Suffix (base ++ "/v1".toList) = base := by
  rw [stripV1Suffix, trimEnd_eq_self (by simp), removeSuffix_append]

end Spellings

theorem relays_share_api_root (debugAssertions : Bool) (base : Text) :
    (∀ uri : Uri, uri.UnderV1 →
      officialUrl base uri = .ok (apiRoot base ++ uri.pathAndQuery.drop 3)) ∧
    (∀ dialect, dialect ≠ .officialGa →
      ∃ url, privateCallCreateUrl debugAssertions base false dialect = .ok url ∧
        apiRoot base <+: url) ∧
    (∀ target, sidebandUpstreamUrl base false target =
      toWsScheme (apiRoot base) ++ target.request) ∧
    (∀ classified : ClassifiedWebSocket, classified.IsPrivate →
      ∃ request, privateRequest classified.selection.dialect classified.target = .ok request ∧
        privateWebsocketUrl base false classified =
          .ok (toWebsocketScheme (apiRoot base) ++ request)) ∧
    (∀ backendShape callId (classified : ClassifiedWebSocket),
      classified.target = .existingCall callId →
        (classified.selection.dialect = .frameless →
          privateWebsocketUrl base backendShape classified =
            .ok (sidebandUpstreamUrl base backendShape (.framelessPath callId))) ∧
        (classified.selection.dialect = .quicksilverV1 →
          privateWebsocketUrl base backendShape classified =
            .ok (sidebandUpstreamUrl base backendShape (.realtimeQuery callId)))) ∧
    (base.getLast? ≠ some '/' → ¬ "/v1".toList <:+ base → ∀ n,
      SameUrls debugAssertions base (base ++ List.replicate n '/') ∧
        SameUrls debugAssertions base (base ++ "/v1".toList ++ List.replicate n '/') ∧
          ∀ dialect, privateCallCreateUrl debugAssertions (base ++ List.replicate n '/') true dialect =
            privateCallCreateUrl debugAssertions base true dialect) := by
  refine ⟨fun uri huri => officialUrl_eq base huri,
    fun dialect hdialect => privateCallCreateUrl_eq debugAssertions base hdialect,
    sidebandUpstreamUrl_eq base, fun classified hprivate => privateWebsocketUrl_eq base hprivate,
    ?_, ?_⟩
  · intro backendShape callId classified htarget
    constructor
    · intro hdialect
      rw [privateWebsocketUrl, htarget, hdialect]
      rfl
    · intro hdialect
      rw [privateWebsocketUrl, htarget, hdialect]
      rfl
  · intro hslash hv1 n
    refine ⟨.of_stripV1Suffix (stripV1Suffix_slashes base n).symm, .of_stripV1Suffix ?_, ?_⟩
    · rw [stripV1Suffix_slashes, stripV1Suffix_v1, stripV1Suffix_eq_self hslash hv1]
    · intro dialect
      simp only [privateCallCreateUrl, if_true, trimEnd_append_replicate]

/-- Spelling the backend base with a trailing `/v1` moves the call-create URL under it. -/
theorem backend_call_create_keeps_v1 : ∃ base : Text,
    base.getLast? ≠ some '/' ∧ ¬ "/v1".toList <:+ base ∧
      privateCallCreateUrl true base true .quicksilverV1 ≠
        privateCallCreateUrl true (base ++ "/v1".toList) true .quicksilverV1 :=
  ⟨"https://chatgpt.com/backend-api".toList, by decide, by decide, by decide +kernel⟩

end GptLiveProxy
