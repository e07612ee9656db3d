import GptLiveProxy.RealtimeHeaderContents

/-!
# Header policy of the private routes

Private call-create and the sideband aliases forward six negotiated protocol headers and own the
authentication. The wire adapters fix the negotiation value of each private dialect.
-/

namespace GptLiveProxy
open CharText

inductive WireAdapter
  | v1
  | framelessBidi
  | realtimeV2
deriving DecidableEq

inductive SidebandJoinStyle
  | path
  | query
deriving DecidableEq

namespace WireAdapter

def openaiAlpha : WireAdapter → Option Text
  | v1 => some "quicksilver=v1".toList
  | framelessBidi => some "quicksilver=v2".toList
  | realtimeV2 => none

def fromOpenaiAlpha (value : Text) : Option WireAdapter :=
  if trim value = "quicksilver=v1".toList then some v1
  else if trim value = "quicksilver=v2".toList then some framelessBidi
  else none

def sidebandJoin : WireAdapter → SidebandJoinStyle
  | framelessBidi => .path
  | v1 => .query
  | realtimeV2 => .query

def wantsAvasQuery (adapter : WireAdapter) (backendShape : Bool) : Bool :=
  match adapter with
  | v1 => true
  | framelessBidi => backendShape
  | realtimeV2 => false

end WireAdapter

structure ValidatedPrivateCallHeaders where
  adapter : WireAdapter
deriving DecidableEq

def CLIENT_PROTOCOL_HEADERS : List HeaderName :=
  ["openai-alpha", "x-session-id", "session-id", "thread-id", "originator", "x-oai-attestation"]

/-- A copied attestation is marked sensitive. -/
def markAttestation (name : HeaderName) (value : HeaderValue) : HeaderValue :=
  if name = "x-oai-attestation" then value.setSensitive true else value

def copyProtocolHeader (headers out : HeaderMap) (name : HeaderName) : HeaderMap :=
  match headers.get name with
  | none => out
  | some value => if isEmpty value then out else out.insert name (markAttestation name value)

def clientProtocolHeaders (headers : HeaderMap) : HeaderMap :=
  CLIENT_PROTOCOL_HEADERS.foldl (copyProtocolHeader headers) .empty

/-- A forwarded negotiation value is the one of the resolved adapter. -/
def alphaAgrees (out : HeaderMap) (adapter : Option WireAdapter) : Bool :=
  match (out.get "openai-alpha").bind HeaderValue.toStr, adapter with
  | some value, some adapter => some value == adapter.openaiAlpha
  | none, _ => true
  | some _, none => true

def mergeUpstreamHeaders (debugAssertions : Bool) (client : HeaderMap) (profile : UpstreamProfile)
    (adapter : Option WireAdapter) : Outcome RelayError HeaderMap := do
  let out := clientProtocolHeaders client
  Outcome.debugAssert debugAssertions (alphaAgrees out adapter)
  let value ← Outcome.ofExcept (managedAuthorization profile.managedAuth)
  Outcome.ofExcept (insertAccountId profile .noCredential (out.insert "authorization" value))

/-- Every protocol header occurs at most once and is readable. -/
def protocolHeadersReadable (client : HeaderMap) : Bool :=
  CLIENT_PROTOCOL_HEADERS.all fun name =>
    (client.getAll name).length ≤ 1 && (client.getAll name).all (·.toStr.isSome)

def trimmedAlpha (client : HeaderMap) : Option Text :=
  ((client.get "openai-alpha").bind HeaderValue.toStr).map trim

def callAdapter : ApiDialect → Option WireAdapter
  | .quicksilverV1 => some .v1
  | .frameless => some .framelessBidi
  | .officialGa => none

def validatePrivateCallHeaders (client : HeaderMap) (selection : ProtocolSelection) :
    Except RelayError ValidatedPrivateCallHeaders :=
  match callAdapter selection.dialect with
  | none => .error .invalidRealtimeHeader
  | some adapter =>
    if !protocolHeadersReadable client then .error .invalidRealtimeHeader
    else if (client.getAll "authorization").length > 1 then .error .ambiguousAuthorization
    else if (client.getAll "authorization").any (·.toStr.isNone) then .error .invalidRealtimeHeader
    else if (client.getAll "content-type").length ≠ 1 ∨
        (client.getAll "content-type").any (·.toStr.isNone) = true then
      .error .invalidRealtimeHeader
    else if trimmedAlpha client ≠ adapter.openaiAlpha then .error .invalidRealtimeHeader
    else .ok ⟨adapter⟩

def buildPrivateCallHeaders (debugAssertions : Bool) (client : HeaderMap)
    (profile : UpstreamProfile) (validated : ValidatedPrivateCallHeaders) :
    Outcome RelayError HeaderMap := do
  let out ← mergeUpstreamHeaders debugAssertions client profile (some validated.adapter)
  match client.get "content-type" with
  | none => .panicked
  | some value => .ok (out.insert "content-type" value)

def validatePrivateSidebandHeaders (client : HeaderMap) (adapter : WireAdapter) :
    Except RelayError Unit :=
  if !protocolHeadersReadable client then .error .invalidRealtimeHeader
  else if (client.getAll "authorization").length > 1 then .error .ambiguousAuthorization
  else if trimmedAlpha client ≠ adapter.openaiAlpha then .error .invalidRealtimeHeader
  else .ok ()

section Contents
open OrderedMultimap
variable {debugAssertions : Bool} {client out : HeaderMap} {profile : UpstreamProfile}

def protocolValues (client : HeaderMap) (name : HeaderName) : List HeaderValue :=
  ((singleNonEmpty client name).map (markAttestation name)).toList

theorem copyProtocolHeader_writes {name : HeaderName} (hfresh : out.getAll name = []) :
    Writes out (copyProtocolHeader client out name) name (protocolValues client name) := by
  unfold copyProtocolHeader protocolValues singleNonEmpty
  cases client.get name with
  | none => exact writes_nothing hfresh
  | some value =>
    cases hempty : isEmpty value with
    | true => simpa [Option.filter, hempty] using writes_nothing hfresh
    | false =>
      simpa [Option.filter, hempty] using writes_insert out name (markAttestation name value)

theorem clientProtocolHeaders_getAll (k : HeaderName) :
    (clientProtocolHeaders client).getAll k =
      if k ∈ CLIENT_PROTOCOL_HEADERS then protocolValues client k else [] :=
  foldl_writes (protocolValues client) (by decide) (fun _ _ => copyProtocolHeader_writes)
    (fun _ _ => rfl) k

/-- The merge: the credential, the account id, and the six protocol headers; nothing else. -/
theorem mergeUpstreamHeaders_eq_ok {adapter : Option WireAdapter}
    (h : mergeUpstreamHeaders debugAssertions client profile adapter = .ok out) :
    ∃ value, managedAuthorization profile.managedAuth = .ok value ∧
      ∀ k, out.getAll k =
        if k = "chatgpt-account-id" then accountValues profile
        else if k = "authorization" then [value]
        else if k ∈ CLIENT_PROTOCOL_HEADERS then protocolValues client k
        else [] := by
  unfold mergeUpstreamHeaders at h
  obtain ⟨_, -, h⟩ := Outcome.bind_eq_ok.mp h
  obtain ⟨value, hvalue, h⟩ := Outcome.bind_eq_ok.mp h
  rw [Outcome.ofExcept_eq_ok] at hvalue h
  refine ⟨value, hvalue, fun k => ?_⟩
  have hcopied : ∀ k, (clientProtocolHeaders client).getAll k = _ := clientProtocolHeaders_getAll
  have hcredential := writes_insert (clientProtocolHeaders client) "authorization" value
  have hfresh : ((clientProtocolHeaders client).insert "authorization" value).getAll
      "chatgpt-account-id" = [] := by
    rw [hcredential _, if_neg (by decide), hcopied, if_neg (by decide)]
  rw [insertAccountId_writes hfresh h k, hcredential k, hcopied k]

theorem validatePrivateCallHeaders_eq_ok {selection : ProtocolSelection}
    {validated : ValidatedPrivateCallHeaders}
    (h : validatePrivateCallHeaders client selection = .ok validated) :
    callAdapter selection.dialect = some validated.adapter ∧ protocolHeadersReadable client = true ∧
      (client.getAll "content-type").length = 1 ∧
        trimmedAlpha client = validated.adapter.openaiAlpha := by
  unfold validatePrivateCallHeaders at h
  cases hadapter : callAdapter selection.dialect with
  | none => simp [hadapter] at h
  | some adapter =>
    simp only [hadapter] at h
    split_ifs at h with hreadable hauthorization hunreadable hcontent halpha
    cases h
    rw [not_or, not_not] at hcontent
    exact ⟨rfl, by simpa using hreadable, hcontent.1, by simpa using halpha⟩

theorem buildPrivateCallHeaders_eq_ok {validated : ValidatedPrivateCallHeaders}
    (h : buildPrivateCallHeaders debugAssertions client profile validated = .ok out) :
    ∃ merged value,
      mergeUpstreamHeaders debugAssertions client profile (some validated.adapter) = .ok merged ∧
        client.get "content-type" = some value ∧ Writes merged out "content-type" [value] := by
  unfold buildPrivateCallHeaders at h
  obtain ⟨merged, hmerged, h⟩ := Outcome.bind_eq_ok.mp h
  cases hcontent : client.get "content-type" with
  | none => simp [hcontent] at h
  | some value =>
    simp only [hcontent] at h
    cases h
    exact ⟨merged, value, hmerged, rfl, writes_insert merged _ value⟩

theorem validatePrivateSidebandHeaders_eq_ok {adapter : WireAdapter}
    (h : validatePrivateSidebandHeaders client adapter = .ok ()) :
    protocolHeadersReadable client = true ∧ trimmedAlpha client = adapter.openaiAlpha := by
  unfold validatePrivateSidebandHeaders at h
  split_ifs at h with hreadable hauthorization halpha
  exact ⟨by simpa using hreadable, by simpa using halpha⟩

end Contents

end GptLiveProxy
