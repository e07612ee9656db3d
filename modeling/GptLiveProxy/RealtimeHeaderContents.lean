import GptLiveProxy.RealtimeHeaders

/-!
# The contents of the Realtime header maps

For each builder of the Realtime routes, the values of every name in the map it returns, in terms
of the client's values, the profile, and the selection.
-/

namespace GptLiveProxy
open CharText OrderedMultimap

theorem isEmpty_congr {v w : HeaderValue} (h : v.bytes = w.bytes) : isEmpty v = isEmpty w := by
  rw [isEmpty, isEmpty, HeaderValue.toStr_congr h]

theorem singleNonEmpty_eq_some {client : HeaderMap} {name : HeaderName} {value : HeaderValue} :
    singleNonEmpty client name = some value ↔
      client.get name = some value ∧ isEmpty value = false := by
  unfold singleNonEmpty
  rw [Option.filter_eq_some_iff]
  simp

section Copy
variable {client out out' : HeaderMap} {name : HeaderName} {sensitive : Bool}

theorem appendNonEmptyValues_getAll (k : HeaderName) :
    (appendNonEmptyValues client out name sensitive).getAll k = out.getAll k ++
      if name = k then (nonEmptyValues client name).map (·.setSensitive sensitive) else [] := by
  unfold appendNonEmptyValues
  induction nonEmptyValues client name generalizing out with
  | nil => simp
  | cons value values ih =>
    rw [List.foldl_cons, ih, getAll_append]
    split_ifs <;> simp

theorem appendNonEmptyValues_writes (hfresh : out.getAll name = []) :
    Writes out (appendNonEmptyValues client out name sensitive) name
      ((nonEmptyValues client name).map (·.setSensitive sensitive)) := by
  intro k
  rw [appendNonEmptyValues_getAll]
  by_cases hk : k = name
  · subst hk
    simp [hfresh]
  · simp [hk, Ne.symm hk]

theorem copySingleNonEmpty_writes (hfresh : out.getAll name = []) :
    Writes out (copySingleNonEmpty client out name sensitive) name
      ((singleNonEmpty client name).map (·.setSensitive sensitive)).toList := by
  unfold copySingleNonEmpty
  cases singleNonEmpty client name with
  | none => exact writes_nothing hfresh
  | some value => exact writes_insert out name _

/-- The negotiation value a dialect forwards. -/
def forwardedAlpha (client : HeaderMap) (dialect : ApiDialect) : List HeaderValue :=
  if dialect = .officialGa then [] else (singleNonEmpty client "openai-alpha").toList

theorem copyPrivateAlpha_writes {dialect : ApiDialect} (hfresh : out.getAll "openai-alpha" = [])
    (h : copyPrivateAlpha client out dialect = .ok out') :
    Writes out out' "openai-alpha" (forwardedAlpha client dialect) := by
  unfold copyPrivateAlpha at h
  unfold forwardedAlpha
  cases hexpected : expectedAlpha dialect with
  | none =>
    have hofficial : dialect = .officialGa := by cases dialect <;> simp_all [expectedAlpha]
    rw [hexpected] at h
    cases h
    rw [if_pos hofficial]
    exact writes_nothing hfresh
  | some expected =>
    have hprivate : dialect ≠ .officialGa := by
      rintro rfl
      cases hexpected
    rw [hexpected] at h
    rw [if_neg hprivate]
    cases hsingle : singleNonEmpty client "openai-alpha" with
    | none => simp [hsingle] at h
    | some value =>
      simp only [hsingle] at h
      split_ifs at h
      cases h
      exact writes_insert out _ value

/-- The account id a profile sends, as it stands in a header map. -/
def accountValues (profile : UpstreamProfile) : List HeaderValue :=
  ((profile.accountIdRaw.bind HeaderValue.fromStr).map (·.setSensitive true)).toList

theorem insertAccountId_writes {profile : UpstreamProfile} {invalid : RelayError}
    (hfresh : out.getAll "chatgpt-account-id" = [])
    (h : insertAccountId profile invalid out = .ok out') :
    Writes out out' "chatgpt-account-id" (accountValues profile) := by
  unfold insertAccountId at h
  unfold accountValues
  cases hid : profile.accountIdRaw with
  | none =>
    simp only [hid] at h
    cases h
    exact writes_nothing hfresh
  | some accountId =>
    simp only [hid] at h
    cases hvalue : HeaderValue.fromStr accountId with
    | none => simp [hvalue] at h
    | some value =>
      simp only [hvalue] at h
      cases h
      simpa [hvalue] using writes_insert out "chatgpt-account-id" (value.setSensitive true)

theorem insertPrivateAccount_writes {profile : UpstreamProfile} {dialect : ApiDialect}
    (hfresh : out.getAll "chatgpt-account-id" = [])
    (h : insertPrivateAccount profile dialect out = .ok out') :
    Writes out out' "chatgpt-account-id"
      (if dialect = .officialGa then [] else accountValues profile) := by
  unfold insertPrivateAccount at h
  by_cases hofficial : dialect = .officialGa
  · rw [if_neg (not_not_intro hofficial)] at h
    cases h
    rw [if_pos hofficial]
    exact writes_nothing hfresh
  · rw [if_pos hofficial] at h
    rw [if_neg hofficial]
    exact insertAccountId_writes hfresh h

end Copy

section Rest
variable {client out out' : HeaderMap} {profile : UpstreamProfile} {selection : ProtocolSelection}

/-- The client values that the REST builder forwards under an allowlisted name. -/
def restValues (client : HeaderMap) (dialect : ApiDialect) (name : HeaderName) : List HeaderValue :=
  if name = "openai-alpha" then forwardedAlpha client dialect
  else if name = "x-oai-attestation" ∧ dialect = .officialGa then []
  else if name = "accept" ∨ name = "openai-beta" then
    (nonEmptyValues client name).map (·.setSensitive false)
  else
    ((singleNonEmpty client name).map
      (·.setSensitive (SENSITIVE_REQUEST_HEADERS.contains name))).toList

theorem copyRequestHeader_writes {dialect : ApiDialect} {name : HeaderName}
    (hfresh : out.getAll name = [])
    (h : copyRequestHeader client dialect out name = .ok out') :
    Writes out out' name (restValues client dialect name) := by
  unfold copyRequestHeader at h
  unfold restValues
  by_cases halpha : name = "openai-alpha"
  · rw [if_pos halpha] at h ⊢
    subst halpha
    exact copyPrivateAlpha_writes hfresh h
  rw [if_neg halpha] at h ⊢
  by_cases hattestation : name = "x-oai-attestation"
  · rw [if_pos hattestation] at h
    by_cases hofficial : dialect = .officialGa
    · rw [if_neg (not_not_intro hofficial)] at h
      cases h
      rw [if_pos ⟨hattestation, hofficial⟩]
      exact writes_nothing hfresh
    · rw [if_pos hofficial] at h
      cases h
      have hcopied : Writes out (copySingleNonEmpty client out name true) name
          ((singleNonEmpty client name).map (·.setSensitive true)).toList :=
        copySingleNonEmpty_writes hfresh
      simpa [hattestation, hofficial, SENSITIVE_REQUEST_HEADERS] using hcopied
  rw [if_neg hattestation] at h
  rw [if_neg (fun hboth => hattestation hboth.1)]
  by_cases hlist : name = "accept" ∨ name = "openai-beta"
  · rw [if_pos hlist] at h ⊢
    cases h
    exact appendNonEmptyValues_writes hfresh
  · rw [if_neg hlist] at h ⊢
    cases h
    exact copySingleNonEmpty_writes hfresh

/-- The REST builder: the credential, the private account id, and the allowlist; nothing else. -/
theorem buildUpstreamHeaders_eq_ok (h : buildUpstreamHeaders client profile selection = .ok out) :
    ∃ value, authorization client profile selection.credential = .ok value ∧
      ∀ k, out.getAll k =
        if k = "authorization" then [value]
        else if k = "chatgpt-account-id" then
          if selection.dialect = .officialGa then [] else accountValues profile
        else if k ∈ REQUEST_HEADER_ALLOWLIST then restValues client selection.dialect k
        else [] := by
  unfold buildUpstreamHeaders at h
  obtain ⟨copied, hcopied, h⟩ := Except.bind_eq_ok.mp h
  obtain ⟨owned, howned, h⟩ := Except.bind_eq_ok.mp h
  obtain ⟨value, hvalue, h⟩ := Except.bind_eq_ok.mp h
  cases h
  refine ⟨value, hvalue, fun k => ?_⟩
  have hcontents : ∀ k, copied.getAll k = if k ∈ REQUEST_HEADER_ALLOWLIST then
      restValues client selection.dialect k else [] :=
    foldlM_writes (restValues client selection.dialect) (by decide)
      (fun _ _ _ hfresh hstep => copyRequestHeader_writes hfresh hstep) (fun _ _ => rfl) hcopied
  have hfresh : copied.getAll "chatgpt-account-id" = [] := by
    rw [hcontents, if_neg (by decide)]
  have haccount := insertPrivateAccount_writes hfresh howned
  rw [writes_insert owned "authorization" value k, haccount k, hcontents k]

theorem buildUpstreamHeaders_subprotocol
    (h : buildUpstreamHeaders client profile selection = .ok out) :
    out.getAll SEC_WEBSOCKET_PROTOCOL = [] := by
  obtain ⟨value, -, hcontents⟩ := buildUpstreamHeaders_eq_ok h
  rw [hcontents, if_neg (by decide), if_neg (by decide), if_neg (by decide)]

end Rest

section Validated
variable {inbound client : HeaderMap} {selection : ProtocolSelection}

theorem rejectWebsocketSingletons_eq_ok {dialect : ApiDialect}
    (h : rejectWebsocketSingletons inbound dialect = .ok ()) :
    (inbound.getAll "authorization").length ≤ 1 := by
  unfold rejectWebsocketSingletons at h
  split_ifs at h with hrepeated hambiguous
  omega

theorem validateUpstreamHeaders_authorization
    (h : validateUpstreamHeaders client selection = .ok ()) :
    (client.getAll "authorization").length ≤ 1 := by
  unfold validateUpstreamHeaders rejectDuplicateSingletons at h
  cases hfind : SINGLETON_REQUEST_HEADERS.find? fun name =>
      !singletonsOccurOnce client selection.dialect [name] with
  | some name =>
    simp only [hfind] at h
    split_ifs at h
  | none =>
    have honce := List.find?_eq_none.mp hfind "authorization" (by decide)
    simpa [singletonsOccurOnce] using honce

/-- What the handshake validation establishes about subprotocols and `Authorization`. -/
theorem validateUpstreamWebsocketHeaders_eq_ok {admission : Option BearerToken}
    {validated : ValidatedWebSocketHeaders}
    (h : validateUpstreamWebsocketHeaders inbound selection admission = .ok validated) :
    parseProtocols inbound admission = .ok validated.protocols ∧
      (inbound.getAll "authorization").length ≤ 1 ∧
        (selection.dialect ≠ .officialGa → validated.protocols.offered = []) ∧
          (validated.protocols.browserCredential.isSome = true →
            inbound.getAll "authorization" = []) := by
  unfold validateUpstreamWebsocketHeaders at h
  obtain ⟨protocols, hparsed, h⟩ := Except.bind_eq_ok.mp h
  obtain ⟨_, hsingletons, h⟩ := Except.bind_eq_ok.mp h
  obtain ⟨_, -, h⟩ := Except.bind_eq_ok.mp h
  split_ifs at h with hprivate hscoped hbrowser
  cases h
  refine ⟨hparsed, rejectWebsocketSingletons_eq_ok hsingletons, fun hdialect => ?_, fun hsome => ?_⟩
  · by_contra hoffered
    exact hprivate ⟨hdialect, hoffered⟩
  · by_contra hne
    apply hbrowser
    exact ⟨hsome, fun hzero => hne (List.length_eq_zero_iff.mp hzero)⟩

end Validated

section WebSocket
variable {inbound : HeaderMap} {profile : UpstreamProfile} {selection : ProtocolSelection}
  {validated : ValidatedWebSocketHeaders} {built : WebSocketHeaders}

/-- The names a handshake copies on every dialect. -/
def PUBLIC_METADATA_HEADERS : List HeaderName :=
  ["origin", "openai-organization", "openai-project", "openai-safety-identifier", "openai-beta"]

def publicMetadataValues (inbound : HeaderMap) (name : HeaderName) : List HeaderValue :=
  if name = "openai-beta" then (nonEmptyValues inbound name).map (·.setSensitive false)
  else ((singleNonEmpty inbound name).map (·.setSensitive (name != "origin"))).toList

/-- The values a handshake sends under a name that only the private dialects use. -/
def privateMetadataValues (inbound : HeaderMap) (profile : UpstreamProfile) (dialect : ApiDialect)
    (name : HeaderName) : List HeaderValue :=
  if dialect = .officialGa then []
  else if name = "openai-alpha" then (singleNonEmpty inbound name).toList
  else if name = "x-oai-attestation" then
    ((singleNonEmpty inbound name).map (·.setSensitive true)).toList
  else if name = "chatgpt-account-id" then accountValues profile
  else []

def copyPublicMetadata (inbound out : HeaderMap) (name : HeaderName) : HeaderMap :=
  if name = "openai-beta" then appendNonEmptyValues inbound out name false
  else copySingleNonEmpty inbound out name (name != "origin")

theorem copyPublicMetadata_writes {out : HeaderMap} {name : HeaderName}
    (hfresh : out.getAll name = []) :
    Writes out (copyPublicMetadata inbound out name) name (publicMetadataValues inbound name) := by
  unfold copyPublicMetadata publicMetadataValues
  split_ifs
  · exact appendNonEmptyValues_writes hfresh
  · exact copySingleNonEmpty_writes hfresh

theorem copyWebsocketMetadata_getAll (k : HeaderName) :
    (copyWebsocketMetadata inbound).getAll k =
      if k ∈ PUBLIC_METADATA_HEADERS then publicMetadataValues inbound k else [] := by
  have hfold : copyWebsocketMetadata inbound =
      PUBLIC_METADATA_HEADERS.foldl (copyPublicMetadata inbound) .empty := by
    simp [copyWebsocketMetadata, PUBLIC_METADATA_HEADERS, copyPublicMetadata]
  rw [hfold]
  exact foldl_writes (publicMetadataValues inbound) (by decide)
    (fun _ _ => copyPublicMetadata_writes) (fun _ _ => rfl) k

theorem insertPrivateMetadata_getAll {out out' : HeaderMap}
    (hattestation : out.getAll "x-oai-attestation" = [])
    (haccount : out.getAll "chatgpt-account-id" = [])
    (h : insertPrivateMetadata inbound profile selection.dialect out = .ok out') (k : HeaderName) :
    out'.getAll k =
      if k = "x-oai-attestation" ∨ k = "chatgpt-account-id" then
        privateMetadataValues inbound profile selection.dialect k
      else out.getAll k := by
  unfold insertPrivateMetadata at h
  unfold privateMetadataValues
  by_cases hofficial : selection.dialect = .officialGa
  · rw [if_neg (not_not_intro hofficial)] at h
    cases h
    rw [if_pos hofficial]
    split_ifs with hk
    · rcases hk with rfl | rfl
      · exact hattestation
      · exact haccount
    · rfl
  · rw [if_pos hofficial] at h
    have hcopied : Writes out (copySingleNonEmpty inbound out "x-oai-attestation" true)
        "x-oai-attestation" _ := copySingleNonEmpty_writes hattestation
    have hfresh : (copySingleNonEmpty inbound out "x-oai-attestation" true).getAll
        "chatgpt-account-id" = [] := by
      rw [hcopied _, if_neg (by decide), haccount]
    rw [insertAccountId_writes hfresh h k, hcopied k, if_neg hofficial]
    by_cases hid : k = "chatgpt-account-id"
    · subst hid
      simp
    · by_cases hat : k = "x-oai-attestation"
      · subst hat
        simp
      · simp [hid, hat]

theorem insertProtocols_getAll {protocols : ParsedProtocols} {out : HeaderMap}
    (hfresh : out.getAll SEC_WEBSOCKET_PROTOCOL = []) :
    Writes out (insertProtocols protocols out) SEC_WEBSOCKET_PROTOCOL
      protocols.upstreamHeader.toList := by
  unfold insertProtocols
  cases protocols.upstreamHeader with
  | none => exact writes_nothing hfresh
  | some value => exact writes_insert out _ value

/-- The credential the handshake sends as `Authorization`: none when the browser brought its own
credential, otherwise the one of the selection. -/
def HandshakeAuthorization (inbound : HeaderMap) (profile : UpstreamProfile)
    (selection : ProtocolSelection) (protocols : ParsedProtocols) (values : List HeaderValue) :
    Prop :=
  (protocols.browserCredential.isSome = true ∧ values = []) ∨
    (protocols.browserCredential = none ∧
      ∃ value, authorization inbound profile selection.credential = .ok value ∧ values = [value])

theorem insertAuthorization_writes {protocols : ParsedProtocols} {out out' : HeaderMap}
    (hfresh : out.getAll "authorization" = [])
    (h : insertAuthorization inbound profile selection protocols out = .ok out') :
    ∃ values, HandshakeAuthorization inbound profile selection protocols values ∧
      Writes out out' "authorization" values := by
  unfold insertAuthorization at h
  cases hcredential : protocols.browserCredential with
  | some credential =>
    simp only [hcredential, Option.isNone_some, Bool.false_eq_true, if_false] at h
    cases h
    exact ⟨[], Or.inl ⟨by simp [hcredential], rfl⟩, writes_nothing hfresh⟩
  | none =>
    simp only [hcredential, Option.isNone_none, if_true] at h
    obtain ⟨value, hvalue, hout⟩ := Except.bind_eq_ok.mp h
    cases hout
    exact ⟨[value], Or.inr ⟨hcredential, value, hvalue, rfl⟩, writes_insert out _ value⟩

/-- The handshake builder: the credential, the subprotocols, and the metadata; nothing else. -/
theorem buildUpstreamWebsocketHeaders_eq_ok
    (h : buildUpstreamWebsocketHeaders inbound profile selection validated = .ok built) :
    built.protocols = validated.protocols ∧
      ∃ values, HandshakeAuthorization inbound profile selection validated.protocols values ∧
        ∀ k, built.headers.getAll k =
          if k = SEC_WEBSOCKET_PROTOCOL then validated.protocols.upstreamHeader.toList
          else if k = "authorization" then values
          else if k ∈ PUBLIC_METADATA_HEADERS then publicMetadataValues inbound k
          else privateMetadataValues inbound profile selection.dialect k := by
  unfold buildUpstreamWebsocketHeaders at h
  obtain ⟨copied, hcopied, h⟩ := Except.bind_eq_ok.mp h
  obtain ⟨owned, howned, h⟩ := Except.bind_eq_ok.mp h
  obtain ⟨authorized, hauthorized, h⟩ := Except.bind_eq_ok.mp h
  cases h
  refine ⟨rfl, ?_⟩
  have hmetadata := @copyWebsocketMetadata_getAll inbound
  have halpha : ∀ k, copied.getAll k = if k = "openai-alpha" then
      forwardedAlpha inbound selection.dialect else (copyWebsocketMetadata inbound).getAll k :=
    copyPrivateAlpha_writes (by rw [hmetadata, if_neg (by decide)]) hcopied
  have hprivate := insertPrivateMetadata_getAll
    (by rw [halpha, if_neg (by decide), hmetadata, if_neg (by decide)])
    (by rw [halpha, if_neg (by decide), hmetadata, if_neg (by decide)]) howned
  obtain ⟨values, hvalues, hauthorization⟩ := insertAuthorization_writes
    (by rw [hprivate, if_neg (by decide), halpha, if_neg (by decide), hmetadata,
      if_neg (by decide)]) hauthorized
  have hfresh : authorized.getAll SEC_WEBSOCKET_PROTOCOL = [] := by
    rw [hauthorization _, if_neg (by decide), hprivate, if_neg (by decide), halpha,
      if_neg (by decide), hmetadata, if_neg (by decide)]
  refine ⟨values, hvalues, fun k => ?_⟩
  rw [insertProtocols_getAll hfresh k, hauthorization k, hprivate, halpha, hmetadata]
  by_cases hprotocol : k = SEC_WEBSOCKET_PROTOCOL
  · rw [if_pos hprotocol, if_pos hprotocol]
  rw [if_neg hprotocol, if_neg hprotocol]
  by_cases hcredential : k = "authorization"
  · rw [if_pos hcredential, if_pos hcredential]
  rw [if_neg hcredential, if_neg hcredential]
  by_cases hpublic : k ∈ PUBLIC_METADATA_HEADERS
  · have howned : ¬(k = "x-oai-attestation" ∨ k = "chatgpt-account-id") := by
      rintro (rfl | rfl) <;> exact absurd hpublic (by decide)
    have hnegotiated : k ≠ "openai-alpha" := by
      rintro rfl
      exact absurd hpublic (by decide)
    rw [if_neg howned, if_neg hnegotiated, if_pos hpublic, if_pos hpublic]
  · rw [if_neg hpublic]
    unfold privateMetadataValues forwardedAlpha
    split_ifs <;> simp_all

end WebSocket

end GptLiveProxy
