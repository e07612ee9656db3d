import GptLiveProxy.Handlers

/-!
# What can influence an upstream header map

Two accepted requests that agree, value by value and in order, on the names a builder forwards get
the same map, whatever else they carry. Independently of the request, a built map holds only the
forwarded names and the ones the proxy owns. Header values are compared by their bytes.
-/

namespace GptLiveProxy
open CharText OrderedMultimap

abbrev SameHeaders : HeaderMap → HeaderMap → Prop := Same HeaderValue.bytes

def AgreeOnNames (names : List HeaderName) : HeaderMap → HeaderMap → Prop :=
  AgreeOn HeaderValue.bytes (· ∈ names)

section Values
variable {v w : HeaderValue}

theorem validBearer_congr (h : v.bytes = w.bytes) : validBearer v = validBearer w := by
  rw [validBearer, validBearer, HeaderValue.toStr_congr h]

/-- A filter that only looks at the bytes commutes with taking them. -/
theorem filter_map_bytes {p : HeaderValue → Bool} (hp : ∀ v w, v.bytes = w.bytes → p v = p w)
    {vs ws : List HeaderValue} (h : vs.map HeaderValue.bytes = ws.map HeaderValue.bytes) :
    (vs.filter p).map HeaderValue.bytes = (ws.filter p).map HeaderValue.bytes := by
  induction vs generalizing ws with
  | nil =>
    obtain rfl : ws = [] := by simpa using h.symm
    rfl
  | cons v vs ih =>
    cases ws with
    | nil => simp at h
    | cons w ws =>
      obtain ⟨hhead, htail⟩ := List.cons.inj h
      have hkeep := hp v w hhead
      by_cases hw : p w = true
      · rw [List.filter_cons_of_pos (hkeep.trans hw), List.filter_cons_of_pos hw, List.map_cons,
          List.map_cons, hhead, ih htail]
      · rw [List.filter_cons_of_neg (fun hv => hw (hkeep ▸ hv)), List.filter_cons_of_neg hw,
          ih htail]

theorem map_bytes_cases {a b : Option HeaderValue}
    (h : a.map HeaderValue.bytes = b.map HeaderValue.bytes) :
    (a = none ∧ b = none) ∨ ∃ v w, a = some v ∧ b = some w ∧ v.bytes = w.bytes := by
  cases a with
  | none => exact Or.inl ⟨rfl, by simpa using h.symm⟩
  | some v =>
    cases b with
    | none => simp at h
    | some w => exact Or.inr ⟨v, w, rfl, rfl, Option.some.inj h⟩

theorem option_filter_map_bytes {p : HeaderValue → Bool}
    (hp : ∀ v w, v.bytes = w.bytes → p v = p w) {a b : Option HeaderValue}
    (h : a.map HeaderValue.bytes = b.map HeaderValue.bytes) :
    (a.filter p).map HeaderValue.bytes = (b.filter p).map HeaderValue.bytes := by
  rcases map_bytes_cases h with ⟨rfl, rfl⟩ | ⟨v, w, rfl, rfl, hbytes⟩
  · rfl
  · have hkeep := hp v w hbytes
    cases hw : p w with
    | true => simp [Option.filter, hkeep, hw, hbytes]
    | false => simp [Option.filter, hkeep, hw]

end Values

section Copy
variable {a b out out' : HeaderMap} {names : List HeaderName} {name : HeaderName}

theorem AgreeOnNames.mono {names' : List HeaderName} (h : AgreeOnNames names a b)
    (hnames : ∀ name ∈ names', name ∈ names) : AgreeOnNames names' a b :=
  AgreeOn.mono h hnames

theorem singleNonEmpty_agree (h : AgreeOnNames names a b) (hname : name ∈ names) :
    (singleNonEmpty a name).map HeaderValue.bytes = (singleNonEmpty b name).map HeaderValue.bytes :=
  option_filter_map_bytes (fun _ _ hvw => by rw [isEmpty_congr hvw]) (AgreeOn.get h hname)

theorem nonEmptyValues_agree (h : AgreeOnNames names a b) (hname : name ∈ names) :
    (nonEmptyValues a name).map HeaderValue.bytes = (nonEmptyValues b name).map HeaderValue.bytes :=
  filter_map_bytes (fun _ _ hvw => by rw [isEmpty_congr hvw]) (h name hname)

theorem copySingleNonEmpty_same (h : AgreeOnNames names a b) (hname : name ∈ names)
    (hout : SameHeaders out out') (sensitive : Bool) :
    SameHeaders (copySingleNonEmpty a out name sensitive) (copySingleNonEmpty b out' name sensitive) := by
  have hsingle := singleNonEmpty_agree h hname
  unfold copySingleNonEmpty
  rcases map_bytes_cases hsingle with ⟨ha, hb⟩ | ⟨v, w, ha, hb, hbytes⟩
  · rw [ha, hb]
    exact hout
  · rw [ha, hb]
    exact hout.insert name hbytes

theorem foldl_append_same {vs ws : List HeaderValue}
    (h : vs.map HeaderValue.bytes = ws.map HeaderValue.bytes) (hout : SameHeaders out out')
    (sensitive : Bool) :
    SameHeaders (vs.foldl (fun out v => out.append name (v.setSensitive sensitive)) out)
      (ws.foldl (fun out w => out.append name (w.setSensitive sensitive)) out') := by
  induction vs generalizing ws out out' with
  | nil =>
    obtain rfl : ws = [] := by simpa using h.symm
    exact hout
  | cons v vs ih =>
    cases ws with
    | nil => simp at h
    | cons w ws =>
      obtain ⟨hhead, htail⟩ := List.cons.inj h
      have hbytes : (v.setSensitive sensitive).bytes = (w.setSensitive sensitive).bytes := hhead
      rw [List.foldl_cons, List.foldl_cons]
      exact ih htail (hout.append name hbytes)

theorem appendNonEmptyValues_same (h : AgreeOnNames names a b) (hname : name ∈ names)
    (hout : SameHeaders out out') (sensitive : Bool) :
    SameHeaders (appendNonEmptyValues a out name sensitive)
      (appendNonEmptyValues b out' name sensitive) :=
  foldl_append_same (nonEmptyValues_agree h hname) hout sensitive

theorem copyPrivateAlpha_related (h : AgreeOnNames names a b) (hname : "openai-alpha" ∈ names)
    (hout : SameHeaders out out') (dialect : ApiDialect) :
    Except.Related SameHeaders (copyPrivateAlpha a out dialect) (copyPrivateAlpha b out' dialect) := by
  have hsingle := singleNonEmpty_agree h hname
  unfold copyPrivateAlpha
  cases expectedAlpha dialect with
  | none => exact .ok hout
  | some expected =>
    rcases map_bytes_cases hsingle with ⟨ha, hb⟩ | ⟨v, w, ha, hb, hbytes⟩
    · simp only [ha, hb]
      exact .error _
    · simp only [ha, hb, HeaderValue.toStr_congr hbytes]
      split_ifs
      · exact .error _
      · exact .ok (hout.insert _ hbytes)

theorem insertAccountId_related (profile : UpstreamProfile) (invalid : RelayError)
    (hout : SameHeaders out out') :
    Except.Related SameHeaders (insertAccountId profile invalid out)
      (insertAccountId profile invalid out') := by
  unfold insertAccountId
  cases profile.accountIdRaw with
  | none => exact .ok hout
  | some accountId =>
    cases hvalue : HeaderValue.fromStr accountId with
    | none =>
      simp only [hvalue]
      exact .error _
    | some value =>
      simp only [hvalue]
      exact .ok (hout.insert _ rfl)

/-- The client names a credential policy reads. -/
def credentialNames : CredentialPolicy → List HeaderName
  | .managed => []
  | .clientBearer => ["authorization"]
  | .ephemeral => ["authorization"]

theorem authorization_related {policy : CredentialPolicy} (h : AgreeOnNames names a b)
    (hnames : ∀ name ∈ credentialNames policy, name ∈ names) (profile : UpstreamProfile) :
    Except.Related (fun v w : HeaderValue => v.bytes = w.bytes) (authorization a profile policy)
      (authorization b profile policy) := by
  have hclient : "authorization" ∈ names → Except.Related (fun v w : HeaderValue => v.bytes = w.bytes)
      (authorization a profile .clientBearer) (authorization b profile .clientBearer) := by
    intro hname
    have hbearer := option_filter_map_bytes (p := validBearer) (fun _ _ => validBearer_congr)
      (AgreeOn.get h hname)
    unfold authorization
    rcases map_bytes_cases hbearer with ⟨ha, hb⟩ | ⟨v, w, ha, hb, hbytes⟩
    · simp only [ha, hb]
      exact .error _
    · simp only [ha, hb]
      exact .ok hbytes
  cases policy with
  | managed =>
    unfold authorization
    cases managedAuthorization profile.managedAuth with
    | error e => exact .error e
    | ok value => exact .ok rfl
  | clientBearer => exact hclient (hnames _ (by simp [credentialNames]))
  | ephemeral => exact hclient (hnames _ (by simp [credentialNames]))

end Copy

section Builders
variable {a b out out' : HeaderMap} {names : List HeaderName} {profile : UpstreamProfile}

theorem insertPrivateAccount_related (dialect : ApiDialect) (hout : SameHeaders out out') :
    Except.Related SameHeaders (insertPrivateAccount profile dialect out)
      (insertPrivateAccount profile dialect out') := by
  unfold insertPrivateAccount
  split_ifs
  · exact insertAccountId_related profile _ hout
  · exact .ok hout

theorem copyRequestHeader_related {dialect : ApiDialect} {name : HeaderName}
    (h : AgreeOnNames names a b) (hname : name ∈ names) (hout : SameHeaders out out') :
    Except.Related SameHeaders (copyRequestHeader a dialect out name)
      (copyRequestHeader b dialect out' name) := by
  unfold copyRequestHeader
  split_ifs with halpha
  · exact copyPrivateAlpha_related h (halpha ▸ hname) hout dialect
  · exact .ok (copySingleNonEmpty_same h hname hout _)
  · exact .ok hout
  · exact .ok (appendNonEmptyValues_same h hname hout _)
  · exact .ok (copySingleNonEmpty_same h hname hout _)

def restNames (selection : ProtocolSelection) : List HeaderName :=
  REQUEST_HEADER_ALLOWLIST ++ credentialNames selection.credential

theorem buildUpstreamHeaders_related {selection : ProtocolSelection}
    (h : AgreeOnNames (restNames selection) a b) :
    Except.Related SameHeaders (buildUpstreamHeaders a profile selection)
      (buildUpstreamHeaders b profile selection) := by
  unfold buildUpstreamHeaders
  have hround : ∀ name ∈ REQUEST_HEADER_ALLOWLIST, ∀ s t, SameHeaders s t →
      Except.Related SameHeaders (copyRequestHeader a selection.dialect s name)
        (copyRequestHeader b selection.dialect t name) := fun name hname s t hst =>
    copyRequestHeader_related h (List.mem_append_left _ hname) hst
  refine (Except.Related.foldlM hround (Same.refl _)).bind fun s t hst => ?_
  refine (insertPrivateAccount_related selection.dialect hst).bind fun s' t' hst' => ?_
  refine (authorization_related h (fun _ => List.mem_append_right _) profile).bind fun v w hvw => ?_
  exact .ok (hst'.insert "authorization" hvw)

def websocketNames (selection : ProtocolSelection) : List HeaderName :=
  SEC_WEBSOCKET_PROTOCOL :: WEBSOCKET_METADATA_HEADERS ++ credentialNames selection.credential

theorem copyWebsocketMetadata_same (h : AgreeOnNames WEBSOCKET_METADATA_HEADERS a b) :
    SameHeaders (copyWebsocketMetadata a) (copyWebsocketMetadata b) := by
  unfold copyWebsocketMetadata
  apply appendNonEmptyValues_same h (by decide)
  apply copySingleNonEmpty_same h (by decide)
  apply copySingleNonEmpty_same h (by decide)
  apply copySingleNonEmpty_same h (by decide)
  exact copySingleNonEmpty_same h (by decide) (Same.refl _) _

theorem insertPrivateMetadata_related (h : AgreeOnNames WEBSOCKET_METADATA_HEADERS a b)
    (dialect : ApiDialect) (hout : SameHeaders out out') :
    Except.Related SameHeaders (insertPrivateMetadata a profile dialect out)
      (insertPrivateMetadata b profile dialect out') := by
  unfold insertPrivateMetadata
  split_ifs
  · exact insertAccountId_related profile _ (copySingleNonEmpty_same h (by decide) hout true)
  · exact .ok hout

theorem insertAuthorization_related {selection : ProtocolSelection}
    (h : AgreeOnNames names a b)
    (hnames : ∀ name ∈ credentialNames selection.credential, name ∈ names)
    (protocols : ParsedProtocols) (hout : SameHeaders out out') :
    Except.Related SameHeaders (insertAuthorization a profile selection protocols out)
      (insertAuthorization b profile selection protocols out') := by
  unfold insertAuthorization
  split_ifs
  · refine (authorization_related h hnames profile).bind fun v w hvw => ?_
    exact .ok (hout.insert "authorization" hvw)
  · exact .ok hout

theorem insertProtocols_same (protocols : ParsedProtocols) (hout : SameHeaders out out') :
    SameHeaders (insertProtocols protocols out) (insertProtocols protocols out') := by
  unfold insertProtocols
  cases protocols.upstreamHeader with
  | none => exact hout
  | some value => exact hout.insert SEC_WEBSOCKET_PROTOCOL rfl

theorem buildUpstreamWebsocketHeaders_related {selection : ProtocolSelection}
    (h : AgreeOnNames (websocketNames selection) a b) (validated : ValidatedWebSocketHeaders) :
    Except.Related (fun x y : WebSocketHeaders => SameHeaders x.headers y.headers)
      (buildUpstreamWebsocketHeaders a profile selection validated)
      (buildUpstreamWebsocketHeaders b profile selection validated) := by
  have hmetadata : AgreeOnNames WEBSOCKET_METADATA_HEADERS a b :=
    h.mono fun name hname => List.mem_append_left _ (List.mem_cons_of_mem _ hname)
  unfold buildUpstreamWebsocketHeaders
  refine (copyPrivateAlpha_related hmetadata (by decide)
    (copyWebsocketMetadata_same hmetadata) selection.dialect).bind fun s t hst => ?_
  refine (insertPrivateMetadata_related hmetadata selection.dialect hst).bind fun s' t' hst' => ?_
  refine (insertAuthorization_related h (fun _ => List.mem_append_right _) _ hst').bind
    fun s'' t'' hst'' => ?_
  exact .ok (insertProtocols_same validated.protocols hst'')

/-- The subprotocol list is read through the text of its fields alone. -/
theorem parseProtocols_congr (h : AgreeOnNames [SEC_WEBSOCKET_PROTOCOL] a b)
    (admission : Option BearerToken) : parseProtocols a admission = parseProtocols b admission := by
  have hfold : ∀ (vs ws : List HeaderValue) (scan : ProtocolScan),
      vs.map HeaderValue.bytes = ws.map HeaderValue.bytes →
        vs.foldlM (ProtocolScan.acceptField admission) scan =
          ws.foldlM (ProtocolScan.acceptField admission) scan := by
    intro vs
    induction vs with
    | nil =>
      intro ws scan hbytes
      obtain rfl : ws = [] := by simpa using hbytes.symm
      rfl
    | cons v vs ih =>
      intro ws scan hbytes
      cases ws with
      | nil => simp at hbytes
      | cons w ws =>
        obtain ⟨hhead, htail⟩ := List.cons.inj hbytes
        have hstep : ProtocolScan.acceptField admission scan v =
            ProtocolScan.acceptField admission scan w := by
          rw [ProtocolScan.acceptField, ProtocolScan.acceptField, HeaderValue.toStr_congr hhead]
        rw [List.foldlM_cons, List.foldlM_cons, hstep]
        exact congrArg _ (funext fun scan => ih ws scan htail)
  unfold parseProtocols
  rw [hfold _ _ _ (h SEC_WEBSOCKET_PROTOCOL (by simp))]

theorem copyProtocolHeader_same {name : HeaderName} (h : AgreeOnNames names a b)
    (hname : name ∈ names) (hout : SameHeaders out out') :
    SameHeaders (copyProtocolHeader a out name) (copyProtocolHeader b out' name) := by
  have hmark : ∀ value : HeaderValue, (markAttestation name value).bytes = value.bytes := by
    intro value
    unfold markAttestation
    split_ifs <;> rfl
  unfold copyProtocolHeader
  rcases map_bytes_cases (AgreeOn.get h hname) with ⟨ha, hb⟩ | ⟨v, w, ha, hb, hbytes⟩
  · simpa only [ha, hb] using hout
  · simp only [ha, hb, isEmpty_congr hbytes]
    split_ifs
    · exact hout
    · exact hout.insert name (by rw [hmark, hmark, hbytes])

theorem clientProtocolHeaders_same (h : AgreeOnNames CLIENT_PROTOCOL_HEADERS a b) :
    SameHeaders (clientProtocolHeaders a) (clientProtocolHeaders b) := by
  unfold clientProtocolHeaders
  exact List.foldl_rel (Same.refl _) fun name hname _ _ hst => copyProtocolHeader_same h hname hst

theorem alphaAgrees_congr (adapter : Option WireAdapter) (hout : SameHeaders out out') :
    alphaAgrees out adapter = alphaAgrees out' adapter := by
  have hget : (out.get "openai-alpha").bind HeaderValue.toStr =
      (out'.get "openai-alpha").bind HeaderValue.toStr := by
    have hagree : AgreeOnNames ["openai-alpha"] out out' := fun name _ => hout name
    rcases map_bytes_cases (AgreeOn.get hagree (List.mem_singleton_self _)) with
      ⟨ha, hb⟩ | ⟨v, w, ha, hb, hbytes⟩
    · rw [ha, hb]
    · rw [ha, hb, Option.bind_some, Option.bind_some, HeaderValue.toStr_congr hbytes]
  unfold alphaAgrees
  rw [hget]

theorem mergeUpstreamHeaders_related (debugAssertions : Bool) (adapter : Option WireAdapter)
    (h : AgreeOnNames CLIENT_PROTOCOL_HEADERS a b) :
    Outcome.Related SameHeaders (mergeUpstreamHeaders debugAssertions a profile adapter)
      (mergeUpstreamHeaders debugAssertions b profile adapter) := by
  have hcopied := clientProtocolHeaders_same h
  unfold mergeUpstreamHeaders
  simp only [alphaAgrees_congr adapter hcopied]
  refine (Outcome.Related.refl _).bind fun _ _ _ => ?_
  refine (Outcome.Related.refl _).bind fun v w hvw => ?_
  subst hvw
  exact (insertAccountId_related profile _ (hcopied.insert "authorization" rfl)).ofExcept

def privateCallNames : List HeaderName := "content-type" :: CLIENT_PROTOCOL_HEADERS

theorem buildPrivateCallHeaders_related (debugAssertions : Bool)
    (validated : ValidatedPrivateCallHeaders) (h : AgreeOnNames privateCallNames a b) :
    Outcome.Related SameHeaders (buildPrivateCallHeaders debugAssertions a profile validated)
      (buildPrivateCallHeaders debugAssertions b profile validated) := by
  have hprotocol : AgreeOnNames CLIENT_PROTOCOL_HEADERS a b :=
    h.mono fun _ => List.mem_cons_of_mem _
  unfold buildPrivateCallHeaders
  refine (mergeUpstreamHeaders_related debugAssertions _ hprotocol).bind fun s t hst => ?_
  have hcontent : "content-type" ∈ privateCallNames := by decide
  rcases map_bytes_cases (AgreeOn.get h hcontent) with ⟨ha, hb⟩ | ⟨v, w, ha, hb, hbytes⟩
  · simp only [ha, hb]
    exact .panicked
  · simp only [ha, hb]
    exact .ok (hst.insert _ hbytes)

end Builders

end GptLiveProxy
