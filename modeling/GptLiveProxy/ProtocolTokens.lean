import GptLiveProxy.Subprotocol

/-!
# What a parsed subprotocol list contains

An accepted list consists of tokens without separators, its credential tokens are exactly the
browser credential the parser reports, and none of them is the admission secret. The canonical
header spells the same list: splitting it at its commas gives the offered tokens back.
-/

namespace GptLiveProxy
open CharText

theorem isTokenChar_ascii {c : Char} (h : isTokenChar c = true) : c.toNat < 128 := by
  rw [isTokenChar, Bool.or_eq_true, List.contains_iff_mem] at h
  rcases h with h | h
  · exact isAsciiAlphanumeric_ascii h
  · have hmarks : ∀ c ∈ "!#$%&'*+-.^_`|~".toList, decide (c.toNat < 128) = true :=
      List.all_eq_true.mp rfl
    exact of_decide_eq_true (hmarks c h)

theorem isTokenChar_facts {c : Char} (h : isTokenChar c = true) :
    isVisibleChar c = true ∧ c ≠ ',' ∧ isOws c = false := by
  have hlt := isTokenChar_ascii h
  revert h
  exact forall_ascii (P := fun c => isTokenChar c = true →
    isVisibleChar c = true ∧ c ≠ ',' ∧ isOws c = false) (by decide +kernel) hlt

def IsProtocolToken (token : Text) : Prop := token ≠ [] ∧ ∀ c ∈ token, isTokenChar c = true

section Canonical

theorem trimMatches_token {pre token : Text} (hpre : ∀ c ∈ pre, isOws c)
    (htoken : IsProtocolToken token) : trimMatches isOws (pre ++ token) = token := by
  rw [trimMatches_append_left isOws hpre]
  apply trimMatches_eq_self
  · intro c hc
    exact (isTokenChar_facts (htoken.2 c (List.mem_of_mem_head? hc))).2.2
  · intro c hc
    exact (isTokenChar_facts (htoken.2 c (List.mem_of_mem_getLast? hc))).2.2

theorem comma_notMem_token {pre token : Text} (hpre : ∀ c ∈ pre, isOws c)
    (htoken : IsProtocolToken token) : ∀ c ∈ pre ++ token, (c == ',') = false := by
  intro c hc
  rw [beq_eq_false_iff_ne]
  rcases List.mem_append.mp hc with hpad | hin
  · rintro rfl
    exact absurd (hpre _ hpad) (by decide)
  · exact (isTokenChar_facts (htoken.2 c hin)).2.1

theorem protocolTokens_pad_canonicalList {pre : Text} (hpre : ∀ c ∈ pre, isOws c)
    {offered : List Text} (hne : offered ≠ []) (htokens : ∀ token ∈ offered, IsProtocolToken token) :
    protocolTokens (pre ++ canonicalList offered) = offered := by
  induction offered generalizing pre with
  | nil => exact absurd rfl hne
  | cons token rest ih =>
    have htoken : IsProtocolToken token := htokens token (by simp)
    have hcomma := comma_notMem_token hpre htoken
    cases rest with
    | nil =>
      have hlist : canonicalList [token] = token := by simp [canonicalList, List.intercalate]
      have hsplit : (pre ++ token).splitOn ',' = [pre ++ token] := List.splitOnP_eq_singleton hcomma
      rw [hlist, protocolTokens, hsplit, List.map_singleton, trimMatches_token hpre htoken]
    | cons token' rest =>
      have hlist : canonicalList (token :: token' :: rest) =
          token ++ ',' :: ([' '] ++ canonicalList (token' :: rest)) := by
        simp [canonicalList, List.intercalate]
      have hsplit : (pre ++ canonicalList (token :: token' :: rest)).splitOn ',' =
          (pre ++ token) :: ([' '] ++ canonicalList (token' :: rest)).splitOn ',' := by
        rw [hlist, ← List.append_assoc]
        simp only [List.splitOn]
        rw [List.splitOnP_append_cons _ _ (by simp), List.splitOnP_eq_singleton hcomma]
        rfl
      have hspace : ∀ c ∈ [' '], isOws c := List.forall_mem_singleton.mpr rfl
      have htail := ih hspace (by simp) fun t ht => htokens t (by simp [ht])
      rw [protocolTokens, hsplit, List.map_cons, trimMatches_token hpre htoken]
      exact congrArg (token :: ·) htail

theorem protocolTokens_canonicalList {offered : List Text} (hne : offered ≠ [])
    (htokens : ∀ token ∈ offered, IsProtocolToken token) :
    protocolTokens (canonicalList offered) = offered := by
  have hpad : ∀ c ∈ ([] : Text), isOws c := by simp
  exact protocolTokens_pad_canonicalList hpad hne htokens

theorem visible_canonicalList {offered : List Text}
    (htokens : ∀ token ∈ offered, IsProtocolToken token) :
    ∀ c ∈ canonicalList offered, isVisibleChar c = true := by
  induction offered with
  | nil => simp [canonicalList, List.intercalate]
  | cons token rest ih =>
    have hhead : ∀ c ∈ token, isVisibleChar c = true :=
      fun c hc => (isTokenChar_facts ((htokens token (by simp)).2 c hc)).1
    have htail := ih fun t ht => htokens t (by simp [ht])
    intro c hc
    cases rest with
    | nil =>
      rw [canonicalList, List.intercalate, List.intersperse_singleton, List.flatten_singleton] at hc
      exact hhead c hc
    | cons token' rest =>
      have hlist : canonicalList (token :: token' :: rest) =
          token ++ ([',', ' '] ++ canonicalList (token' :: rest)) := by
        simp [canonicalList, List.intercalate]
      rw [hlist, List.mem_append, List.mem_append] at hc
      rcases hc with hc | hc | hc
      · exact hhead c hc
      · rcases List.mem_pair.mp hc with rfl | rfl <;> rfl
      · exact htail c hc

end Canonical

section Scan
variable {admission : Option BearerToken}

/-- What the scan has established about the tokens it accepted. -/
structure ProtocolScan.Accepted (admission : Option BearerToken) (scan : ProtocolScan) : Prop where
  tokens : ∀ token ∈ scan.offered, IsProtocolToken token
  credentials : (scan.offered.filterMap credentialSuffix).map some =
    (scan.credential.map HeaderValue.toStr).toList
  withheld : ∀ secret ∈ admission, secret.raw ∉ scan.offered.filterMap credentialSuffix

theorem credentialSuffix_realtime : credentialSuffix REALTIME = none := by decide

theorem acceptClass_offered {scan scan' : ProtocolScan} {token : Text}
    (h : scan.acceptClass admission token = .ok scan') : scan'.offered = scan.offered := by
  unfold ProtocolScan.acceptClass at h
  unfold ProtocolScan.acceptCredential at h
  repeat' split at h
  all_goals first | cases h; rfl | cases h

/-- Either the token is no credential token and the credential is unchanged, or it is the first
credential token and its suffix is kept as the credential. -/
theorem acceptClass_credential {scan scan' : ProtocolScan} {token : Text}
    (h : scan.acceptClass admission token = .ok scan') :
    (credentialSuffix token = none ∧ scan'.credential = scan.credential) ∨
      ∃ suffix value, credentialSuffix token = some suffix ∧ scan.credential = none ∧
        admission.any (·.ctEq suffix) = false ∧ HeaderValue.fromStr suffix = some value ∧
          scan'.credential = some (value.setSensitive true) := by
  unfold ProtocolScan.acceptClass at h
  split_ifs at h with hrealtime hseen
  · cases h
    exact Or.inl ⟨hrealtime ▸ credentialSuffix_realtime, rfl⟩
  cases hsuffix : token.dropPrefix? CREDENTIAL_PREFIX with
  | some suffix =>
    simp only [hsuffix, ProtocolScan.acceptCredential] at h
    split_ifs at h with hrepeat hsecret
    cases hvalue : HeaderValue.fromStr suffix with
    | none => simp [hvalue] at h
    | some value =>
      simp only [hvalue] at h
      cases h
      refine Or.inr ⟨suffix, value, hsuffix, ?_, by simpa using hsecret, hvalue, rfl⟩
      cases hcredential : scan.credential with
      | none => rfl
      | some v => simp [hcredential] at hrepeat
  | none =>
    refine Or.inl ⟨hsuffix, ?_⟩
    simp only [hsuffix] at h
    repeat' split at h
    all_goals first | cases h; rfl | cases h

theorem acceptToken_eq_ok {scan scan' : ProtocolScan} {token : Text}
    (h : ProtocolScan.acceptToken admission scan token = .ok scan') :
    IsProtocolToken token ∧ ∃ classed, scan.acceptClass admission token = .ok classed ∧
      scan'.offered = scan.offered ++ [token] ∧ scan'.credential = classed.credential := by
  unfold ProtocolScan.acceptToken at h
  split_ifs at h with hreject
  obtain ⟨classed, hclass, hscan⟩ := Except.bind_eq_ok.mp h
  cases hscan
  simp only [not_or, Bool.not_eq_false] at hreject
  refine ⟨⟨hreject.1, List.all_eq_true.mp hreject.2.2.1⟩, classed, hclass, ?_, rfl⟩
  rw [acceptClass_offered hclass]

theorem acceptToken_accepted {scan scan' : ProtocolScan} {token : Text}
    (hscan : scan.Accepted admission)
    (h : ProtocolScan.acceptToken admission scan token = .ok scan') : scan'.Accepted admission := by
  obtain ⟨htoken, classed, hclass, hoffered, hcredential⟩ := acceptToken_eq_ok h
  have htokens : ∀ t ∈ scan'.offered, IsProtocolToken t := by
    rw [hoffered]
    intro t ht
    rcases List.mem_append.mp ht with hold | hnew
    · exact hscan.tokens t hold
    · rwa [List.mem_singleton.mp hnew]
  rcases acceptClass_credential hclass with ⟨hnone, hsame⟩ | hfirst
  · have hsuffixes : scan'.offered.filterMap credentialSuffix =
        scan.offered.filterMap credentialSuffix := by
      simp [hoffered, List.filterMap_append, hnone]
    refine ⟨htokens, ?_, ?_⟩
    · rw [hsuffixes, hcredential, hsame]
      exact hscan.credentials
    · rw [hsuffixes]
      exact hscan.withheld
  · obtain ⟨suffix, value, hsuffix, hempty, hsecret, hvalue, hkept⟩ := hfirst
    have hold : scan.offered.filterMap credentialSuffix = [] := by
      simpa [hempty] using hscan.credentials
    have hsuffixes : scan'.offered.filterMap credentialSuffix = [suffix] := by
      rw [hoffered, List.filterMap_append, hold]
      simp [hsuffix]
    -- the suffix of a token is visible text, so the kept value reads back as it
    have hvisible : ∀ c ∈ suffix, isVisibleChar c = true := by
      intro c hc
      have hmem : c ∈ token := by
        obtain ⟨pre, hpre, -⟩ := List.dropPrefix?_eq_some_iff.mp hsuffix
        rw [hpre]
        exact List.mem_append_right _ hc
      exact (isTokenChar_facts (htoken.2 c hmem)).1
    have hread : value.toStr = some suffix := by
      obtain ⟨w, hw, hwread⟩ := HeaderValue.toStr_fromStr hvisible
      rw [hvalue] at hw
      cases hw
      exact hwread
    refine ⟨htokens, ?_, ?_⟩
    · rw [hsuffixes, hcredential, hkept]
      simp [hread]
    · rw [hsuffixes]
      rintro secret hsecretMem hin
      rw [List.mem_singleton] at hin
      rw [Option.mem_def] at hsecretMem
      simp [hsecretMem, ← hin, (BearerToken.ctEq_iff secret secret.raw).mpr rfl] at hsecret

theorem acceptField_eq_ok {scan scan' : ProtocolScan} {field : HeaderValue}
    (h : ProtocolScan.acceptField admission scan field = .ok scan') :
    ∃ raw aggregate, field.toStr = some raw ∧
      (protocolTokens raw).foldlM (ProtocolScan.acceptToken admission) { scan with aggregate } =
        .ok scan' := by
  unfold ProtocolScan.acceptField at h
  cases hraw : field.toStr with
  | none => simp [hraw] at h
  | some raw =>
    simp only [hraw] at h
    split_ifs at h
    exact ⟨raw, scan.aggregate + byteLen raw, rfl, h⟩

theorem acceptField_accepted {scan scan' : ProtocolScan} {field : HeaderValue}
    (hscan : scan.Accepted admission)
    (h : ProtocolScan.acceptField admission scan field = .ok scan') : scan'.Accepted admission := by
  obtain ⟨raw, aggregate, -, htokens⟩ := acceptField_eq_ok h
  refine Except.foldlM_invariant (ProtocolScan.Accepted admission)
    (fun s t s' => acceptToken_accepted) ?_ htokens
  exact ⟨hscan.tokens, hscan.credentials, hscan.withheld⟩

theorem acceptField_offered {scan scan' : ProtocolScan} {field : HeaderValue}
    (h : ProtocolScan.acceptField admission scan field = .ok scan') :
    scan'.offered = scan.offered ++ (field.toStr.toList).flatMap protocolTokens := by
  obtain ⟨raw, aggregate, hraw, htokens⟩ := acceptField_eq_ok h
  have hcollect := Except.foldlM_collect ProtocolScan.offered (fun t => [t])
    (fun s t s' hstep => (acceptToken_eq_ok hstep).2.choose_spec.2.1) htokens
  simpa [hraw] using hcollect

end Scan

section Parsed
variable {headers : HeaderMap} {admission : Option BearerToken} {parsed : ParsedProtocols}

theorem canonicalHeader_eq_ok {offered : List Text} {header : Option HeaderValue}
    (htokens : ∀ token ∈ offered, IsProtocolToken token)
    (h : canonicalHeader offered = .ok header) :
    (offered = [] ∧ header = none) ∨
      ∃ value, header = some value ∧ value.toStr = some (canonicalList offered) := by
  unfold canonicalHeader at h
  split_ifs at h with hempty
  · cases h
    exact Or.inl ⟨hempty, rfl⟩
  obtain ⟨value, hvalue, hread⟩ := HeaderValue.toStr_fromStr (visible_canonicalList htokens)
  simp only [hvalue] at h
  cases h
  exact Or.inr ⟨value.setSensitive true, rfl, hread⟩

theorem parseProtocols_eq_ok (h : parseProtocols headers admission = .ok parsed) :
    ∃ scan, (headers.getAll SEC_WEBSOCKET_PROTOCOL).foldlM (ProtocolScan.acceptField admission)
        .start = .ok scan ∧ canonicalHeader scan.offered = .ok parsed.upstreamHeader ∧
      parsed.offered = scan.offered ∧ parsed.browserCredential = scan.credential := by
  unfold parseProtocols at h
  obtain ⟨scan, hscan, hrest⟩ := Except.bind_eq_ok.mp h
  split_ifs at hrest
  obtain ⟨header, hheader, hparsed⟩ := Except.bind_eq_ok.mp hrest
  cases hparsed
  exact ⟨scan, hscan, hheader, rfl, rfl⟩

theorem parseProtocols_accepted (h : parseProtocols headers admission = .ok parsed) :
    (∀ token ∈ parsed.offered, IsProtocolToken token) ∧
      (parsed.offered.filterMap credentialSuffix).map some =
        (parsed.browserCredential.map HeaderValue.toStr).toList ∧
      ∀ secret ∈ admission, secret.raw ∉ parsed.offered.filterMap credentialSuffix := by
  obtain ⟨scan, hscan, -, hoffered, hcredential⟩ := parseProtocols_eq_ok h
  have hstart : ProtocolScan.start.Accepted admission := ⟨by simp [ProtocolScan.start], rfl, by
    simp [ProtocolScan.start]⟩
  have haccepted := Except.foldlM_invariant (ProtocolScan.Accepted admission)
    (fun s f s' => acceptField_accepted) hstart hscan
  rw [hoffered, hcredential]
  exact ⟨haccepted.tokens, haccepted.credentials, haccepted.withheld⟩

/-- The offered tokens are all the tokens of all the fields, in wire order. -/
theorem parseProtocols_offered (h : parseProtocols headers admission = .ok parsed) :
    parsed.offered =
      ((headers.getAll SEC_WEBSOCKET_PROTOCOL).filterMap HeaderValue.toStr).flatMap protocolTokens := by
  obtain ⟨scan, hscan, -, hoffered, -⟩ := parseProtocols_eq_ok h
  have hcollect := Except.foldlM_collect (f := ProtocolScan.acceptField admission)
    ProtocolScan.offered (fun field => field.toStr.toList.flatMap protocolTokens)
    (fun _ _ _ hstep => acceptField_offered hstep) hscan
  rw [hoffered, hcollect]
  simp [ProtocolScan.start, List.filterMap_eq_flatMap_toList, List.flatMap_assoc]

theorem credentialTokens_of_parse (h : parseProtocols headers admission = .ok parsed) :
    credentialTokens headers = parsed.offered.filterMap credentialSuffix := by
  rw [credentialTokens, parseProtocols_offered h]

/-- A map whose only subprotocol value is the canonical header offers the parsed credentials. -/
theorem credentialTokens_of_canonical (h : parseProtocols headers admission = .ok parsed)
    {out : HeaderMap} (hout : out.getAll SEC_WEBSOCKET_PROTOCOL = parsed.upstreamHeader.toList) :
    credentialTokens out = credentialTokens headers := by
  rw [credentialTokens_of_parse h, credentialTokens, hout]
  obtain ⟨scan, -, hheader, hoffered, -⟩ := parseProtocols_eq_ok h
  have htokens := (parseProtocols_accepted h).1
  rw [hoffered] at htokens ⊢
  rcases canonicalHeader_eq_ok htokens hheader with ⟨hempty, hnone⟩ | ⟨value, hvalue, hread⟩
  · simp [hempty, hnone]
  · by_cases hne : scan.offered = []
    · rw [hne] at hheader
      simp [canonicalHeader] at hheader
      simp [← hheader, hne]
    · simp [hvalue, hread, protocolTokens_canonicalList hne htokens]

end Parsed

end GptLiveProxy
