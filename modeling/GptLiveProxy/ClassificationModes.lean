import GptLiveProxy.DialectSafety

/-!
# Classification across credential modes and query orders

The credential mode decides nothing but the credential of an official request that brings no
ephemeral key: whether a request is classified, and as what, is the same in both modes. A
WebSocket request is classified by its lists of call ids and models alone, and by the call id alone
once there is exactly one.
-/

namespace GptLiveProxy
open CharText

/-- The same session in the same dialect over the same transport. -/
structure SameProtocol (s s' : ProtocolSelection) : Prop where
  dialect : s.dialect = s'.dialect
  transport : s.transport = s'.transport
  sessionKind : s.sessionKind = s'.sessionKind

/-- Selections of one request in two modes: only a configured credential tells them apart. -/
structure SameButMode (mode mode' : UpstreamCredentialMode) (ephemeral : Prop)
    (s s' : ProtocolSelection) : Prop extends SameProtocol s s' where
  shared : s.dialect ≠ .officialGa ∨ ephemeral → s.credential = s'.credential
  configured : s.dialect = .officialGa → ¬ ephemeral →
    s.credential = configuredCredential mode ∧ s'.credential = configuredCredential mode'

def IsEphemeralRequest (decoder : PercentDecoder) (facts : RouteFacts) : Prop :=
  ¬ IsWebsocketPath facts.path ∧ ∃ operation, restOperation decoder facts.path = .ok operation ∧
    IsEphemeralCreate facts.contentType operation

/-- Requests that differ in their queries at most. -/
structure SameRequest (facts facts' : RouteFacts) : Prop where
  path : facts.path = facts'.path
  method : facts.method = facts'.method
  alpha : facts.openaiAlpha = facts'.openaiAlpha
  mode : facts.credentialMode = facts'.credentialMode

section Modes
variable {decoder : PercentDecoder} {facts : RouteFacts} (mode : UpstreamCredentialMode)

theorem classifyRestCallCreate_mode :
    Except.Related SameProtocol (classifyRestCallCreate facts)
      (classifyRestCallCreate { facts with credentialMode := mode }) := by
  apply (Except.Related.refl (restCallCreateDialect facts)).bind
  rintro dialect _ rfl
  apply (Except.Related.refl (restCallCreateRawSdp facts.contentType)).bind
  rintro rawSdp _ rfl
  by_cases hraw : dialect ≠ .officialGa ∧ rawSdp = true
  · rw [if_pos hraw, if_pos hraw]
    exact .error _
  · rw [if_neg hraw, if_neg hraw]
    exact .ok ⟨rfl, rfl, rfl⟩

theorem officialRestSession_mode (operation : RestOperation) :
    Outcome.Related (fun session session' => session.1 = session'.1)
      (officialRestSession operation facts)
      (officialRestSession operation { facts with credentialMode := mode }) := by
  cases operation with
  | createCall => exact .panicked
  -- the translation call reads the content type and no mode
  | createTranslationCall =>
    exact (Outcome.Related.refl (officialRestSession .createTranslationCall facts)).imp
      fun _ _ _ _ heq => congrArg Prod.fst heq
  | acceptCall callId => exact .ok rfl
  | rejectCall callId => exact .ok rfl
  | referCall callId => exact .ok rfl
  | hangupCall callId => exact .ok rfl
  | createClientSecret => exact .ok rfl
  | createLegacySession => exact .ok rfl
  | createTranscriptionSession => exact .ok rfl
  | createTranslationClientSecret => exact .ok rfl

theorem restSelection_mode (operation : RestOperation) :
    Outcome.Related SameProtocol (restSelection operation facts)
      (restSelection operation { facts with credentialMode := mode }) := by
  by_cases hcreate : operation = .createCall
  · subst hcreate
    exact (classifyRestCallCreate_mode mode).ofExcept
  · rw [restSelection_official hcreate, restSelection_official hcreate]
    unfold classifyOfficialRest
    by_cases hprivate : (privateDialect facts.openaiAlpha).isSome = true
    · rw [if_pos hprivate, if_pos hprivate]
      exact .error _
    · rw [if_neg hprivate, if_neg hprivate]
      apply (officialRestSession_mode mode operation).bind
      intro session session' hsession
      exact .ok ⟨rfl, rfl, hsession⟩

theorem classifyRest_mode :
    Outcome.Related (fun c c' => c.operation = c'.operation ∧
        restOperation decoder facts.path = .ok c.operation ∧ SameProtocol c.selection c'.selection)
      (classifyRest decoder facts) (classifyRest decoder { facts with credentialMode := mode }) := by
  have hoperation : Outcome.Related
      (fun operation operation' => operation = operation' ∧ restOperation decoder facts.path = .ok operation)
      (Outcome.ofExcept (restOperation decoder facts.path))
      (Outcome.ofExcept (restOperation decoder facts.path)) :=
    (Outcome.Related.refl _).imp fun _ _ hok _ heq => ⟨heq, Outcome.ofExcept_eq_ok.mp hok⟩
  apply hoperation.bind
  rintro operation _ ⟨rfl, hrouted⟩
  by_cases hmethod : facts.method ≠ .post
  · rw [if_pos hmethod, if_pos hmethod]
    exact .error _
  · rw [if_neg hmethod, if_neg hmethod]
    apply (restSelection_mode mode operation).bind
    intro selection selection' hselection
    exact .ok ⟨rfl, hrouted, hselection⟩

/-- The credential rules of both modes read the same operation, dialect, and content type. -/
theorem classifyRest_sameButMode :
    Outcome.Related (fun c c' => c.operation = c'.operation ∧
        restOperation decoder facts.path = .ok c.operation ∧
          SameButMode facts.credentialMode mode (IsEphemeralCreate facts.contentType c.operation)
            c.selection c'.selection)
      (classifyRest decoder facts) (classifyRest decoder { facts with credentialMode := mode }) := by
  apply (classifyRest_mode mode).imp
  rintro c c' hc hc' ⟨hoperation, hrouted, hprotocol⟩
  have hcredential := classifyRest_credential hc
  have hcredential' := classifyRest_credential hc'
  rw [← hoperation, ← hprotocol.dialect] at hcredential'
  refine ⟨hoperation, hrouted, hprotocol, ?_, ?_⟩
  · intro hshared
    rw [hcredential, hcredential']
    by_cases hprivate : c.selection.dialect ≠ .officialGa
    · rw [if_pos hprivate, if_pos hprivate]
    · have hephemeral := hshared.resolve_left hprivate
      rw [if_neg hprivate, if_neg hprivate, if_pos hephemeral, if_pos hephemeral]
  · intro hofficial hephemeral
    rw [hcredential, hcredential', if_neg (not_not.mpr hofficial), if_neg (not_not.mpr hofficial),
      if_neg hephemeral, if_neg hephemeral]
    exact ⟨rfl, rfl⟩

theorem classifyWebsocket_sameButMode :
    Except.Related (fun c c' => c.target = c'.target ∧
        SameButMode facts.credentialMode mode False c.selection c'.selection)
      (classifyWebsocket facts) (classifyWebsocket { facts with credentialMode := mode }) := by
  have hprotocol : Except.Related
      (fun c c' => c.target = c'.target ∧ SameProtocol c.selection c'.selection)
      (classifyWebsocket facts) (classifyWebsocket { facts with credentialMode := mode }) := by
    unfold classifyWebsocket
    by_cases hpath :
      facts.path ≠ "/v1/realtime".toList ∧ facts.path ≠ "/v1/realtime/translations".toList
    · rw [if_pos hpath, if_pos hpath]
      exact .error _
    · rw [if_neg hpath, if_neg hpath]
      by_cases hmethod : facts.method ≠ .get
      · rw [if_pos hmethod, if_pos hmethod]
        exact .error _
      · rw [if_neg hmethod, if_neg hmethod]
        apply (Except.Related.refl (classifyWebsocketTarget facts)).bind
        rintro target _ rfl
        exact .ok ⟨rfl, rfl, rfl, rfl⟩
  apply hprotocol.imp
  rintro c c' hc hc' ⟨htarget, hsame⟩
  have hcredential := classifyWebsocket_credential hc
  have hcredential' := classifyWebsocket_credential hc'
  rw [← hsame.dialect] at hcredential'
  refine ⟨htarget, hsame, ?_, ?_⟩
  · intro hshared
    have hprivate := hshared.resolve_right not_false
    rw [hcredential, hcredential', if_neg hprivate, if_neg hprivate]
  · intro hofficial _
    rw [hcredential, hcredential', if_pos hofficial, if_pos hofficial]
    exact ⟨rfl, rfl⟩

theorem classify_safe (decoder : PercentDecoder) (facts : RouteFacts) :
    (classify decoder facts).Safe := by
  unfold classify
  split_ifs
  · exact (Outcome.safe_ofExcept _).bind fun _ _ => Outcome.safe_ok _
  · exact ((classifyRest_safe decoder facts).mapError _).bind fun _ _ => Outcome.safe_ok _

theorem classify_sameButMode :
    Outcome.Related
      (SameButMode facts.credentialMode mode (IsEphemeralRequest decoder facts))
      (classify decoder facts) (classify decoder { facts with credentialMode := mode }) := by
  unfold classify
  by_cases hpath : IsWebsocketPath facts.path
  · rw [if_pos hpath, if_pos hpath]
    apply ((classifyWebsocket_sameButMode mode).mapError _).ofExcept.bind
    rintro c c' ⟨-, hsame⟩
    have hnever : ¬ IsEphemeralRequest decoder facts := fun h => h.1 hpath
    refine .ok ⟨hsame.toSameProtocol, ?_, fun hofficial _ => hsame.configured hofficial not_false⟩
    intro hshared
    exact hsame.shared (.inl (hshared.resolve_right hnever))
  · rw [if_neg hpath, if_neg hpath]
    apply ((classifyRest_sameButMode mode).mapError _).bind
    rintro c c' ⟨-, hrouted, hsame⟩
    have hephemeral : IsEphemeralRequest decoder facts ↔
        IsEphemeralCreate facts.contentType c.operation := by
      constructor
      · rintro ⟨-, operation, hoperation, hcreate⟩
        cases hrouted.symm.trans hoperation
        exact hcreate
      · intro hcreate
        exact ⟨hpath, c.operation, hrouted, hcreate⟩
    apply Outcome.Related.ok
    rw [hephemeral]
    exact hsame

end Modes

section Selectors

/-- The target depends on the query through its call ids and models alone. -/
theorem classifyWebsocket_selectors {facts facts' : RouteFacts} (h : SameRequest facts facts')
    (hcalls : selectorValues facts.query "call_id".toList = selectorValues facts'.query "call_id".toList)
    (hmodels : selectorValues facts.query "model".toList = selectorValues facts'.query "model".toList) :
    classifyWebsocket facts = classifyWebsocket facts' := by
  simp only [classifyWebsocket, classifyWebsocketTarget, websocketSelection, h.path, h.method, h.alpha,
    h.mode, hcalls, hmodels]

theorem classifyWebsocket_oneCall {facts facts' : RouteFacts} (h : SameRequest facts facts')
    {callId : Text} (hcalls : selectorValues facts.query "call_id".toList = [callId])
    (hcalls' : selectorValues facts'.query "call_id".toList = [callId]) :
    classifyWebsocket facts = classifyWebsocket facts' := by
  have htarget : classifyWebsocketTarget facts = classifyWebsocketTarget facts' := by
    simp only [classifyWebsocketTarget, h.path, h.alpha, hcalls, hcalls',
      if_pos (List.cons_ne_nil callId [])]
  simp only [classifyWebsocket, htarget, websocketSelection, h.path, h.method, h.mode]

theorem classify_websocket {decoder : PercentDecoder} {facts facts' : RouteFacts}
    (hpath : IsWebsocketPath facts.path) (h : facts.path = facts'.path)
    (hclassified : classifyWebsocket facts = classifyWebsocket facts') :
    classify decoder facts = classify decoder facts' := by
  rw [classify, classify, if_pos hpath, if_pos (h ▸ hpath), hclassified]

end Selectors

end GptLiveProxy
