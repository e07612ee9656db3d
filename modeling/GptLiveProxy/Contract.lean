import GptLiveProxy.Config
import GptLiveProxy.Outcome
import GptLiveProxy.Path

/-!
# Classification of Realtime requests

A request is classified before routing into a dialect, a transport, a session kind, and a
credential policy. The private dialects are selected by `openai-alpha` alone; the content type
distinguishes a raw SDP offer from a multipart one.
-/

namespace GptLiveProxy
open CharText

inductive ApiDialect
  | officialGa
  | quicksilverV1
  | frameless
deriving DecidableEq

inductive Transport
  | http
  | webRtcCall
  | standaloneWebSocket
  | existingCallWebSocket
  | translationWebSocket
deriving DecidableEq

inductive SessionKind
  | realtime
  | transcription
  | translation
  | opaqueSession
deriving DecidableEq

inductive CredentialPolicy
  | managed
  | clientBearer
  | ephemeral
deriving DecidableEq

structure ProtocolSelection where
  dialect : ApiDialect
  transport : Transport
  sessionKind : SessionKind
  credential : CredentialPolicy
deriving DecidableEq

inductive Method
  | options
  | get
  | post
  | put
  | delete
  | head
  | trace
  | connect
  | patch
  | extension (name : String)
deriving DecidableEq

structure RouteFacts where
  method : Method
  path : Text
  query : List (Text × Text)
  contentType : Option Text
  openaiAlpha : Option Text
  credentialMode : UpstreamCredentialMode

structure ClassifiedRest where
  operation : RestOperation
  selection : ProtocolSelection
deriving DecidableEq

inductive WebSocketTarget
  | standalone (model : Text)
  | existingCall (callId : Text)
  | translation (model : Text)
deriving DecidableEq

structure ClassifiedWebSocket where
  target : WebSocketTarget
  selection : ProtocolSelection
deriving DecidableEq

inductive WebSocketContractError
  | unknownRoute
  | methodNotAllowed
  | missingSelector
  | ambiguousQuery
  | invalidCallId
  | privateDialectRequiresManaged
  | privateDialectNotSupported
deriving DecidableEq

inductive RestContractError
  | unknownRoute
  | methodNotAllowed
  | invalidCallId
  | unsupportedContentType
  | privateDialectRequiresManaged
  | privateDialectNotSupported
deriving DecidableEq

def RestContractError.ofPathError : PathError → RestContractError
  | .unknownRoute => .unknownRoute
  | .invalidCallId => .invalidCallId

inductive ContractError
  | methodNotAllowed
  | unsupportedContentType
  | unknownRoute
  | invalidCallId
  | ambiguousQuery
  | missingSelector
  | privateDialectRequiresManaged
  | privateDialectNotSupported
deriving DecidableEq

def ContractError.ofRest : RestContractError → ContractError
  | .unknownRoute => .unknownRoute
  | .methodNotAllowed => .methodNotAllowed
  | .invalidCallId => .invalidCallId
  | .unsupportedContentType => .unsupportedContentType
  | .privateDialectRequiresManaged => .privateDialectRequiresManaged
  | .privateDialectNotSupported => .privateDialectNotSupported

def ContractError.ofWebsocket : WebSocketContractError → ContractError
  | .unknownRoute => .unknownRoute
  | .methodNotAllowed => .methodNotAllowed
  | .missingSelector => .missingSelector
  | .ambiguousQuery => .ambiguousQuery
  | .invalidCallId => .invalidCallId
  | .privateDialectRequiresManaged => .privateDialectRequiresManaged
  | .privateDialectNotSupported => .privateDialectNotSupported

section MediaType

/-- One scalar value in front of the first part. -/
def consPart (c : Char) : List Text → List Text
  | [] => [[c]]
  | part :: parts => (c :: part) :: parts

/-- The parts between unquoted semicolons; a backslash escapes one character inside quotes. -/
def splitMimeFrom (quoted escaped : Bool) : Text → Option (List Text)
  | [] => if quoted || escaped then none else some [[]]
  | c :: t =>
    if escaped then (splitMimeFrom quoted false t).map (consPart c)
    else if quoted && c == '\\' then (splitMimeFrom quoted true t).map (consPart c)
    else if c == '"' then (splitMimeFrom (!quoted) false t).map (consPart c)
    else if c == ';' && !quoted then (splitMimeFrom quoted false t).map ([] :: ·)
    else (splitMimeFrom quoted false t).map (consPart c)

def splitMimeParts (raw : Text) : Option (List Text) := splitMimeFrom false false raw

def isTokenChar (c : Char) : Bool :=
  isAsciiAlphanumeric c || "!#$%&'*+-.^_`|~".toList.contains c

def isMimeToken (value : Text) : Bool := !value.isEmpty && value.all isTokenChar

def isControlChar (c : Char) : Bool := c.toNat < 0x20 || c.toNat == 0x7f

/-- The inside of a quoted value: no bare quote, no control character, no dangling escape. -/
def validQuoted (escaped : Bool) : Text → Bool
  | [] => !escaped
  | c :: t =>
    if escaped then !isControlChar c && validQuoted false t
    else if c == '\\' then validQuoted true t
    else !(c == '"' || isControlChar c) && validQuoted false t

def validParameterValue (value : Text) : Bool :=
  if value.head? = some '"' then
    if byteLen value ≤ 2 || value.getLast? != some '"' then false
    else validQuoted false (value.drop 1).dropLast
  else isMimeToken value

/-- Whether a boundary is among the parameters, which must be well formed and distinct. -/
def mediaTypeParameters : List Text → List Text → Option Bool
  | _, [] => some false
  | names, parameter :: parameters => do
    let (name, value) ← splitOnce '=' (trim parameter)
    let name := trim name
    let value := trim value
    if !isMimeToken name || !validParameterValue value then none
    else
      let normalized := toAsciiLowercase name
      if names.contains normalized then none
      else do
        let hasBoundary ← mediaTypeParameters (normalized :: names) parameters
        return normalized == "boundary".toList || hasBoundary

def mediaType (contentType : Option Text) : Option Text := do
  let raw ← contentType
  let parts ← splitMimeParts raw
  let base := trim (← parts.head?)
  let (major, minor) ← splitOnce '/' base
  if !isMimeToken major || !isMimeToken minor then none
  else do
    let hasBoundary ← mediaTypeParameters [] parts.tail
    if eqIgnoreAsciiCase base "multipart/form-data".toList && !hasBoundary then none else some base

end MediaType

def privateDialect (openaiAlpha : Option Text) : Option ApiDialect :=
  match openaiAlpha.map trim with
  | none => none
  | some alpha =>
    if alpha = "quicksilver=v1".toList then some .quicksilverV1
    else if alpha = "quicksilver=v2".toList then some .frameless
    else none

def configuredCredential : UpstreamCredentialMode → CredentialPolicy
  | .managed => .managed
  | .client => .clientBearer

def selectorValues (query : List (Text × Text)) (key : Text) : List Text :=
  (query.filter fun pair => pair.1 == key).map Prod.snd

def restCallCreateDialect (facts : RouteFacts) : Except RestContractError ApiDialect :=
  if facts.path = "/v1/live".toList then
    match privateDialect facts.openaiAlpha with
    | some .frameless => .ok .frameless
    | _ => .error .privateDialectNotSupported
  else if facts.path = "/v1/realtime/calls".toList then
    match privateDialect facts.openaiAlpha with
    | some .frameless => .error .privateDialectNotSupported
    | some .quicksilverV1 => .ok .quicksilverV1
    | _ => .ok .officialGa
  else .error .unknownRoute

/-- Whether the call-create body is a raw SDP offer. -/
def restCallCreateRawSdp (contentType : Option Text) : Except RestContractError Bool :=
  match mediaType contentType with
  | some value =>
    if eqIgnoreAsciiCase value "multipart/form-data".toList then .ok false
    else if eqIgnoreAsciiCase value "application/sdp".toList then .ok true
    else .error .unsupportedContentType
  | none => .error .unsupportedContentType

def restCallCreateSelection (facts : RouteFacts) (dialect : ApiDialect) (rawSdp : Bool) :
    ProtocolSelection where
  dialect := dialect
  transport := .webRtcCall
  sessionKind := .opaqueSession
  credential :=
    if dialect ≠ .officialGa then .managed
    else if rawSdp then .ephemeral
    else configuredCredential facts.credentialMode

def classifyRestCallCreate (facts : RouteFacts) : Except RestContractError ProtocolSelection := do
  let dialect ← restCallCreateDialect facts
  let rawSdp ← restCallCreateRawSdp facts.contentType
  if dialect ≠ .officialGa ∧ rawSdp = true then .error .unsupportedContentType
  else .ok (restCallCreateSelection facts dialect rawSdp)

def officialRestSession (operation : RestOperation) (facts : RouteFacts) :
    Outcome RestContractError (SessionKind × CredentialPolicy) :=
  match operation with
  | .acceptCall _ | .createClientSecret | .createLegacySession =>
    .ok (.realtime, configuredCredential facts.credentialMode)
  | .createTranscriptionSession => .ok (.transcription, configuredCredential facts.credentialMode)
  | .createTranslationClientSecret => .ok (.translation, configuredCredential facts.credentialMode)
  | .createTranslationCall =>
    match mediaType facts.contentType with
    | some value =>
      if eqIgnoreAsciiCase value "application/sdp".toList then .ok (.translation, .ephemeral)
      else .error .unsupportedContentType
    | none => .error .unsupportedContentType
  | .rejectCall _ | .referCall _ | .hangupCall _ =>
    .ok (.opaqueSession, configuredCredential facts.credentialMode)
  -- declared unreachable: call create has its own classifier
  | .createCall => .panicked

def classifyOfficialRest (operation : RestOperation) (facts : RouteFacts) :
    Outcome RestContractError ProtocolSelection :=
  if (privateDialect facts.openaiAlpha).isSome then .error .privateDialectNotSupported
  else do
    let session ← officialRestSession operation facts
    return ⟨.officialGa, .http, session.1, session.2⟩

def restOperation (decoder : PercentDecoder) (path : Text) : Except RestContractError RestOperation :=
  if path = "/v1/live".toList then .ok .createCall
  else (parseRestPath decoder path).mapError RestContractError.ofPathError

def restSelection (operation : RestOperation) (facts : RouteFacts) :
    Outcome RestContractError ProtocolSelection :=
  match operation with
  | .createCall => Outcome.ofExcept (classifyRestCallCreate facts)
  | operation => classifyOfficialRest operation facts

def classifyRest (decoder : PercentDecoder) (facts : RouteFacts) :
    Outcome RestContractError ClassifiedRest := do
  let operation ← Outcome.ofExcept (restOperation decoder facts.path)
  if facts.method ≠ .post then .error .methodNotAllowed
  else do
    let selection ← restSelection operation facts
    return { operation, selection }

/-- The single non-blank model of a selector list. -/
def selectModel : List Text → Except WebSocketContractError Text
  | [model] => if trim model ≠ [] then .ok model else .error .missingSelector
  | [] => .error .missingSelector
  | _ => .error .ambiguousQuery

def classifyWebsocketTarget (facts : RouteFacts) :
    Except WebSocketContractError (WebSocketTarget × Transport × SessionKind × ApiDialect) :=
  let models := selectorValues facts.query "model".toList
  let callIds := selectorValues facts.query "call_id".toList
  if facts.path = "/v1/realtime/translations".toList then
    if (privateDialect facts.openaiAlpha).isSome then .error .privateDialectNotSupported
    else if callIds ≠ [] then .error .ambiguousQuery
    else do
      let model ← selectModel models
      return (.translation model, .translationWebSocket, .translation, .officialGa)
  else if callIds.length > 1 then .error .ambiguousQuery
  else
    let dialect := (privateDialect facts.openaiAlpha).getD .officialGa
    match callIds with
    | [callId] =>
      match validateCallId callId with
      | .ok () => .ok (.existingCall callId, .existingCallWebSocket, .opaqueSession, dialect)
      | .error _ => .error .invalidCallId
    | _ => do
      let model ← selectModel models
      return (.standalone model, .standaloneWebSocket, .realtime, dialect)

def websocketSelection (facts : RouteFacts) (transport : Transport) (sessionKind : SessionKind)
    (dialect : ApiDialect) : ProtocolSelection where
  dialect := dialect
  transport := transport
  sessionKind := sessionKind
  credential :=
    if dialect = .officialGa then configuredCredential facts.credentialMode else .managed

def classifyWebsocket (facts : RouteFacts) : Except WebSocketContractError ClassifiedWebSocket :=
  if facts.path ≠ "/v1/realtime".toList ∧ facts.path ≠ "/v1/realtime/translations".toList then
    .error .unknownRoute
  else if facts.method ≠ .get then .error .methodNotAllowed
  else do
    let target ← classifyWebsocketTarget facts
    return ⟨target.1, websocketSelection facts target.2.1 target.2.2.1 target.2.2.2⟩

def IsWebsocketPath (path : Text) : Prop :=
  path = "/v1/realtime".toList ∨ path = "/v1/realtime/translations".toList

instance (path : Text) : Decidable (IsWebsocketPath path) := inferInstanceAs (Decidable (_ ∨ _))

def classify (decoder : PercentDecoder) (facts : RouteFacts) :
    Outcome ContractError ProtocolSelection :=
  if IsWebsocketPath facts.path then do
    let classified ← Outcome.ofExcept ((classifyWebsocket facts).mapError ContractError.ofWebsocket)
    return classified.selection
  else do
    let classified ← (classifyRest decoder facts).mapError ContractError.ofRest
    return classified.selection

section Classified
variable {decoder : PercentDecoder} {facts : RouteFacts}

theorem restSelection_official {operation : RestOperation} (h : operation ≠ .createCall) :
    restSelection operation facts = classifyOfficialRest operation facts := by
  cases operation <;> first | rfl | exact absurd rfl h

theorem classifyRest_eq_ok {classified : ClassifiedRest}
    (h : classifyRest decoder facts = .ok classified) :
    facts.method = .post ∧ restSelection classified.operation facts = .ok classified.selection := by
  unfold classifyRest at h
  obtain ⟨operation, -, h⟩ := Outcome.bind_eq_ok.mp h
  split_ifs at h with hmethod
  obtain ⟨selection, hselection, h⟩ := Outcome.bind_eq_ok.mp h
  cases h
  exact ⟨not_not.mp hmethod, hselection⟩

theorem selectModel_eq_ok {models : List Text} {model : Text} :
    selectModel models = .ok model ↔ models = [model] ∧ trim model ≠ [] := by
  match models with
  | [] => simp [selectModel]
  | [only] =>
    rw [selectModel]
    split_ifs with hblank
    · constructor
      · intro h
        cases h
        exact ⟨rfl, hblank⟩
      · rintro ⟨h, -⟩
        cases h
        rfl
    · constructor
      · intro h
        cases h
      · rintro ⟨h, hmodel⟩
        cases h
        exact absurd hmodel hblank
  | _ :: _ :: _ => simp [selectModel]

/-- What selected the target of a WebSocket request, and the dialect it is spoken in. -/
theorem classifyWebsocketTarget_cases {target : WebSocketTarget} {transport : Transport}
    {sessionKind : SessionKind} {dialect : ApiDialect}
    (h : classifyWebsocketTarget facts = .ok (target, transport, sessionKind, dialect)) :
    (∃ model, target = .translation model ∧ dialect = .officialGa ∧
      selectorValues facts.query "model".toList = [model] ∧ trim model ≠ []) ∨
    (∃ callId, target = .existingCall callId ∧ validateCallId callId = .ok () ∧
      selectorValues facts.query "call_id".toList = [callId] ∧
        dialect = (privateDialect facts.openaiAlpha).getD .officialGa) ∨
    ∃ model, target = .standalone model ∧
      selectorValues facts.query "call_id".toList = [] ∧
        selectorValues facts.query "model".toList = [model] ∧ trim model ≠ [] ∧
          dialect = (privateDialect facts.openaiAlpha).getD .officialGa := by
  by_cases hroute : facts.path = "/v1/realtime/translations".toList
  · simp only [classifyWebsocketTarget, if_pos hroute] at h
    split_ifs at h
    obtain ⟨model, hmodel, h⟩ := Except.bind_eq_ok.mp h
    cases h
    obtain ⟨hmodels, hblank⟩ := selectModel_eq_ok.mp hmodel
    exact .inl ⟨model, rfl, rfl, hmodels, hblank⟩
  · simp only [classifyWebsocketTarget, if_neg hroute] at h
    split_ifs at h with hmany
    split at h
    · rename_i callId hcallId
      split at h
      · rename_i u hvalid
        cases h
        exact .inr (.inl ⟨callId, rfl, hvalid, hcallId, rfl⟩)
      · cases h
    · rename_i hnone
      obtain ⟨model, hmodel, h⟩ := Except.bind_eq_ok.mp h
      cases h
      obtain ⟨hmodels, hblank⟩ := selectModel_eq_ok.mp hmodel
      have hempty : selectorValues facts.query "call_id".toList = [] := by
        match hcalls : selectorValues facts.query "call_id".toList with
        | [] => rfl
        | [callId] => exact absurd hcalls (hnone callId)
        | _ :: _ :: _ =>
          rw [hcalls] at hmany
          exact absurd hmany (by simp)
      exact .inr (.inr ⟨model, rfl, hempty, hmodels, hblank, rfl⟩)

end Classified

end GptLiveProxy
