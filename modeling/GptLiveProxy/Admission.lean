import GptLiveProxy.RelayError

/-!
# Downstream admission

A caller proves itself with the first header name of its mode's precedence list that carries a
non-empty value. Independently, a request whose `Authorization` is the admission secret is
refused, because that value must never reach the upstream.
-/

namespace GptLiveProxy
open CharText

def ADMISSION_HEADERS : List HeaderName := ["x-gpt-live-api-key", "authorization", "x-api-key"]

def CLIENT_ADMISSION_HEADERS : List HeaderName := ["x-gpt-live-api-key", "x-api-key"]

/-- Strip a `Bearer ` prefix, case-insensitively, and trim what remains. The argument comes out of
`HeaderValue.toStr`, so its first seven bytes are its first seven characters. -/
def stripBearer (raw : Text) : Text :=
  let trimmed := trim raw
  if trimmed.length ≥ 7 ∧ eqIgnoreAsciiCase (trimmed.take 7) "bearer ".toList = true then
    trim (trimmed.drop 7)
  else trimmed

def stripCredential (name : HeaderName) (raw : Text) : Text :=
  if name = "authorization" then stripBearer raw else trim raw

/-- Every non-empty decodable value of one header name, stripped. -/
def values (headers : HeaderMap) (name : HeaderName) : List Text :=
  (((headers.getAll name).filterMap HeaderValue.toStr).map (stripCredential name)).filter (· ≠ [])

def presentedValues (headers : HeaderMap) (name : HeaderName) : Except RelayError (List Text) :=
  match (headers.getAll name).mapM HeaderValue.toStr with
  | some raws => .ok ((raws.map (stripCredential name)).filter (· ≠ []))
  | none => .error .admissionRequired

/-- The values of the first header name that has any non-empty one. -/
def presented (headers : HeaderMap) : List HeaderName → Except RelayError (Option (List Text))
  | [] => .ok none
  | name :: names => do
    let found ← presentedValues headers name
    if found ≠ [] then .ok (some found) else presented headers names

/-- A repeated `Authorization` is refused rather than resolved by a guess. -/
def rejectAmbiguousAuthorization (headers : HeaderMap) : Except RelayError Unit :=
  if (headers.getAll "authorization").length > 1 then .error .ambiguousAuthorization else .ok ()

def admissionCandidates : UpstreamCredentialMode → List HeaderName
  | .managed => ADMISSION_HEADERS
  | .client => CLIENT_ADMISSION_HEADERS

def checkAdmission (headers : HeaderMap) (config : Config) : Except RelayError Unit := do
  rejectAmbiguousAuthorization headers
  if !config.requiresAdmissionAuth then .ok ()
  else
    match config.admissionToken with
    | none => .error .admissionRequired
    | some expected => do
      match ← presented headers (admissionCandidates config.upstream.credentialMode) with
      | some found => if found.any expected.ctEq then .ok () else .error .admissionRequired
      | none => .error .admissionRequired

/-- True when any `Authorization` value is the admission secret. -/
def authorizationIsAdmissionSecret (headers : HeaderMap) (config : Config) : Bool :=
  match config.admissionToken with
  | none => false
  | some expected => (values headers "authorization").any expected.ctEq

def rejectForwardedAdmissionSecret (headers : HeaderMap) (config : Config) :
    Except RelayError Unit :=
  if authorizationIsAdmissionSecret headers config then .error .admissionSecretNotForwardable
  else .ok ()

theorem rejectAmbiguousAuthorization_eq_ok {headers : HeaderMap} :
    rejectAmbiguousAuthorization headers = .ok () ↔ (headers.getAll "authorization").length ≤ 1 := by
  simp only [rejectAmbiguousAuthorization]
  split_ifs with h
  · simpa using h
  · simpa using h

theorem rejectForwardedAdmissionSecret_eq_ok {headers : HeaderMap} {config : Config}
    {secret : BearerToken} (hsecret : config.admissionToken = some secret) :
    rejectForwardedAdmissionSecret headers config = .ok () ↔
      secret.raw ∉ values headers "authorization" := by
  have hany : (values headers "authorization").any secret.ctEq = true ↔
      secret.raw ∈ values headers "authorization" := by
    simp only [List.any_eq_true, BearerToken.ctEq_iff, exists_eq_right]
  simp only [rejectForwardedAdmissionSecret, authorizationIsAdmissionSecret, hsecret]
  rw [← hany]
  cases (values headers "authorization").any secret.ctEq <;> simp

theorem mem_values {headers : HeaderMap} {name : HeaderName} {t : Text} :
    t ∈ values headers name ↔
      t ≠ [] ∧ ∃ v ∈ headers.getAll name, ∃ raw, v.toStr = some raw ∧ stripCredential name raw = t := by
  simp only [values, List.mem_filter, List.mem_map, List.mem_filterMap, decide_eq_true_eq]
  constructor
  · rintro ⟨⟨raw, ⟨v, hv, hraw⟩, hstrip⟩, hne⟩
    exact ⟨hne, v, hv, raw, hraw, hstrip⟩
  · rintro ⟨hne, v, hv, raw, hraw, hstrip⟩
    exact ⟨⟨raw, ⟨v, hv, hraw⟩, hstrip⟩, hne⟩

end GptLiveProxy
