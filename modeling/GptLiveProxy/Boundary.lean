import GptLiveProxy.Handlers
import GptLiveProxy.Origin
import GptLiveProxy.Responses

/-!
# The trust boundary around the data plane

One middleware wraps every data-plane route: draining, then preflight, then the guard, then the
handler, with the CORS headers on every outcome. The handler is a computation in any monad, so
whatever it does is done only when the boundary lets it run.
-/

namespace GptLiveProxy
open CharText OrderedMultimap

def ALLOW_METHODS : Text := "GET, POST, PUT, PATCH, DELETE, OPTIONS".toList

def ALLOW_HEADERS : Text :=
  ("Content-Type, Authorization, X-GPT-Live-API-Key, X-Api-Key, " ++
    "ChatGPT-Account-Id, OpenAI-Alpha, X-Session-Id, Session-Id, Thread-Id, Originator, " ++
    "X-OAI-Attestation, OpenAI-Safety-Identifier, OpenAI-Organization, OpenAI-Project, " ++
    "OpenAI-Beta, Idempotency-Key").toList

/-- The single allow decision, shared by enforcement and CORS. -/
def requestIsAllowed (uris : UriParser) (headers : HeaderMap) (config : Config) : Bool :=
  (checkOrigin uris headers config .http).toBool

/-- The origin a response names when it does not echo the request's. -/
def loopbackOrigin (config : Config) : Text :=
  "http://127.0.0.1:".toList ++ Nat.toDigits 10 config.bind.port.toNat

def requestOrigin (headers : HeaderMap) : Option Text := (headers.get "origin").bind HeaderValue.toStr

def echoedOrigin (uris : UriParser) (headers : HeaderMap) (config : Config) : HeaderValue :=
  (((requestOrigin headers).filter fun _ => requestIsAllowed uris headers config).bind
    HeaderValue.fromStr).getD (.fromStatic (loopbackOrigin config))

def applyCors (uris : UriParser) (config : Config) (headers : HeaderMap) (response : Response) :
    Response :=
  { response with
    headers :=
      (((response.headers.insert "access-control-allow-methods" (.fromStatic ALLOW_METHODS)).insert
        "access-control-allow-headers" (.fromStatic ALLOW_HEADERS)).insert
        "vary" (.fromStatic "Origin".toList)).insert
        "access-control-allow-origin" (echoedOrigin uris headers config) }

def preflightStatus (uris : UriParser) (headers : HeaderMap) (config : Config) : Nat :=
  if requestIsAllowed uris headers config then 204 else 403

/-- The flag is read on entry, as `before`, and again by the guard, as `after`. -/
structure DrainReads where
  before : Bool
  after : Bool
deriving DecidableEq

/-- What the boundary answers by itself; nothing when the handler may run. -/
def boundaryAnswer (uris : UriParser) (config : Config) (drain : DrainReads) (method : Method)
    (headers : HeaderMap) (kind : RequestKind) : Option Response :=
  if drain.before then some RelayError.draining.intoResponse
  else if method = .options then some ⟨preflightStatus uris headers config, .empty, .empty⟩
  else
    match guard uris headers config drain.after kind with
    | .error error => some error.intoResponse
    | .ok () => none

def protect {m : Type → Type} [Monad m] (uris : UriParser) (config : Config) (drain : DrainReads)
    (method : Method) (headers : HeaderMap) (kind : RequestKind) (handler : m Response) :
    m Response :=
  match boundaryAnswer uris config drain method headers kind with
  | some response => pure (applyCors uris config headers response)
  | none => do
    let response ← handler
    return applyCors uris config headers response

/-- An upgrade is judged by its `Upgrade` header. -/
def requestKind (headers : HeaderMap) : RequestKind :=
  if isWebsocketUpgrade headers then .webSocketUpgrade else .http

def boundaryMiddleware {m : Type → Type} [Monad m] (uris : UriParser) (config : Config)
    (drain : DrainReads) (method : Method) (headers : HeaderMap) (next : m Response) : m Response :=
  protect uris config drain method headers (requestKind headers) next

def protectedFallback {m : Type → Type} [Monad m] (uris : UriParser) (config : Config)
    (drain : DrainReads) (method : Method) (path : Text) (headers : HeaderMap) : m Response :=
  protect uris config drain method headers .http
    (pure (RelayError.unknownEndpoint method path).intoResponse)

section Cors
variable {uris : UriParser} {config : Config} {headers : HeaderMap}

def CORS_HEADERS : List HeaderName :=
  ["access-control-allow-methods", "access-control-allow-headers", "vary",
    "access-control-allow-origin"]

@[simp] theorem applyCors_status (response : Response) :
    (applyCors uris config headers response).status = response.status := rfl

@[simp] theorem applyCors_body (response : Response) :
    (applyCors uris config headers response).body = response.body := rfl

theorem getAll_applyCors_origin (response : Response) :
    (applyCors uris config headers response).headers.getAll "access-control-allow-origin" =
      [echoedOrigin uris headers config] :=
  getAll_insert_self ..

theorem getAll_applyCors_of_notMem (response : Response) {name : HeaderName}
    (h : name ∉ CORS_HEADERS) :
    (applyCors uris config headers response).headers.getAll name = response.headers.getAll name := by
  simp only [CORS_HEADERS, List.mem_cons, List.not_mem_nil, or_false, not_or] at h
  obtain ⟨hmethods, hheaders, hvary, horigin⟩ := h
  rw [applyCors, getAll_insert_of_ne _ (Ne.symm horigin), getAll_insert_of_ne _ (Ne.symm hvary),
    getAll_insert_of_ne _ (Ne.symm hheaders), getAll_insert_of_ne _ (Ne.symm hmethods)]

theorem digit_visible {c : Char} (h : c.isDigit = true) : isVisibleChar c = true := by
  simp only [Char.isDigit, Bool.and_eq_true, decide_eq_true_eq] at h
  have hlow : 48 ≤ c.toNat := h.1
  have hhigh : c.toNat ≤ 57 := h.2
  simp only [isVisibleChar, Bool.or_eq_true, Bool.and_eq_true, decide_eq_true_eq]
  omega

theorem loopbackOrigin_visible (config : Config) :
    ∀ c ∈ loopbackOrigin config, isVisibleChar c = true := by
  have hscheme : "http://127.0.0.1:".toList.all isVisibleChar = true := by decide
  intro c hc
  rcases List.mem_append.mp hc with hfixed | hport
  · exact List.all_eq_true.mp hscheme c hfixed
  · exact digit_visible (Nat.isDigit_of_mem_toDigits (by decide) (by decide) hport)

/-- The origin a response names, as text. -/
theorem echoedOrigin_toStr (uris : UriParser) (headers : HeaderMap) (config : Config) :
    (echoedOrigin uris headers config).toStr =
      some (((requestOrigin headers).filter fun _ => requestIsAllowed uris headers config).getD
        (loopbackOrigin config)) := by
  unfold echoedOrigin
  cases horigin : (requestOrigin headers).filter fun _ => requestIsAllowed uris headers config with
  | none => exact HeaderValue.fromStatic_toStr (loopbackOrigin_visible config)
  | some origin =>
    obtain ⟨hrequest, -⟩ := Option.filter_eq_some_iff.mp horigin
    obtain ⟨value, -, htext⟩ := Option.bind_eq_some_iff.mp hrequest
    obtain ⟨echoed, hechoed, hback⟩ :=
      HeaderValue.toStr_fromStr (HeaderValue.visible_of_toStr htext)
    simp [hechoed, hback]

theorem requestIsAllowed_iff (kind : RequestKind) :
    requestIsAllowed uris headers config = true ↔ checkOrigin uris headers config kind = .ok () := by
  unfold requestIsAllowed checkOrigin
  dsimp only
  split_ifs with hhost
  · simp [Except.toBool]
  · cases (headers.get "origin").bind HeaderValue.toStr with
    | none => simp [Except.toBool]
    | some origin =>
      dsimp only
      split_ifs
      · simp [Except.toBool]
      · simp [Except.toBool]

theorem checkOrigin_eq_error {kind : RequestKind}
    (h : checkOrigin uris headers config kind ≠ .ok ()) :
    checkOrigin uris headers config kind = .error (.originBlocked kind) := by
  unfold checkOrigin at h ⊢
  dsimp only at h ⊢
  split_ifs at h ⊢ with hhost
  · rfl
  · cases horigin : (headers.get "origin").bind HeaderValue.toStr with
    | none => simp [horigin] at h
    | some origin =>
      simp only [horigin] at h ⊢
      split_ifs at h ⊢
      · exact absurd rfl h
      · rfl

/-- The origin policy reads the first `Host` and the first `Origin` and nothing else. -/
theorem checkOrigin_congr {other : HeaderMap} (hhost : other.get "host" = headers.get "host")
    (horigin : other.get "origin" = headers.get "origin") (kind : RequestKind) :
    checkOrigin uris other config kind = checkOrigin uris headers config kind := by
  unfold checkOrigin requestHost
  rw [hhost, horigin]

end Cors

section Decision
variable {uris : UriParser} {config : Config} {drain : DrainReads} {method : Method}
  {headers : HeaderMap} {kind : RequestKind}

theorem boundaryAnswer_eq_none :
    boundaryAnswer uris config drain method headers kind = none ↔
      drain.before = false ∧ method ≠ .options ∧
        guard uris headers config drain.after kind = .ok () := by
  unfold boundaryAnswer
  split_ifs with hdrain hmethod
  · simp [hdrain]
  · simp [hmethod]
  · cases hguard : guard uris headers config drain.after kind with
    | error error => simp
    | ok u => simp [hdrain, hmethod]

/-- The three ways the boundary answers by itself, in their order. -/
theorem boundaryAnswer_eq_some {answer : Response}
    (h : boundaryAnswer uris config drain method headers kind = some answer) :
    (drain.before = true ∧ answer = RelayError.draining.intoResponse) ∨
    (drain.before = false ∧ method = .options ∧
      answer = ⟨preflightStatus uris headers config, .empty, .empty⟩) ∨
    drain.before = false ∧ method ≠ .options ∧ ∃ error,
      guard uris headers config drain.after kind = .error error ∧ answer = error.intoResponse := by
  unfold boundaryAnswer at h
  split_ifs at h with hdrain hmethod
  · exact .inl ⟨hdrain, (Option.some.inj h).symm⟩
  · exact .inr (.inl ⟨by simpa using hdrain, hmethod, (Option.some.inj h).symm⟩)
  · cases hguard : guard uris headers config drain.after kind with
    | error error =>
      rw [hguard] at h
      exact .inr (.inr ⟨by simpa using hdrain, hmethod, error, rfl, (Option.some.inj h).symm⟩)
    | ok u =>
      rw [hguard] at h
      cases h

/-- The handler runs only behind the whole boundary; every other request is answered without it. -/
theorem handler_runs_behind_boundary {m : Type → Type} [Monad m] (uris : UriParser)
    (config : Config) (drain : DrainReads) (method : Method) (headers : HeaderMap)
    (kind : RequestKind) :
    (drain.before = false ∧ method ≠ .options ∧
        guard uris headers config drain.after kind = .ok () ∧
        ∀ handler : m Response, protect uris config drain method headers kind handler =
          handler >>= fun response => pure (applyCors uris config headers response)) ∨
      ∃ answer,
        ((drain.before = true ∧ answer = RelayError.draining.intoResponse) ∨
          (drain.before = false ∧ method = .options ∧
            answer = ⟨preflightStatus uris headers config, .empty, .empty⟩) ∨
          drain.before = false ∧ method ≠ .options ∧ ∃ error,
            guard uris headers config drain.after kind = .error error ∧
              answer = error.intoResponse) ∧
        ∀ handler : m Response, protect uris config drain method headers kind handler =
          pure (applyCors uris config headers answer) := by
  cases hanswer : boundaryAnswer uris config drain method headers kind with
  | none =>
    obtain ⟨hdrain, hmethod, hguard⟩ := boundaryAnswer_eq_none.mp hanswer
    exact .inl ⟨hdrain, hmethod, hguard, fun handler => by rw [protect, hanswer]⟩
  | some answer =>
    exact .inr ⟨answer, boundaryAnswer_eq_some hanswer, fun handler => by rw [protect, hanswer]⟩

end Decision

/-- A response names the caller's origin when the enforcement accepts it, or when it is the proxy's
own loopback origin; and a preflight tells what the enforcement will do to the request it is for. -/
theorem cors_agrees_with_enforcement (uris : UriParser) (config : Config) (headers : HeaderMap)
    (kind : RequestKind) (response : Response) :
    (∃ named, (applyCors uris config headers response).headers.getAll "access-control-allow-origin" =
        [named] ∧
      named.toStr = some (((requestOrigin headers).filter fun _ =>
        decide (checkOrigin uris headers config kind = .ok ())).getD (loopbackOrigin config)) ∧
      ∀ origin, requestOrigin headers = some origin →
        (named.toStr = some origin ↔
          checkOrigin uris headers config kind = .ok () ∨ origin = loopbackOrigin config)) ∧
    ∀ preflight : HeaderMap, preflight.get "host" = headers.get "host" →
      preflight.get "origin" = headers.get "origin" →
        (preflightStatus uris preflight config = 204 ↔
          checkOrigin uris headers config kind = .ok ()) ∧
        (preflightStatus uris preflight config = 403 ↔
          checkOrigin uris headers config kind = .error (.originBlocked kind)) := by
  have hallowed : requestIsAllowed uris headers config =
      decide (checkOrigin uris headers config kind = .ok ()) := by
    rw [Bool.eq_iff_iff, requestIsAllowed_iff kind, decide_eq_true_eq]
  have hnamed := echoedOrigin_toStr uris headers config
  rw [hallowed] at hnamed
  refine ⟨⟨_, getAll_applyCors_origin response, hnamed, ?_⟩, ?_⟩
  · intro origin horigin
    rw [hnamed, horigin]
    by_cases hcheck : checkOrigin uris headers config kind = .ok ()
    · simp [hcheck, Option.filter]
    · simp [hcheck, eq_comm]
  · intro preflight hhost horigin
    have hpreflight : requestIsAllowed uris preflight config =
        decide (checkOrigin uris headers config kind = .ok ()) := by
      rw [Bool.eq_iff_iff, requestIsAllowed_iff kind, checkOrigin_congr hhost horigin,
        decide_eq_true_eq]
    rw [preflightStatus, hpreflight]
    by_cases hcheck : checkOrigin uris headers config kind = .ok ()
    · simp [hcheck]
    · simp [checkOrigin_eq_error hcheck]

end GptLiveProxy
