import GptLiveProxy.ConfigSource

/-!
# A configuration that was read is sound

Each validator has one lemma about the values it lets through. `Sound` collects what the rest of
the program relies on: no computation with the limits overflows or panics, the credential mode and
the profile agree, and the base URL can be extended by concatenation.
-/

namespace GptLiveProxy
open CharText

/-- What makes a parsed URL a base that paths can be appended to. -/
structure IsBaseUrl (url : WebUrl.Url) : Prop where
  scheme : url.scheme = "http".toList ∨ url.scheme = "https".toList
  host : ∃ host, url.host = some host ∧ trim host ≠ []
  query : url.query = none
  fragment : url.fragment = none
  username : url.username = []
  password : url.password = none

/-- The computations that depend on a configuration succeed, and its parts agree. -/
structure Sound (urls : WebUrl.Externals) (get : String → Option Text) (config : SourcedConfig) :
    Prop where
  frames : ∀ site ∈ [configuredDownstreamUpgrade, upstreamConfig, sidebandUpgrade,
    sidebandUpstreamConfig], ∃ socket, site config.limits = some socket ∧ socket.isValid = true
  requests : semaphoreNew config.limits.activeRequests = some config.limits.activeRequests ∧
    1 ≤ config.limits.activeRequests ∧ config.limits.activeRequests ≤ MAX_PERMITS
  connections : semaphoreNew config.limits.activeConnections = some config.limits.activeConnections ∧
    1 ≤ config.limits.activeConnections ∧ config.limits.activeConnections ≤ MAX_PERMITS
  bytes : 0 < config.limits.requestBytes ∧ 0 < config.limits.responseBytes ∧
    0 < config.limits.websocketFrameBytes
  timeouts : 0 < config.limits.requestReadTimeout ∧ 0 < config.limits.upstreamTimeout ∧
    0 < config.limits.websocketConnectTimeout ∧ 0 < config.limits.websocketSendTimeout
  managed : config.upstream.credentialMode = .managed →
    ∃ auth, config.upstream.managedAuth = some auth ∧ auth.raw ≠ [] ∧ trim auth.raw = auth.raw
  client : config.upstream.credentialMode = .client →
    (∃ baseUrl, config.upstream = .apiKeyClient baseUrl) ∧ config.upstream.managedAuth = none
  requested : config.upstream.credentialMode = .client ↔
    get "GPT_LIVE_CREDENTIAL_MODE" = some "client".toList
  base : ∀ url, WebUrl.parse urls config.upstream.baseUrl = .ok url →
    url.query = none ∧ url.fragment = none ∧ url.username = [] ∧ url.password = none
  configured : ∀ raw, get "GPT_LIVE_BASE_URL" = some raw →
    ∃ url, WebUrl.parse urls config.upstream.baseUrl = .ok url ∧ IsBaseUrl url

section Validators

theorem checkBaseUrl_eq_ok {url : WebUrl.Url} : checkBaseUrl url = .ok () ↔ IsBaseUrl url := by
  unfold checkBaseUrl
  constructor
  · intro h
    cases hhost : url.host with
    | none =>
      simp only [hhost] at h
      split_ifs at h
    | some host =>
      simp only [hhost] at h
      split_ifs at h with hscheme hblank hquery huser
      obtain ⟨hquery, hfragment⟩ := not_or.mp hquery
      obtain ⟨huser, hpassword⟩ := not_or.mp huser
      refine ⟨?_, ⟨host, hhost, hblank⟩, ?_, ?_, not_not.mp huser, ?_⟩
      · by_cases hhttp : url.scheme = "http".toList
        · exact .inl hhttp
        · exact .inr (not_not.mp fun hhttps => hscheme ⟨hhttp, hhttps⟩)
      · simpa using hquery
      · simpa using hfragment
      · simpa using hpassword
  · intro h
    obtain ⟨host, hhost, hblank⟩ := h.host
    have hscheme : ¬(url.scheme ≠ "http".toList ∧ url.scheme ≠ "https".toList) :=
      fun hnot => h.scheme.elim hnot.1 hnot.2
    rw [if_neg hscheme]
    simp [hhost, hblank, h.query, h.fragment, h.username, h.password]

theorem validateBaseUrl_eq_ok {urls : WebUrl.Externals} {raw base : Text}
    (h : validateBaseUrl urls raw = .ok base) :
    base = trim raw ∧ ∃ url, WebUrl.parse urls base = .ok url ∧ IsBaseUrl url := by
  simp only [validateBaseUrl] at h
  split_ifs at h
  obtain ⟨url, hurl, h⟩ := Except.bind_eq_ok.mp h
  obtain ⟨u, hchecked, h⟩ := Except.bind_eq_ok.mp h
  cases h
  exact ⟨rfl, url, Except.mapError_eq_ok.mp hurl, checkBaseUrl_eq_ok.mp hchecked⟩

theorem parsePositive_pos {max default n : Nat} {raw : Option Text} {key : String}
    (hdefault : 0 < default) (h : parsePositive max raw key default = .ok n) : 0 < n := by
  unfold parsePositive at h
  split at h
  · cases h
    exact hdefault
  · split at h
    · cases h
    · split_ifs at h with hzero
      cases h
      exact Nat.pos_of_ne_zero hzero

theorem positiveUpTo_bounds {bound default n : Nat} {reason key : String} {raw : Option Text}
    (hdefault : 0 < default) (h : positiveUpTo bound reason raw key default = .ok n) :
    0 < n ∧ n ≤ bound := by
  obtain ⟨value, hvalue, h⟩ := Except.bind_eq_ok.mp h
  split_ifs at h with hbound
  cases h
  exact ⟨parsePositive_pos hdefault hvalue, Nat.le_of_not_lt hbound⟩

theorem cappedConfig_of_le {cap : Nat} (h : cap ≤ USIZE_MAX - MAX_WEBSOCKET_FRAME_OVERHEAD) :
    ∃ socket, cappedConfig cap = some socket ∧ socket.isValid = true := by
  have hsum : cap + MAX_WEBSOCKET_FRAME_OVERHEAD ≤ USIZE_MAX := by
    have hroom : MAX_WEBSOCKET_FRAME_OVERHEAD ≤ USIZE_MAX := by decide
    omega
  refine ⟨⟨0, cap + MAX_WEBSOCKET_FRAME_OVERHEAD, cap, cap⟩, ?_, ?_⟩
  · rw [cappedConfig, checkedAdd, if_pos hsum, Option.map_some]
  · have hpos : 0 < cap + MAX_WEBSOCKET_FRAME_OVERHEAD := Nat.add_pos_right cap (by decide)
    simpa [WebSocketConfig.isValid] using hpos

theorem semaphoreNew_of_le {permits : Nat} (h : permits ≤ MAX_PERMITS) :
    semaphoreNew permits = some permits := if_pos h

end Validators

section Profiles
variable {urls : WebUrl.Externals} {get : String → Option Text}

theorem trim_trim (t : Text) : trim (trim t) = trim t :=
  trimMatches_eq_self isWhitespace (trimMatches_head isWhitespace) (trimMatches_getLast isWhitespace)

theorem readManagedAuth_eq_ok {auth : BearerToken} (h : readManagedAuth get = .ok auth) :
    auth.raw ≠ [] ∧ trim auth.raw = auth.raw := by
  unfold readManagedAuth at h
  split at h
  · rename_i token htoken
    cases h
    obtain ⟨hmap, hne⟩ := Option.filter_eq_some_iff.mp htoken
    obtain ⟨raw, -, rfl⟩ := Option.map_eq_some_iff.mp hmap
    exact ⟨of_decide_eq_true hne, trim_trim raw⟩
  · cases h

theorem readCredentialMode_eq_ok {mode : UpstreamCredentialMode}
    (h : readCredentialMode get = .ok mode) :
    mode = .client ↔ get "GPT_LIVE_CREDENTIAL_MODE" = some "client".toList := by
  unfold readCredentialMode at h
  cases hget : get "GPT_LIVE_CREDENTIAL_MODE" with
  | none =>
    rw [hget] at h
    cases h
    simp
  | some raw =>
    simp only [hget] at h
    split_ifs at h with hmanaged hclient
    · cases h
      subst hmanaged
      simp
    · cases h
      simp [hclient]

/-- A base that was configured passed the validator; a default one stands in for it. -/
theorem readBaseUrl_eq_ok {default base : Text} (h : readBaseUrl urls get default = .ok base) :
    (get "GPT_LIVE_BASE_URL" = none ∧ base = default) ∨
      ∃ url, WebUrl.parse urls base = .ok url ∧ IsBaseUrl url := by
  unfold readBaseUrl at h
  split at h
  · exact .inr (validateBaseUrl_eq_ok h).2
  · rename_i hget
    cases h
    exact .inl ⟨hget, rfl⟩

structure ReadProfile (urls : WebUrl.Externals) (get : String → Option Text)
    (mode : UpstreamCredentialMode) (profile : UpstreamProfile) : Prop where
  mode : profile.credentialMode = mode
  auth : ∀ auth, profile.managedAuth = some auth → auth.raw ≠ [] ∧ trim auth.raw = auth.raw
  base : (get "GPT_LIVE_BASE_URL" = none ∧
      (profile.baseUrl = CHATGPT_BACKEND_BASE ∨ profile.baseUrl = OPENAI_API_BASE)) ∨
    ∃ url, WebUrl.parse urls profile.baseUrl = .ok url ∧ IsBaseUrl url

theorem readUpstream_eq_ok {mode : UpstreamCredentialMode} {profile : UpstreamProfile}
    (h : readUpstream urls get mode = .ok profile) : ReadProfile urls get mode profile := by
  unfold readUpstream at h
  cases mode with
  | managed =>
    simp only at h
    split_ifs at h
    · obtain ⟨baseUrl, hbase, h⟩ := Except.bind_eq_ok.mp h
      obtain ⟨auth, hauth, h⟩ := Except.bind_eq_ok.mp h
      cases h
      refine ⟨rfl, fun token htoken => ?_, ?_⟩
      · cases htoken
        exact readManagedAuth_eq_ok hauth
      · exact (readBaseUrl_eq_ok hbase).imp_left fun hdefault => ⟨hdefault.1, .inl hdefault.2⟩
    · obtain ⟨baseUrl, hbase, h⟩ := Except.bind_eq_ok.mp h
      obtain ⟨auth, hauth, h⟩ := Except.bind_eq_ok.mp h
      cases h
      refine ⟨rfl, fun token htoken => ?_, ?_⟩
      · cases htoken
        exact readManagedAuth_eq_ok hauth
      · exact (readBaseUrl_eq_ok hbase).imp_left fun hdefault => ⟨hdefault.1, .inr hdefault.2⟩
  | client =>
    simp only at h
    split_ifs at h
    obtain ⟨baseUrl, hbase, h⟩ := Except.bind_eq_ok.mp h
    cases h
    refine ⟨rfl, fun token htoken => ?_, ?_⟩
    · cases htoken
    · exact (readBaseUrl_eq_ok hbase).imp_left fun hdefault => ⟨hdefault.1, .inr hdefault.2⟩

end Profiles

section Defaults
variable {urls : WebUrl.Externals} {url : WebUrl.Url}

/-- What a default base parses to, whatever the host parser makes of its host. -/
theorem default_base_plain {base : Text} (hbase : base = CHATGPT_BACKEND_BASE ∨ base = OPENAI_API_BASE)
    (h : WebUrl.parse urls base = .ok url) :
    url.query = none ∧ url.fragment = none ∧ url.username = [] ∧ url.password = none := by
  have hplain {host tail : Text} (hnone : (WebUrl.splitLast '@' host).1 = none)
      (htail : tail.dropWhile (fun c => !WebUrl.endsPath c) = []) {authority : WebUrl.Authority}
      (hauthority : WebUrl.parseAuthority urls 443 host = .ok authority)
      (hurl : WebUrl.urlOf "https".toList authority tail = url) :
      url.query = none ∧ url.fragment = none ∧ url.username = [] ∧ url.password = none := by
    have huserinfo := (WebUrl.parseAuthority_eq_ok.mp hauthority).2.2.2
    rw [hnone] at huserinfo
    obtain ⟨hname, hpassword⟩ := Prod.mk.inj huserinfo
    subst hurl
    simp only [WebUrl.urlOf, htail]
    exact ⟨rfl, rfl, hname, hpassword⟩
  rcases hbase with rfl | rfl
  · obtain ⟨authority, hauthority, hurl⟩ := WebUrl.parseSpecial_eq_ok.mp
      (show WebUrl.parseSpecial urls "https".toList 443 "//chatgpt.com/backend-api/codex".toList =
        .ok url from h)
    exact @hplain "chatgpt.com".toList "/backend-api/codex".toList rfl rfl authority hauthority hurl
  · obtain ⟨authority, hauthority, hurl⟩ := WebUrl.parseSpecial_eq_ok.mp
      (show WebUrl.parseSpecial urls "https".toList 443 "//api.openai.com/v1".toList = .ok url from h)
    exact @hplain "api.openai.com".toList "/v1".toList rfl rfl authority hauthority hurl

end Defaults

/-- What reading the limits yields: every variable went through the validator of its use. -/
theorem readLimits_eq_ok {get : String → Option Text} {limits : Limits}
    (h : readLimits get = .ok limits) :
    (0 < limits.requestBytes ∧ 0 < limits.responseBytes) ∧
      (0 < limits.websocketFrameBytes ∧
        limits.websocketFrameBytes ≤ USIZE_MAX - MAX_WEBSOCKET_FRAME_OVERHEAD) ∧
      (0 < limits.activeRequests ∧ limits.activeRequests ≤ MAX_PERMITS) ∧
      (0 < limits.activeConnections ∧ limits.activeConnections ≤ MAX_PERMITS) ∧
      0 < limits.requestReadTimeout ∧ 0 < limits.upstreamTimeout ∧
        0 < limits.websocketConnectTimeout ∧ 0 < limits.websocketSendTimeout := by
  unfold readLimits at h
  obtain ⟨requestBytes, hrequest, h⟩ := Except.bind_eq_ok.mp h
  obtain ⟨responseBytes, hresponse, h⟩ := Except.bind_eq_ok.mp h
  obtain ⟨websocketFrameBytes, hframe, h⟩ := Except.bind_eq_ok.mp h
  obtain ⟨activeRequests, hrequests, h⟩ := Except.bind_eq_ok.mp h
  obtain ⟨activeConnections, hconnections, h⟩ := Except.bind_eq_ok.mp h
  obtain ⟨requestReadTimeout, hread, h⟩ := Except.bind_eq_ok.mp h
  obtain ⟨upstreamTimeout, hupstream, h⟩ := Except.bind_eq_ok.mp h
  obtain ⟨websocketConnectTimeout, hconnect, h⟩ := Except.bind_eq_ok.mp h
  obtain ⟨websocketSendTimeout, hsend, h⟩ := Except.bind_eq_ok.mp h
  obtain ⟨websocketIdleTimeout, -, h⟩ := Except.bind_eq_ok.mp h
  cases h
  exact ⟨⟨parsePositive_pos (by decide) hrequest, parsePositive_pos (by decide) hresponse⟩,
    positiveUpTo_bounds (by decide) hframe, positiveUpTo_bounds (by decide) hrequests,
    positiveUpTo_bounds (by decide) hconnections, parsePositive_pos (by decide) hread,
    parsePositive_pos (by decide) hupstream, parsePositive_pos (by decide) hconnect,
    parsePositive_pos (by decide) hsend⟩

theorem fromSource_sound {urls : WebUrl.Externals} {get : String → Option Text}
    {config : SourcedConfig} (h : fromSource urls get = .ok config) : Sound urls get config := by
  unfold fromSource at h
  obtain ⟨bind, -, h⟩ := Except.bind_eq_ok.mp h
  obtain ⟨mode, hmode, h⟩ := Except.bind_eq_ok.mp h
  obtain ⟨upstream, hupstream, h⟩ := Except.bind_eq_ok.mp h
  obtain ⟨limits, hlimits, h⟩ := Except.bind_eq_ok.mp h
  cases h
  have hread := readUpstream_eq_ok hupstream
  obtain ⟨⟨hrequest, hresponse⟩, ⟨hframe, hroom⟩, ⟨hone, hmax⟩, ⟨hone', hmax'⟩, htimeouts⟩ :=
    readLimits_eq_ok hlimits
  have hcapped := cappedConfig_of_le hroom
  constructor
  case frames =>
    simp only [List.forall_mem_cons]
    exact ⟨hcapped, hcapped, hcapped, hcapped, List.forall_mem_nil _⟩
  case requests => exact ⟨semaphoreNew_of_le hmax, hone, hmax⟩
  case connections => exact ⟨semaphoreNew_of_le hmax', hone', hmax'⟩
  case bytes => exact ⟨hrequest, hresponse, hframe⟩
  case timeouts => exact htimeouts
  case managed =>
    intro hmanaged
    obtain ⟨auth, hauth⟩ : ∃ auth, upstream.managedAuth = some auth := by
      cases upstream with
      | chatGptBackend baseUrl auth accountId => exact ⟨auth, rfl⟩
      | apiKeyManaged baseUrl auth => exact ⟨auth, rfl⟩
      | apiKeyClient baseUrl => cases hmanaged
    exact ⟨auth, hauth, hread.auth auth hauth⟩
  case client =>
    intro hclient
    cases upstream with
    | chatGptBackend baseUrl auth accountId => cases hclient
    | apiKeyManaged baseUrl auth => cases hclient
    | apiKeyClient baseUrl => exact ⟨⟨baseUrl, rfl⟩, rfl⟩
  case requested =>
    rw [← readCredentialMode_eq_ok hmode]
    exact iff_of_eq (congrArg (· = .client) hread.mode)
  case base =>
    intro url hurl
    rcases hread.base with ⟨-, hdefault⟩ | ⟨url', hurl', hbase⟩
    · exact default_base_plain hdefault hurl
    · obtain rfl : url = url' := Except.ok.inj (hurl.symm.trans hurl')
      exact ⟨hbase.query, hbase.fragment, hbase.username, hbase.password⟩
  case configured =>
    intro raw hraw
    exact hread.base.resolve_left fun hdefault => by rw [hraw] at hdefault; cases hdefault.1

def spelledHosts : WebUrl.Externals where
  parseHost host := .ok host
  parseOther _ _ := .error "unsupported scheme"

def largestFrames : String → Option Text
  | "GPT_LIVE_TOKEN" => some " managed ".toList
  | "GPT_LIVE_BASE_URL" => some " https://relay.test/api/ ".toList
  | "GPT_LIVE_WS_FRAME_MAX_BYTES" => some "18446744073709551601".toList
  | _ => none

theorem largest_frame_cap_sound : ∃ config,
    fromSource spelledHosts largestFrames = .ok config ∧
      config.limits.websocketFrameBytes + MAX_WEBSOCKET_FRAME_OVERHEAD = USIZE_MAX ∧
        Sound spelledHosts largestFrames config := by
  have hcap : (fromSource spelledHosts largestFrames).toOption.map
      (fun config => config.limits.websocketFrameBytes) = some 18446744073709551601 := by
    decide +kernel
  cases h : fromSource spelledHosts largestFrames with
  | error e =>
    rw [h] at hcap
    cases hcap
  | ok config =>
    rw [h] at hcap
    have hbytes : config.limits.websocketFrameBytes = 18446744073709551601 := Option.some.inj hcap
    exact ⟨config, rfl, by rw [hbytes]; rfl, fromSource_sound h⟩

end GptLiveProxy
