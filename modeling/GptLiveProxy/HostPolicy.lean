import GptLiveProxy.Origin

/-!
# Which Host a loopback bind accepts

Without admission the `Host` header is the defence against rebinding. The text of an accepted value
is recovered from the checks around the authority parser: a loopback name or address, then nothing or
the port of the bind.
-/

namespace GptLiveProxy
open CharText

/-- The port an authority's text ends with: what stands behind its last colon. -/
def portOf (text : Text) : Option UInt16 :=
  if ':' ∈ text then
    (parseUnsigned 65535 (text.rtakeWhile (· != ':'))).map UInt16.ofNat
  else none

/-- `Authority::port_u16` reads the text behind the last colon of the authority. -/
structure ReadsPorts (uris : UriParser) : Prop where
  port : ∀ raw authority, uris.parseAuthority raw = some authority →
    authority.portU16 = portOf authority.text

theorem isPortSuffix_iff {rest : Text} :
    isPortSuffix rest = true ↔
      rest = [] ∨ ∃ port n, rest = ':' :: port ∧ parseUnsigned 65535 port = some n := by
  unfold isPortSuffix
  split
  · simp
  · simp [Option.isSome_iff_exists]
  · rename_i hnil hcolon
    simp only [Bool.false_eq_true, false_iff, not_or, not_exists, not_and]
    exact ⟨fun h => hnil h, fun port n h => absurd h (hcolon port)⟩

theorem parseHost_eq_some {uris : UriParser} {raw : Text} {authority : Authority}
    (h : parseHost uris raw = some authority) :
    '/' ∉ trim raw ∧ '@' ∉ trim raw ∧ uris.parseAuthority (trim raw) = some authority ∧
      authority.text = trim raw ∧
        ∃ rest, trim raw = authority.host ++ rest ∧ isPortSuffix rest = true := by
  dsimp only [parseHost] at h
  split_ifs at h with hshape
  simp only [not_or] at hshape
  obtain ⟨parsed, hparsed, h⟩ := Option.bind_eq_some_iff.mp h
  split_ifs at h with htext
  obtain ⟨rest, hrest, h⟩ := Option.bind_eq_some_iff.mp h
  split_ifs at h with hport
  obtain rfl : parsed = authority := Option.some.inj h
  obtain ⟨host, hhost, hbeq⟩ := List.dropPrefix?_eq_some_iff.mp hrest
  obtain rfl : host = parsed.host := by simpa using hbeq
  exact ⟨hshape.2.1, hshape.2.2, hparsed, not_not.mp htext, rest, hhost, hport⟩

theorem port_chars {port : Text} {n : Nat} (h : parseUnsigned 65535 port = some n) :
    ':' ∉ port ∧ ']' ∉ port := by
  constructor
  · intro hmem
    have hchar := parseUnsigned_chars h ':' hmem
    revert hchar
    decide
  · intro hmem
    have hchar := parseUnsigned_chars h ']' hmem
    revert hchar
    decide

theorem portOf_append {host port : Text} {n : Nat} (h : parseUnsigned 65535 port = some n) :
    portOf (host ++ ':' :: port) = some (UInt16.ofNat n) := by
  have htail : (host ++ ':' :: port).rtakeWhile (· != ':') = port := by
    have hkeep : ∀ c ∈ port, (c != ':') = true := by
      intro c hc
      simpa using fun heq : c = ':' => (port_chars h).1 (heq ▸ hc)
    have hall : port.rtakeWhile (· != ':') = port := by
      rw [List.rtakeWhile_eq_self_iff]
      exact hkeep
    rw [List.rtakeWhile, List.reverse_append, List.reverse_cons, List.append_assoc,
      List.takeWhile_append_of_pos (by simpa using hkeep)]
    simp
  rw [portOf, if_pos (by simp), htail, h]
  rfl

section Brackets

theorem host_eq_unbracketed (host : Text) :
    host = unbracketed host ∨ host = '[' :: unbracketed host ++ [']'] := by
  cases hopen : host.dropPrefix? ['['] with
  | none => exact .inl (by simp [unbracketed, hopen])
  | some inner =>
    cases hclose : inner.dropSuffix? [']'] with
    | none => exact .inl (by simp [unbracketed, hopen, hclose])
    | some name =>
      right
      have hname : unbracketed host = name := by simp [unbracketed, hopen, hclose]
      obtain ⟨opening, hhost, hbeq⟩ := List.dropPrefix?_eq_some_iff.mp hopen
      obtain rfl : opening = ['['] := by simpa using hbeq
      obtain ⟨closing, hinner, hbeq'⟩ := List.dropSuffix?_eq_some_iff.mp hclose
      obtain rfl : closing = [']'] := by simpa using hbeq'
      rw [hname, hhost, hinner]
      rfl

theorem bracket_not_address {t : Text} (h : ∀ c ∈ t, isAddressChar c = true) : ']' ∉ t := by
  intro hmem
  exact absurd (h ']' hmem) (by decide)

/-- `localhost` in any letter case, or an address in 127.0.0.0/8 or `::1`. The brackets are taken off
before either address is read, so each of them may stand in brackets. -/
def LoopbackName (host : Text) : Prop :=
  eqIgnoreAsciiCase host "localhost".toList = true ∨
    (∃ a, Ipv4Addr.parse (unbracketed host) = some a ∧ a.octets.1 = 127) ∨
      ∃ a, Ipv6Addr.parse (unbracketed host) = some a ∧ a.segments = [0, 0, 0, 0, 0, 0, 0, 1]

theorem authorityIsLoopback_iff {authority : Authority}
    (h : authorityIsLoopback authority = true) : LoopbackName authority.host := by
  unfold authorityIsLoopback at h
  split_ifs at h with hname
  · exact .inl hname
  · cases hv4 : Ipv4Addr.parse (unbracketed authority.host) with
    | some v4 =>
      simp only [hv4] at h
      exact .inr (.inl ⟨v4, hv4, by simpa [Ipv4Addr.isLoopback] using h⟩)
    | none =>
      cases hv6 : Ipv6Addr.parse (unbracketed authority.host) with
      | some v6 =>
        simp only [hv4, hv6] at h
        exact .inr (.inr ⟨v6, hv6, by simpa [Ipv6Addr.isLoopback] using h⟩)
      | none => simp [hv4, hv6] at h

theorem bracket_not_localhost {host : Text}
    (h : eqIgnoreAsciiCase host "localhost".toList = true) : ']' ∉ host := by
  intro hmem
  have hlower : toAsciiLowercase host = toAsciiLowercase "localhost".toList := by
    simpa [eqIgnoreAsciiCase] using h
  have hin : Char.toLower ']' ∈ toAsciiLowercase "localhost".toList :=
    hlower ▸ List.mem_map_of_mem hmem
  exact absurd hin (by decide)

/-- A closing bracket of a loopback name is its last character. -/
theorem LoopbackName.bracket_last {host pre post : Text} (h : LoopbackName host)
    (hsplit : host = pre ++ ']' :: post) : post = [] := by
  have haddress : ']' ∉ unbracketed host → post = [] := by
    intro hnot
    rcases host_eq_unbracketed host with heq | heq
    · rw [← heq, hsplit] at hnot
      simp at hnot
    · generalize unbracketed host = name at hnot heq
      rw [hsplit] at heq
      rcases List.append_eq_append_iff.mp heq with ⟨l, hbody, hlast⟩ | ⟨l, -, hlast⟩
      · cases l with
        | nil => exact (List.cons.inj hlast).2
        | cons c l =>
          have hin : ']' ∈ '[' :: name := by
            rw [hbody, (List.cons.inj hlast).1]
            simp
          rcases List.mem_cons.mp hin with hopen | hinside
          · exact absurd hopen (by decide)
          · exact absurd hinside hnot
      · cases l with
        | nil => exact (List.cons.inj hlast).2.symm
        | cons c l => simp at hlast
  rcases h with hname | ⟨a, ha, -⟩ | ⟨a, ha, -⟩
  · exact absurd (hsplit ▸ by simp) (bracket_not_localhost hname)
  · exact haddress (bracket_not_address (Ipv4Addr.parse_chars ha))
  · exact haddress (bracket_not_address (Ipv6Addr.parse_chars ha))

end Brackets

variable {uris : UriParser} {headers : HeaderMap} {config : Config} {kind : RequestKind}

theorem hostAllowed_of_checkOrigin (hloopback : config.bind.ip.isLoopback = true)
    (h : checkOrigin uris headers config kind = .ok ()) :
    hostAllowed (requestHost uris headers) config = true := by
  by_contra hblocked
  rw [Bool.not_eq_true] at hblocked
  simp [checkOrigin, Config.requiresAdmissionAuth, hloopback, hblocked] at h

/-- Under a loopback bind an accepted request names, in its first `Host`, a loopback host and nothing
else than the port of the bind. -/
theorem loopback_bind_accepts_loopback_host (hports : ReadsPorts uris)
    (hloopback : config.bind.ip.isLoopback = true)
    (h : checkOrigin uris headers config kind = .ok ()) :
    ∃ value raw host rest, headers.get "host" = some value ∧ value.toStr = some raw ∧
      trim raw = host ++ rest ∧ LoopbackName host ∧
      (rest = [] ∨ ∃ port, rest = ':' :: port ∧
        (parseUnsigned 65535 port).map UInt16.ofNat = some config.bind.port) ∧
      '@' ∉ trim raw ∧ '/' ∉ trim raw ∧
      ∀ pre post, trim raw = pre ++ ']' :: post → post = rest := by
  have hallowed := hostAllowed_of_checkOrigin hloopback h
  cases hhost : requestHost uris headers with
  | none => simp [hhost, hostAllowed] at hallowed
  | some authority =>
    obtain ⟨raw, hraw, hparse⟩ := Option.bind_eq_some_iff.mp hhost
    obtain ⟨value, hvalue, hread⟩ := Option.bind_eq_some_iff.mp hraw
    obtain ⟨hslash, hat, hparsed, htext, rest, hsplit, hsuffix⟩ := parseHost_eq_some hparse
    rw [hhost] at hallowed
    obtain ⟨hname, hport⟩ := Bool.and_eq_true_iff.mp hallowed
    have hloop := authorityIsLoopback_iff hname
    have hbracket : ']' ∉ rest := by
      rcases isPortSuffix_iff.mp hsuffix with rfl | ⟨port, n, rfl, hn⟩
      · simp
      · simpa using (port_chars hn).2
    refine ⟨value, raw, authority.host, rest, hvalue, hread, hsplit, hloop, ?_, hat, hslash, ?_⟩
    · rcases isPortSuffix_iff.mp hsuffix with rfl | ⟨port, n, rfl, hn⟩
      · exact .inl rfl
      · refine .inr ⟨port, rfl, ?_⟩
        have hu16 : authority.portU16 = some (UInt16.ofNat n) := by
          rw [hports.port _ _ hparsed, htext, hsplit, portOf_append hn]
        rw [hu16] at hport
        simpa [hn] using hport
    · intro pre post hpost
      rw [hsplit] at hpost
      rcases List.append_eq_append_iff.mp hpost with ⟨l, -, hrest⟩ | ⟨l, hbody, hrest⟩
      · exact absurd (hrest ▸ by simp) hbracket
      · cases l with
        | nil =>
          rw [List.nil_append] at hrest
          exact absurd (hrest ▸ by simp) hbracket
        | cons c l =>
          obtain ⟨rfl, htail⟩ := List.cons.inj hrest
          rw [hloop.bracket_last hbody] at htail
          exact htail

section Instances

def localAuthorities : UriParser where
  parseAuthority t :=
    if t = "localhost:10110".toList then some ⟨t, "localhost".toList, portOf t⟩ else none
  parseUri _ := none

theorem localAuthorities_readPorts : ReadsPorts localAuthorities := by
  constructor
  intro raw authority h
  simp only [localAuthorities] at h
  split_ifs at h
  obtain rfl := Option.some.inj h
  rfl

def localService : Config where
  bind := ⟨.v4 ⟨127, 0, 0, 1⟩, 10110⟩
  upstream := .apiKeyClient "https://api.openai.com".toList
  limits := .default
  admissionToken := none
  corsAllowOrigins := []

theorem localhost_with_port_accepted : ∃ value raw host rest,
    (headersOf [("host", " localhost:10110".toList)]).get "host" = some value ∧
      value.toStr = some raw ∧ trim raw = host ++ rest ∧ LoopbackName host ∧
      (rest = [] ∨ ∃ port, rest = ':' :: port ∧
        (parseUnsigned 65535 port).map UInt16.ofNat = some localService.bind.port) ∧
      '@' ∉ trim raw ∧ '/' ∉ trim raw ∧
      ∀ pre post, trim raw = pre ++ ']' :: post → post = rest :=
  @loopback_bind_accepts_loopback_host localAuthorities _ localService .http
    localAuthorities_readPorts rfl rfl

/-- The loopback names in which only the IPv6 address may stand in brackets. -/
def isPlainLoopbackName (host : Text) : Bool :=
  eqIgnoreAsciiCase host "localhost".toList || (Ipv4Addr.parse host).any (·.isLoopback) ||
    (Ipv6Addr.parse (unbracketed host)).any (·.isLoopback)

def bracketedHost : Text := "[127.0.0.1]:10110".toList

/-- Reads the bracketed host, up to its closing bracket, and nothing else. -/
def bracketedAuthorities : UriParser where
  parseAuthority t :=
    if t = bracketedHost then some ⟨t, "[127.0.0.1]".toList, portOf t⟩ else none
  parseUri _ := none

theorem bracketedAuthorities_readPorts : ReadsPorts bracketedAuthorities := by
  constructor
  intro raw authority h
  simp only [bracketedAuthorities] at h
  split_ifs at h
  obtain rfl := Option.some.inj h
  rfl

theorem bracketed_ipv4_accepted :
    ReadsPorts bracketedAuthorities ∧ localService.bind.ip.isLoopback = true ∧
      bracketedAuthorities.parseAuthority bracketedHost =
        some ⟨bracketedHost, "[127.0.0.1]".toList, some 10110⟩ ∧
      checkOrigin bracketedAuthorities (headersOf [("host", bracketedHost)]) localService .http =
        .ok () ∧
      ¬ ∃ value raw host rest,
        (headersOf [("host", bracketedHost)]).get "host" = some value ∧ value.toStr = some raw ∧
          trim raw = host ++ rest ∧ isPlainLoopbackName host = true ∧
          (rest = [] ∨ ∃ port, rest = ':' :: port ∧
            (parseUnsigned 65535 port).map UInt16.ofNat = some localService.bind.port) := by
  refine ⟨bracketedAuthorities_readPorts, rfl, by decide +kernel, by decide +kernel, ?_⟩
  rintro ⟨value, raw, host, rest, hvalue, hraw, hsplit, hname, -⟩
  have hread : ((headersOf [("host", bracketedHost)]).get "host").bind HeaderValue.toStr =
      some bracketedHost := by decide +kernel
  rw [hvalue, Option.bind_some, hraw] at hread
  obtain rfl := Option.some.inj hread
  have htrim : trim bracketedHost = bracketedHost := by decide +kernel
  have hlength : bracketedHost.length = 17 := rfl
  have hhost : host = bracketedHost.take host.length := by
    rw [← htrim, hsplit, List.take_left]
  have hshort : host.length < 18 := by
    have hparts := congrArg List.length hsplit
    rw [htrim, List.length_append] at hparts
    omega
  -- no prefix of the host is a name of the list
  have hnone : ∀ n < 18, isPlainLoopbackName (bracketedHost.take n) = false := by decide +kernel
  rw [hhost, hnone _ hshort] at hname
  cases hname

end Instances

end GptLiveProxy
