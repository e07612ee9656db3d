import GptLiveProxy.Admission

/-!
# Origin and host policy, and the trust boundary

The URI parsers are external: `UriParser` is what the policy reads from them. `checkOrigin`
compares the request's `Host` with the bind address when no admission is required, and its
`Origin` with the loopback, the addressed host, and the configured origins. `guard` is the order
of the whole boundary.
-/

namespace GptLiveProxy
open CharText

structure Authority where
  text : Text
  host : Text
  portU16 : Option UInt16
deriving DecidableEq

inductive Scheme
  | http
  | https
  | other (name : Text)
deriving DecidableEq

structure Uri where
  scheme : Option Scheme
  authority : Option Authority
  path : Text
  query : Option Text
deriving DecidableEq

structure UriParser where
  parseAuthority : Text → Option Authority
  parseUri : Text → Option Uri

/-- Nothing, or a colon and a port number. -/
def isPortSuffix (remainder : Text) : Bool :=
  match remainder with
  | [] => true
  | ':' :: port => (parseUnsigned 65535 port).isSome
  | _ => false

/-- Parse a `Host` header into exactly a host and an optional port. -/
def parseHost (uris : UriParser) (raw : Text) : Option Authority :=
  let raw := trim raw
  if raw = [] ∨ '/' ∈ raw ∨ '@' ∈ raw then none
  else do
    let authority ← uris.parseAuthority raw
    if authority.text ≠ raw then none
    else do
      let remainder ← raw.dropPrefix? authority.host
      if isPortSuffix remainder then some authority else none

def unbracketed (host : Text) : Text :=
  ((host.dropPrefix? ['[']).bind fun h => (h.dropSuffix? [']'])).getD host

def authorityIsLoopback (authority : Authority) : Bool :=
  if eqIgnoreAsciiCase authority.host "localhost".toList then true
  else
    match Ipv4Addr.parse (unbracketed authority.host) with
    | some v4 => v4.isLoopback
    | none =>
      match Ipv6Addr.parse (unbracketed authority.host) with
      | some v6 => v6.isLoopback
      | none => false

/-- A scheme and an authority and nothing else. -/
def parseOrigin (uris : UriParser) (raw : Text) : Option (Scheme × Authority) := do
  let uri ← uris.parseUri (trim raw)
  let scheme ← uri.scheme
  if scheme ≠ .http ∧ scheme ≠ .https then none
  else if (uri.path ≠ [] ∧ uri.path ≠ ['/']) ∨ uri.query.isSome then none
  else do
    let authority ← uri.authority
    if '@' ∈ authority.text then none else some (scheme, authority)

def defaultPort (scheme : Scheme) : UInt16 := if scheme = .https then 443 else 80

def sameOrigin (scheme : Scheme) (origin host : Authority) : Bool :=
  if !eqIgnoreAsciiCase host.host origin.host then false
  else
    match host.portU16 with
    | none => false
    | some hostPort => hostPort == origin.portU16.getD (defaultPort scheme)

def originAllowed (uris : UriParser) (origin : Text) (host : Option Authority) (config : Config) :
    Bool :=
  match parseOrigin uris origin with
  | none => false
  | some (scheme, authority) =>
    authorityIsLoopback authority || host.any (sameOrigin scheme authority) ||
      config.corsAllowOrigins.any fun allowed => eqIgnoreAsciiCase (trim allowed) (trim origin)

/-- The addressed host, when it decodes and parses. -/
def requestHost (uris : UriParser) (headers : HeaderMap) : Option Authority :=
  ((headers.get "host").bind HeaderValue.toStr).bind (parseHost uris)

/-- Without admission, `Host` must be a loopback name on the configured port. -/
def hostAllowed (host : Option Authority) (config : Config) : Bool :=
  match host with
  | none => false
  | some authority =>
    authorityIsLoopback authority && authority.portU16.all (· == config.bind.port)

def checkOrigin (uris : UriParser) (headers : HeaderMap) (config : Config) (kind : RequestKind) :
    Except RelayError Unit :=
  let origin := (headers.get "origin").bind HeaderValue.toStr
  let host := requestHost uris headers
  if !config.requiresAdmissionAuth && !hostAllowed host config then .error (.originBlocked kind)
  else
    match origin with
    | none => .ok ()
    | some origin =>
      if originAllowed uris origin host config then .ok () else .error (.originBlocked kind)

/-- The whole boundary for one request. -/
def guard (uris : UriParser) (headers : HeaderMap) (config : Config) (draining : Bool)
    (kind : RequestKind) : Except RelayError Unit :=
  if draining then .error .draining
  else do
    checkAdmission headers config
    rejectForwardedAdmissionSecret headers config
    checkOrigin uris headers config kind

theorem guard_eq_ok {uris : UriParser} {headers : HeaderMap} {config : Config} {draining : Bool}
    {kind : RequestKind} :
    guard uris headers config draining kind = .ok () ↔
      draining = false ∧ checkAdmission headers config = .ok () ∧
        rejectForwardedAdmissionSecret headers config = .ok () ∧
          checkOrigin uris headers config kind = .ok () := by
  cases draining with
  | true => simp [guard]
  | false =>
    simp only [guard, Bool.false_eq_true, if_false, Except.bind_eq_ok, true_and]
    constructor
    · rintro ⟨_, hadmission, _, hsecret, horigin⟩
      exact ⟨hadmission, hsecret, horigin⟩
    · rintro ⟨hadmission, hsecret, horigin⟩
      exact ⟨(), hadmission, (), hsecret, horigin⟩

end GptLiveProxy
