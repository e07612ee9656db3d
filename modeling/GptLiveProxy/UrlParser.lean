import GptLiveProxy.Outcome
import GptLiveProxy.PercentEncoding

/-!
# Parsing URLs of the special schemes

The URL parser of the WHATWG standard for the schemes with an authority and a default port. It
reads its input without surrounding control characters and without tabs and line breaks, accepts
any number of slashes or backslashes before the authority, drops a default port, and resolves dot
segments. Host parsing and the other schemes are parameters.
-/

namespace WebUrl
open CharText

structure Url where
  scheme : Text
  username : Text
  password : Option Text
  host : Option Text
  port : Option Nat
  path : List Text
  query : Option Text
  fragment : Option Text
deriving DecidableEq

/-- The host parser, and the parser of what follows a scheme that is not special. -/
structure Externals where
  parseHost : Text → Except String Text
  parseOther : Text → Text → Except String Url

section Characters

def isControlOrSpace (c : Char) : Bool := c.toNat ≤ 0x20

def isTabOrNewline (c : Char) : Bool := c == '\t' || c == '\n' || c == '\r'

def isSlash (c : Char) : Bool := c == '/' || c == '\\'

def endsAuthority (c : Char) : Bool := isSlash c || c == '?' || c == '#'

def endsPath (c : Char) : Bool := c == '?' || c == '#'

def isAsciiAlphabetic (c : Char) : Bool := ('a' ≤ c && c ≤ 'z') || ('A' ≤ c && c ≤ 'Z')

def isSchemeChar (c : Char) : Bool :=
  isAsciiAlphanumeric c || c == '+' || c == '-' || c == '.'

def controlSet (c : Char) : Bool := c.toNat < 0x20 || 0x7e < c.toNat

def querySet (c : Char) : Bool := controlSet c || " \"#<>".toList.contains c

def specialQuerySet (c : Char) : Bool := querySet c || c == '\''

def fragmentSet (c : Char) : Bool := controlSet c || " \"<>`".toList.contains c

def pathSet (c : Char) : Bool := querySet c || "?^`\x7b\x7d".toList.contains c

def userinfoSet (c : Char) : Bool := pathSet c || "/:;=@[\\]|".toList.contains c

end Characters

/-- The input as the parser reads it. -/
def clean (input : Text) : Text :=
  (trimMatches isControlOrSpace input).filter fun c => !isTabOrNewline c

/-- The scheme in lower case and what follows its colon. -/
def splitScheme (input : Text) : Option (Text × Text) :=
  if input.head?.any isAsciiAlphabetic then
    ((splitOnce ':' input).filter fun parts => parts.1.all isSchemeChar).map
      fun parts => (toAsciiLowercase parts.1, parts.2)
  else none

/-- The default ports of the special schemes with an authority. -/
def specialPort (scheme : Text) : Option Nat :=
  if scheme = "http".toList ∨ scheme = "ws".toList then some 80
  else if scheme = "https".toList ∨ scheme = "wss".toList then some 443
  else if scheme = "ftp".toList then some 21
  else none

section Authority

def splitLast (sep : Char) (t : Text) : Option Text × Text :=
  match splitOnce sep t.reverse with
  | none => (none, t)
  | some (back, front) => (some front.reverse, back.reverse)

/-- The host, and what follows the first colon outside brackets. -/
def splitPort (inside : Bool) : Text → Text × Option Text
  | [] => ([], none)
  | c :: t =>
    if c = ':' ∧ inside = false then ([], some t)
    else
      let parts := splitPort (if c = '[' then true else if c = ']' then false else inside) t
      (c :: parts.1, parts.2)

def parsePort (default : Nat) (digits : Text) : Except String (Option Nat) :=
  match digitsValue 0 digits with
  | none => .error "invalid port number"
  | some n =>
    if n > 65535 then .error "invalid port number"
    else .ok (if digits = [] ∨ n = default then none else some n)

def parseUserinfo (userinfo : Text) : Text × Option Text :=
  match splitOnce ':' userinfo with
  | none => (percentEncode userinfoSet userinfo, none)
  | some (username, password) =>
    (percentEncode userinfoSet username,
      if password = [] then none else some (percentEncode userinfoSet password))

end Authority

section Path

def isSingleDot (segment : Text) : Bool :=
  let segment := toAsciiLowercase segment
  segment == ".".toList || segment == "%2e".toList

def isDoubleDot (segment : Text) : Bool :=
  let segment := toAsciiLowercase segment
  segment == "..".toList || segment == ".%2e".toList || segment == "%2e.".toList ||
    segment == "%2e%2e".toList

def closeSegment (path : List Text) (segment : Text) : List Text :=
  if isDoubleDot segment then path.dropLast
  else if isSingleDot segment then path
  else path ++ [percentEncode pathSet segment]

/-- The last segment: a dot segment leaves an empty one behind. -/
def finishSegment (path : List Text) (segment : Text) : List Text :=
  if isDoubleDot segment then path.dropLast ++ [[]]
  else if isSingleDot segment then path ++ [[]]
  else path ++ [percentEncode pathSet segment]

def resolve (path : List Text) : List Text → List Text
  | [] => path
  | [segment] => finishSegment path segment
  | segment :: segments => resolve (closeSegment path segment) segments

def rawSegments : Text → List Text
  | [] => []
  | _ :: t => t.splitOnP isSlash

/-- A special URL has at least one segment. -/
def parsePath (path : Text) : List Text := if path = [] then [[]] else resolve [] (rawSegments path)

/-- The text of a path: each segment after a slash. -/
def pathText (path : List Text) : Text := path.flatMap ('/' :: ·)

end Path

def parseQuery (rest : Text) : Option Text :=
  match rest with
  | '?' :: query => some (percentEncode specialQuerySet (query.takeWhile (· != '#')))
  | _ => none

def parseFragment (rest : Text) : Option Text :=
  (splitOnce '#' rest).map fun parts => percentEncode fragmentSet parts.2

variable (externals : Externals)

structure Authority where
  username : Text
  password : Option Text
  host : Text
  port : Option Nat
deriving DecidableEq

def parseAuthority (default : Nat) (authority : Text) : Except String Authority :=
  let parts := splitLast '@' authority
  let hostPort := splitPort false parts.2
  if hostPort.1 = [] then .error "empty host"
  else do
    let host ← externals.parseHost hostPort.1
    let port ← (hostPort.2.map (parsePort default)).getD (.ok none)
    let userinfo := parseUserinfo (parts.1.getD [])
    return { username := userinfo.1, password := userinfo.2, host, port }

/-- The URL of an authority and of what follows it. -/
def urlOf (scheme : Text) (authority : Authority) (tail : Text) : Url :=
  let rest := tail.dropWhile fun c => !endsPath c
  { scheme
    username := authority.username
    password := authority.password
    host := some authority.host
    port := authority.port
    path := parsePath (tail.takeWhile fun c => !endsPath c)
    query := parseQuery rest
    fragment := parseFragment rest }

/-- What follows the scheme of a special URL. -/
def parseSpecial (scheme : Text) (default : Nat) (input : Text) : Except String Url := do
  let input := input.dropWhile isSlash
  let authority ← parseAuthority externals default (input.takeWhile fun c => !endsAuthority c)
  return urlOf scheme authority (input.dropWhile fun c => !endsAuthority c)

def parse (input : Text) : Except String Url :=
  match splitScheme (clean input) with
  | none => .error "relative URL without a base"
  | some (scheme, rest) =>
    match specialPort scheme with
    | some default => parseSpecial externals scheme default rest
    | none => (externals.parseOther scheme rest).map fun url => { url with scheme }

section Accepted
variable {externals : Externals}

theorem parseAuthority_eq_ok {default : Nat} {text : Text} {authority : Authority} :
    parseAuthority externals default text = .ok authority ↔
      (splitPort false (splitLast '@' text).2).1 ≠ [] ∧
        externals.parseHost (splitPort false (splitLast '@' text).2).1 = .ok authority.host ∧
        ((splitPort false (splitLast '@' text).2).2.map (parsePort default)).getD (.ok none) =
          .ok authority.port ∧
        (authority.username, authority.password) =
          parseUserinfo ((splitLast '@' text).1.getD []) := by
  simp only [parseAuthority]
  split_ifs with hempty
  · simp [hempty]
  · rw [Except.bind_eq_ok]
    constructor
    · rintro ⟨host, hhost, h⟩
      obtain ⟨port, hport, h⟩ := Except.bind_eq_ok.mp h
      cases h
      exact ⟨hempty, hhost, hport, rfl⟩
    · rintro ⟨-, hhost, hport, huserinfo⟩
      refine ⟨authority.host, hhost, ?_⟩
      rw [hport, Except.ok_bind, ← huserinfo]
      rfl

theorem parseSpecial_eq_ok {scheme : Text} {default : Nat} {input : Text} {url : Url} :
    parseSpecial externals scheme default input = .ok url ↔
      ∃ authority,
        parseAuthority externals default
          ((input.dropWhile isSlash).takeWhile fun c => !endsAuthority c) = .ok authority ∧
        urlOf scheme authority ((input.dropWhile isSlash).dropWhile fun c => !endsAuthority c) =
          url := by
  rw [parseSpecial, Except.bind_eq_ok]
  constructor
  · rintro ⟨authority, hauthority, h⟩
    exact ⟨authority, hauthority, Except.ok.inj h⟩
  · rintro ⟨authority, hauthority, rfl⟩
    exact ⟨authority, hauthority, rfl⟩

end Accepted

end WebUrl
