import GptLiveProxy.CharText

/-!
# IP addresses and their textual forms

The parsers follow `FromStr` of the standard address types: four decimal octets without leading
zeros for IPv4; for IPv6, groups of one to four hexadecimal digits, at most one `::`, and an
IPv4 address in place of the last two groups.
-/

namespace GptLiveProxy
open CharText

structure Ipv4Addr where
  octets : UInt8 × UInt8 × UInt8 × UInt8
deriving DecidableEq

structure Ipv6Addr where
  segments : List UInt16
  eight : segments.length = 8
deriving DecidableEq

inductive IpAddr
  | v4 (addr : Ipv4Addr)
  | v6 (addr : Ipv6Addr)
deriving DecidableEq

def Ipv4Addr.isLoopback (a : Ipv4Addr) : Bool := a.octets.1 == 127

def Ipv6Addr.isLoopback (a : Ipv6Addr) : Bool := a.segments == [0, 0, 0, 0, 0, 0, 0, 1]

def parseOctet (t : Text) : Option UInt8 :=
  if t.length ≤ 3 ∧ (t.head? = some '0' → t.length = 1) ∧ t ≠ [] then
    ((digitsValue 0 t).filter (· ≤ 255)).map UInt8.ofNat
  else none

def Ipv4Addr.parse (t : Text) : Option Ipv4Addr :=
  match (t.splitOn '.').mapM parseOctet with
  | some [a, b, c, d] => some ⟨a, b, c, d⟩
  | _ => none

def hexValue (c : Char) : Nat :=
  if isAsciiDigit c then c.toNat - '0'.toNat
  else if 'a' ≤ c then c.toNat - 'a'.toNat + 10
  else c.toNat - 'A'.toNat + 10

def parseGroup (t : Text) : Option UInt16 :=
  if t ≠ [] ∧ t.length ≤ 4 ∧ t.all isAsciiHexdigit then
    some (UInt16.ofNat (t.foldl (fun n c => n * 16 + hexValue c) 0))
  else none

/-- Colon-separated groups; the last piece may be an IPv4 address when `embedded` allows it. -/
def parseGroups (embedded : Bool) : List Text → Option (List UInt16)
  | [] => some []
  | [piece] =>
    match parseGroup piece with
    | some group => some [group]
    | none =>
      if embedded then
        (Ipv4Addr.parse piece).map fun a =>
          [UInt16.ofNat (a.octets.1.toNat * 256 + a.octets.2.1.toNat),
            UInt16.ofNat (a.octets.2.2.1.toNat * 256 + a.octets.2.2.2.toNat)]
      else none
  | piece :: pieces => do
    let group ← parseGroup piece
    let groups ← parseGroups embedded pieces
    return group :: groups

/-- The text before and after the first `::`. -/
def splitDoubleColon : Text → Option (Text × Text)
  | ':' :: ':' :: t => some ([], t)
  | c :: t => (splitDoubleColon t).map fun r => (c :: r.1, r.2)
  | [] => none

def groupPieces (t : Text) : List Text := if t = [] then [] else t.splitOn ':'

def Ipv6Addr.ofSegments (segments : List UInt16) : Option Ipv6Addr :=
  if h : segments.length = 8 then some ⟨segments, h⟩ else none

def Ipv6Addr.parse (t : Text) : Option Ipv6Addr :=
  match splitDoubleColon t with
  | none => do
    let groups ← parseGroups true (groupPieces t)
    Ipv6Addr.ofSegments groups
  | some (front, back) => do
    let head ← parseGroups false (groupPieces front)
    let tail ← parseGroups true (groupPieces back)
    if head.length + tail.length ≤ 7 then
      Ipv6Addr.ofSegments (head ++ List.replicate (8 - head.length - tail.length) 0 ++ tail)
    else none

def IpAddr.isLoopback : IpAddr → Bool
  | .v4 addr => addr.isLoopback
  | .v6 addr => addr.isLoopback

structure SocketAddr where
  ip : IpAddr
  port : UInt16
deriving DecidableEq

section Characters

/-- Hexadecimal digits, colons, and dots. -/
def isAddressChar (c : Char) : Bool := isAsciiHexdigit c || c == ':' || c == '.'

theorem isAddressChar_of_digit {c : Char} (h : isAsciiDigit c = true) : isAddressChar c = true := by
  simp [isAddressChar, isAsciiHexdigit, h]

theorem parseOctet_chars {t : Text} {octet : UInt8} (h : parseOctet t = some octet) :
    ∀ c ∈ t, isAsciiDigit c = true := by
  unfold parseOctet at h
  split_ifs at h
  obtain ⟨n, hn, -⟩ := Option.map_eq_some_iff.mp h
  exact digitsValue_chars (Option.filter_eq_some_iff.mp hn).1

theorem mapM_parseOctet_chars {pieces : List Text} {octets : List UInt8}
    (h : pieces.mapM parseOctet = some octets) :
    ∀ piece ∈ pieces, ∀ c ∈ piece, isAsciiDigit c = true := by
  induction pieces generalizing octets with
  | nil => simp
  | cons piece pieces ih =>
    rw [List.mapM_cons] at h
    obtain ⟨octet, hoctet, h⟩ := Option.bind_eq_some_iff.mp h
    obtain ⟨rest, hrest, -⟩ := Option.bind_eq_some_iff.mp h
    exact List.forall_mem_cons.mpr ⟨parseOctet_chars hoctet, ih hrest⟩

theorem Ipv4Addr.parse_chars {t : Text} {a : Ipv4Addr} (h : Ipv4Addr.parse t = some a) :
    ∀ c ∈ t, isAddressChar c = true := by
  unfold Ipv4Addr.parse at h
  split at h
  · rename_i octets
    intro c hc
    by_cases hdot : c = '.'
    · simp [isAddressChar, hdot]
    · obtain ⟨piece, hpiece, hmem⟩ := exists_piece hc hdot
      exact isAddressChar_of_digit (mapM_parseOctet_chars octets piece hpiece c hmem)
  · cases h

theorem parseGroup_chars {t : Text} {group : UInt16} (h : parseGroup t = some group) :
    ∀ c ∈ t, isAddressChar c = true := by
  unfold parseGroup at h
  split_ifs at h with hgroup
  intro c hc
  have hhex := List.all_eq_true.mp hgroup.2.2 c hc
  simp [isAddressChar, hhex]

theorem parseGroups_chars {embedded : Bool} {pieces : List Text} {groups : List UInt16}
    (h : parseGroups embedded pieces = some groups) :
    ∀ piece ∈ pieces, ∀ c ∈ piece, isAddressChar c = true := by
  induction pieces generalizing groups with
  | nil => simp
  | cons piece pieces ih =>
    cases pieces with
    | nil =>
      simp only [parseGroups] at h
      refine List.forall_mem_singleton.mpr ?_
      split at h
      · rename_i hgroup
        exact parseGroup_chars hgroup
      · split_ifs at h
        obtain ⟨a, ha, -⟩ := Option.map_eq_some_iff.mp h
        exact Ipv4Addr.parse_chars ha
    | cons next pieces =>
      simp only [parseGroups] at h
      obtain ⟨group, hgroup, h⟩ := Option.bind_eq_some_iff.mp h
      obtain ⟨rest, hrest, -⟩ := Option.bind_eq_some_iff.mp h
      exact List.forall_mem_cons.mpr ⟨parseGroup_chars hgroup, ih hrest⟩

theorem groupPieces_chars {embedded : Bool} {t : Text} {groups : List UInt16}
    (h : parseGroups embedded (groupPieces t) = some groups) :
    ∀ c ∈ t, isAddressChar c = true := by
  intro c hc
  have hpieces : groupPieces t = t.splitOn ':' := if_neg (List.ne_nil_of_mem hc)
  by_cases hcolon : c = ':'
  · simp [isAddressChar, hcolon]
  · obtain ⟨piece, hpiece, hmem⟩ := exists_piece hc hcolon
    exact parseGroups_chars h piece (hpieces ▸ hpiece) c hmem

theorem splitDoubleColon_eq_some {t front back : Text} (h : splitDoubleColon t = some (front, back)) :
    t = front ++ ':' :: ':' :: back := by
  induction t using splitDoubleColon.induct generalizing front back with
  | case1 t =>
    simp only [splitDoubleColon, Option.some.injEq, Prod.mk.injEq] at h
    obtain ⟨rfl, rfl⟩ := h
    rfl
  | case2 c t hne ih =>
    rw [splitDoubleColon.eq_2 _ _ hne] at h
    obtain ⟨⟨front', back'⟩, hsplit, heq⟩ := Option.map_eq_some_iff.mp h
    obtain ⟨rfl, rfl⟩ := Prod.mk.inj heq
    rw [List.cons_append, ← ih hsplit]
  | case3 => simp [splitDoubleColon] at h

theorem Ipv6Addr.parse_chars {t : Text} {a : Ipv6Addr} (h : Ipv6Addr.parse t = some a) :
    ∀ c ∈ t, isAddressChar c = true := by
  unfold Ipv6Addr.parse at h
  split at h
  · obtain ⟨groups, hgroups, -⟩ := Option.bind_eq_some_iff.mp h
    exact groupPieces_chars hgroups
  · rename_i front back hsplit
    obtain ⟨head, hhead, h⟩ := Option.bind_eq_some_iff.mp h
    obtain ⟨tail, htail, -⟩ := Option.bind_eq_some_iff.mp h
    rw [splitDoubleColon_eq_some hsplit]
    intro c hc
    simp only [List.mem_append, List.mem_cons] at hc
    rcases hc with hfront | rfl | rfl | hback
    · exact groupPieces_chars hhead c hfront
    · rfl
    · rfl
    · exact groupPieces_chars htail c hback

end Characters

example : (Ipv4Addr.parse "127.0.0.2".toList).map Ipv4Addr.isLoopback = some true := by decide
example : (Ipv6Addr.parse "::1".toList).map Ipv6Addr.isLoopback = some true := by decide
example : Ipv6Addr.parse "2001:db8::1:2:3:4:5:6".toList = none := by decide

end GptLiveProxy
