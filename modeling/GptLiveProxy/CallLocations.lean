import GptLiveProxy.CallIds
import GptLiveProxy.TextPieces
import GptLiveProxy.UrlParser
import Mathlib.Data.List.Forall2

/-!
# Call ids in `Location` headers

The call id of a created call stands in the `Location` header. `parse_call_id` drops the query and
takes the last piece between slashes that has the shape of a call id. The pieces are those of the
whole string: in an absolute URL the third one is the authority, and the pieces of a fragment come
after those of the path. Whatever piece is taken, every entry point that joins a call reads it back.
-/

namespace GptLiveProxy
open CharText

section Parser

def isHexUuid (segment : Text) : Bool :=
  if byteLen segment ≠ 36 then false
  else (utf8 segment).zipIdx.all fun indexed =>
    if indexed.2 = 8 ∨ indexed.2 = 13 ∨ indexed.2 = 18 ∨ indexed.2 = 23 then indexed.1 == 0x2d
    else isHexByte indexed.1

/-- Either `rtc_` with a suffix, or a UUID; and the alphabet and length of a call id. -/
def isCallIdSegment (segment : Text) : Bool :=
  let knownShape := ((segment.dropPrefix? "rtc_".toList).any fun suffix => !suffix.isEmpty) ||
    isHexUuid segment
  knownShape && (validateCallId segment).toBool

/-- The pieces between slashes of what stands before the first question mark. -/
def pieces (location : Text) : List Text :=
  ((location.splitOn '?').head?.getD location).splitOn '/'

def parseCallId (location : Text) : Option Text := (pieces location).reverse.find? isCallIdSegment

end Parser

section Shape

def uuidShape : Text := "xxxxxxxx-xxxx-xxxx-xxxx-xxxxxxxxxxxx".toList

/-- Hexadecimal digits in groups of 8, 4, 4, 4, and 12, with hyphens between them. -/
def IsHexUuid (segment : Text) : Prop :=
  List.Forall₂ (fun shape c => if shape = '-' then c = '-' else isAsciiHexdigit c = true) uuidShape
    segment

/-- A call id of one of the two known shapes. -/
structure IsKnownCallId (segment : Text) : Prop where
  shape : (∃ suffix, suffix ≠ [] ∧ segment = "rtc_".toList ++ suffix) ∨ IsHexUuid segment
  callId : IsCallId segment

theorem hex_facts : ∀ {c : Char}, c.toNat < 128 →
    (isHexByte (UInt8.ofNat c.toNat) = isAsciiHexdigit c ∧
      (UInt8.ofNat c.toNat == 0x2d) = (c == '-')) :=
  fun {_} hc => forall_ascii (P := fun c => isHexByte (UInt8.ofNat c.toNat) = isAsciiHexdigit c ∧
    (UInt8.ofNat c.toNat == 0x2d) = (c == '-')) (by decide +kernel) hc

theorem uuidShape_hyphen {i : Nat} (hi : i < 36) :
    uuidShape[i]? = some '-' ↔ i = 8 ∨ i = 13 ∨ i = 18 ∨ i = 23 := by
  have hall : (List.range 36).all (fun i => decide (uuidShape[i]? = some '-' ↔
      i = 8 ∨ i = 13 ∨ i = 18 ∨ i = 23)) = true := by decide +kernel
  exact of_decide_eq_true (List.all_eq_true.mp hall i (List.mem_range.mpr hi))

theorem isHexUuid_shape {segment : Text} : IsHexUuid segment ↔ segment.length = 36 ∧
    ∀ i c, segment[i]? = some c →
      if i = 8 ∨ i = 13 ∨ i = 18 ∨ i = 23 then c = '-' else isAsciiHexdigit c = true := by
  have hlength : uuidShape.length = 36 := by decide
  rw [IsHexUuid, List.forall₂_iff_get]
  constructor
  · rintro ⟨hsize, hshape⟩
    refine ⟨by omega, fun i c hget => ?_⟩
    obtain ⟨hi, rfl⟩ := List.getElem?_eq_some_iff.mp hget
    have hi' : i < uuidShape.length := by omega
    have hrule := hshape i hi' hi
    have hhyphen := uuidShape_hyphen (show i < 36 by omega)
    rw [List.getElem?_eq_getElem hi', Option.some.injEq] at hhyphen
    simp only [List.get_eq_getElem, hhyphen] at hrule
    exact hrule
  · rintro ⟨hsize, hshape⟩
    refine ⟨by omega, fun i hi' hi => ?_⟩
    have hrule := hshape i _ (List.getElem?_eq_getElem hi)
    have hhyphen := uuidShape_hyphen (show i < 36 by omega)
    rw [List.getElem?_eq_getElem hi', Option.some.injEq] at hhyphen
    simp only [List.get_eq_getElem, hhyphen]
    exact hrule

theorem isHexUuid_iff {segment : Text} (hascii : ∀ c ∈ segment, c.toNat < 128) :
    isHexUuid segment = true ↔ IsHexUuid segment := by
  rw [isHexUuid_shape, isHexUuid, byteLen_ascii hascii, utf8_ascii hascii]
  split_ifs with hsize
  · exact ⟨nofun, fun h => absurd h.1 hsize⟩
  · rw [List.all_eq_true, and_iff_right (not_not.mp hsize)]
    constructor
    · intro hscan i c hget
      have hbyte := hscan (UInt8.ofNat c.toNat, i)
        (List.mem_zipIdx_iff_getElem?.mpr (by rw [List.getElem?_map, hget]; rfl))
      obtain ⟨hhex, hhyphen⟩ := hex_facts (hascii c (List.mem_of_getElem? hget))
      dsimp only at hbyte
      split_ifs at hbyte ⊢
      · rwa [hhyphen, beq_iff_eq] at hbyte
      · rwa [hhex] at hbyte
    · rintro hshape ⟨b, i⟩ hmem
      have hget := List.mem_zipIdx_iff_getElem?.mp hmem
      rw [List.getElem?_map, Option.map_eq_some_iff] at hget
      obtain ⟨c, hget, rfl⟩ := hget
      obtain ⟨hhex, hhyphen⟩ := hex_facts (hascii c (List.mem_of_getElem? hget))
      have hrule := hshape i c hget
      dsimp only
      split_ifs at hrule ⊢
      · rw [hhyphen, hrule]
        rfl
      · rw [hhex, hrule]

theorem isCallIdSegment_iff (segment : Text) :
    isCallIdSegment segment = true ↔ IsKnownCallId segment := by
  have hshape (hid : IsCallId segment) : isHexUuid segment = true ↔ IsHexUuid segment :=
    isHexUuid_iff fun c hc => isCallIdChar_ascii (hid.alphabet c hc)
  have hprefix : ((segment.dropPrefix? "rtc_".toList).any fun suffix => !suffix.isEmpty) = true ↔
      ∃ suffix, suffix ≠ [] ∧ segment = "rtc_".toList ++ suffix := by
    simp only [Option.any_eq_true, Bool.not_eq_true', List.isEmpty_eq_false_iff,
      dropPrefix?_eq_some]
    exact exists_congr fun suffix => and_comm
  rw [isCallIdSegment, Bool.and_eq_true, Bool.or_eq_true, hprefix, validateCallId_toBool]
  constructor
  · rintro ⟨hknown, hid⟩
    exact ⟨hknown.imp_right (hshape hid).mp, hid⟩
  · rintro ⟨hknown, hid⟩
    exact ⟨hknown.imp_right (hshape hid).mpr, hid⟩

theorem IsKnownCallId.mem_ne {segment : Text} (h : IsKnownCallId segment) {c : Char}
    (hc : isCallIdChar c = false) : c ∉ segment := by
  intro hmem
  rw [h.callId.alphabet c hmem] at hc
  cases hc

end Shape

section Pieces

def beforeQuery (location : Text) : Text := location.takeWhile (· != '?')

theorem pieces_eq (location : Text) : pieces location = (beforeQuery location).splitOn '/' := by
  have hhead (t : Text) : (t.splitOn '?').head? = some (beforeQuery t) := by
    induction t with
    | nil => rfl
    | cons c t ih =>
      obtain ⟨first, rest, hsplit⟩ := List.exists_cons_of_ne_nil (List.splitOn_ne_nil '?' t)
      rw [hsplit] at ih
      have hfirst := Option.some.inj ih
      rw [List.splitOn_cons_eq_if_modifyHead, hsplit, beforeQuery, List.takeWhile_cons, bne]
      cases c == '?' with
      | true => rfl
      | false => rw [hfirst]; rfl
  rw [pieces, hhead]
  rfl

theorem beforeQuery_append {a : Text} (h : '?' ∉ a) (b : Text) :
    beforeQuery (a ++ b) = a ++ beforeQuery b := by
  apply List.takeWhile_append_of_pos
  intro c hc
  rw [bne_iff_ne]
  rintro rfl
  exact h hc

end Pieces

/-- The taken piece is a call id, and no piece behind it is one. -/
theorem parseCallId_eq_some {location id : Text} : parseCallId location = some id ↔
    IsKnownCallId id ∧ ∃ before after, pieces location = before ++ id :: after ∧
      ∀ piece ∈ after, ¬ IsKnownCallId piece := by
  rw [parseCallId, List.find?_eq_some_iff_append, isCallIdSegment_iff]
  refine and_congr_right fun _ => ?_
  constructor
  · rintro ⟨before, after, hsplit, hbefore⟩
    refine ⟨after.reverse, before.reverse, ?_, ?_⟩
    · have hreverse := congrArg List.reverse hsplit
      simpa using hreverse
    · intro piece hpiece hknown
      have hnot := hbefore piece (List.mem_reverse.mp hpiece)
      rw [(isCallIdSegment_iff piece).mpr hknown] at hnot
      cases hnot
  · rintro ⟨before, after, hsplit, hafter⟩
    refine ⟨after.reverse, before.reverse, by rw [hsplit]; simp, ?_⟩
    intro piece hpiece
    rw [Bool.not_eq_true', Bool.eq_false_iff]
    intro hknown
    exact hafter piece (List.mem_reverse.mp hpiece) ((isCallIdSegment_iff piece).mp hknown)

theorem exists_parseCallId {location piece : Text} (hmem : piece ∈ pieces location)
    (hknown : IsKnownCallId piece) : ∃ id, parseCallId location = some id := by
  rw [← Option.isSome_iff_exists, parseCallId, List.find?_isSome]
  exact ⟨piece, List.mem_reverse.mpr hmem, (isCallIdSegment_iff piece).mpr hknown⟩

section AbsoluteUrls

/-- A URL with its scheme and authority; the tail is its query or its fragment. -/
structure AbsoluteUrl where
  scheme : Text
  authority : Text
  path : Text
  tail : Text
  scheme_head : scheme.head?.any WebUrl.isAsciiAlphabetic = true
  scheme_chars : ∀ c ∈ scheme, WebUrl.isSchemeChar c = true
  authority_chars : ∀ c ∈ authority, c ≠ '/' ∧ c ≠ '?' ∧ c ≠ '#'
  path_head : path = [] ∨ ∃ rest, path = '/' :: rest
  path_chars : ∀ c ∈ path, c ≠ '?' ∧ c ≠ '#'
  tail_head : tail = [] ∨ (∃ rest, tail = '?' :: rest) ∨ ∃ rest, tail = '#' :: rest

namespace AbsoluteUrl
variable (url : AbsoluteUrl)

def text : Text := url.scheme ++ ':' :: '/' :: '/' :: (url.authority ++ url.path ++ url.tail)

def segments : List Text := (url.path.splitOn '/').tail

theorem split_authority_path :
    (url.authority ++ url.path).splitOn '/' = url.authority :: url.segments := by
  have hslash : '/' ∉ url.authority := fun hmem => (url.authority_chars _ hmem).1 rfl
  rcases url.path_head with hpath | ⟨rest, hpath⟩
  · rw [segments, hpath, List.append_nil, List.splitOn_eq_singleton hslash]
    rfl
  · rw [segments, hpath, List.splitOn_append_cons_self_of_not_mem hslash,
      List.splitOn_cons_eq_if_modifyHead, if_pos (beq_self_eq_true _), List.tail_cons]

theorem before_query : beforeQuery url.text =
    (url.scheme ++ [':']) ++ '/' :: '/' :: (url.authority ++ url.path ++ beforeQuery url.tail) := by
  have hscheme : '?' ∉ url.scheme := by
    intro hmem
    have hc := url.scheme_chars _ hmem
    revert hc
    decide
  have hfront : '?' ∉ url.scheme ++ ':' :: '/' :: '/' :: (url.authority ++ url.path) := by
    simp only [List.mem_append, List.mem_cons, not_or]
    exact ⟨hscheme, by decide, by decide, by decide,
      fun hmem => (url.authority_chars _ hmem).2.1 rfl, fun hmem => (url.path_chars _ hmem).1 rfl⟩
  have htext : url.text =
      url.scheme ++ ':' :: '/' :: '/' :: (url.authority ++ url.path) ++ url.tail := by
    simp [text]
  rw [htext, beforeQuery_append hfront]
  simp

theorem tail_first {first : Text} {rest : List Text}
    (h : (beforeQuery url.tail).splitOn '/' = first :: rest) : first = [] ∨ '#' ∈ first := by
  rcases url.tail_head with htail | ⟨query, htail⟩ | ⟨fragment, htail⟩
  · rw [htail] at h
    exact .inl (List.cons.inj h).1.symm
  · rw [htail] at h
    exact .inl (List.cons.inj h).1.symm
  · have hbefore : beforeQuery ('#' :: fragment) = '#' :: beforeQuery fragment := rfl
    rw [htail, hbefore, List.splitOn_cons_eq_if_modifyHead, if_neg (by decide)] at h
    obtain ⟨head, behind, hsplit⟩ := List.exists_cons_of_ne_nil
      (List.splitOn_ne_nil '/' (beforeQuery fragment))
    rw [hsplit] at h
    obtain ⟨rfl, -⟩ := List.cons.inj h
    exact .inr List.mem_cons_self

/-- The pieces are the scheme, an empty one, the authority, the segments of the path, the last of
them continued by the fragment, and the further pieces of the fragment. -/
theorem pieces_text : ∃ front last first rest,
    pieces url.text = (url.scheme ++ [':']) :: [] :: (front ++ (last ++ first) :: rest) ∧
      front ++ [last] = url.authority :: url.segments ∧ (first = [] ∨ '#' ∈ first) := by
  obtain ⟨front, last, first, rest, hfront, htail, hsplit⟩ :=
    splitOnP_append (· == '/') (url.authority ++ url.path) (beforeQuery url.tail)
  have hscheme : '/' ∉ url.scheme ++ [':'] := by
    intro hmem
    rcases List.mem_append.mp hmem with hmem | hmem
    · have hc := url.scheme_chars _ hmem
      revert hc
      decide
    · revert hmem
      decide
  refine ⟨front, last, first, rest, ?_, hfront ▸ url.split_authority_path, url.tail_first htail⟩
  rw [pieces_eq, before_query, List.splitOn_append_cons_self_of_not_mem hscheme,
    List.splitOn_cons_eq_if_modifyHead, if_pos (beq_self_eq_true _), List.splitOn_eq_splitOnP, hsplit]

/-- The taken piece is a segment of the path: the pieces before it are the scheme, the empty one, the
authority, and the segments before it. -/
def TakesFromPath (id : Text) : Prop :=
  ∃ before after k, pieces url.text = before ++ id :: after ∧
    (∀ piece ∈ after, ¬ IsKnownCallId piece) ∧ before.length = 3 + k ∧ url.segments[k]? = some id

/-- No piece of a fragment has the shape of a call id, and the authority has it only when a piece of
the path behind it has it too. -/
def ShapedOnlyInPath : Prop :=
  (∀ piece ∈ (pieces url.text).drop (3 + url.segments.length), isCallIdSegment piece = false) ∧
  ∀ authority ∈ (pieces url.text)[2]?, isCallIdSegment authority = true →
    ∃ piece ∈ ((pieces url.text).drop 3).take url.segments.length, isCallIdSegment piece = true

variable {url} {id : Text} {k : Nat}

theorem segment_of_piece (hpiece : (pieces url.text)[3 + k]? = some id) (hk : k < url.segments.length)
    (hknown : IsKnownCallId id) : url.segments[k]? = some id := by
  obtain ⟨front, last, first, rest, hpieces, hmain, hfirst⟩ := url.pieces_text
  have hindex : (front ++ (last ++ first) :: rest)[k + 1]? = some id := by
    rw [hpieces, show 3 + k = k + 1 + 1 + 1 by omega, List.getElem?_cons_succ,
      List.getElem?_cons_succ] at hpiece
    exact hpiece
  have hlength := congrArg List.length hmain
  rw [List.length_append, List.length_singleton, List.length_cons] at hlength
  have hsegment : (front ++ [last])[k + 1]? = url.segments[k]? := by
    rw [hmain, List.getElem?_cons_succ]
  rw [← hsegment]
  by_cases hfront : k + 1 < front.length
  · rw [List.getElem?_append_left hfront] at hindex ⊢
    exact hindex
  · have hlast : k + 1 = front.length := by omega
    rw [hlast, List.getElem?_append_right (Nat.le_refl _), Nat.sub_self, List.getElem?_cons_zero]
      at hindex ⊢
    obtain rfl := Option.some.inj hindex
    rcases hfirst with rfl | hmark
    · rw [List.append_nil]
    · exact absurd (List.mem_append_right last hmark) (hknown.mem_ne (by decide))

theorem index_of_known {before after : List Text} (hsplit : pieces url.text = before ++ id :: after)
    (hknown : IsKnownCallId id) : 2 ≤ before.length := by
  obtain ⟨front, last, first, rest, hpieces, -, -⟩ := url.pieces_text
  rw [hpieces] at hsplit
  match before with
  | [] =>
    obtain ⟨rfl, -⟩ := List.cons.inj hsplit
    exact absurd (by simp) (hknown.mem_ne (show isCallIdChar ':' = false by decide))
  | [scheme] =>
    obtain ⟨-, hsplit⟩ := List.cons.inj hsplit
    obtain ⟨rfl, -⟩ := List.cons.inj hsplit
    have hnonempty := hknown.callId.nonempty
    cases hnonempty
  | scheme :: blank :: before => exact Nat.le_add_left 2 before.length

theorem drop_behind (before after : List Text) (id : Text) (m : Nat) :
    (before ++ id :: after).drop (before.length + (m + 1)) = after.drop m := by
  rw [List.drop_length_add_append, List.drop_succ_cons]

theorem getElem?_before {before after : List Text} (hsplit : pieces url.text = before ++ id :: after) :
    (pieces url.text)[before.length]? = some id := by
  rw [hsplit, List.getElem?_append_right (Nat.le_refl _), Nat.sub_self, List.getElem?_cons_zero]

theorem takesFromPath_of_shaped (hshaped : url.ShapedOnlyInPath)
    (hid : parseCallId url.text = some id) : url.TakesFromPath id := by
  obtain ⟨hknown, before, after, hsplit, hafter⟩ := parseCallId_eq_some.mp hid
  have hshape := (isCallIdSegment_iff id).mpr hknown
  have hat := getElem?_before hsplit
  have htwo := index_of_known hsplit hknown
  have hthree : before.length ≠ 2 := by
    intro hlength
    rw [hlength] at hat
    obtain ⟨piece, hmem, hpiece⟩ := hshaped.2 id hat hshape
    have hbehind : (pieces url.text).drop 3 = after := by
      rw [hsplit, show 3 = before.length + (0 + 1) by omega, drop_behind, List.drop_zero]
    rw [hbehind] at hmem
    exact hafter piece (List.mem_of_mem_take hmem) ((isCallIdSegment_iff piece).mp hpiece)
  have hwithin : before.length < 3 + url.segments.length := by
    by_contra hbeyond
    have hmem : id ∈ (pieces url.text).drop (3 + url.segments.length) := by
      apply List.mem_of_getElem? (i := before.length - (3 + url.segments.length))
      rw [List.getElem?_drop, Nat.add_sub_of_le (Nat.le_of_not_lt hbeyond)]
      exact hat
    rw [hshaped.1 id hmem] at hshape
    cases hshape
  refine ⟨before, after, before.length - 3, hsplit, hafter, by omega, ?_⟩
  apply segment_of_piece _ (by omega) hknown
  rw [show 3 + (before.length - 3) = before.length by omega]
  exact hat

theorem shaped_of_takesFromPath
    (htakes : ∀ id, parseCallId url.text = some id → url.TakesFromPath id) :
    url.ShapedOnlyInPath := by
  refine ⟨fun piece hmem => ?_, fun authority hauthority hshape => ?_⟩
  · rw [Bool.eq_false_iff]
    intro hshape
    have hknown := (isCallIdSegment_iff piece).mp hshape
    obtain ⟨id, hid⟩ := exists_parseCallId (List.mem_of_mem_drop hmem) hknown
    obtain ⟨before, after, k, hsplit, hafter, hlength, hsegment⟩ := htakes id hid
    have hk := (List.getElem?_eq_some_iff.mp hsegment).1
    have hbehind : 3 + url.segments.length =
        before.length + (url.segments.length - k - 1 + 1) := by omega
    rw [hsplit, hbehind, drop_behind] at hmem
    exact hafter piece (List.mem_of_mem_drop hmem) hknown
  · have hknown := (isCallIdSegment_iff authority).mp hshape
    obtain ⟨id, hid⟩ := exists_parseCallId (List.mem_of_getElem? hauthority) hknown
    obtain ⟨before, after, k, hsplit, -, hlength, hsegment⟩ := htakes id hid
    have hk := (List.getElem?_eq_some_iff.mp hsegment).1
    refine ⟨id, ?_, (isCallIdSegment_iff id).mpr (parseCallId_eq_some.mp hid).1⟩
    apply List.mem_of_getElem? (i := k)
    rw [List.getElem?_take_of_lt hk, List.getElem?_drop, ← hlength]
    exact getElem?_before hsplit

end AbsoluteUrl

end AbsoluteUrls

section Joining

/-- Every entry point that joins a call reads the id back unchanged. -/
def JoinsUnchanged (id : Text) : Prop :=
  ∀ decoder : PercentDecoder,
    (∀ (slash : Bool) query, parseSidebandTarget decoder
      ("/v1/live/".toList ++ (id ++ if slash then ['/'] else [])) query = some (.framelessPath id)) ∧
    (∀ (slash : Bool) query, parseSidebandTarget decoder
      ("/v1/realtime/calls/".toList ++ (id ++ if slash then ['/'] else [])) query =
        some (.realtimeCallsPath id)) ∧
    (∀ action ∈ controlActions,
      (parseRestPath decoder ("/v1/realtime/calls/".toList ++ (id ++ '/' :: action))).toOption =
        controlOperation action id) ∧
    ∀ facts : RouteFacts, facts.path = "/v1/realtime".toList → facts.method = .get →
      queryTarget decoder facts ("call_id=".toList ++ id) = some (.existingCall id)

theorem admittedCallId_self (decoder : PercentDecoder) {id : Text} (h : IsCallId id) :
    admittedCallId decoder id = some id := by
  have hpercent : 0x25 ∉ utf8 id := by
    intro hmem
    have hc := h.alphabet '%' ((mem_utf8_ascii (c := '%') (by decide)).mp hmem)
    cases hc
  rw [admittedCallId_eq_some, decoder.decode_eq_self hpercent, decodeUtf8_utf8]
  refine ⟨fun front rest hbytes => ?_, rfl, h⟩
  rw [hbytes] at hpercent
  exact absurd (List.mem_append_right front List.mem_cons_self) hpercent

theorem joins_unchanged {id : Text} (h : IsCallId id) : JoinsUnchanged id := by
  have hfree {c : Char} (hc : isCallIdChar c = false) : c ∉ id := by
    intro hmem
    rw [h.alphabet c hmem] at hc
    cases hc
  have hslash : '/' ∉ id := hfree (by decide)
  have hamp : '&' ∉ id := hfree (by decide)
  intro decoder
  have hadmitted := admittedCallId_self decoder h
  refine ⟨fun slash query => ?_, fun slash query => ?_, fun action haction => ?_,
    fun facts hpath hmethod => ?_⟩
  · rw [parseSidebandTarget_frameless hslash, hadmitted, Option.map_some]
  · rw [parseSidebandTarget_calls hslash, hadmitted, Option.map_some]
  · rw [parseRestPath_control hslash haction, hadmitted, Option.bind_some]
  · rw [queryTarget_eq hpath hmethod hamp, hadmitted, Option.map_some]

end Joining

section Extraction

/-- The last of the pieces that is a well-formed call id. -/
def IsRightmost (location id : Text) : Prop :=
  IsKnownCallId id ∧ ∃ before after, pieces location = before ++ id :: after ∧
    ∀ piece ∈ after, ¬ IsKnownCallId piece

/-- What is extracted is the rightmost call id, comes from the path of an absolute URL, and joins
unchanged. -/
def ExtractsFromPath (location : Text) : Prop :=
  ∀ id, parseCallId location = some id → IsRightmost location id ∧
    (∀ url : AbsoluteUrl, url.text = location → url.TakesFromPath id) ∧ JoinsUnchanged id

/-- The extraction is right exactly for the locations whose authority and fragment do not have the
shape of a call id where the scan meets them. -/
theorem extracts_from_path_iff (location : Text) : ExtractsFromPath location ↔
    ∀ url : AbsoluteUrl, url.text = location → url.ShapedOnlyInPath := by
  constructor
  · rintro h url rfl
    exact AbsoluteUrl.shaped_of_takesFromPath fun id hid => (h id hid).2.1 url rfl
  · intro h id hid
    have hrightmost := parseCallId_eq_some.mp hid
    refine ⟨hrightmost, ?_, joins_unchanged hrightmost.1.callId⟩
    rintro url rfl
    exact AbsoluteUrl.takesFromPath_of_shaped (h url rfl) hid

def gatewayUrl : AbsoluteUrl where
  scheme := "https".toList
  authority := "rtc_gateway".toList
  path := "/v1/live".toList
  tail := []
  scheme_head := rfl
  scheme_chars := List.all_eq_true.mp rfl
  authority_chars := by
    intro c hc
    have hall : "rtc_gateway".toList.all (fun c => c != '/' && c != '?' && c != '#') = true := rfl
    simpa [and_assoc] using List.all_eq_true.mp hall c hc
  path_head := .inr ⟨_, rfl⟩
  path_chars := by
    intro c hc
    have hall : "/v1/live".toList.all (fun c => c != '?' && c != '#') = true := rfl
    simpa using List.all_eq_true.mp hall c hc
  tail_head := .inl rfl

/-- The host of the URL is taken for the id of the call. -/
theorem host_is_extracted :
    gatewayUrl.text = "https://rtc_gateway/v1/live".toList ∧
    parseCallId "https://rtc_gateway/v1/live".toList = some gatewayUrl.authority ∧
    gatewayUrl.authority ∉ gatewayUrl.segments ∧
    ¬ ExtractsFromPath "https://rtc_gateway/v1/live".toList := by
  have hid : parseCallId "https://rtc_gateway/v1/live".toList = some gatewayUrl.authority := by
    decide +kernel
  have hoff : gatewayUrl.authority ∉ gatewayUrl.segments := by decide +kernel
  refine ⟨by decide +kernel, hid, hoff, fun h => ?_⟩
  obtain ⟨before, after, k, -, -, -, hsegment⟩ := (h _ hid).2.1 gatewayUrl (by decide +kernel)
  exact hoff (List.mem_of_getElem? hsegment)

end Extraction

end GptLiveProxy
