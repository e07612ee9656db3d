import GptLiveProxy.AsciiText
import GptLiveProxy.Handlers
import GptLiveProxy.TextPieces

/-!
# Call ids across entry points

A call id enters through the control paths, through the two sideband paths, and through the query
of the WebSocket route. The first and the last scan the escapes before decoding, the sideband paths
decode leniently, and only the query reads a plus sign as a space. `admittedCallId` is what all of
them compute: a stray percent sign, a plus sign, and a space all survive to the alphabet check.
-/

namespace GptLiveProxy
open CharText

def isCallIdChar (c : Char) : Bool := isAsciiAlphanumeric c || c == '_' || c == '-'

/-- The pattern of a decoded call id: one to 128 letters, digits, underscores, or hyphens. -/
structure IsCallId (callId : Text) : Prop where
  nonempty : 1 ≤ callId.length
  bounded : callId.length ≤ 128
  alphabet : ∀ c ∈ callId, isCallIdChar c = true

/-- Every percent sign of the text starts an escape of two hexadecimal digits. -/
def EscapesComplete (raw : Text) : Prop :=
  ∀ front rest, utf8 raw = front ++ 0x25 :: rest →
    ∃ hi lo tail, rest = hi :: lo :: tail ∧ isHexByte hi = true ∧ isHexByte lo = true

/-- The call id of a raw segment: decoded once, with complete escapes and the call-id pattern. -/
def admittedCallId (decoder : PercentDecoder) (raw : Text) : Option Text :=
  if wellFormedEscapes (utf8 raw) then
    (decodeUtf8 (decoder.decode (utf8 raw))).filter fun callId => (validateCallId callId).toBool
  else none

section Alphabet

theorem isCallIdByte_ascii (b : UInt8) : isCallIdByte b = true → b.toNat < 128 := by
  revert b
  apply HeaderValue.forall_byte
  decide +kernel

theorem isCallIdChar_ascii {c : Char} (h : isCallIdChar c = true) : c.toNat < 128 := by
  simp only [isCallIdChar, Bool.or_eq_true, beq_iff_eq] at h
  rcases h with (h | rfl) | rfl
  · exact isAsciiAlphanumeric_ascii h
  all_goals decide

theorem isCallIdChar_iff (c : Char) :
    isCallIdChar c = true ↔ c.toNat < 128 ∧ isCallIdByte (UInt8.ofNat c.toNat) = true := by
  have hall := @forall_ascii
    (fun c => isCallIdChar c = isCallIdByte (UInt8.ofNat c.toNat)) (by decide +kernel) c
  constructor
  · intro h
    have hc := isCallIdChar_ascii h
    exact ⟨hc, hall hc ▸ h⟩
  · rintro ⟨hc, h⟩
    rw [hall hc]
    exact h

theorem validateCallId_eq_ok {callId : Text} : validateCallId callId = .ok () ↔ IsCallId callId := by
  have hbytes : (utf8 callId).all isCallIdByte = true ↔ ∀ c ∈ callId, isCallIdChar c = true := by
    rw [utf8_all_iff isCallIdByte_ascii]
    exact forall₂_congr fun c _ => (isCallIdChar_iff c).symm
  have hlen (h : ∀ c ∈ callId, isCallIdChar c = true) : byteLen callId = callId.length :=
    byteLen_ascii fun c hc => isCallIdChar_ascii (h c hc)
  unfold validateCallId
  constructor
  · intro h
    split_ifs at h with hsize hall
    obtain ⟨hne, hshort⟩ := not_or.mp hsize
    have hchars := hbytes.mp hall
    have hbound : byteLen callId ≤ 128 := Nat.le_of_not_lt hshort
    exact ⟨List.length_pos_of_ne_nil hne, hlen hchars ▸ hbound, hchars⟩
  · intro h
    have hsize : ¬ (callId = [] ∨ byteLen callId > MAX_CALL_ID_LEN) := by
      refine not_or.mpr ⟨List.ne_nil_of_length_pos h.nonempty, Nat.not_lt.mpr ?_⟩
      rw [hlen h.alphabet]
      exact h.bounded
    rw [if_neg hsize, if_pos (hbytes.mpr h.alphabet)]

theorem validateCallId_toBool {callId : Text} :
    (validateCallId callId).toBool = true ↔ IsCallId callId := by
  rw [← validateCallId_eq_ok]
  cases validateCallId callId with
  | ok u => simp [Except.toBool]
  | error e => simp [Except.toBool]

/-- A decoded text that holds a byte outside the alphabet is no call id. -/
theorem validateCallId_of_byte {bytes : List UInt8} {b : UInt8} {decoded : Text}
    (hdecoded : decodeUtf8 bytes = some decoded) (hb : b ∈ bytes) (hout : isCallIdByte b = false) :
    (validateCallId decoded).toBool = false := by
  rw [← utf8_of_decodeUtf8 hdecoded] at hb
  rw [Bool.eq_false_iff]
  intro hvalid
  have hchars := (validateCallId_toBool.mp hvalid).alphabet
  have hall := (utf8_all_iff isCallIdByte_ascii decoded).mpr
    fun c hc => (isCallIdChar_iff c).mp (hchars c hc)
  rw [List.all_eq_true.mp hall b hb] at hout
  cases hout

end Alphabet

theorem escapesComplete_iff (raw : Text) :
    wellFormedEscapes (utf8 raw) = true ↔ EscapesComplete raw := by
  rw [wellFormedEscapes_iff]
  refine forall₃_congr fun front rest _ => ?_
  constructor
  · intro h
    exact (startsEscape_eq_true h).2
  · rintro ⟨hi, lo, tail, rfl, hhi, hlo⟩
    change (isHexByte hi && isHexByte lo) = true
    rw [hhi, hlo, Bool.and_self]

theorem admittedCallId_eq_some {decoder : PercentDecoder} {raw callId : Text} :
    admittedCallId decoder raw = some callId ↔
      EscapesComplete raw ∧ decodeUtf8 (decoder.decode (utf8 raw)) = some callId ∧
        IsCallId callId := by
  rw [admittedCallId, ← escapesComplete_iff, ← validateCallId_toBool]
  split_ifs with hescapes
  · simp [hescapes, Option.filter_eq_some_iff]
  · simp [hescapes]

section ControlPaths

def controlActions : List Text :=
  ["accept".toList, "reject".toList, "refer".toList, "hangup".toList]

theorem controlActions_facts : ∀ action ∈ controlActions,
    action ≠ [] ∧ '/' ∉ action ∧ ∀ callId, (controlOperation action callId).isSome = true := by
  simp only [controlActions, List.forall_mem_cons]
  refine ⟨?_, ?_, ?_, ?_, List.forall_mem_nil _⟩
  all_goals exact ⟨by decide, by decide, fun callId => rfl⟩

theorem fixedRestPath_outside {path : Text} {operation : RestOperation}
    (h : fixedRestPath path = some operation) :
    path.dropPrefix? "/v1/realtime/calls/".toList = none := by
  unfold fixedRestPath at h
  split_ifs at h with h1 h2 h3 h4 h5 h6
  all_goals subst path; decide

theorem splitOn_two {front back : Text} (hfront : '/' ∉ front) (hback : '/' ∉ back) :
    (front ++ '/' :: back).splitOn '/' = [front, back] := by
  rw [List.splitOn_append_cons_self_of_not_mem hfront, List.splitOn_eq_singleton hback]

theorem admittedCallId_eq_filter (decoder : PercentDecoder) (raw : Text) :
    admittedCallId decoder raw = (decodeCallId decoder raw).toOption.filter
      fun callId => (validateCallId callId).toBool := by
  unfold admittedCallId decodeCallId
  split_ifs with hescapes
  · cases decodeUtf8 (decoder.decode (utf8 raw)) <;> rfl
  · rfl

theorem admittedCallId_empty (decoder : PercentDecoder) : admittedCallId decoder [] = none := by
  rw [Option.eq_none_iff_forall_ne_some]
  intro callId hadmitted
  obtain ⟨-, hdecoded, hpattern⟩ := admittedCallId_eq_some.mp hadmitted
  have hbytes := utf8_of_decodeUtf8 hdecoded
  rw [show utf8 [] = [] from rfl, decoder.decode_nil] at hbytes
  obtain rfl := utf8_injective (b := []) hbytes
  exact absurd hpattern.nonempty (by simp)

theorem parseRestPath_control {decoder : PercentDecoder} {raw action : Text} (hraw : '/' ∉ raw)
    (haction : action ∈ controlActions) :
    (parseRestPath decoder ("/v1/realtime/calls/".toList ++ (raw ++ '/' :: action))).toOption =
      (admittedCallId decoder raw).bind (controlOperation action) := by
  obtain ⟨hne, hslash, hsome⟩ := controlActions_facts action haction
  have hdrop := dropPrefix?_append "/v1/realtime/calls/".toList (raw ++ '/' :: action)
  have hfixed : fixedRestPath ("/v1/realtime/calls/".toList ++ (raw ++ '/' :: action)) = none := by
    rw [Option.eq_none_iff_forall_ne_some]
    intro operation hoperation
    rw [fixedRestPath_outside hoperation] at hdrop
    cases hdrop
  have hknown : (controlOperation action []).isNone = false := by
    rw [← Option.not_isSome, hsome]
    rfl
  simp only [parseRestPath, hfixed, hdrop, splitOn_two hraw hslash, hknown, hne, or_false,
    Bool.false_eq_true, if_false]
  split_ifs with hempty
  · subst hempty
    rw [admittedCallId_empty]
    rfl
  · rw [admittedCallId_eq_filter]
    cases decodeCallId decoder raw with
    | error e => rfl
    | ok callId =>
      obtain ⟨operation, hoperation⟩ := Option.isSome_iff_exists.mp (hsome callId)
      rw [show (Except.ok callId : Except PathError Text).toOption = some callId from rfl,
        Option.filter_some, Except.ok_bind, hoperation]
      cases validateCallId callId with
      | error e => rfl
      | ok u => exact hoperation.symm

end ControlPaths

section SidebandPaths

theorem sidebandCallId_eq {decoder : PercentDecoder} {raw : Text} (hraw : '/' ∉ raw) :
    sidebandCallId decoder raw = admittedCallId decoder raw := by
  rw [sidebandCallId, if_neg hraw, admittedCallId, decodeSegment]
  split_ifs with hescapes
  · rfl
  · -- the lenient decoder keeps a stray percent sign, which no call id contains
    rw [Option.filter_eq_none_iff]
    intro decoded hdecoded
    have hpercent := decoder.percent_mem_decode (Bool.eq_false_iff.mpr hescapes)
    rw [validateCallId_of_byte hdecoded hpercent (by decide)]
    exact Bool.false_ne_true

/-- One trailing slash goes with the path; without one, the raw segment ends it. -/
theorem dropSlash (front : Text) {raw : Text} (hraw : '/' ∉ raw) (slash : Bool)
    (hne : raw ≠ [] ∨ slash = true) :
    (((front ++ (raw ++ if slash then ['/'] else [])).dropSuffix? ['/']).getD
      (front ++ (raw ++ if slash then ['/'] else []))) = front ++ raw := by
  cases slash with
  | true =>
    rw [if_pos rfl, ← List.append_assoc, dropSuffix?_append]
    rfl
  | false =>
    have hraw' : raw ≠ [] := hne.resolve_right Bool.false_ne_true
    have hnot : ¬ ['/'] <:+ front ++ raw := by
      rintro ⟨t, ht⟩
      have hlast := congrArg List.getLast? ht
      rw [List.getLast?_append_of_ne_nil _ hraw', List.getLast?_append] at hlast
      exact hraw (List.mem_of_getLast? hlast.symm)
    rw [if_neg Bool.false_ne_true, List.append_nil, dropSuffix?_eq_none.mpr hnot]
    rfl

theorem parseSidebandTarget_frameless {decoder : PercentDecoder} {raw : Text} (hraw : '/' ∉ raw)
    (slash : Bool) (query : Text → Option Text) :
    parseSidebandTarget decoder ("/v1/live/".toList ++ (raw ++ if slash then ['/'] else [])) query =
      (admittedCallId decoder raw).map .framelessPath := by
  by_cases hempty : raw = [] ∧ slash = false
  · obtain ⟨rfl, rfl⟩ := hempty
    rw [admittedCallId_empty]
    rfl
  · have hne : raw ≠ [] ∨ slash = true := by
      rw [not_and_or, Bool.not_eq_false] at hempty
      exact hempty
    rw [parseSidebandTarget, dropSlash "/v1/live/".toList hraw slash hne]
    simp only [dropPrefix?_append, sidebandCallId_eq hraw]

theorem parseSidebandTarget_calls {decoder : PercentDecoder} {raw : Text} (hraw : '/' ∉ raw)
    (slash : Bool) (query : Text → Option Text) :
    parseSidebandTarget decoder
        ("/v1/realtime/calls/".toList ++ (raw ++ if slash then ['/'] else [])) query =
      (admittedCallId decoder raw).map .realtimeCallsPath := by
  by_cases hempty : raw = [] ∧ slash = false
  · obtain ⟨rfl, rfl⟩ := hempty
    rw [admittedCallId_empty]
    rfl
  · have hne : raw ≠ [] ∨ slash = true := by
      rw [not_and_or, Bool.not_eq_false] at hempty
      exact hempty
    have hlive : ("/v1/realtime/calls/".toList ++ raw).dropPrefix? "/v1/live/".toList = none := rfl
    rw [parseSidebandTarget, dropSlash "/v1/realtime/calls/".toList hraw slash hne]
    simp only [hlive, dropPrefix?_append, sidebandCallId_eq hraw]

end SidebandPaths

section QueryRoute

/-- The target of a WebSocket request with the given query. -/
def queryTarget (decoder : PercentDecoder) (facts : RouteFacts) (query : Text) :
    Option WebSocketTarget :=
  (decodeOrdered decoder (some query)).toOption.bind fun decoded =>
    (classifyWebsocket { facts with query := decoded }).toOption.map ClassifiedWebSocket.target

theorem plusAsSpace_eq_self {bytes : List UInt8} (h : 0x2b ∉ bytes) :
    bytes.map plusAsSpace = bytes := by
  induction bytes with
  | nil => rfl
  | cons b bytes ih =>
    obtain ⟨hb, hbytes⟩ := not_or.mp (mt List.mem_cons.mpr h)
    rw [List.map_cons, ih hbytes, plusAsSpace, if_neg (fun heq => hb heq.symm)]

theorem decodeComponent_literal (decoder : PercentDecoder) {t : Text} (hpercent : 0x25 ∉ utf8 t)
    (hplus : 0x2b ∉ utf8 t) : decodeComponent decoder t = .ok t := by
  have hescapes : wellFormedEscapes (utf8 t) = true := by
    rw [wellFormedEscapes_iff]
    intro front rest heq
    exact absurd (heq ▸ by simp) hpercent
  rw [decodeComponent, hescapes, plusAsSpace_eq_self hplus, decoder.decode_eq_self hpercent,
    decodeUtf8_utf8]
  rfl

/-- A plus sign becomes a space in the query and stays one in a path: neither is in the alphabet. -/
theorem decodeComponent_filter (decoder : PercentDecoder) (raw : Text) :
    ((decodeComponent decoder raw).toOption.filter fun callId => (validateCallId callId).toBool) =
      admittedCallId decoder raw := by
  unfold decodeComponent admittedCallId
  cases hescapes : wellFormedEscapes (utf8 raw) with
  | false => rfl
  | true =>
    by_cases hplus : 0x2b ∈ utf8 raw
    · have hspace : 0x20 ∈ decoder.decode ((utf8 raw).map plusAsSpace) :=
        decoder.mem_decode (by decide) (by decide) (List.mem_map.mpr ⟨0x2b, hplus, rfl⟩)
      have hkept : 0x2b ∈ decoder.decode (utf8 raw) :=
        decoder.mem_decode (by decide) (by decide) hplus
      have hnone {bytes : List UInt8} {b : UInt8} (hb : b ∈ bytes) (hout : isCallIdByte b = false) :
          ((decodeUtf8 bytes).filter fun callId => (validateCallId callId).toBool) = none := by
        rw [Option.filter_eq_none_iff]
        intro decoded hdecoded
        rw [validateCallId_of_byte hdecoded hb hout]
        exact Bool.false_ne_true
      rw [if_pos rfl, hnone hkept (by decide), ← hnone hspace (by decide)]
      cases decodeUtf8 (decoder.decode ((utf8 raw).map plusAsSpace)) <;> rfl
    · rw [if_pos rfl, plusAsSpace_eq_self hplus]
      cases decodeUtf8 (decoder.decode (utf8 raw)) <;> rfl

theorem decodeOrdered_callId {decoder : PercentDecoder} {raw : Text} (hraw : '&' ∉ raw) :
    decodeOrdered decoder (some ("call_id=".toList ++ raw)) =
      (decodeComponent decoder raw).map fun callId => [("call_id".toList, callId)] := by
  have hsplit : ("call_id=".toList ++ raw).splitOn '&' = ["call_id=".toList ++ raw] := by
    apply List.splitOn_eq_singleton
    have hkey : '&' ∉ "call_id=".toList := by decide
    exact fun hmem => (List.mem_append.mp hmem).elim hkey hraw
  have hpair : splitOnce '=' ("call_id=".toList ++ raw) = some ("call_id".toList, raw) := rfl
  have hkey : decodeComponent decoder "call_id".toList = .ok "call_id".toList :=
    decodeComponent_literal decoder (by decide) (by decide)
  simp only [decodeOrdered, hsplit, List.mapM_cons, List.mapM_nil, decodePair, hpair,
    Option.getD_some, hkey, Except.ok_bind]
  cases decodeComponent decoder raw <;> rfl

theorem queryTarget_eq {decoder : PercentDecoder} {facts : RouteFacts} {raw : Text}
    (hpath : facts.path = "/v1/realtime".toList) (hmethod : facts.method = .get) (hraw : '&' ∉ raw) :
    queryTarget decoder facts ("call_id=".toList ++ raw) =
      (admittedCallId decoder raw).map .existingCall := by
  rw [queryTarget, decodeOrdered_callId hraw, ← decodeComponent_filter]
  cases decodeComponent decoder raw with
  | error e => rfl
  | ok callId =>
    have hselected : selectorValues [("call_id".toList, callId)] "call_id".toList = [callId] := rfl
    have hmodels : selectorValues [("call_id".toList, callId)] "model".toList = [] := rfl
    simp only [Except.map, Except.toOption, Option.bind_some, Option.filter_some, classifyWebsocket,
      classifyWebsocketTarget, hpath, hmethod, hselected, hmodels]
    cases validateCallId callId with
    | error e => rfl
    | ok u => rfl

end QueryRoute

/-- Every entry point admits the call ids that `admittedCallId` computes, and no others. -/
theorem call_id_entry_points_agree (decoder : PercentDecoder) (raw : Text)
    (hraw : ∀ c ∈ raw, c ≠ '/' ∧ c ≠ '&' ∧ c ≠ '?' ∧ c ≠ '#') :
    (∀ action ∈ controlActions,
      (parseRestPath decoder ("/v1/realtime/calls/".toList ++ (raw ++ '/' :: action))).toOption =
        (admittedCallId decoder raw).bind (controlOperation action)) ∧
    (∀ (slash : Bool) query,
      parseSidebandTarget decoder ("/v1/live/".toList ++ (raw ++ if slash then ['/'] else [])) query =
        (admittedCallId decoder raw).map .framelessPath) ∧
    (∀ (slash : Bool) query,
      parseSidebandTarget decoder
          ("/v1/realtime/calls/".toList ++ (raw ++ if slash then ['/'] else [])) query =
        (admittedCallId decoder raw).map .realtimeCallsPath) ∧
    (∀ facts : RouteFacts, facts.path = "/v1/realtime".toList → facts.method = .get →
      queryTarget decoder facts ("call_id=".toList ++ raw) =
        (admittedCallId decoder raw).map .existingCall) ∧
    ∀ callId, admittedCallId decoder raw = some callId ↔
      EscapesComplete raw ∧ decodeUtf8 (decoder.decode (utf8 raw)) = some callId ∧
        IsCallId callId := by
  have hslash : '/' ∉ raw := fun hmem => (hraw _ hmem).1 rfl
  have hamp : '&' ∉ raw := fun hmem => (hraw _ hmem).2.1 rfl
  refine ⟨fun action haction => parseRestPath_control hslash haction,
    parseSidebandTarget_frameless hslash, parseSidebandTarget_calls hslash, ?_,
    fun callId => admittedCallId_eq_some⟩
  intro facts hpath hmethod
  exact queryTarget_eq hpath hmethod hamp

/-- An escaped letter is admitted as the letter, by all of the entry points. -/
theorem escaped_call_id_admitted : ∃ facts : RouteFacts,
    (parseRestPath .standard "/v1/realtime/calls/%72tc_1/accept".toList).toOption =
      some (.acceptCall "rtc_1".toList) ∧
    parseSidebandTarget .standard "/v1/live/%72tc_1/".toList (fun _ => none) =
      some (.framelessPath "rtc_1".toList) ∧
    queryTarget .standard facts "call_id=%72tc_1".toList =
      some (.existingCall "rtc_1".toList) := by
  have hraw : ∀ c ∈ "%72tc_1".toList, c ≠ '/' ∧ c ≠ '&' ∧ c ≠ '?' ∧ c ≠ '#' := by
    intro c hc
    have hall := List.all_eq_true.mp
      (rfl : "%72tc_1".toList.all (fun c => c != '/' && c != '&' && c != '?' && c != '#') = true) c hc
    simpa [and_assoc] using hall
  have hadmitted : admittedCallId .standard "%72tc_1".toList = some "rtc_1".toList := by
    decide +kernel
  obtain ⟨hrest, hframeless, -, hquery, -⟩ :=
    call_id_entry_points_agree .standard "%72tc_1".toList hraw
  rw [hadmitted] at hrest hframeless hquery
  exact ⟨⟨.get, "/v1/realtime".toList, [], none, none, .client⟩,
    hrest "accept".toList List.mem_cons_self, hframeless true _, hquery _ rfl rfl⟩

end GptLiveProxy
