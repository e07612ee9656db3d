import GptLiveProxy.AsciiText
import GptLiveProxy.CallBody
import GptLiveProxy.Delimiters

/-!
# The multipart body of a call and what a reader finds in it

The builder writes the offer and the session as two parts with a fixed boundary and escapes
neither. A reader that ends a part at the first delimiter therefore finds the offer and the session
again exactly when the offer does not contain the delimiter; printed JSON never does.
-/

namespace GptLiveProxy
open CharText Json

def MULTIPART_BOUNDARY : Text := "codex-realtime-call-boundary".toList

/-- The printer besides the parser: `serde_json::to_string`. -/
structure SerdeJsonText extends SerdeJson where
  toString : Value → Text

section Building

def multipartContentType : Text := "multipart/form-data; boundary=".toList ++ MULTIPART_BOUNDARY

def multipartCallBody (json : SerdeJsonText) (sdp : Text) (session : Value) : List UInt8 :=
  let sessionJson := json.toString (sanitized session)
  utf8 ("--".toList ++ MULTIPART_BOUNDARY ++ "\r\n".toList) ++
    utf8 "Content-Disposition: form-data; name=\"sdp\"\r\n".toList ++
    utf8 "Content-Type: application/sdp\r\n\r\n".toList ++
    utf8 sdp ++
    utf8 "\r\n".toList ++
    utf8 ("--".toList ++ MULTIPART_BOUNDARY ++ "\r\n".toList) ++
    utf8 "Content-Disposition: form-data; name=\"session\"\r\n".toList ++
    utf8 "Content-Type: application/json\r\n\r\n".toList ++
    utf8 sessionJson ++
    utf8 "\r\n".toList ++
    utf8 ("--".toList ++ MULTIPART_BOUNDARY ++ "--\r\n".toList)

end Building

section Assumptions

def isBoundary (token : Text) : Bool :=
  !token.isEmpty && token.all fun c => isAsciiAlphanumeric c || c == '-'

def isFieldName (name : Text) : Bool := !name.isEmpty && name.all isAsciiAlphanumeric

def isPlainType (kind : Text) : Bool :=
  !kind.isEmpty && kind.all fun c => isAsciiAlphanumeric c || c == '/'

/-- What opens the body and, behind a line break, ends every part. -/
def dashBoundary (token : Text) : Text := "--".toList ++ token

def CRLF : Text := ['\r', '\n']

def delimiter (token : Text) : Text := CRLF ++ dashBoundary token

def NAME_LEAD : Text := "\r\nContent-Disposition: form-data; name=\"".toList

def TYPE_LEAD : Text := '"' :: "\r\nContent-Type: ".toList

/-- The two header lines of a part, from the line break behind its boundary on. -/
def headLines (name kind : Text) : Text := NAME_LEAD ++ name ++ TYPE_LEAD ++ kind ++ CRLF ++ CRLF

def partHead (token name kind : Text) : Text := dashBoundary token ++ headLines name kind

/-- The reader finds a boundary in the content type, ends a part at the first delimiter behind its
head, and ends the body at the first close delimiter. -/
structure Multer.EndsPartsAtDelimiters (multer : Multer) : Prop where
  boundary : ∀ token, isBoundary token = true →
    multer.parseBoundary ("multipart/form-data; boundary=".toList ++ token) = some token
  part : ∀ token name kind data tail, isBoundary token = true → isFieldName name = true →
    isPlainType kind = true → ¬ utf8 (delimiter token) <:+: data →
      multer.fields token
          (utf8 (partHead token name kind) ++ (data ++ (utf8 (delimiter token) ++ tail))) =
        .ok ⟨some name, none, some data⟩ :: multer.fields token (utf8 (dashBoundary token) ++ tail)
  close : ∀ token epilogue, isBoundary token = true →
    multer.fields token (utf8 (dashBoundary token ++ "--".toList) ++ epilogue) = []

/-- The value is printed without control characters, as JSON escapes them, and parsed back. -/
structure SerdeJsonText.ParsesBack (json : SerdeJsonText) (value : Value) : Prop where
  parsed : json.fromStr (json.toString value) = some value
  escaped : ∀ c ∈ json.toString value, 32 ≤ c.toNat

end Assumptions

section Layout
variable (json : SerdeJsonText) (sdp : Text) (session : Value)

def sessionTail : List UInt8 :=
  utf8 (headLines "session".toList "application/json".toList) ++
    (utf8 (json.toString (sanitized session)) ++
      (utf8 (delimiter MULTIPART_BOUNDARY) ++ utf8 "--\r\n".toList))

theorem multipartCallBody_eq : multipartCallBody json sdp session =
    utf8 (partHead MULTIPART_BOUNDARY "sdp".toList "application/sdp".toList) ++
      (utf8 sdp ++ (utf8 (delimiter MULTIPART_BOUNDARY) ++ sessionTail json session)) := by
  have hsdp : headLines "sdp".toList "application/sdp".toList =
      "\r\n".toList ++ ("Content-Disposition: form-data; name=\"sdp\"\r\n".toList ++
        "Content-Type: application/sdp\r\n\r\n".toList) := by decide +kernel
  have hsession : headLines "session".toList "application/json".toList =
      "\r\n".toList ++ ("Content-Disposition: form-data; name=\"session\"\r\n".toList ++
        "Content-Type: application/json\r\n\r\n".toList) := by decide +kernel
  have hbreak : CRLF = "\r\n".toList := rfl
  rw [sessionTail, partHead, hsdp, hsession]
  simp only [multipartCallBody, delimiter, dashBoundary, hbreak, utf8_append, List.append_assoc]

end Layout

section Reading
variable {multer : Multer} {json : SerdeJsonText} {sdp : Text} {session : Value}

theorem delimiter_ascii : ∀ c ∈ delimiter MULTIPART_BOUNDARY, c.toNat < 128 := by
  have hall : (delimiter MULTIPART_BOUNDARY).all (fun c => decide (c.toNat < 128)) = true := rfl
  exact fun c hc => of_decide_eq_true (List.all_eq_true.mp hall c hc)

/-- Printed JSON has no line break and so no delimiter. -/
theorem delimiter_not_in_json (hjson : json.ParsesBack session) :
    ¬ utf8 (delimiter MULTIPART_BOUNDARY) <:+: utf8 (json.toString session) := by
  rw [utf8_infix_iff delimiter_ascii]
  intro hoccurs
  have hbreak : '\r' ∈ json.toString session := List.IsInfix.mem List.mem_cons_self hoccurs
  exact absurd (hjson.escaped _ hbreak) (by decide)

/-- The fields of the body, up to the part the offer ends in. -/
theorem fields_multipartCallBody (h : multer.EndsPartsAtDelimiters) (json : SerdeJsonText)
    (session : Value) {data rest : List UInt8}
    (hsdp : utf8 sdp ++ (utf8 (delimiter MULTIPART_BOUNDARY) ++ sessionTail json session) =
      data ++ (utf8 (delimiter MULTIPART_BOUNDARY) ++ rest))
    (hfree : ¬ utf8 (delimiter MULTIPART_BOUNDARY) <:+: data) :
    multer.fields MULTIPART_BOUNDARY (multipartCallBody json sdp session) =
      .ok ⟨some "sdp".toList, none, some data⟩ ::
        multer.fields MULTIPART_BOUNDARY (utf8 (dashBoundary MULTIPART_BOUNDARY) ++ rest) := by
  rw [multipartCallBody_eq, hsdp]
  exact h.part _ _ _ _ _ rfl rfl rfl hfree

theorem fields_sessionTail (h : multer.EndsPartsAtDelimiters)
    (hjson : json.ParsesBack (sanitized session)) :
    multer.fields MULTIPART_BOUNDARY
        (utf8 (dashBoundary MULTIPART_BOUNDARY) ++ sessionTail json session) =
      [.ok ⟨some "session".toList, none, some (utf8 (json.toString (sanitized session)))⟩] := by
  have hpart := h.part MULTIPART_BOUNDARY "session".toList "application/json".toList _
    (utf8 "--\r\n".toList) rfl rfl rfl (delimiter_not_in_json hjson)
  have hclose := h.close MULTIPART_BOUNDARY (utf8 "\r\n".toList) rfl
  have hdashes : "--\r\n".toList = "--".toList ++ "\r\n".toList := rfl
  rw [partHead, utf8_append, List.append_assoc] at hpart
  rw [utf8_append, List.append_assoc, ← utf8_append, ← hdashes] at hclose
  rw [sessionTail, hpart, hclose]

theorem offer_cut_short (h : multer.EndsPartsAtDelimiters) (json : SerdeJsonText)
    (session : Value) (hoccurs : delimiter MULTIPART_BOUNDARY <:+: sdp) :
    ∃ data rest, data ≠ utf8 sdp ∧
      multer.fields MULTIPART_BOUNDARY (multipartCallBody json sdp session) =
        .ok ⟨some "sdp".toList, none, some data⟩ :: rest := by
  have hne : utf8 (delimiter MULTIPART_BOUNDARY) ≠ [] := by
    intro hnil
    cases utf8_injective (b := []) hnil
  obtain ⟨data, behind, hsdp, hfree⟩ :=
    Delimiters.exists_first hne ((utf8_infix_iff delimiter_ascii).mpr hoccurs)
  have hbody : utf8 sdp ++ (utf8 (delimiter MULTIPART_BOUNDARY) ++ sessionTail json session) =
      data ++ (utf8 (delimiter MULTIPART_BOUNDARY) ++
        (behind ++ (utf8 (delimiter MULTIPART_BOUNDARY) ++ sessionTail json session))) := by
    rw [hsdp, List.append_assoc, List.append_assoc]
  refine ⟨data, _, ?_, fields_multipartCallBody h json session hbody hfree⟩
  rw [hsdp]
  intro heq
  exact hne (List.append_eq_nil_iff.mp (List.self_eq_append_right.mp heq)).1

/-- The call is read back exactly when the offer does not contain the delimiter; the session then
is all of the caller's but its top-level `id`. -/
theorem call_read_back_iff (h : multer.EndsPartsAtDelimiters) (json : SerdeJsonText) (sdp : Text)
    (session : Value) (hjson : json.ParsesBack (sanitized session)) :
    (parsePrivateMultipart multer json.toSerdeJson (multipartCallBody json sdp session)
        multipartContentType = .ok ⟨sdp, some (sanitized session), 1, 1⟩ ↔
      ¬ delimiter MULTIPART_BOUNDARY <:+: sdp) ∧
    LosesId session (sanitized session) := by
  refine ⟨?_, sanitized_losesId session⟩
  have hboundary : multer.parseBoundary multipartContentType = some MULTIPART_BOUNDARY :=
    h.boundary _ rfl
  constructor
  · intro hparsed hoccurs
    obtain ⟨data, rest, hcut, hfields⟩ := offer_cut_short h json session hoccurs
    obtain ⟨boundary, all, hfound, hall, -, -, hfirst, -⟩ := parsePrivateMultipart_eq_ok hparsed
    obtain rfl := Option.some.inj (hboundary.symm.trans hfound)
    rw [hfields] at hall
    cases all with
    | nil => cases hall
    | cons field all =>
      obtain ⟨hfield, -⟩ := List.cons.inj hall
      cases Except.ok.inj hfield
      have hread : decodeUtf8 data = some sdp := hfirst
      exact hcut (utf8_of_decodeUtf8 hread).symm
  · intro hfree
    rw [← utf8_infix_iff delimiter_ascii] at hfree
    have hfields := fields_multipartCallBody h json session rfl hfree
    rw [fields_sessionTail h hjson] at hfields
    have hread := readFields_pair (decodeUtf8_utf8 sdp)
      (decodeUtf8_utf8 (json.toString (sanitized session)))
    unfold parsePrivateMultipart
    simp only [hboundary, hfields, hread, Except.ok_bind, parseSession, hjson.parsed]
    rfl

end Reading

section PlainReader

def takePart (token : Text) (body : List UInt8) : Option (MultipartField × List UInt8) := do
  let rest ← body.dropPrefix? (utf8 (dashBoundary token ++ NAME_LEAD))
  let (name, rest) ← Delimiters.cutAt (utf8 TYPE_LEAD) rest
  let (_, rest) ← Delimiters.cutAt (utf8 CRLF) rest
  let rest ← rest.dropPrefix? (utf8 CRLF)
  let (data, tail) ← Delimiters.cutAt (utf8 (delimiter token)) rest
  return (⟨decodeUtf8 name, none, some data⟩, utf8 (dashBoundary token) ++ tail)

theorem takePart_shorter {token : Text} {body rest : List UInt8} {field : MultipartField}
    (h : takePart token body = some (field, rest)) : rest.length < body.length := by
  simp only [takePart, Option.bind_eq_bind, Option.bind_eq_some_iff] at h
  obtain ⟨named, hnamed, ⟨name, typed⟩, hname, ⟨kind, blank⟩, hkind, part, hblank, ⟨data, tail⟩,
    hdata, hresult⟩ := h
  cases hresult
  obtain rfl := dropPrefix?_eq_some.mp hnamed
  obtain rfl := Delimiters.cutAt_eq_some hname
  obtain rfl := Delimiters.cutAt_eq_some hkind
  obtain rfl := dropPrefix?_eq_some.mp hblank
  obtain rfl := Delimiters.cutAt_eq_some hdata
  have hbreak : (utf8 CRLF).length = 2 := rfl
  simp only [utf8_append, List.length_append, hbreak]
  omega

def readParts (token : Text) (body : List UInt8) : List (Except Unit MultipartField) :=
  match _h : takePart token body with
  | some (field, rest) => .ok field :: readParts token rest
  | none =>
    if (body.dropPrefix? (utf8 (dashBoundary token ++ "--".toList))).isSome then [] else [.error ()]
termination_by body.length
decreasing_by exact takePart_shorter _h

/-- A reader of bodies whose parts all have the two header lines. -/
def plainMulter : Multer where
  parseBoundary contentType := contentType.dropPrefix? "multipart/form-data; boundary=".toList
  fields := readParts

theorem unrepeated_utf8 {c : Char} (hc : c.toNat < 128) {t : Text} (h : c ∉ t) :
    Delimiters.Unrepeated (utf8 (c :: t)) :=
  ⟨UInt8.ofNat c.toNat, utf8 t, utf8_cons_ascii hc t, mt (mem_utf8_ascii hc).mp h⟩

theorem not_infix_of_notMem {c : Char} (hc : c.toNat < 128) {word t : Text} (hword : c ∈ word)
    (h : c ∉ t) : ¬ utf8 word <:+: utf8 t := by
  intro hoccurs
  exact h ((mem_utf8_ascii hc).mp (List.IsInfix.mem ((mem_utf8_ascii hc).mpr hword) hoccurs))

theorem isFieldName_no_quote {name : Text} (h : isFieldName name = true) : '"' ∉ name := by
  intro hmem
  simp only [isFieldName, Bool.and_eq_true, List.all_eq_true] at h
  exact absurd (h.2 _ hmem) (by decide)

theorem isPlainType_no_break {kind : Text} (h : isPlainType kind = true) : '\r' ∉ kind := by
  intro hmem
  simp only [isPlainType, Bool.and_eq_true, List.all_eq_true] at h
  exact absurd (h.2 _ hmem) (by decide)

theorem delimiter_unrepeated {token : Text} (h : isBoundary token = true) :
    Delimiters.Unrepeated (utf8 (delimiter token)) := by
  have hrest : '\r' ∉ '\n' :: dashBoundary token := by
    simp only [isBoundary, Bool.and_eq_true, List.all_eq_true] at h
    simp only [dashBoundary, List.mem_cons, List.mem_append, not_or]
    exact ⟨by decide, by decide, fun hmem => absurd (h.2 _ hmem) (by decide)⟩
  exact unrepeated_utf8 (by decide) hrest

theorem takePart_head {token name kind : Text} {data tail : List UInt8}
    (htoken : isBoundary token = true) (hname : isFieldName name = true)
    (hkind : isPlainType kind = true) (hfree : ¬ utf8 (delimiter token) <:+: data) :
    takePart token (utf8 (partHead token name kind) ++ (data ++ (utf8 (delimiter token) ++ tail))) =
      some (⟨some name, none, some data⟩, utf8 (dashBoundary token) ++ tail) := by
  have hlayout : utf8 (partHead token name kind) ++ (data ++ (utf8 (delimiter token) ++ tail)) =
      utf8 (dashBoundary token ++ NAME_LEAD) ++ (utf8 name ++ (utf8 TYPE_LEAD ++ (utf8 kind ++
        (utf8 CRLF ++ (utf8 CRLF ++ (data ++ (utf8 (delimiter token) ++ tail))))))) := by
    simp only [partHead, headLines, utf8_append, List.append_assoc]
  have hquote : '"'.toNat < 128 := by decide
  have hreturn : '\r'.toNat < 128 := by decide
  have hname' : ¬ utf8 TYPE_LEAD <:+: utf8 name :=
    not_infix_of_notMem hquote List.mem_cons_self (isFieldName_no_quote hname)
  have hkind' : ¬ utf8 CRLF <:+: utf8 kind :=
    not_infix_of_notMem hreturn List.mem_cons_self (isPlainType_no_break hkind)
  have hlead : Delimiters.Unrepeated (utf8 TYPE_LEAD) := unrepeated_utf8 hquote (by decide)
  have hbreak : Delimiters.Unrepeated (utf8 CRLF) := unrepeated_utf8 hreturn (by decide)
  rw [hlayout, takePart]
  simp only [dropPrefix?_append, Delimiters.cutAt_append hlead hname',
    Delimiters.cutAt_append hbreak hkind',
    Delimiters.cutAt_append (delimiter_unrepeated htoken) hfree, Option.bind_eq_bind,
    Option.bind_some, decodeUtf8_utf8]
  rfl

theorem plainMulter_endsParts : plainMulter.EndsPartsAtDelimiters := by
  refine ⟨fun token _ => dropPrefix?_append _ _, ?_, ?_⟩
  · intro token name kind data tail htoken hname hkind hfree
    change readParts _ _ = _ :: readParts _ _
    rw [readParts]
    split
    · next field rest htaken =>
      rw [takePart_head htoken hname hkind hfree] at htaken
      cases htaken
      rfl
    · next htaken =>
      rw [takePart_head htoken hname hkind hfree] at htaken
      cases htaken
  · intro token epilogue htoken
    change readParts _ _ = _
    rw [readParts]
    split
    · next field rest htaken =>
      simp only [takePart, Option.bind_eq_bind, Option.bind_eq_some_iff] at htaken
      obtain ⟨behind, hbehind, -⟩ := htaken
      have hlead := dropPrefix?_eq_some.mp hbehind
      rw [utf8_append, utf8_append, List.append_assoc, List.append_assoc,
        List.append_cancel_left_eq] at hlead
      have hheads : some (45 : UInt8) = some 13 := congrArg List.head? hlead
      exact absurd hheads (by decide)
    · rw [dropPrefix?_append]
      rfl

end PlainReader

section Instances

def quicksilverText : Text := "\x7b\"type\":\"quicksilver\"\x7d".toList

/-- Prints and parses the literals and the one object `quicksilverSession`. -/
def literalJson : SerdeJsonText where
  fromStr t :=
    if t = "true".toList then some (.bool true)
    else if t = "false".toList then some (.bool false)
    else if t = quicksilverText then some quicksilverSession
    else none
  toVec
    | .bool true => utf8 "true".toList
    | .bool false => utf8 "false".toList
    | .object _ => utf8 quicksilverText
    | _ => utf8 "null".toList
  toString
    | .bool true => "true".toList
    | .bool false => "false".toList
    | .object _ => quicksilverText
    | _ => "null".toList

theorem literalJson_parsesBack : literalJson.ParsesBack (sanitized sessionWithId) := by
  rw [sanitized_sessionWithId]
  exact ⟨rfl, List.forall_iff_forall_mem.mp (by decide)⟩

/-- Line breaks, dashes, and the boundary itself, but no delimiter. -/
def dashedOffer : Text := "--codex-realtime-call-boundary\r\nv=0\r\n--codex".toList

theorem dashed_offer_read_back :
    sessionWithId.child (.key "id".toList) = some (.string "s_1".toList) ∧
    ∃ sent, parsePrivateMultipart plainMulter literalJson.toSerdeJson
        (multipartCallBody literalJson dashedOffer sessionWithId) multipartContentType =
      .ok ⟨dashedOffer, some sent, 1, 1⟩ ∧
      sent.child (.key "id".toList) = none ∧ LosesId sessionWithId sent := by
  obtain ⟨hread, hlost⟩ := call_read_back_iff plainMulter_endsParts literalJson dashedOffer
    sessionWithId literalJson_parsesBack
  exact ⟨rfl, _, hread.mpr (by decide +kernel), hlost.gone, hlost⟩

/-- An offer that continues with a delimiter and a session part of its own. -/
def smugglingOffer : Text :=
  "v=0".toList ++ (delimiter MULTIPART_BOUNDARY ++
    (headLines "session".toList "application/json".toList ++ "true".toList))

theorem smuggled_session_read :
    plainMulter.EndsPartsAtDelimiters ∧ literalJson.ParsesBack (sanitized sessionWithId) ∧
      parsePrivateMultipart plainMulter literalJson.toSerdeJson
          (multipartCallBody literalJson smugglingOffer sessionWithId) multipartContentType =
        .ok ⟨"v=0".toList, some (.bool true), 1, 2⟩ ∧
      parsePrivateMultipart plainMulter literalJson.toSerdeJson
          (multipartCallBody literalJson smugglingOffer sessionWithId) multipartContentType ≠
        .ok ⟨smugglingOffer, some (sanitized sessionWithId), 1, 1⟩ := by
  have hmulter := plainMulter_endsParts
  have hjson := literalJson_parsesBack
  have hoffer : utf8 smugglingOffer ++
      (utf8 (delimiter MULTIPART_BOUNDARY) ++ sessionTail literalJson sessionWithId) =
      utf8 "v=0".toList ++ (utf8 (delimiter MULTIPART_BOUNDARY) ++
        (utf8 (headLines "session".toList "application/json".toList) ++ (utf8 "true".toList ++
          (utf8 (delimiter MULTIPART_BOUNDARY) ++ sessionTail literalJson sessionWithId)))) := by
    simp only [smugglingOffer, utf8_append, List.append_assoc]
  have hfree : ¬ utf8 (delimiter MULTIPART_BOUNDARY) <:+: utf8 "v=0".toList :=
    not_infix_of_notMem (show '\r'.toNat < 128 by decide) List.mem_cons_self (by decide)
  have hsmuggled := hmulter.part MULTIPART_BOUNDARY "session".toList "application/json".toList
    (utf8 "true".toList) (sessionTail literalJson sessionWithId) rfl rfl rfl
    (not_infix_of_notMem (show '\r'.toNat < 128 by decide) List.mem_cons_self (by decide))
  rw [partHead, utf8_append, List.append_assoc] at hsmuggled
  have hfields := fields_multipartCallBody hmulter literalJson sessionWithId hoffer hfree
  rw [hsmuggled, fields_sessionTail hmulter hjson] at hfields
  have hparsed : parsePrivateMultipart plainMulter literalJson.toSerdeJson
      (multipartCallBody literalJson smugglingOffer sessionWithId) multipartContentType =
        .ok ⟨"v=0".toList, some (.bool true), 1, 2⟩ := by
    have hboundary : plainMulter.parseBoundary multipartContentType = some MULTIPART_BOUNDARY :=
      hmulter.boundary _ rfl
    have hread (last : List UInt8) :
        readFields .start [.ok ⟨some "sdp".toList, none, some (utf8 "v=0".toList)⟩,
          .ok ⟨some "session".toList, none, some (utf8 "true".toList)⟩,
          .ok ⟨some "session".toList, none, some last⟩] =
        .ok ⟨⟨some "v=0".toList, 1⟩, ⟨some "true".toList, 2⟩⟩ := by
      simp [readFields, CallFields.take, TextSlot.take, CallFields.start, MultipartField.text,
        decodeUtf8_utf8]
    unfold parsePrivateMultipart
    simp only [hboundary, hfields, hread]
    rfl
  refine ⟨hmulter, hjson, hparsed, ?_⟩
  rw [hparsed]
  intro heq
  have hsdp : "v=0".toList = smugglingOffer := congrArg ParsedPrivateCall.sdp (Except.ok.inj heq)
  exact absurd hsdp (by decide)

end Instances

end GptLiveProxy
