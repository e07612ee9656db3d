import GptLiveProxy.PercentDecoding
import GptLiveProxy.RelayError
import GptLiveProxy.SessionEvidence

/-!
# Bodies of private calls

The multipart body of a private call has a textual `sdp` field and may have a textual `session`
field; the first occurrence of each wins and every occurrence is counted. Splitting the body into
fields and the JSON text format belong to libraries and are taken as they are.
-/

namespace GptLiveProxy
open CharText Json

/-- One field of a multipart body; its bytes are absent when reading them fails. -/
structure MultipartField where
  name : Option Text
  fileName : Option Text
  bytes : Option (List UInt8)
deriving DecidableEq

/-- The boundary of a content type, and the fields of a body up to the first failure. -/
structure Multer where
  parseBoundary : Text → Option Text
  fields : Text → List UInt8 → List (Except Unit MultipartField)

structure SerdeJson where
  fromStr : Text → Option Value
  toVec : Value → List UInt8

section Reading

/-- The request body as the chunks arrive, each counted before it is kept. -/
def readCapped (maxBytes : Nat) (buffer : List UInt8) :
    List (Except RelayError (List UInt8)) → Except RelayError (List UInt8)
  | [] => .ok buffer
  | .error error :: _ => .error error
  | .ok chunk :: chunks =>
    if chunk = [] then readCapped maxBytes buffer chunks
    else if min (buffer.length + chunk.length) USIZE_MAX > maxBytes then .error .bodyTooLarge
    else readCapped maxBytes (buffer ++ chunk) chunks

/-- The text of a field: not a file, readable, and UTF-8. -/
def MultipartField.text (field : MultipartField) : Option Text :=
  if field.fileName.isSome then none else field.bytes.bind decodeUtf8

/-- The first value of a contract field, and how often the field occurred. -/
structure TextSlot where
  value : Option Text
  seen : Nat
deriving DecidableEq

/-- A later occurrence is drained and counted; the first one must be textual. -/
def TextSlot.take (slot : TextSlot) (error : RelayError) (field : MultipartField) :
    Except RelayError TextSlot :=
  match slot.value, field.text with
  | some value, _ => .ok ⟨some value, slot.seen + 1⟩
  | none, some text => .ok ⟨some text, slot.seen + 1⟩
  | none, none => .error error

structure CallFields where
  sdp : TextSlot
  session : TextSlot
deriving DecidableEq

def CallFields.start : CallFields := ⟨⟨none, 0⟩, ⟨none, 0⟩⟩

def CallFields.take (fields : CallFields) (field : MultipartField) : Except RelayError CallFields :=
  if field.name = some "sdp".toList then do
    let sdp ← fields.sdp.take .multipartMissingSdp field
    return { fields with sdp }
  else if field.name = some "session".toList then do
    let session ← fields.session.take .multipartSessionNotString field
    return { fields with session }
  else .ok fields

def readFields (fields : CallFields) :
    List (Except Unit MultipartField) → Except RelayError CallFields
  | [] => .ok fields
  | .error () :: _ => .error .multipartParse
  | .ok field :: rest => do readFields (← fields.take field) rest

structure ParsedPrivateCall where
  sdp : Text
  session : Option Value
  sdpFields : Nat
  sessionFields : Nat

def ParsedPrivateCall.hasDuplicateContractFields (call : ParsedPrivateCall) : Bool :=
  decide (call.sdpFields > 1) || decide (call.sessionFields > 1)

def parseSession (json : SerdeJson) : Option Text → Except RelayError (Option Value)
  | none => .ok none
  | some raw =>
    match json.fromStr raw with
    | some session => .ok (some session)
    | none => .error .multipartSessionNotJson

def parsePrivateMultipart (multer : Multer) (json : SerdeJson) (body : List UInt8)
    (contentType : Text) : Except RelayError ParsedPrivateCall :=
  match multer.parseBoundary contentType with
  | none => .error .multipartParse
  | some boundary => do
    let fields ← readFields .start (multer.fields boundary body)
    match fields.sdp.value with
    | none => .error .multipartMissingSdp
    | some sdp =>
      let session ← parseSession json fields.session.value
      return ⟨sdp, session, fields.sdp.seen, fields.session.seen⟩

def backendJsonFromParsed (json : SerdeJson) (call : ParsedPrivateCall) : List UInt8 × Text :=
  (json.toVec (backendJsonCallBody call.sdp call.session), "application/json".toList)

end Reading

def named (name : Text) (fields : List MultipartField) : List MultipartField :=
  fields.filter fun field => field.name == some name

/-- What a slot holds after the given occurrences of its field: the text of the first. -/
def TextSlot.Holds (slot : TextSlot) (occurrences : List MultipartField) : Prop :=
  slot.seen = occurrences.length ∧ (slot.value = none → occurrences = []) ∧
    ∀ text, slot.value = some text → occurrences.head?.bind MultipartField.text = some text

def CallFields.Holds (fields : CallFields) (seen : List MultipartField) : Prop :=
  fields.sdp.Holds (named "sdp".toList seen) ∧ fields.session.Holds (named "session".toList seen)

section Counted

theorem named_append (name : Text) (seen : List MultipartField) (field : MultipartField) :
    named name (seen ++ [field]) =
      if field.name = some name then named name seen ++ [field] else named name seen := by
  unfold named
  by_cases h : field.name = some name
  · simp [h]
  · simp [h]

theorem TextSlot.take_holds {slot slot' : TextSlot} {error : RelayError} {field : MultipartField}
    {occurrences : List MultipartField} (h : slot.take error field = .ok slot')
    (hslot : slot.Holds occurrences) : slot'.Holds (occurrences ++ [field]) := by
  obtain ⟨hseen, hempty, hfirst⟩ := hslot
  unfold take at h
  cases hvalue : slot.value with
  | some value =>
    simp only [hvalue] at h
    cases h
    refine ⟨by simp [hseen], by simp, ?_⟩
    rintro text ⟨⟩
    cases occurrences with
    | nil => simpa using hfirst value hvalue
    | cons first rest => exact hfirst value hvalue
  | none =>
    obtain rfl := hempty hvalue
    cases htext : field.text with
    | none => simp [hvalue, htext] at h
    | some text =>
      simp only [hvalue, htext] at h
      cases h
      refine ⟨by simpa using hseen, by simp, ?_⟩
      rintro _ ⟨⟩
      simpa using htext

theorem CallFields.take_holds {fields fields' : CallFields} {field : MultipartField}
    {seen : List MultipartField} (h : fields.take field = .ok fields') (hfields : fields.Holds seen) :
    fields'.Holds (seen ++ [field]) := by
  obtain ⟨hsdp, hsession⟩ := hfields
  unfold take at h
  split_ifs at h with hname hother
  · obtain ⟨slot, hslot, h⟩ := Except.bind_eq_ok.mp h
    cases h
    refine ⟨?_, ?_⟩
    · rw [named_append, if_pos hname]
      exact TextSlot.take_holds hslot hsdp
    · rw [named_append, if_neg (by simp [hname])]
      exact hsession
  · obtain ⟨slot, hslot, h⟩ := Except.bind_eq_ok.mp h
    cases h
    refine ⟨?_, ?_⟩
    · rw [named_append, if_neg hname]
      exact hsdp
    · rw [named_append, if_pos hother]
      exact TextSlot.take_holds hslot hsession
  · cases h
    refine ⟨?_, ?_⟩
    · rw [named_append, if_neg hname]
      exact hsdp
    · rw [named_append, if_neg hother]
      exact hsession

theorem readFields_pair {offer session : List UInt8} {sdp raw : Text}
    (hoffer : decodeUtf8 offer = some sdp) (hsession : decodeUtf8 session = some raw) :
    readFields .start [.ok ⟨some "sdp".toList, none, some offer⟩,
        .ok ⟨some "session".toList, none, some session⟩] = .ok ⟨⟨some sdp, 1⟩, ⟨some raw, 1⟩⟩ := by
  simp [readFields, CallFields.take, TextSlot.take, CallFields.start, MultipartField.text, hoffer,
    hsession]

theorem readFields_holds {fields fields' : CallFields} {parts : List (Except Unit MultipartField)}
    {seen : List MultipartField} (h : readFields fields parts = .ok fields')
    (hfields : fields.Holds seen) :
    ∃ all : List MultipartField, parts = all.map .ok ∧ fields'.Holds (seen ++ all) := by
  induction parts generalizing fields seen with
  | nil =>
    cases h
    exact ⟨[], rfl, by simpa using hfields⟩
  | cons part rest ih =>
    cases part with
    | error u => cases h
    | ok field =>
      obtain ⟨next, hnext, hrest⟩ := Except.bind_eq_ok.mp h
      obtain ⟨all, rfl, hall⟩ := ih hrest (CallFields.take_holds hnext hfields)
      exact ⟨field :: all, rfl, by simpa using hall⟩

theorem TextSlot.Holds.value_eq {slot : TextSlot} {occurrences : List MultipartField}
    (h : slot.Holds occurrences) : occurrences.head?.bind MultipartField.text = slot.value := by
  obtain ⟨-, hempty, hfirst⟩ := h
  cases hvalue : slot.value with
  | none =>
    rw [hempty hvalue]
    rfl
  | some text => exact hfirst text hvalue

theorem CallFields.start_holds : CallFields.start.Holds [] := by
  constructor
  · exact ⟨rfl, fun _ => rfl, fun _ hvalue => by cases hvalue⟩
  · exact ⟨rfl, fun _ => rfl, fun _ hvalue => by cases hvalue⟩

theorem parseSession_eq_ok {json : SerdeJson} {raw : Option Text} {session : Option Value}
    (h : parseSession json raw = .ok session) : raw.bind json.fromStr = session := by
  cases raw with
  | none =>
    cases h
    rfl
  | some text =>
    rw [parseSession] at h
    rw [Option.bind_some]
    cases hjson : json.fromStr text with
    | none => simp [hjson] at h
    | some value =>
      rw [hjson] at h
      cases h
      rfl

/-- What a parsed call says about the fields of its body. -/
theorem parsePrivateMultipart_eq_ok {multer : Multer} {json : SerdeJson} {body : List UInt8}
    {contentType : Text} {call : ParsedPrivateCall}
    (h : parsePrivateMultipart multer json body contentType = .ok call) :
    ∃ boundary, ∃ all : List MultipartField, multer.parseBoundary contentType = some boundary ∧
      multer.fields boundary body = all.map .ok ∧
        call.sdpFields = (named "sdp".toList all).length ∧
          call.sessionFields = (named "session".toList all).length ∧
            (named "sdp".toList all).head?.bind MultipartField.text = some call.sdp ∧
              ((named "session".toList all).head?.bind MultipartField.text).bind json.fromStr =
                call.session := by
  unfold parsePrivateMultipart at h
  cases hboundary : multer.parseBoundary contentType with
  | none => simp [hboundary] at h
  | some boundary =>
    simp only [hboundary] at h
    obtain ⟨fields, hfields, h⟩ := Except.bind_eq_ok.mp h
    obtain ⟨all, hall, hsdp, hsession⟩ := readFields_holds hfields CallFields.start_holds
    rw [List.nil_append] at hsdp hsession
    cases hvalue : fields.sdp.value with
    | none => simp [hvalue] at h
    | some sdp =>
      simp only [hvalue] at h
      obtain ⟨session, hparsed, h⟩ := Except.bind_eq_ok.mp h
      cases h
      refine ⟨boundary, all, rfl, hall, hsdp.1, hsession.1, ?_, ?_⟩
      · rw [hsdp.value_eq, hvalue]
      · rw [hsession.value_eq]
        exact parseSession_eq_ok hparsed

theorem single_of_no_duplicates {fields : List MultipartField} {call : ParsedPrivateCall}
    (hcount : call.sdpFields = (named "sdp".toList fields).length)
    (hfirst : (named "sdp".toList fields).head?.bind MultipartField.text = some call.sdp)
    (hduplicates : call.hasDuplicateContractFields = false) :
    call.sdpFields = 1 ∧ call.sessionFields ≤ 1 := by
  unfold ParsedPrivateCall.hasDuplicateContractFields at hduplicates
  simp only [Bool.or_eq_false_iff, decide_eq_false_iff_not] at hduplicates
  have hpos : 0 < (named "sdp".toList fields).length := by
    refine List.length_pos_of_ne_nil fun hnone => ?_
    rw [hnone] at hfirst
    cases hfirst
  omega

end Counted

end GptLiveProxy
