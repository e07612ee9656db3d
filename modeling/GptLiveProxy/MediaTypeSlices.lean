import GptLiveProxy.MediaType
import GptLiveProxy.Outcome

/-!
# The slices of the content type parser

The source walks over the bytes and cuts the text at their indices, and a cut out of range or
inside a character panics. `mediaTypeSliced` keeps the bytes, the indices and the panics. The
splitter's indices always stand between characters it has already read: `start` behind the last
semicolon, `index` in front of the current byte. So no cut panics, and the parts are the parts of
the splitter without indices.
-/

namespace GptLiveProxy
open CharText

section Slices

/-- The texts before and behind a byte index, when it is a character boundary in range. -/
def cutAtByte : Nat → Text → Option (Text × Text)
  | 0, t => some ([], t)
  | _ + 1, [] => none
  | index + 1, c :: t =>
    let width := (String.utf8EncodeChar c).length
    if width ≤ index + 1 then (cutAtByte (index + 1 - width) t).map fun cut => (c :: cut.1, cut.2)
    else none

/-- `&t[start..]`. -/
def sliceFrom (start : Nat) (t : Text) : Outcome Empty Text :=
  match cutAtByte start t with
  | some cut => .ok cut.2
  | none => .panicked

/-- `&t[start..stop]`. -/
def slice (start stop : Nat) (t : Text) : Outcome Empty Text :=
  if stop < start then .panicked
  else do
    let behind ← sliceFrom start t
    match cutAtByte (stop - start) behind with
    | some cut => .ok cut.1
    | none => .panicked

/-- `&bytes[start..stop]`. -/
def sliceBytes (start stop : Nat) (bytes : List UInt8) : Outcome Empty (List UInt8) :=
  if stop < start || bytes.length < stop then .panicked
  else .ok ((bytes.take stop).drop start)

theorem cutAtByte_append (a b : Text) : cutAtByte (byteLen a) (a ++ b) = some (a, b) := by
  induction a with
  | nil => cases b <;> rfl
  | cons c a ih =>
    have hlength : byteLen (c :: a) = (String.utf8EncodeChar c).length + byteLen a :=
      byteLen_append [c] a |>.trans (by simp [byteLen, utf8])
    obtain ⟨index, hindex⟩ : ∃ index, byteLen (c :: a) = index + 1 :=
      Nat.exists_eq_succ_of_ne_zero (by
        have hpos := String.utf8EncodeChar_ne_nil (c := c)
        have := List.length_pos_iff.mpr hpos
        omega)
    have hrest : index + 1 - (String.utf8EncodeChar c).length = byteLen a := by omega
    have hwidth : (String.utf8EncodeChar c).length ≤ index + 1 := by omega
    rw [hindex, List.cons_append, cutAtByte, if_pos hwidth, hrest, ih]
    rfl

theorem sliceFrom_append (a b : Text) : sliceFrom (byteLen a) (a ++ b) = .ok b := by
  rw [sliceFrom, cutAtByte_append]

theorem slice_append (a b c : Text) :
    slice (byteLen a) (byteLen (a ++ b)) (a ++ (b ++ c)) = .ok b := by
  have hle : ¬ byteLen (a ++ b) < byteLen a := by
    rw [byteLen_append]
    omega
  have hwidth : byteLen (a ++ b) - byteLen a = byteLen b := by
    rw [byteLen_append]
    omega
  rw [slice, if_neg hle, sliceFrom_append, Outcome.ok_bind, hwidth, cutAtByte_append]

end Slices

section Source

/-- The loop over the bytes; `start` is the index behind the last semicolon. -/
def splitMimeLoop (raw : Text) :
    List UInt8 → Nat → Nat → Bool → Bool → List Text → Outcome Empty (Option (List Text))
  | [], _, start, quoted, escaped, parts =>
    if quoted || escaped then .ok none
    else do
      let part ← sliceFrom start raw
      return some (parts ++ [part])
  | byte :: bytes, index, start, quoted, escaped, parts =>
    if escaped then splitMimeLoop raw bytes (index + 1) start quoted false parts
    else if quoted && byte == 0x5c then splitMimeLoop raw bytes (index + 1) start quoted true parts
    else if byte == 0x22 then splitMimeLoop raw bytes (index + 1) start (!quoted) escaped parts
    else if byte == 0x3b && !quoted then do
      let part ← slice start index raw
      splitMimeLoop raw bytes (index + 1) (index + 1) quoted escaped (parts ++ [part])
    else splitMimeLoop raw bytes (index + 1) start quoted escaped parts

def splitMimePartsSliced (raw : Text) : Outcome Empty (Option (List Text)) :=
  splitMimeLoop raw (utf8 raw) 0 0 false false []

def isControlByte (byte : UInt8) : Bool := byte < 0x20 || byte == 0x7f

def validQuotedBytes (escaped : Bool) : List UInt8 → Bool
  | [] => !escaped
  | byte :: bytes =>
    if escaped then !isControlByte byte && validQuotedBytes false bytes
    else if byte == 0x5c then validQuotedBytes true bytes
    else !(byte == 0x22 || isControlByte byte) && validQuotedBytes false bytes

def validParameterValueSliced (value : Text) : Outcome Empty Bool :=
  let bytes := utf8 value
  if bytes.head? = some 0x22 then
    if bytes.length ≤ 2 || bytes.getLast? != some 0x22 then .ok false
    else do
      let inside ← sliceBytes 1 (bytes.length - 1) bytes
      return validQuotedBytes false inside
  else .ok (isMimeToken value)

def mediaTypeParametersSliced : List Text → List Text → Outcome Empty (Option Bool)
  | _, [] => .ok (some false)
  | names, parameter :: parameters =>
    match splitOnce '=' (trim parameter) with
    | none => .ok none
    | some (name, value) =>
      let name := trim name
      if !isMimeToken name then .ok none
      else do
        let valid ← validParameterValueSliced (trim value)
        let normalized := toAsciiLowercase name
        if !valid then return none
        else if names.contains normalized then return none
        else
          let found ← mediaTypeParametersSliced (normalized :: names) parameters
          return found.map fun hasBoundary => normalized == "boundary".toList || hasBoundary

def mediaTypeSliced (contentType : Option Text) : Outcome Empty (Option Text) :=
  match contentType with
  | none => .ok none
  | some raw => do
    let parts ← splitMimePartsSliced raw
    match parts with
    | none | some [] => return none
    | some (first :: parameters) =>
      let base := trim first
      match splitOnce '/' base with
      | none => return none
      | some (major, minor) =>
        if !isMimeToken major || !isMimeToken minor then return none
        else
          let found ← mediaTypeParametersSliced [] parameters
          return found.bind fun hasBoundary =>
            if eqIgnoreAsciiCase base "multipart/form-data".toList && !hasBoundary then none
            else some base

end Source

section Splitting
variable {raw front part rest : Text} {start index : Nat}

theorem byte_marks {c : Char} (h : c.toNat < 128) :
    (UInt8.ofNat c.toNat == 0x5c) = (c == '\\') ∧ (UInt8.ofNat c.toNat == 0x22) = (c == '"') ∧
      (UInt8.ofNat c.toNat == 0x3b) = (c == ';') ∧
        isControlByte (UInt8.ofNat c.toNat) = isControlChar c := by
  revert h
  exact forall_ascii (P := fun c => (UInt8.ofNat c.toNat == 0x5c) = (c == '\\') ∧
    (UInt8.ofNat c.toNat == 0x22) = (c == '"') ∧ (UInt8.ofNat c.toNat == 0x3b) = (c == ';') ∧
      isControlByte (UInt8.ofNat c.toNat) = isControlChar c) (by decide +kernel)

/-- Where the loop stands in the text: the part it reads begins at `start`, and `index` is behind
what it has read of it. -/
structure Cursor (raw front part rest : Text) (start index : Nat) : Prop where
  text : raw = front ++ (part ++ rest)
  start_eq : start = byteLen front
  index_eq : index = byteLen (front ++ part)

theorem byteLen_concat {c : Char} (hc : c.toNat < 128) (t : Text) :
    byteLen (t ++ [c]) = byteLen t + 1 := by
  have hwidth : byteLen [c] = 1 := byteLen_ascii (by simpa using hc)
  rw [byteLen_append, hwidth]

theorem Cursor.keep {c : Char} (h : Cursor raw front part (c :: rest) start index)
    (hc : c.toNat < 128) : Cursor raw front (part ++ [c]) rest start (index + 1) := by
  refine ⟨?_, h.start_eq, ?_⟩
  · rw [h.text, List.append_assoc, List.singleton_append]
  · rw [h.index_eq, ← List.append_assoc, byteLen_concat hc]

theorem Cursor.cut {c : Char} (h : Cursor raw front part (c :: rest) start index)
    (hc : c.toNat < 128) :
    Cursor raw (front ++ part ++ [c]) [] rest (index + 1) (index + 1) := by
  have hindex : index + 1 = byteLen (front ++ part ++ [c]) := by rw [h.index_eq, byteLen_concat hc]
  refine ⟨?_, hindex, ?_⟩
  · rw [h.text]
    simp
  · rw [List.append_nil, hindex]

theorem Cursor.slice_eq (h : Cursor raw front part rest start index) :
    slice start index raw = .ok part := by
  rw [h.text, h.start_eq, h.index_eq, slice_append]

theorem Cursor.sliceFrom_eq (h : Cursor raw front part [] start index) :
    sliceFrom start raw = .ok part := by
  rw [h.text, h.start_eq, List.append_nil, sliceFrom_append]

/-- From a cursor on, the loop finds the parts of the splitter without indices. -/
theorem splitMimeLoop_eq {quoted escaped : Bool} {parts : List Text}
    (hascii : ∀ c ∈ rest, c.toNat < 128) (h : Cursor raw front part rest start index) :
    splitMimeLoop raw (utf8 rest) index start quoted escaped parts =
      .ok ((splitMimeFrom quoted escaped rest).map fun found => parts ++ part.foldr consPart found) := by
  induction rest generalizing front part start index quoted escaped parts with
  | nil =>
    change splitMimeLoop raw [] _ _ _ _ _ = _
    rw [splitMimeLoop, splitMimeFrom, h.sliceFrom_eq]
    split_ifs
    · rfl
    · rw [Option.map_some, foldr_consPart, List.append_nil]
      rfl
  | cons c rest ih =>
    obtain ⟨hc, hrest⟩ := List.forall_mem_cons.mp hascii
    have hkept (q e : Bool) : splitMimeLoop raw (utf8 rest) (index + 1) start q e parts =
        .ok (((splitMimeFrom q e rest).map (consPart c)).map
          fun found => parts ++ part.foldr consPart found) := by
      rw [ih hrest (h.keep hc), Option.map_map]
      simp only [List.foldr_append]
      rfl
    obtain ⟨hbackslash, hquote, hsemicolon, -⟩ := byte_marks hc
    rw [utf8_cons_ascii hc, splitMimeLoop, splitMimeFrom, hbackslash, hquote, hsemicolon]
    split_ifs with hescaped
    · exact hkept quoted false
    · exact hkept quoted true
    · rw [eq_false_of_ne_true hescaped]
      exact hkept (!quoted) false
    · -- the cut ends in front of the semicolon, and the next part begins behind it
      rw [h.slice_eq, Outcome.ok_bind, eq_false_of_ne_true hescaped, ih hrest (h.cut hc),
        Option.map_map]
      congr 2
      funext found
      simp [foldr_consPart]
    · rw [eq_false_of_ne_true hescaped]
      exact hkept quoted false

theorem splitMimePartsSliced_eq (hascii : ∀ c ∈ raw, c.toNat < 128) :
    splitMimePartsSliced raw = .ok (splitMimeParts raw) := by
  have hstart : Cursor raw [] [] raw 0 0 := ⟨rfl, rfl, rfl⟩
  rw [splitMimePartsSliced, splitMimeLoop_eq hascii hstart]
  simp [splitMimeParts]

end Splitting

section Values
variable {value : Text}

theorem validQuotedBytes_eq {escaped : Bool} {t : Text} (hascii : ∀ c ∈ t, c.toNat < 128) :
    validQuotedBytes escaped (utf8 t) = validQuoted escaped t := by
  induction t generalizing escaped with
  | nil => rfl
  | cons c t ih =>
    obtain ⟨hc, ht⟩ := List.forall_mem_cons.mp hascii
    obtain ⟨hbackslash, hquote, -, hcontrol⟩ := byte_marks hc
    rw [utf8_cons_ascii hc, validQuotedBytes, validQuoted, hbackslash, hquote, hcontrol, ih ht, ih ht]

theorem map_byte_eq_quote {found : Option Char} (hascii : ∀ c ∈ found, c.toNat < 128) :
    (found.map fun c => UInt8.ofNat c.toNat) = some 0x22 ↔ found = some '"' := by
  cases found with
  | none => simp
  | some c =>
    have hquote := (byte_marks (hascii c rfl)).2.1
    rw [Option.map_some, Option.some_inj, Option.some_inj, ← beq_iff_eq, hquote, beq_iff_eq]

/-- The length check stands before the cut, so the cut is in range. -/
theorem sliceBytes_inside {bytes : List UInt8} (h : 2 < bytes.length) :
    sliceBytes 1 (bytes.length - 1) bytes = .ok (bytes.drop 1).dropLast := by
  have hbounds : ¬ (decide (bytes.length - 1 < 1) || decide (bytes.length < bytes.length - 1)) = true := by
    simp only [Bool.or_eq_true, decide_eq_true_eq]
    omega
  rw [sliceBytes, if_neg hbounds, List.drop_take, List.dropLast_eq_take, List.length_drop]

theorem validParameterValueSliced_eq (hascii : ∀ c ∈ value, c.toNat < 128) :
    validParameterValueSliced value = .ok (validParameterValue value) := by
  have hbytes : utf8 value = value.map fun c => UInt8.ofNat c.toNat := utf8_ascii hascii
  have hhead : (utf8 value).head? = some 0x22 ↔ value.head? = some '"' := by
    rw [hbytes, List.head?_map]
    exact map_byte_eq_quote fun c hc => hascii c (List.mem_of_mem_head? hc)
  have hlast : (utf8 value).getLast? = some 0x22 ↔ value.getLast? = some '"' := by
    rw [hbytes, List.getLast?_map]
    exact map_byte_eq_quote fun c hc => hascii c (List.mem_of_mem_getLast? hc)
  have hinside : ((utf8 value).drop 1).dropLast = utf8 (value.drop 1).dropLast := by
    rw [hbytes, ← List.map_drop, ← List.map_dropLast, utf8_ascii]
    exact fun c hc => hascii c (List.mem_of_mem_drop (List.dropLast_subset _ hc))
  have hends : ((utf8 value).length ≤ 2 || (utf8 value).getLast? != some 0x22) =
      (byteLen value ≤ 2 || value.getLast? != some '"') := by
    rw [Bool.eq_iff_iff, Bool.or_eq_true, Bool.or_eq_true, bne_iff_ne, bne_iff_ne]
    exact or_congr_right (not_congr hlast)
  simp only [validParameterValueSliced, validParameterValue, hhead, hends]
  by_cases hquote : value.head? = some '"'
  · rw [if_pos hquote, if_pos hquote]
    by_cases hshort : (byteLen value ≤ 2 || value.getLast? != some '"') = true
    · rw [if_pos hshort, if_pos hshort]
    · have hlong : 2 < (utf8 value).length := by
        simp only [Bool.or_eq_true, decide_eq_true_eq, not_or] at hshort
        exact Nat.lt_of_not_le hshort.1
      have hbody : ∀ c ∈ (value.drop 1).dropLast, c.toNat < 128 := fun c hc =>
        hascii c (List.mem_of_mem_drop (List.dropLast_subset _ hc))
      rw [if_neg hshort, if_neg hshort, sliceBytes_inside hlong, Outcome.ok_bind, hinside,
        validQuotedBytes_eq hbody]
      rfl
  · rw [if_neg hquote, if_neg hquote]

end Values

section Parser
variable {raw : Text}

theorem mem_of_mem_trim {t : Text} {c : Char} (h : c ∈ trim t) : c ∈ t := by
  obtain ⟨a, b, ht, -, -⟩ := exists_pad_of_trimMatches isWhitespace t
  rw [ht]
  exact List.mem_append_left _ (List.mem_append_right _ h)

theorem mediaTypeParametersSliced_eq {names pieces : List Text}
    (hascii : ∀ piece ∈ pieces, ∀ c ∈ piece, c.toNat < 128) :
    mediaTypeParametersSliced names pieces = .ok (mediaTypeParameters names pieces) := by
  induction pieces generalizing names with
  | nil => rfl
  | cons piece pieces ih =>
    obtain ⟨hpiece, hpieces⟩ := List.forall_mem_cons.mp hascii
    rw [mediaTypeParametersSliced, mediaTypeParameters]
    cases hsplit : splitOnce '=' (trim piece) with
    | none => rfl
    | some pair =>
      obtain ⟨name, value⟩ := pair
      have hvalue : ∀ c ∈ trim value, c.toNat < 128 := fun c hc => by
        refine hpiece c (mem_of_mem_trim ?_)
        rw [(splitOnce_eq_some.mp hsplit).1]
        exact List.mem_append_right _ (List.mem_cons_of_mem _ (mem_of_mem_trim hc))
      dsimp only [Option.bind_eq_bind, Option.bind_some]
      rw [validParameterValueSliced_eq hvalue, ih hpieces]
      cases isMimeToken (trim name) with
      | false => rfl
      | true =>
        cases validParameterValue (trim value) with
        | false => rfl
        | true =>
          cases names.contains (toAsciiLowercase (trim name)) with
          | true => rfl
          | false => cases mediaTypeParameters _ pieces <;> rfl

theorem mediaTypeSliced_eq (hascii : ∀ c ∈ raw, c.toNat < 128) :
    mediaTypeSliced (some raw) = .ok (mediaType (some raw)) := by
  rw [mediaTypeSliced, splitMimePartsSliced_eq hascii, Outcome.ok_bind]
  rw [mediaType]
  dsimp only [Option.bind_eq_bind, Option.bind_some]
  cases hsplit : splitMimeParts raw with
  | none => rfl
  | some parts =>
    obtain ⟨first, pieces, rfl, hjoin⟩ := join_of_splitMimeFrom hsplit
    have hpieces := (forall_mem_pieces (hjoin ▸ hascii)).2
    dsimp only [List.head?_cons, List.tail_cons, Option.bind_some]
    cases splitOnce '/' (trim first) with
    | none => rfl
    | some pair =>
      obtain ⟨major, minor⟩ := pair
      dsimp only [Option.bind_some]
      rw [mediaTypeParametersSliced_eq hpieces]
      cases isMimeToken major with
      | false => rfl
      | true => cases isMimeToken minor <;> rfl

end Parser

/-- On visible text the parser accepts the grammar and nothing else and answers the base as
written. The splitter finds exactly the parameters, whatever semicolons and escaped quotes stand in
their quoted values, and no cut panics. -/
theorem media_type_grammar {raw : Text} (hvisible : ∀ c ∈ raw, isVisibleChar c = true) :
    (∀ base, mediaType (some raw) = some base ↔ MediaTypeText raw base) ∧
      (∀ first names pieces, (∀ c ∈ first, c ≠ '"' ∧ c ≠ ';') →
        List.Forall₂ ParameterText names pieces → raw = first ++ joinPieces pieces →
          splitMimeParts raw = some (first :: pieces)) ∧
        mediaTypeSliced (some raw) = .ok (mediaType (some raw)) := by
  have hascii : ∀ c ∈ raw, c.toNat < 128 := fun c hc => isVisibleChar_ascii (hvisible c hc)
  refine ⟨fun base => mediaType_iff hvisible, ?_, mediaTypeSliced_eq hascii⟩
  rintro first names pieces hfirst hpieces rfl
  exact splitMimeParts_join (closed_of_unmarked hfirst) (closed_pieces hpieces)

/-- A boundary with a semicolon and an escaped quote inside its quotes. -/
def quotedBoundary : Text := " boundary = \"a;b\\\"c\" ".toList

theorem quoted_boundary_is_one_parameter :
    ∃ raw, raw = "multipart/form-data".toList ++ joinPieces [quotedBoundary] ∧
      MediaTypeText raw "multipart/form-data".toList ∧
        splitMimeParts raw = some ["multipart/form-data".toList, quotedBoundary] ∧
          mediaTypeSliced (some raw) = .ok (some "multipart/form-data".toList) := by
  have hvisible : ∀ c ∈ "multipart/form-data".toList ++ joinPieces [quotedBoundary],
      isVisibleChar c = true := List.all_eq_true.mp (by decide +kernel)
  obtain ⟨hgrammar, hsplit, hsliced⟩ := media_type_grammar hvisible
  have hbase : mediaType (some ("multipart/form-data".toList ++ joinPieces [quotedBoundary])) =
      some "multipart/form-data".toList := by decide +kernel
  have hparameter : ParameterText "boundary".toList quotedBoundary :=
    (parameter_iff ((forall_mem_pieces hvisible).2 _ List.mem_cons_self)).mp
      ⟨"boundary ".toList, " \"a;b\\\"c\"".toList, by decide +kernel⟩
  have hfirst : ∀ c ∈ "multipart/form-data".toList, c ≠ '"' ∧ c ≠ ';' := fun c hc => by
    have hplain : "multipart/form-data".toList.all (fun c => c != '"' && c != ';') = true := rfl
    simpa using List.all_eq_true.mp hplain c hc
  rw [hbase] at hsliced
  exact ⟨_, rfl, (hgrammar _).mp hbase, hsplit _ _ _ hfirst (.cons hparameter .nil) rfl, hsliced⟩

end GptLiveProxy
