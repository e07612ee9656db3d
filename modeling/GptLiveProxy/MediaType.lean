import GptLiveProxy.AsciiText
import GptLiveProxy.ProtocolTokens
import GptLiveProxy.TextPieces

/-!
# The grammar of a content type

`MediaTypeText` is the accepted language, written down without a scanner: a type and a subtype,
then parameters behind semicolons, each a name and a token or a quoted string. The splitter keeps
its own account of quotes and escapes; on every text of the grammar it agrees with the quoted
strings, so it finds the parameters and nothing else, and the checks behind it accept exactly them.
-/

namespace GptLiveProxy
open CharText

section Grammar

def IsOws (t : Text) : Prop := ∀ c ∈ t, isOws c = true

/-- The inside of a quoted string. -/
inductive QuotedBody : Text → Prop
  | nil : QuotedBody []
  | plain {c : Char} {t : Text} (hquote : c ≠ '"') (hescape : c ≠ '\\')
      (hcontrol : isControlChar c = false) (h : QuotedBody t) : QuotedBody (c :: t)
  | escape {c : Char} {t : Text} (hcontrol : isControlChar c = false) (h : QuotedBody t) :
      QuotedBody ('\\' :: c :: t)

inductive ParameterValue : Text → Prop
  | token {value : Text} (h : isMimeToken value = true) : ParameterValue value
  | quoted {body : Text} (hne : body ≠ []) (h : QuotedBody body) :
      ParameterValue ('"' :: (body ++ ['"']))

/-- The piece behind a semicolon is a parameter of the name. -/
inductive ParameterText : Text → Text → Prop
  | mk {a b c d name value : Text} (ha : IsOws a) (hb : IsOws b) (hc : IsOws c) (hd : IsOws d)
      (hname : isMimeToken name = true) (hvalue : ParameterValue value) :
      ParameterText name (a ++ (name ++ (b ++ '=' :: (c ++ (value ++ d)))))

/-- The pieces behind semicolons, each with its semicolon. -/
def joinPieces (pieces : List Text) : Text := pieces.flatMap (';' :: ·)

/-- The text is a media type with the base, as written. -/
inductive MediaTypeText : Text → Text → Prop
  | mk {a b major minor : Text} {names pieces : List Text} (ha : IsOws a) (hb : IsOws b)
      (hmajor : isMimeToken major = true) (hminor : isMimeToken minor = true)
      (hpieces : List.Forall₂ ParameterText names pieces)
      (hdistinct : (names.map toAsciiLowercase).Nodup)
      (hboundary : eqIgnoreAsciiCase (major ++ '/' :: minor) "multipart/form-data".toList = true →
        "boundary".toList ∈ names.map toAsciiLowercase) :
      MediaTypeText (a ++ (major ++ '/' :: minor) ++ b ++ joinPieces pieces) (major ++ '/' :: minor)

end Grammar

section Characters

theorem isTokenChar_marks {c : Char} (h : isTokenChar c = true) :
    c ≠ '"' ∧ c ≠ ';' ∧ c ≠ '=' ∧ c ≠ '/' ∧ isWhitespace c = false := by
  have hlt := isTokenChar_ascii h
  revert h
  exact forall_ascii (P := fun c => isTokenChar c = true →
    c ≠ '"' ∧ c ≠ ';' ∧ c ≠ '=' ∧ c ≠ '/' ∧ isWhitespace c = false) (by decide +kernel) hlt

theorem isOws_marks {c : Char} (h : isOws c = true) :
    c ≠ '"' ∧ c ≠ ';' ∧ c ≠ '=' ∧ c ≠ '/' ∧ isWhitespace c = true := by
  simp only [isOws, Bool.or_eq_true, beq_iff_eq] at h
  rcases h with rfl | rfl <;> decide

theorem isOws_of_visible {c : Char} (hvisible : isVisibleChar c = true)
    (h : isWhitespace c = true) : isOws c = true := by
  have hlt := isVisibleChar_ascii hvisible
  revert hvisible h
  exact forall_ascii (P := fun c => isVisibleChar c = true → isWhitespace c = true →
    isOws c = true) (by decide +kernel) hlt

theorem isMimeToken_iff {t : Text} : isMimeToken t = true ↔ IsProtocolToken t := by
  simp [isMimeToken, IsProtocolToken]

end Characters

section Quoting

/-- The state of quotes and escapes behind a text without an unquoted semicolon. -/
def scanQuotes (quoted escaped : Bool) : Text → Option (Bool × Bool)
  | [] => some (quoted, escaped)
  | c :: t =>
    if escaped then scanQuotes quoted false t
    else if quoted && c == '\\' then scanQuotes quoted true t
    else if c == '"' then scanQuotes (!quoted) false t
    else if c == ';' && !quoted then none
    else scanQuotes quoted false t

/-- The scan passes the text and ends outside quotes. -/
def Closed (piece : Text) : Prop := scanQuotes false false piece = some (false, false)

theorem scanQuotes_append {q e q' e' : Bool} {piece : Text}
    (h : scanQuotes q e piece = some (q', e')) (rest : Text) :
    scanQuotes q e (piece ++ rest) = scanQuotes q' e' rest := by
  induction piece generalizing q e with
  | nil =>
    cases h
    rfl
  | cons c piece ih =>
    rw [scanQuotes] at h
    rw [List.cons_append, scanQuotes]
    split_ifs at h ⊢
    · exact ih h
    · exact ih h
    · exact ih h
    · exact ih h

theorem Closed.append {a b : Text} (ha : Closed a) (hb : Closed b) : Closed (a ++ b) :=
  (scanQuotes_append ha b).trans hb

theorem closed_of_unmarked {t : Text} (h : ∀ c ∈ t, c ≠ '"' ∧ c ≠ ';') : Closed t := by
  induction t with
  | nil => rfl
  | cons c t ih =>
    obtain ⟨⟨hquote, hsemicolon⟩, ht⟩ := List.forall_mem_cons.mp h
    have htail : scanQuotes false false t = some (false, false) := ih ht
    simp [Closed, scanQuotes, hquote, hsemicolon, htail]

theorem scanQuotes_body {body : Text} (h : QuotedBody body) :
    scanQuotes true false body = some (true, false) := by
  induction h with
  | nil => rfl
  | plain hquote hescape _ _ ih => simp [scanQuotes, hquote, hescape, ih]
  | escape _ _ ih => simp [scanQuotes, ih]

theorem closed_token {t : Text} (h : isMimeToken t = true) : Closed t := by
  refine closed_of_unmarked fun c hc => ?_
  have hmarks := isTokenChar_marks ((isMimeToken_iff.mp h).2 c hc)
  exact ⟨hmarks.1, hmarks.2.1⟩

theorem closed_ows {t : Text} (h : IsOws t) : Closed t :=
  closed_of_unmarked fun c hc => ⟨(isOws_marks (h c hc)).1, (isOws_marks (h c hc)).2.1⟩

/-- Neither a semicolon nor an escaped quote inside a quoted string ends it for the splitter. -/
theorem closed_value {value : Text} (h : ParameterValue value) : Closed value := by
  cases h with
  | token h => exact closed_token h
  | quoted _ h =>
    change scanQuotes true false _ = _
    rw [scanQuotes_append (scanQuotes_body h)]
    rfl

theorem closed_parameter {name piece : Text} (h : ParameterText name piece) : Closed piece := by
  obtain ⟨ha, hb, hc, hd, hname, hvalue⟩ := h
  have hequals : Closed ['='] := rfl
  have hbehind := (closed_ows hc).append ((closed_value hvalue).append (closed_ows hd))
  exact (closed_ows ha).append ((closed_token hname).append ((closed_ows hb).append
    (hequals.append hbehind)))

end Quoting

section Splitting

theorem foldr_consPart (piece first : Text) (parts : List Text) :
    piece.foldr consPart (first :: parts) = (piece ++ first) :: parts := by
  induction piece with
  | nil => rfl
  | cons c piece ih =>
    rw [List.foldr_cons, ih]
    rfl

theorem splitMimeFrom_append {q e q' e' : Bool} {piece : Text}
    (h : scanQuotes q e piece = some (q', e')) (rest : Text) :
    splitMimeFrom q e (piece ++ rest) =
      (splitMimeFrom q' e' rest).map fun parts => piece.foldr consPart parts := by
  induction piece generalizing q e with
  | nil =>
    cases h
    change _ = (splitMimeFrom q' e' rest).map id
    rw [Option.map_id]
    rfl
  | cons c piece ih =>
    have hcons : (fun parts => (c :: piece).foldr consPart parts) =
        consPart c ∘ fun parts => piece.foldr consPart parts := rfl
    rw [scanQuotes] at h
    rw [List.cons_append, splitMimeFrom, hcons, ← Option.map_map]
    split_ifs at h ⊢
    · rw [ih h]
    · rw [ih h]
    · rw [ih h]
    · rw [ih h]

/-- Closed pieces between semicolons are the parts. -/
theorem splitMimeParts_join {first : Text} {pieces : List Text} (hfirst : Closed first)
    (hpieces : ∀ piece ∈ pieces, Closed piece) :
    splitMimeParts (first ++ joinPieces pieces) = some (first :: pieces) := by
  induction pieces generalizing first with
  | nil =>
    rw [splitMimeParts, splitMimeFrom_append hfirst]
    change some (first.foldr consPart [[]]) = _
    rw [foldr_consPart, List.append_nil]
  | cons piece pieces ih =>
    obtain ⟨hpiece, hrest⟩ := List.forall_mem_cons.mp hpieces
    have htail : splitMimeFrom false false (piece ++ joinPieces pieces) = _ := ih hpiece hrest
    have hjoin : joinPieces (piece :: pieces) = ';' :: (piece ++ joinPieces pieces) := rfl
    have hsemicolon : splitMimeFrom false false (';' :: (piece ++ joinPieces pieces)) =
        (splitMimeFrom false false (piece ++ joinPieces pieces)).map ([] :: ·) := rfl
    rw [splitMimeParts, splitMimeFrom_append hfirst, hjoin, hsemicolon, htail, Option.map_some,
      Option.map_some, foldr_consPart, List.append_nil]

/-- The parts are the text, cut at semicolons. -/
theorem join_of_splitMimeFrom {q e : Bool} {raw : Text} {parts : List Text}
    (h : splitMimeFrom q e raw = some parts) :
    ∃ first rest, parts = first :: rest ∧ raw = first ++ joinPieces rest := by
  induction raw generalizing q e parts with
  | nil =>
    rw [splitMimeFrom] at h
    split_ifs at h
    cases h
    exact ⟨[], [], rfl, rfl⟩
  | cons c raw ih =>
    have hkept {parts : List Text} {found : Option (List Text)}
        (hfound : ∀ inner, found = some inner → ∃ first rest, inner = first :: rest ∧
          raw = first ++ joinPieces rest) (h : found.map (consPart c) = some parts) :
        ∃ first rest, parts = first :: rest ∧ c :: raw = first ++ joinPieces rest := by
      obtain ⟨inner, hinner, rfl⟩ := Option.map_eq_some_iff.mp h
      obtain ⟨first, rest, rfl, rfl⟩ := hfound inner hinner
      exact ⟨c :: first, rest, rfl, rfl⟩
    rw [splitMimeFrom] at h
    split_ifs at h with hescaped hbackslash hquote hsemicolon
    · exact hkept (fun _ => ih) h
    · exact hkept (fun _ => ih) h
    · exact hkept (fun _ => ih) h
    · obtain ⟨inner, hinner, rfl⟩ := Option.map_eq_some_iff.mp h
      obtain ⟨first, rest, rfl, rfl⟩ := ih hinner
      simp only [Bool.and_eq_true, beq_iff_eq] at hsemicolon
      exact ⟨[], first :: rest, rfl, by rw [hsemicolon.1]; rfl⟩
    · exact hkept (fun _ => ih) h

end Splitting

section Values

theorem validQuoted_sound {escaped : Bool} {t : Text} (h : validQuoted escaped t = true) :
    QuotedBody (if escaped then '\\' :: t else t) := by
  induction t generalizing escaped with
  | nil =>
    cases escaped with
    | false => exact .nil
    | true => cases h
  | cons c t ih =>
    rw [validQuoted] at h
    cases escaped with
    | true =>
      simp only [if_true, Bool.and_eq_true, Bool.not_eq_true'] at h
      exact .escape h.1 (ih h.2)
    | false =>
      simp only [Bool.false_eq_true, if_false] at h ⊢
      split_ifs at h with hbackslash
      · rw [beq_iff_eq.mp hbackslash]
        exact ih h
      · simp only [Bool.and_eq_true, Bool.not_eq_true', Bool.or_eq_false_iff, beq_eq_false_iff_ne] at h
        exact .plain h.1.1 (fun heq => hbackslash (beq_iff_eq.mpr heq)) h.1.2 (ih h.2)

theorem validQuoted_iff {t : Text} : validQuoted false t = true ↔ QuotedBody t := by
  constructor
  · exact validQuoted_sound
  · intro h
    induction h with
    | nil => rfl
    | plain hquote hescape hcontrol _ ih => simp [validQuoted, hquote, hescape, hcontrol, ih]
    | escape hcontrol _ ih => simp [validQuoted, hcontrol, ih]

/-- A value that begins with a quote is a quoted string. -/
theorem ParameterValue.of_quote {t : Text} (h : ParameterValue ('"' :: t)) :
    ∃ body, t = body ++ ['"'] ∧ body ≠ [] ∧ QuotedBody body := by
  generalize hvalue : '"' :: t = value at h
  cases h with
  | token htoken =>
    have hquote := (isMimeToken_iff.mp htoken).2 '"' (hvalue ▸ List.mem_cons_self)
    exact absurd hquote (by decide)
  | quoted hne hbody => exact ⟨_, (List.cons.inj hvalue).2, hne, hbody⟩

theorem byteLen_quoted {body : Text} :
    byteLen ('"' :: (body ++ ['"'])) ≤ 2 ↔ body = [] := by
  have hlength : byteLen ('"' :: (body ++ ['"'])) = 1 + (byteLen body + 1) := by
    rw [← List.singleton_append, byteLen_append, byteLen_append]
    rfl
  rw [hlength]
  constructor
  · intro h
    have hempty : utf8 body = [] := List.eq_nil_of_length_eq_zero (by rw [byteLen] at h; omega)
    exact @utf8_injective body [] hempty
  · rintro rfl
    decide

theorem validParameterValue_quote {t : Text} :
    validParameterValue ('"' :: t) = true ↔ ParameterValue ('"' :: t) := by
  rw [validParameterValue, if_pos (List.head?_cons)]
  rcases List.eq_nil_or_concat t with rfl | ⟨body, last, rfl⟩
  · refine iff_of_false (by decide) fun h => ?_
    obtain ⟨body, heq, -⟩ := h.of_quote
    exact absurd heq.symm (by simp)
  rw [List.concat_eq_append]
  by_cases hlast : last = '"'
  · subst hlast
    have hinside : (('"' :: (body ++ ['"'])).drop 1).dropLast = body := List.dropLast_concat
    have hend : ('"' :: body ++ ['"']).getLast? = some '"' := List.getLast?_concat
    rw [List.cons_append] at hend
    rw [hinside, hend]
    constructor
    · intro h
      split_ifs at h with hshort
      simp only [Bool.or_eq_true, decide_eq_true_eq, byteLen_quoted, not_or] at hshort
      exact .quoted hshort.1 (validQuoted_iff.mp h)
    · intro h
      obtain ⟨body', heq, hne, hbody⟩ := h.of_quote
      obtain rfl := List.append_cancel_right heq
      have hlong : ¬ byteLen ('"' :: (body ++ ['"'])) ≤ 2 := mt byteLen_quoted.mp hne
      simp [hlong, validQuoted_iff.mpr hbody]
  · refine iff_of_false ?_ fun h => ?_
    · have hend : ('"' :: body ++ [last]).getLast? = some last := List.getLast?_concat
      rw [List.cons_append] at hend
      rw [hend]
      simp [hlast]
    · obtain ⟨body', heq, -⟩ := h.of_quote
      exact hlast (List.singleton_inj.mp (List.append_inj' heq rfl).2)

theorem validParameterValue_iff {value : Text} :
    validParameterValue value = true ↔ ParameterValue value := by
  by_cases hhead : value.head? = some '"'
  · obtain ⟨t, rfl⟩ := List.head?_eq_some_iff.mp hhead
    exact validParameterValue_quote
  · rw [validParameterValue, if_neg hhead]
    constructor
    · exact .token
    · intro h
      cases h with
      | token h => exact h
      | quoted _ _ => exact absurd rfl hhead

end Values

section Trimming

/-- The text begins and ends with something that is not trimmed. -/
structure EndsBare (t : Text) : Prop where
  nonempty : t ≠ []
  head : ∀ c ∈ t.head?, isWhitespace c = false
  last : ∀ c ∈ t.getLast?, isWhitespace c = false

theorem trim_padded {a t b : Text} (ha : IsOws a) (hb : IsOws b) (h : EndsBare t) :
    trim (a ++ t ++ b) = t :=
  trimMatches_pad isWhitespace (fun c hc => (isOws_marks (ha c hc)).2.2.2.2)
    (fun c hc => (isOws_marks (hb c hc)).2.2.2.2) h.head h.last

theorem EndsBare.between {t u : Text} (ht : EndsBare t) (hu : EndsBare u) (middle : Text) :
    EndsBare (t ++ (middle ++ u)) := by
  refine ⟨by simp [ht.nonempty], ?_, ?_⟩
  · intro c hc
    rw [List.head?_append_of_ne_nil _ ht.nonempty] at hc
    exact ht.head c hc
  · intro c hc
    rw [← List.append_assoc, List.getLast?_append_of_ne_nil _ hu.nonempty] at hc
    exact hu.last c hc

theorem endsBare_token {t : Text} (h : isMimeToken t = true) : EndsBare t := by
  obtain ⟨hne, hchars⟩ := isMimeToken_iff.mp h
  refine ⟨hne, fun c hc => ?_, fun c hc => ?_⟩
  · exact (isTokenChar_marks (hchars c (List.mem_of_mem_head? hc))).2.2.2.2
  · exact (isTokenChar_marks (hchars c (List.mem_of_mem_getLast? hc))).2.2.2.2

theorem endsBare_value {value : Text} (h : ParameterValue value) : EndsBare value := by
  cases h with
  | token h => exact endsBare_token h
  | @quoted body _ _ =>
    have hbare : isWhitespace '"' = false := rfl
    have hquote : EndsBare ['"'] := ⟨List.cons_ne_nil _ _, fun _ hc => Option.some.inj hc ▸ hbare,
      fun _ hc => Option.some.inj hc ▸ hbare⟩
    exact hquote.between hquote body

/-- In visible text, trimming takes spaces and tabs. -/
theorem exists_ows_of_trim {t : Text} (hvisible : ∀ c ∈ t, isVisibleChar c = true) :
    ∃ a b, t = a ++ (trim t ++ b) ∧ IsOws a ∧ IsOws b := by
  obtain ⟨a, b, ht, ha, hb⟩ := exists_pad_of_trimMatches isWhitespace t
  change t = a ++ trim t ++ b at ht
  refine ⟨a, b, by rw [← List.append_assoc, ← ht], fun c hc => ?_, fun c hc => ?_⟩
  · refine isOws_of_visible (hvisible c ?_) (ha c hc)
    rw [ht]
    simp [hc]
  · refine isOws_of_visible (hvisible c ?_) (hb c hc)
    rw [ht]
    simp [hc]

end Trimming

section Parameters

/-- One turn of the parameter loop accepts the parameters and reads their names. -/
theorem parameter_iff {name piece : Text} (hvisible : ∀ c ∈ piece, isVisibleChar c = true) :
    (∃ n v, splitOnce '=' (trim piece) = some (n, v) ∧ trim n = name ∧ isMimeToken name = true ∧
      validParameterValue (trim v) = true) ↔ ParameterText name piece := by
  constructor
  · rintro ⟨n, v, hsplit, rfl, hname, hvalue⟩
    obtain ⟨a, d, hpiece, ha, hd⟩ := exists_ows_of_trim hvisible
    obtain ⟨hinner, -⟩ := splitOnce_eq_some.mp hsplit
    rw [hinner] at hpiece
    have hn : ∀ c ∈ n, isVisibleChar c = true := fun c hc => hvisible c (by rw [hpiece]; simp [hc])
    have hv : ∀ c ∈ v, isVisibleChar c = true := fun c hc => hvisible c (by rw [hpiece]; simp [hc])
    obtain ⟨a', b, hn, ha', hb⟩ := exists_ows_of_trim hn
    obtain ⟨c, d', hv, hc, hd'⟩ := exists_ows_of_trim hv
    have hshape : piece = (a ++ a') ++ (trim n ++ (b ++ '=' :: (c ++ (trim v ++ (d' ++ d))))) := by
      calc piece = a ++ (n ++ '=' :: v ++ d) := hpiece
        _ = a ++ ((a' ++ (trim n ++ b)) ++ '=' :: (c ++ (trim v ++ d')) ++ d) := by rw [← hn, ← hv]
        _ = _ := by simp
    rw [hshape]
    exact .mk (List.forall_mem_append.mpr ⟨ha, ha'⟩) hb hc (List.forall_mem_append.mpr ⟨hd', hd⟩)
      hname (validParameterValue_iff.mp hvalue)
  · rintro @⟨a, b, c, d, _, value, ha, hb, hc, hd, hname, hvalue⟩
    have hpiece : a ++ (name ++ (b ++ '=' :: (c ++ (value ++ d)))) =
        a ++ (name ++ ((b ++ '=' :: c) ++ value)) ++ d := by simp
    have htrim := trim_padded ha hd
      ((endsBare_token hname).between (endsBare_value hvalue) (b ++ '=' :: c))
    have hinner : name ++ ((b ++ '=' :: c) ++ value) = (name ++ b) ++ '=' :: (c ++ value) := by simp
    have hequals : '=' ∉ name ++ b := by
      intro hmem
      rcases List.mem_append.mp hmem with hmem | hmem
      · exact (isTokenChar_marks ((isMimeToken_iff.mp hname).2 _ hmem)).2.2.1 rfl
      · exact (isOws_marks (hb _ hmem)).2.2.1 rfl
    have hempty : IsOws [] := List.forall_mem_nil _
    refine ⟨name ++ b, c ++ value, ?_, ?_, hname, ?_⟩
    · rw [hpiece, htrim, hinner]
      exact splitOnce_eq_some.mpr ⟨rfl, hequals⟩
    · exact trim_padded hempty hb (endsBare_token hname)
    · have hvalue' := trim_padded hc hempty (endsBare_value hvalue)
      rw [List.append_nil] at hvalue'
      rw [hvalue']
      exact validParameterValue_iff.mpr hvalue

theorem mediaTypeParameters_cons {names pieces : List Text} {piece : Text} {hasBoundary : Bool}
    (hvisible : ∀ c ∈ piece, isVisibleChar c = true) :
    mediaTypeParameters names (piece :: pieces) = some hasBoundary ↔
      ∃ name rest, ParameterText name piece ∧ toAsciiLowercase name ∉ names ∧
        mediaTypeParameters (toAsciiLowercase name :: names) pieces = some rest ∧
        hasBoundary = (toAsciiLowercase name == "boundary".toList || rest) := by
  rw [mediaTypeParameters, Option.bind_eq_bind, Option.bind_eq_some_iff]
  constructor
  · rintro ⟨⟨n, v⟩, hsplit, h⟩
    dsimp only at h
    split_ifs at h with hinvalid hrepeated
    obtain ⟨rest, hrest, heq⟩ := Option.bind_eq_some_iff.mp h
    cases heq
    simp only [Bool.or_eq_true, Bool.not_eq_true', not_or, Bool.not_eq_false] at hinvalid
    rw [List.contains_iff_mem] at hrepeated
    have hpiece := (parameter_iff hvisible).mp ⟨n, v, hsplit, rfl, hinvalid.1, hinvalid.2⟩
    exact ⟨trim n, rest, hpiece, hrepeated, hrest, rfl⟩
  · rintro ⟨name, rest, hpiece, hnew, hrest, rfl⟩
    obtain ⟨n, v, hsplit, rfl, hname, hvalue⟩ := (parameter_iff hvisible).mpr hpiece
    refine ⟨(n, v), hsplit, ?_⟩
    generalize "boundary".toList = word
    simp [hname, hvalue, hnew, hrest]

theorem decide_mem_cons (word name : Text) (names : List Text) :
    decide (word ∈ name :: names) = (name == word || decide (word ∈ names)) := by
  by_cases h : word = name
  · simp [h]
  · simp [h, Ne.symm h]

theorem mediaTypeParameters_iff {names pieces : List Text} {hasBoundary : Bool}
    (hvisible : ∀ piece ∈ pieces, ∀ c ∈ piece, isVisibleChar c = true) :
    mediaTypeParameters names pieces = some hasBoundary ↔
      ∃ found, List.Forall₂ ParameterText found pieces ∧ (found.map toAsciiLowercase).Nodup ∧
        (∀ name ∈ found, toAsciiLowercase name ∉ names) ∧
        hasBoundary = decide ("boundary".toList ∈ found.map toAsciiLowercase) := by
  induction pieces generalizing names hasBoundary with
  | nil =>
    constructor
    · intro h
      cases h
      exact ⟨[], .nil, List.nodup_nil, List.forall_mem_nil _, rfl⟩
    · rintro ⟨found, hfound, -, -, rfl⟩
      cases hfound
      rfl
  | cons piece pieces ih =>
    obtain ⟨hpiece, hpieces⟩ := List.forall_mem_cons.mp hvisible
    rw [mediaTypeParameters_cons hpiece]
    constructor
    · rintro ⟨name, rest, hparameter, hnew, hrest, rfl⟩
      obtain ⟨found, hfound, hnodup, hfresh, rfl⟩ := (ih hpieces).mp hrest
      refine ⟨name :: found, .cons hparameter hfound, ?_, ?_, ?_⟩
      · rw [List.map_cons, List.nodup_cons]
        refine ⟨fun hmem => ?_, hnodup⟩
        obtain ⟨other, hother, heq⟩ := List.mem_map.mp hmem
        exact hfresh other hother (heq ▸ List.mem_cons_self)
      · rw [List.forall_mem_cons]
        exact ⟨hnew, fun other hother hmem => hfresh other hother (List.mem_cons_of_mem _ hmem)⟩
      · rw [List.map_cons, decide_mem_cons]
    · rintro ⟨found, hfound, hnodup, hfresh, rfl⟩
      cases hfound with
      | @cons name _ found _ hparameter hfound =>
        rw [List.map_cons, List.nodup_cons] at hnodup
        obtain ⟨hnew, hfresh⟩ := List.forall_mem_cons.mp hfresh
        refine ⟨name, _, hparameter, hnew, (ih hpieces).mpr ⟨found, hfound, hnodup.2, ?_, rfl⟩, ?_⟩
        · intro other hother hmem
          rcases List.mem_cons.mp hmem with heq | hmem
          · exact hnodup.1 (heq ▸ List.mem_map_of_mem hother)
          · exact hfresh other hother hmem
        · rw [List.map_cons, decide_mem_cons]

end Parameters

section Acceptance
variable {raw base : Text}

theorem closed_base {a b major minor : Text} (ha : IsOws a) (hb : IsOws b)
    (hmajor : isMimeToken major = true) (hminor : isMimeToken minor = true) :
    Closed (a ++ (major ++ '/' :: minor) ++ b) := by
  have hslash : Closed ['/'] := rfl
  exact ((closed_ows ha).append ((closed_token hmajor).append (hslash.append
    (closed_token hminor)))).append (closed_ows hb)

theorem closed_pieces {names pieces : List Text} (h : List.Forall₂ ParameterText names pieces) :
    ∀ piece ∈ pieces, Closed piece := by
  induction h with
  | nil => exact List.forall_mem_nil _
  | cons hpiece _ ih => exact List.forall_mem_cons.mpr ⟨closed_parameter hpiece, ih⟩

theorem forall_mem_pieces {p : Char → Prop} {first : Text} {pieces : List Text}
    (h : ∀ c ∈ first ++ joinPieces pieces, p c) :
    (∀ c ∈ first, p c) ∧ ∀ piece ∈ pieces, ∀ c ∈ piece, p c := by
  obtain ⟨hfirst, hpieces⟩ := List.forall_mem_append.mp h
  refine ⟨hfirst, fun piece hpiece c hc => hpieces c ?_⟩
  exact List.mem_flatMap.mpr ⟨piece, hpiece, List.mem_cons_of_mem _ hc⟩

theorem mediaType_eq_some : mediaType (some raw) = some base ↔
    ∃ first pieces major minor hasBoundary, splitMimeParts raw = some (first :: pieces) ∧
      trim first = base ∧ splitOnce '/' base = some (major, minor) ∧ isMimeToken major = true ∧
      isMimeToken minor = true ∧ mediaTypeParameters [] pieces = some hasBoundary ∧
      (eqIgnoreAsciiCase base "multipart/form-data".toList = true → hasBoundary = true) := by
  generalize hform : "multipart/form-data".toList = form
  simp only [mediaType, hform, Option.bind_eq_bind, Option.bind_some, Option.bind_eq_some_iff]
  constructor
  · rintro ⟨parts, hparts, first, hfirst, ⟨major, minor⟩, hslash, h⟩
    obtain ⟨pieces, rfl⟩ := List.head?_eq_some_iff.mp hfirst
    dsimp only at h
    split_ifs at h with hinvalid
    obtain ⟨hasBoundary, hparameters, h⟩ := Option.bind_eq_some_iff.mp h
    split_ifs at h with hmissing
    cases h
    simp only [Bool.or_eq_true, Bool.not_eq_true', not_or, Bool.not_eq_false] at hinvalid
    refine ⟨first, pieces, major, minor, hasBoundary, hparts, rfl, hslash, hinvalid.1, hinvalid.2,
      hparameters, fun h => ?_⟩
    simpa [h] using hmissing
  · rintro ⟨first, pieces, major, minor, hasBoundary, hparts, rfl, hslash, hmajor, hminor,
      hparameters, hrule⟩
    refine ⟨first :: pieces, hparts, first, rfl, (major, minor), hslash, ?_⟩
    simpa [hmajor, hminor, hparameters] using hrule

theorem mediaType_iff (hvisible : ∀ c ∈ raw, isVisibleChar c = true) :
    mediaType (some raw) = some base ↔ MediaTypeText raw base := by
  rw [mediaType_eq_some]
  constructor
  · rintro ⟨first, pieces, major, minor, hasBoundary, hsplit, hbase, hslash, hmajor, hminor,
      hparameters, hrule⟩
    obtain ⟨_, _, heq, rfl⟩ := join_of_splitMimeFrom hsplit
    obtain ⟨rfl, rfl⟩ := List.cons.inj heq
    obtain ⟨hfirst, hpieces⟩ := forall_mem_pieces hvisible
    obtain ⟨names, hnames, hnodup, -, rfl⟩ := (mediaTypeParameters_iff hpieces).mp hparameters
    obtain ⟨a, b, hshape, ha, hb⟩ := exists_ows_of_trim hfirst
    obtain ⟨rfl, -⟩ := splitOnce_eq_some.mp hslash
    rw [hbase, ← List.append_assoc] at hshape
    rw [hshape]
    exact .mk ha hb hmajor hminor hnames hnodup fun h => of_decide_eq_true (hrule h)
  · rintro @⟨a, b, major, minor, names, pieces, ha, hb, hmajor, hminor, hnames, hnodup, hboundary⟩
    have hpieces := (forall_mem_pieces hvisible).2
    have hclosed := closed_pieces hnames
    have hslash : '/' ∉ major := fun hmem =>
      (isTokenChar_marks ((isMimeToken_iff.mp hmajor).2 _ hmem)).2.2.2.1 rfl
    have hbare := (endsBare_token hmajor).between (endsBare_token hminor) ['/']
    refine ⟨_, pieces, major, minor, _, splitMimeParts_join (closed_base ha hb hmajor hminor) hclosed,
      trim_padded ha hb hbare, splitOnce_eq_some.mpr ⟨rfl, hslash⟩, hmajor, hminor,
      (mediaTypeParameters_iff hpieces).mpr ⟨names, hnames, hnodup, ?_, rfl⟩, ?_⟩
    · exact fun name _ => List.not_mem_nil
    · exact fun h => decide_eq_true (hboundary h)

end Acceptance

end GptLiveProxy
