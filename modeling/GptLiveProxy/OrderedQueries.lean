import GptLiveProxy.CallIds

/-!
# Ordered queries

`EncodesQuery` is the form encoding read backwards: pairs joined by ampersands, a key and a value
joined by the first equals sign, and each byte spelled as itself, as an escape, or as a plus sign.
The decoder accepts exactly the encodings, each with the pairs it encodes, and a query it refuses
is refused for its first faulty component.
-/

namespace GptLiveProxy
open CharText

section Encodings

/-- A byte that may stand for itself; an equals sign would end a key. -/
def isLiteralByte (inKey : Bool) (b : UInt8) : Bool :=
  !(b == 0x26 || b == 0x25 || b == 0x2b || (inKey && b == 0x3d))

/-- The bytes on the left may be spelled as the bytes on the right. -/
inductive EncodesBytes (inKey : Bool) : List UInt8 → List UInt8 → Prop
  | nil : EncodesBytes inKey [] []
  | literal {b : UInt8} {bytes raw : List UInt8} (hb : isLiteralByte inKey b = true)
      (h : EncodesBytes inKey bytes raw) : EncodesBytes inKey (b :: bytes) (b :: raw)
  | escape {hi lo : UInt8} {bytes raw : List UInt8} (hhi : isHexByte hi = true)
      (hlo : isHexByte lo = true) (h : EncodesBytes inKey bytes raw) :
      EncodesBytes inKey ((hexByteValue hi * 16 + hexByteValue lo) :: bytes) (0x25 :: hi :: lo :: raw)
  | plus {bytes raw : List UInt8} (h : EncodesBytes inKey bytes raw) :
      EncodesBytes inKey (0x20 :: bytes) (0x2b :: raw)

def EncodesComponent (inKey : Bool) (component raw : Text) : Prop :=
  EncodesBytes inKey (utf8 component) (utf8 raw)

/-- A pair is spelled with an equals sign, or as a bare key when its value is empty. -/
inductive EncodesPair : Text × Text → Text → Prop
  | separated {key value rawKey rawValue : Text} (hkey : EncodesComponent true key rawKey)
      (hvalue : EncodesComponent false value rawValue) :
      EncodesPair (key, value) (rawKey ++ '=' :: rawValue)
  | bare {key rawKey : Text} (hkey : EncodesComponent true key rawKey) : EncodesPair (key, []) rawKey

def EncodesQuery (pairs : List (Text × Text)) (raw : Text) : Prop :=
  ∃ rawPairs, rawPairs ≠ [] ∧ List.Forall₂ EncodesPair pairs rawPairs ∧
    raw = List.intercalate ['&'] rawPairs

end Encodings

def pairPieces (pair : Text) : List Text :=
  let parts := (splitOnce '=' pair).getD (pair, [])
  [parts.1, parts.2]

/-- The raw components of a query in the order in which they are decoded. -/
def components (raw : Text) : List Text := (raw.splitOn '&').flatMap pairPieces

def componentBytes (decoder : PercentDecoder) (raw : Text) : List UInt8 :=
  decoder.decode ((utf8 raw).map plusAsSpace)

/-- What is wrong with a component: its escapes are looked at before its decoded bytes. -/
inductive ComponentFault (decoder : PercentDecoder) (raw : Text) : QueryDecodeError → Prop
  | stray (h : ¬ EscapesComplete raw) : ComponentFault decoder raw .malformedPercentEscape
  | bytes (hescapes : EscapesComplete raw) (h : decodeUtf8 (componentBytes decoder raw) = none) :
      ComponentFault decoder raw .invalidUtf8

section Bytes

theorem isHexByte_facts : ∀ b : UInt8, isHexByte b = true →
    b ≠ 0x26 ∧ b ≠ 0x2b ∧ b ≠ 0x3d := by
  apply HeaderValue.forall_byte
  decide +kernel

theorem plusAsSpace_hex {b : UInt8} (h : isHexByte b = true) : plusAsSpace b = b :=
  if_neg (isHexByte_facts b h).2.1

theorem isLiteralByte_iff {inKey : Bool} {b : UInt8} :
    isLiteralByte inKey b = true ↔
      b ≠ 0x26 ∧ b ≠ 0x25 ∧ b ≠ 0x2b ∧ (inKey = true → b ≠ 0x3d) := by
  cases inKey with
  | false => simp [isLiteralByte, and_assoc]
  | true => simp [isLiteralByte, and_assoc]

theorem startsEscape_literal {b : UInt8} (hb : b ≠ 0x25) (rest : List UInt8) :
    startsEscape (b :: rest) = false :=
  Bool.eq_false_iff.mpr fun h => hb (startsEscape_eq_true h).1

end Bytes

section Components
variable {inKey : Bool} {bytes raw : List UInt8}

/-- No spelling holds the ampersand, and no spelling of a key the equals sign. -/
theorem EncodesBytes.separators (h : EncodesBytes inKey bytes raw) :
    0x26 ∉ raw ∧ (inKey = true → 0x3d ∉ raw) := by
  induction h with
  | nil => exact ⟨List.not_mem_nil, fun _ => List.not_mem_nil⟩
  | literal hb h ih =>
    obtain ⟨hamp, -, -, hequals⟩ := isLiteralByte_iff.mp hb
    simp only [List.mem_cons, not_or]
    exact ⟨⟨hamp.symm, ih.1⟩, fun hkey => ⟨(hequals hkey).symm, ih.2 hkey⟩⟩
  | escape hhi hlo h ih =>
    obtain ⟨hhi1, -, hhi2⟩ := isHexByte_facts _ hhi
    obtain ⟨hlo1, -, hlo2⟩ := isHexByte_facts _ hlo
    simp only [List.mem_cons, not_or]
    exact ⟨⟨by decide, hhi1.symm, hlo1.symm, ih.1⟩,
      fun hkey => ⟨by decide, hhi2.symm, hlo2.symm, ih.2 hkey⟩⟩
  | plus h ih =>
    simp only [List.mem_cons, not_or]
    exact ⟨⟨by decide, ih.1⟩, fun hkey => ⟨by decide, ih.2 hkey⟩⟩

theorem EncodesBytes.wellFormed (h : EncodesBytes inKey bytes raw) : wellFormedEscapes raw = true := by
  induction h with
  | nil => rfl
  | literal hb h ih => rw [wellFormedEscapes_literal (isLiteralByte_iff.mp hb).2.1, ih]
  | escape hhi hlo h ih => rw [wellFormedEscapes_escape (startsEscape_iff.mpr ⟨hhi, hlo⟩), ih]
  | plus h ih => rw [wellFormedEscapes_literal (by decide), ih]

theorem EncodesBytes.decode (decoder : PercentDecoder) (h : EncodesBytes inKey bytes raw) :
    decoder.decode (raw.map plusAsSpace) = bytes := by
  induction h with
  | nil => exact decoder.decode_nil
  | literal hb h ih =>
    obtain ⟨-, hpercent, hplus, -⟩ := isLiteralByte_iff.mp hb
    rw [List.map_cons, plusAsSpace, if_neg hplus,
      decoder.decode_literal _ _ (startsEscape_literal hpercent _), ih]
  | escape hhi hlo h ih =>
    rw [List.map_cons, List.map_cons, List.map_cons, plusAsSpace_hex hhi, plusAsSpace_hex hlo]
    exact (decoder.decode_escape _ _ _ (startsEscape_iff.mpr ⟨hhi, hlo⟩)).trans (congrArg _ ih)
  | plus h ih =>
    rw [List.map_cons]
    exact (decoder.decode_literal _ _ (startsEscape_literal (by decide) _)).trans (congrArg _ ih)

/-- Bytes with complete escapes and without separators spell what they decode to. -/
theorem encodesBytes_decode (decoder : PercentDecoder) (hescapes : wellFormedEscapes raw = true)
    (hamp : 0x26 ∉ raw) (hequals : inKey = true → 0x3d ∉ raw) :
    EncodesBytes inKey (decoder.decode (raw.map plusAsSpace)) raw := by
  induction raw using escape_induction with
  | nil => exact decoder.decode_nil.symm ▸ .nil
  | escape hi lo rest hstarts ih =>
    obtain ⟨hhi, hlo⟩ := startsEscape_iff.mp hstarts
    simp only [List.mem_cons, not_or] at hamp hequals
    have htail := ih (wellFormedEscapes_escape hstarts ▸ hescapes) hamp.2.2.2
      fun hkey => (hequals hkey).2.2.2
    rw [List.map_cons, List.map_cons, List.map_cons, plusAsSpace_hex hhi, plusAsSpace_hex hlo]
    exact (decoder.decode_escape hi lo _ (startsEscape_iff.mpr ⟨hhi, hlo⟩)).symm ▸ .escape hhi hlo htail
  | literal b rest hstarts ih =>
    have hpercent : b ≠ 0x25 := by
      rintro rfl
      rw [wellFormedEscapes_stray hstarts] at hescapes
      cases hescapes
    simp only [List.mem_cons, not_or] at hamp hequals
    have htail := ih (wellFormedEscapes_literal hpercent ▸ hescapes) hamp.2
      fun hkey => (hequals hkey).2
    by_cases hplus : b = 0x2b
    · subst hplus
      rw [List.map_cons]
      exact (decoder.decode_literal 0x20 _ (startsEscape_literal (by decide) _)).symm ▸ .plus htail
    · rw [List.map_cons, plusAsSpace, if_neg hplus,
        decoder.decode_literal b _ (startsEscape_literal hpercent _)]
      apply EncodesBytes.literal _ htail
      exact isLiteralByte_iff.mpr
        ⟨Ne.symm hamp.1, hpercent, hplus, fun hkey => Ne.symm (hequals hkey).1⟩

/-- A component is decoded exactly when it spells what it is decoded to. -/
theorem decodeComponent_eq_ok {decoder : PercentDecoder} {component raw : Text} (hamp : '&' ∉ raw)
    (hequals : inKey = true → '=' ∉ raw) :
    decodeComponent decoder raw = .ok component ↔ EncodesComponent inKey component raw := by
  have hamp' : 0x26 ∉ utf8 raw := mt (mem_utf8_ascii (c := '&') (by decide)).mp hamp
  have hequals' : inKey = true → 0x3d ∉ utf8 raw :=
    fun hkey => mt (mem_utf8_ascii (c := '=') (by decide)).mp (hequals hkey)
  constructor
  · intro h
    unfold decodeComponent at h
    split_ifs at h with hescapes
    have hwell : wellFormedEscapes (utf8 raw) = true := by simpa using hescapes
    have hspells := encodesBytes_decode decoder hwell hamp' hequals'
    split at h
    · cases h
    · rename_i decoded hdecoded
      cases h
      rw [EncodesComponent, utf8_of_decodeUtf8 hdecoded]
      exact hspells
  · intro h
    rw [decodeComponent, EncodesBytes.wellFormed h, EncodesBytes.decode decoder h, decodeUtf8_utf8]
    rfl

theorem decodeComponent_eq_error {decoder : PercentDecoder} {raw : Text} {error : QueryDecodeError} :
    decodeComponent decoder raw = .error error ↔ ComponentFault decoder raw error := by
  unfold decodeComponent
  constructor
  · intro h
    split_ifs at h with hescapes
    · cases h
      apply ComponentFault.stray
      rw [← escapesComplete_iff]
      simpa using hescapes
    · split at h
      · rename_i hnone
        cases h
        exact .bytes ((escapesComplete_iff raw).mp (by simpa using hescapes)) hnone
      · cases h
  · rintro (hstray | ⟨hescapes, hnone⟩)
    · rw [← escapesComplete_iff, Bool.not_eq_true] at hstray
      rw [hstray]
      rfl
    · rw [← escapesComplete_iff] at hescapes
      change decodeUtf8 (decoder.decode ((utf8 raw).map plusAsSpace)) = none at hnone
      rw [hescapes, hnone]
      rfl

end Components

section Pairs
variable {decoder : PercentDecoder}

theorem EncodesComponent.separators {inKey : Bool} {component raw : Text}
    (h : EncodesComponent inKey component raw) : '&' ∉ raw ∧ (inKey = true → '=' ∉ raw) := by
  obtain ⟨hamp, hequals⟩ := EncodesBytes.separators h
  constructor
  · exact mt (mem_utf8_ascii (c := '&') (by decide)).mpr hamp
  · intro hkey
    exact mt (mem_utf8_ascii (c := '=') (by decide)).mpr (hequals hkey)

theorem EncodesPair.no_ampersand {pair : Text × Text} {raw : Text} (h : EncodesPair pair raw) :
    '&' ∉ raw := by
  cases h with
  | separated hkey hvalue =>
    simp only [List.mem_append, List.mem_cons, not_or]
    exact ⟨hkey.separators.1, by decide, hvalue.separators.1⟩
  | bare hkey => exact hkey.separators.1

theorem decodePair_eq_ok {pair : Text × Text} {raw : Text} (hamp : '&' ∉ raw) :
    decodePair decoder raw = .ok pair ↔ EncodesPair pair raw := by
  have hempty : decodeComponent decoder [] = .ok [] :=
    decodeComponent_literal decoder List.not_mem_nil List.not_mem_nil
  have hvalueKey {t : Text} : false = true → '=' ∉ t := fun h => absurd h Bool.false_ne_true
  constructor
  · intro h
    obtain ⟨key, hkey, h⟩ := Except.bind_eq_ok.mp h
    obtain ⟨value, hvalue, h⟩ := Except.bind_eq_ok.mp h
    cases h
    cases hsplit : splitOnce '=' raw with
    | none =>
      rw [hsplit] at hkey hvalue
      cases hempty.symm.trans hvalue
      exact .bare ((decodeComponent_eq_ok hamp fun _ => splitOnce_eq_none.mp hsplit).mp hkey)
    | some parts =>
      rw [hsplit] at hkey hvalue
      obtain ⟨rfl, hequals⟩ := splitOnce_eq_some.mp hsplit
      simp only [List.mem_append, List.mem_cons, not_or] at hamp
      exact .separated ((decodeComponent_eq_ok hamp.1 fun _ => hequals).mp hkey)
        ((decodeComponent_eq_ok hamp.2.2 hvalueKey).mp hvalue)
  · intro h
    cases h with
    | @separated key value rawKey rawValue hkey hvalue =>
      have hsplit : splitOnce '=' (rawKey ++ '=' :: rawValue) = some (rawKey, rawValue) :=
        splitOnce_eq_some.mpr ⟨rfl, hkey.separators.2 rfl⟩
      rw [decodePair, hsplit, Option.getD_some,
        (decodeComponent_eq_ok hkey.separators.1 hkey.separators.2).mpr hkey,
        (decodeComponent_eq_ok hvalue.separators.1 hvalue.separators.2).mpr hvalue]
      rfl
    | bare hkey =>
      have hsplit := splitOnce_eq_none.mpr (hkey.separators.2 rfl)
      rw [decodePair, hsplit, Option.getD_none, hempty,
        (decodeComponent_eq_ok hkey.separators.1 hkey.separators.2).mpr hkey]
      rfl

theorem mapM_decodePair (rawPairs : List Text) :
    (rawPairs.mapM (decodePair decoder)).map (List.flatMap fun pair => [pair.1, pair.2]) =
      (rawPairs.flatMap pairPieces).mapM (decodeComponent decoder) := by
  induction rawPairs with
  | nil => rfl
  | cons rawPair rawPairs ih =>
    rw [List.flatMap_cons, pairPieces, List.cons_append, List.cons_append, List.nil_append,
      List.mapM_cons, List.mapM_cons, List.mapM_cons, decodePair, ← ih]
    cases decodeComponent decoder ((splitOnce '=' rawPair).getD (rawPair, [])).1 with
    | error e => rfl
    | ok key =>
      cases decodeComponent decoder ((splitOnce '=' rawPair).getD (rawPair, [])).2 with
      | error e => rfl
      | ok value =>
        cases rawPairs.mapM (decodePair decoder) <;> rfl

end Pairs

section Queries
variable {decoder : PercentDecoder}

theorem decodeOrdered_eq_ok {raw : Text} {pairs : List (Text × Text)} :
    decodeOrdered decoder (some raw) = .ok pairs ↔ EncodesQuery pairs raw := by
  have hstep {rawPairs : List Text} (hpieces : ∀ rawPair ∈ rawPairs, '&' ∉ rawPair) :
      rawPairs.mapM (decodePair decoder) = .ok pairs ↔ List.Forall₂ EncodesPair pairs rawPairs := by
    rw [Except.mapM_eq_ok]
    constructor
    · intro h
      have hboth := (List.forall₂_and_left _ _).mpr ⟨hpieces, h⟩
      exact (hboth.imp fun rawPair pair hpair => (decodePair_eq_ok hpair.1).mp hpair.2).flip
    · intro h
      exact h.flip.imp fun rawPair pair hpair => (decodePair_eq_ok hpair.no_ampersand).mpr hpair
  constructor
  · intro h
    have hpairs := (hstep fun rawPair hrawPair => sep_notMem_piece hrawPair).mp h
    exact ⟨raw.splitOn '&', List.splitOn_ne_nil _ _, hpairs, (List.intercalate_splitOn '&').symm⟩
  · rintro ⟨rawPairs, hne, hpairs, rfl⟩
    have hboth := hpairs.flip.imp fun rawPair pair hpair => And.intro hpair.no_ampersand hpair
    have hpieces : ∀ rawPair ∈ rawPairs, '&' ∉ rawPair :=
      ((List.forall₂_and_left _ _).mp hboth).1
    rw [decodeOrdered, List.splitOn_intercalate '&' hpieces hne]
    exact (hstep hpieces).mpr hpairs

theorem decodeOrdered_components {raw : Text} {error : QueryDecodeError} :
    decodeOrdered decoder (some raw) = .error error ↔
      (components raw).mapM (decodeComponent decoder) = .error error := by
  rw [components, ← mapM_decodePair, decodeOrdered, Except.map_eq_error]

theorem decodes_iff_no_fault {raw : Text} :
    (∃ decoded, decodeComponent decoder raw = .ok decoded) ↔
      ∀ fault, ¬ ComponentFault decoder raw fault := by
  simp only [← decodeComponent_eq_error]
  cases decodeComponent decoder raw <;> simp

theorem exists_fault_iff {raw : Text} :
    (∃ fault, ComponentFault decoder raw fault) ↔
      ¬ EscapesComplete raw ∨ decodeUtf8 (componentBytes decoder raw) = none := by
  constructor
  · rintro ⟨fault, hstray | ⟨-, hnone⟩⟩
    · exact .inl hstray
    · exact .inr hnone
  · intro h
    by_cases hescapes : EscapesComplete raw
    · exact ⟨_, .bytes hescapes (h.resolve_left (not_not.mpr hescapes))⟩
    · exact ⟨_, .stray hescapes⟩

end Queries

theorem decodeOrdered_characterised (decoder : PercentDecoder) (raw : Text) :
    (∀ pairs, EncodesQuery pairs raw → decodeOrdered decoder (some raw) = .ok pairs) ∧
    (∀ pairs, decodeOrdered decoder (some raw) = .ok pairs → EncodesQuery pairs raw) ∧
    ((∃ error, decodeOrdered decoder (some raw) = .error error) ↔
      ∃ component ∈ components raw,
        ¬ EscapesComplete component ∨ decodeUtf8 (componentBytes decoder component) = none) ∧
    ∀ error, decodeOrdered decoder (some raw) = .error error ↔
      ∃ front component rest, components raw = front ++ component :: rest ∧
        (∀ piece ∈ front, ∀ fault, ¬ ComponentFault decoder piece fault) ∧
          ComponentFault decoder component error := by
  refine ⟨fun pairs => decodeOrdered_eq_ok.mpr, fun pairs => decodeOrdered_eq_ok.mp, ?_, ?_⟩
  · simp only [decodeOrdered_components, Except.mapM_fails_iff, decodeComponent_eq_error,
      exists_fault_iff]
  · intro error
    simp only [decodeOrdered_components, Except.mapM_eq_error, decodeComponent_eq_error,
      decodes_iff_no_fault]

end GptLiveProxy
