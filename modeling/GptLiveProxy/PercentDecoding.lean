import GptLiveProxy.CharText

/-!
# Percent decoding

`PercentDecoder` states what a percent decoder does to a byte string: a percent sign followed by
two hexadecimal digits becomes one byte, and every other byte stands for itself. The laws fix the
decoder. `wellFormedEscapes` is the stricter scan that refuses a stray percent sign.
-/

namespace CharText

def isHexByte (b : UInt8) : Bool :=
  (0x30 ≤ b && b ≤ 0x39) || (0x61 ≤ b && b ≤ 0x66) || (0x41 ≤ b && b ≤ 0x46)

def hexByteValue (b : UInt8) : UInt8 :=
  if b ≤ 0x39 then b - 0x30 else if b ≤ 0x46 then b - 0x41 + 10 else b - 0x61 + 10

/-- A percent sign followed by two hexadecimal digits. -/
def startsEscape : List UInt8 → Bool
  | 0x25 :: hi :: lo :: _ => isHexByte hi && isHexByte lo
  | _ => false

structure PercentDecoder where
  decode : List UInt8 → List UInt8
  decode_nil : decode [] = []
  decode_escape : ∀ hi lo rest, startsEscape (0x25 :: hi :: lo :: rest) = true →
    decode (0x25 :: hi :: lo :: rest) = (hexByteValue hi * 16 + hexByteValue lo) :: decode rest
  decode_literal : ∀ b rest, startsEscape (b :: rest) = false → decode (b :: rest) = b :: decode rest

def percentDecode : List UInt8 → List UInt8
  | [] => []
  | [a] => [a]
  | [a, b] => [a, b]
  | a :: hi :: lo :: rest =>
    if startsEscape (a :: hi :: lo :: rest) then
      (hexByteValue hi * 16 + hexByteValue lo) :: percentDecode rest
    else a :: percentDecode (hi :: lo :: rest)

def PercentDecoder.standard : PercentDecoder where
  decode := percentDecode
  decode_nil := rfl
  decode_escape hi lo rest h := by rw [percentDecode, if_pos h]
  decode_literal b rest h := by
    match rest with
    | [] => rfl
    | [c] => rfl
    | hi :: lo :: rest => rw [percentDecode, if_neg (by simp [h])]

/-- Every percent sign starts an escape. -/
def wellFormedEscapes : List UInt8 → Bool
  | [] => true
  | b :: rest =>
    if b = 0x25 then
      match rest with
      | hi :: lo :: rest => isHexByte hi && isHexByte lo && wellFormedEscapes rest
      | _ => false
    else wellFormedEscapes rest

/-- Strict UTF-8 decoding. -/
def decodeUtf8 (bytes : List UInt8) : Option Text := bytes.toByteArray.utf8Decode?.map Array.toList

theorem decodeUtf8_utf8 (t : Text) : decodeUtf8 (utf8 t) = some t := by
  have hdec := List.utf8Decode?_utf8Encode (l := t)
  change (utf8 t).toByteArray.utf8Decode? = some t.toArray at hdec
  simp [decodeUtf8, hdec]

theorem utf8_of_decodeUtf8 {bytes : List UInt8} {t : Text} (h : decodeUtf8 bytes = some t) :
    utf8 t = bytes := by
  obtain ⟨chars, hchars, rfl⟩ := Option.map_eq_some_iff.mp h
  have hencode := ByteArray.utf8Encode_get_utf8Decode? (b := bytes.toByteArray)
    (h := by rw [hchars]; rfl)
  simp only [hchars, Option.get_some] at hencode
  change (utf8 chars.toList).toByteArray = bytes.toByteArray at hencode
  have hlists := congrArg (fun b : ByteArray => b.data.toList) hencode
  simpa using hlists

theorem startsEscape_eq_true {b : UInt8} {rest : List UInt8}
    (h : startsEscape (b :: rest) = true) :
    b = 0x25 ∧ ∃ hi lo tail, rest = hi :: lo :: tail ∧ isHexByte hi = true ∧ isHexByte lo = true := by
  unfold startsEscape at h
  split at h
  · rename_i hi lo tail heq
    obtain ⟨rfl, rfl⟩ := List.cons.inj heq
    obtain ⟨hhi, hlo⟩ := Bool.and_eq_true_iff.mp h
    exact ⟨rfl, hi, lo, tail, rfl, hhi, hlo⟩
  · cases h

/-- Bytes are read an escape or one literal byte at a time. -/
theorem escape_induction {P : List UInt8 → Prop} (nil : P [])
    (escape : ∀ hi lo rest, startsEscape (0x25 :: hi :: lo :: rest) = true → P rest →
      P (0x25 :: hi :: lo :: rest))
    (literal : ∀ b rest, startsEscape (b :: rest) = false → P rest → P (b :: rest))
    (bytes : List UInt8) : P bytes := by
  suffices hbound : ∀ n (bytes : List UInt8), bytes.length ≤ n → P bytes from
    hbound bytes.length bytes le_rfl
  intro n
  induction n with
  | zero =>
    intro bytes hlen
    obtain rfl := List.length_eq_zero_iff.mp (Nat.le_zero.mp hlen)
    exact nil
  | succ n ih =>
    intro bytes hlen
    cases bytes with
    | nil => exact nil
    | cons b rest =>
      rw [List.length_cons] at hlen
      cases hstarts : startsEscape (b :: rest) with
      | false => exact literal b rest hstarts (ih rest (by omega))
      | true =>
        obtain ⟨rfl, hi, lo, tail, rfl, -⟩ := startsEscape_eq_true hstarts
        simp only [List.length_cons] at hlen
        exact escape hi lo tail hstarts (ih tail (by omega))

theorem startsEscape_iff {hi lo : UInt8} {rest : List UInt8} :
    startsEscape (0x25 :: hi :: lo :: rest) = true ↔ isHexByte hi = true ∧ isHexByte lo = true :=
  Bool.and_eq_true_iff

theorem wellFormedEscapes_escape {hi lo : UInt8} {rest : List UInt8}
    (h : startsEscape (0x25 :: hi :: lo :: rest) = true) :
    wellFormedEscapes (0x25 :: hi :: lo :: rest) = wellFormedEscapes rest := by
  change (isHexByte hi && isHexByte lo) = true at h
  rw [wellFormedEscapes, if_pos rfl, h, Bool.true_and]

theorem wellFormedEscapes_literal {b : UInt8} {rest : List UInt8} (hb : b ≠ 0x25) :
    wellFormedEscapes (b :: rest) = wellFormedEscapes rest := by
  match rest with
  | [] => simp [wellFormedEscapes, hb]
  | [_] => simp [wellFormedEscapes, hb]
  | _ :: _ :: _ => simp [wellFormedEscapes, hb]

theorem wellFormedEscapes_stray {rest : List UInt8} (h : startsEscape (0x25 :: rest) = false) :
    wellFormedEscapes (0x25 :: rest) = false := by
  match rest with
  | [] => simp [wellFormedEscapes]
  | [_] => simp [wellFormedEscapes]
  | hi :: lo :: tail =>
    change (isHexByte hi && isHexByte lo) = false at h
    simp [wellFormedEscapes, h]

theorem isHexByte_ne_percent {b : UInt8} (h : isHexByte b = true) : b ≠ 0x25 := by
  rintro rfl
  cases h

/-- The scan accepts exactly the bytes in which every percent sign starts an escape: the two
digits of an escape are no percent signs themselves. -/
theorem wellFormedEscapes_iff (bytes : List UInt8) :
    wellFormedEscapes bytes = true ↔
      ∀ front rest, bytes = front ++ 0x25 :: rest → startsEscape (0x25 :: rest) = true := by
  induction bytes using escape_induction with
  | nil => simp [wellFormedEscapes]
  | escape hi lo rest hstarts ih =>
    obtain ⟨hhi, hlo⟩ := startsEscape_iff.mp hstarts
    rw [wellFormedEscapes_escape hstarts, ih]
    constructor
    · intro h front tail heq
      match front with
      | [] =>
        obtain ⟨-, rfl⟩ := List.cons.inj heq
        exact hstarts
      | [_] => exact absurd (List.cons.inj (List.cons.inj heq).2).1 (isHexByte_ne_percent hhi)
      | [_, _] =>
        exact absurd (List.cons.inj (List.cons.inj (List.cons.inj heq).2).2).1
          (isHexByte_ne_percent hlo)
      | _ :: _ :: _ :: front => exact h front tail (List.cons.inj (List.cons.inj (List.cons.inj heq).2).2).2
    · intro h front tail heq
      exact h (0x25 :: hi :: lo :: front) tail (by rw [heq]; rfl)
  | literal b rest hstarts ih =>
    by_cases hb : b = 0x25
    · subst hb
      rw [wellFormedEscapes_stray hstarts]
      constructor
      · intro h
        cases h
      · intro h
        rw [← hstarts]
        exact (h [] rest rfl).symm ▸ rfl
    · rw [wellFormedEscapes_literal hb, ih]
      constructor
      · intro h front tail heq
        cases front with
        | nil => exact absurd (List.cons.inj heq).1 hb
        | cons c front => exact h front tail (List.cons.inj heq).2
      · intro h front tail heq
        exact h (b :: front) tail (by rw [heq]; rfl)

namespace PercentDecoder
variable (decoder : PercentDecoder)

theorem decode_eq_self {bytes : List UInt8} (h : 0x25 ∉ bytes) : decoder.decode bytes = bytes := by
  induction bytes with
  | nil => exact decoder.decode_nil
  | cons b rest ih =>
    obtain ⟨hb, hrest⟩ := not_or.mp (mt List.mem_cons.mpr h)
    have hstarts : startsEscape (b :: rest) = false :=
      Bool.eq_false_iff.mpr fun hstarts => hb (startsEscape_eq_true hstarts).1.symm
    rw [decoder.decode_literal b rest hstarts, ih hrest]

/-- A byte that takes part in no escape is decoded to itself. -/
theorem mem_decode {b : UInt8} {bytes : List UInt8} (hpercent : b ≠ 0x25)
    (hhex : isHexByte b = false) (h : b ∈ bytes) : b ∈ decoder.decode bytes := by
  induction bytes using escape_induction with
  | nil => cases h
  | escape hi lo rest hstarts ih =>
    obtain ⟨-, _, _, _, heq, hhi, hlo⟩ := startsEscape_eq_true hstarts
    simp only [List.cons.injEq] at heq
    obtain ⟨rfl, rfl, rfl⟩ := heq
    rw [decoder.decode_escape hi lo rest hstarts]
    simp only [List.mem_cons] at h
    rcases h with rfl | rfl | rfl | hrest
    · exact absurd rfl hpercent
    · rw [hhi] at hhex
      cases hhex
    · rw [hlo] at hhex
      cases hhex
    · exact List.mem_cons_of_mem _ (ih hrest)
  | literal c rest hstarts ih =>
    rw [decoder.decode_literal c rest hstarts]
    rcases List.mem_cons.mp h with rfl | hrest
    · exact List.mem_cons_self
    · exact List.mem_cons_of_mem _ (ih hrest)

/-- A stray percent sign survives decoding. -/
theorem percent_mem_decode {bytes : List UInt8} (h : wellFormedEscapes bytes = false) :
    0x25 ∈ decoder.decode bytes := by
  induction bytes using escape_induction with
  | nil => cases h
  | escape hi lo rest hstarts ih =>
    rw [decoder.decode_escape hi lo rest hstarts]
    exact List.mem_cons_of_mem _ (ih (wellFormedEscapes_escape hstarts ▸ h))
  | literal b rest hstarts ih =>
    rw [decoder.decode_literal b rest hstarts]
    by_cases hb : b = 0x25
    · exact hb ▸ List.mem_cons_self
    · exact List.mem_cons_of_mem _ (ih (wellFormedEscapes_literal hb ▸ h))

end PercentDecoder

end CharText
