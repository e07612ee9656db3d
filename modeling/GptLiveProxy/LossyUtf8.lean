import GptLiveProxy.AsciiText
import GptLiveProxy.PercentDecoding
import Mathlib.Data.Nat.Find

/-!
# Strict and lossy UTF-8 decoding

Every byte string is the encoding of a text followed by bytes at which no scalar value begins. The
text is the longest one encoded at the front, because no encoding is a prefix of another: strict
validation reports its length, and lossy decoding emits its characters before anything else. What
lossy decoding emits next, if any byte is left, is a replacement character.
-/

namespace CharText

def REPLACEMENT : Char := Char.ofNat 0xfffd

section Fronts
variable {t u : Text} {bytes rest : List UInt8}

/-- The scalar value whose encoding stands at the front. -/
def decodeHead (bytes : List UInt8) : Option Char := bytes.toByteArray.utf8DecodeChar? 0

theorem decodeHead_append (c : Char) (rest : List UInt8) :
    decodeHead (String.utf8EncodeChar c ++ rest) = some c := by
  rw [decodeHead, List.toByteArray_append]
  exact ByteArray.utf8DecodeChar?_utf8EncodeChar_append

theorem exists_of_decodeHead {c : Char} (h : decodeHead bytes = some c) :
    ∃ rest, bytes = String.utf8EncodeChar c ++ rest := by
  obtain ⟨rest, heq⟩ := ByteArray.exists_of_utf8DecodeChar?_eq_some h
  have hlists := congrArg (fun b : ByteArray => b.data.toList) heq
  exact ⟨rest.data.toList, by simpa using hlists⟩

theorem exists_front (bytes : List UInt8) :
    ∃ t rest, bytes = utf8 t ++ rest ∧ decodeHead rest = none := by
  induction hlen : bytes.length using Nat.strong_induction_on generalizing bytes with
  | _ n ih =>
    cases hhead : decodeHead bytes with
    | none => exact ⟨[], bytes, rfl, hhead⟩
    | some c =>
      obtain ⟨behind, rfl⟩ := exists_of_decodeHead hhead
      have hpos := List.length_pos_iff.mpr (String.utf8EncodeChar_ne_nil (c := c))
      rw [List.length_append] at hlen
      obtain ⟨t, rest, rfl, hrest⟩ := ih behind.length (by omega) behind rfl
      exact ⟨c :: t, rest, by rw [utf8_cons, List.append_assoc], hrest⟩

theorem prefix_of_front (hrest : decodeHead rest = none) (h : utf8 u <+: utf8 t ++ rest) :
    u <+: t := by
  induction u generalizing t with
  | nil => exact List.nil_prefix
  | cons c u ih =>
    obtain ⟨behind, hbehind⟩ := h
    have hc : decodeHead (utf8 t ++ rest) = some c := by
      rw [← hbehind, utf8_cons, List.append_assoc, decodeHead_append]
    cases t with
    | nil =>
      rw [show utf8 [] ++ rest = rest from rfl, hrest] at hc
      cases hc
    | cons d t =>
      rw [utf8_cons, List.append_assoc, decodeHead_append] at hc
      obtain rfl := Option.some.inj hc
      rw [utf8_cons, utf8_cons, List.append_assoc, List.append_assoc] at hbehind
      exact List.cons_prefix_cons.mpr ⟨rfl, ih ⟨behind, List.append_cancel_left hbehind⟩⟩

theorem decodeUtf8_isSome : (decodeUtf8 bytes).isSome = true ↔ ∃ t, bytes = utf8 t := by
  rw [Option.isSome_iff_exists]
  constructor
  · rintro ⟨t, ht⟩
    exact ⟨t, (utf8_of_decodeUtf8 ht).symm⟩
  · rintro ⟨t, rfl⟩
    exact ⟨t, decodeUtf8_utf8 t⟩

end Fronts

section Validation
variable {t : Text} {rest : List UInt8}

/-- `Utf8Error::valid_up_to`, the length of the longest prefix that is valid. -/
def validUpTo (bytes : List UInt8) : Nat :=
  Nat.findGreatest (fun n => (decodeUtf8 (bytes.take n)).isSome = true) bytes.length

/-- `std::str::from_utf8`; the error is its `valid_up_to`. -/
def fromUtf8 (bytes : List UInt8) : Except Nat Text :=
  match decodeUtf8 bytes with
  | some t => .ok t
  | none => .error (validUpTo bytes)

theorem validUpTo_append (hrest : decodeHead rest = none) :
    validUpTo (utf8 t ++ rest) = byteLen t := by
  rw [validUpTo, Nat.findGreatest_eq_iff]
  refine ⟨?_, fun _ => ?_, ?_⟩
  · rw [List.length_append]
    exact Nat.le_add_right _ _
  · rw [byteLen, List.take_left, decodeUtf8_utf8]
    rfl
  · intro n hlong hle hvalid
    obtain ⟨u, hu⟩ := decodeUtf8_isSome.mp hvalid
    obtain ⟨v, rfl⟩ := prefix_of_front hrest (hu ▸ List.take_prefix n _)
    have hlength := congrArg List.length hu
    rw [List.length_take, Nat.min_eq_left hle] at hlength
    have hsum := byteLen_append u v
    simp only [byteLen] at hsum hlong
    omega

theorem fromUtf8_append (hrest : decodeHead rest = none) (hne : rest ≠ []) :
    fromUtf8 (utf8 t ++ rest) = .error (byteLen t) := by
  have hinvalid : decodeUtf8 (utf8 t ++ rest) = none := by
    rw [← Option.not_isSome_iff_eq_none, decodeUtf8_isSome]
    rintro ⟨u, hu⟩
    obtain ⟨v, rfl⟩ := prefix_of_front hrest ⟨[], by rw [List.append_nil, hu]⟩
    have hlength := congrArg List.length hu
    rw [List.length_append, utf8_append, List.length_append] at hlength
    have hpos := List.length_pos_iff.mpr hne
    omega
  rw [fromUtf8, hinvalid, validUpTo_append hrest]

end Validation

section Indices

def charIndices (position : Nat) : Text → List (Nat × Char)
  | [] => []
  | c :: t => (position, c) :: charIndices (position + c.utf8Size) t

def firstIndex (c : Char) (indices : List (Nat × Char)) : Option Nat :=
  (indices.find? fun index => index.2 == c).map Prod.fst

def findChar (c : Char) (t : Text) : Option Nat := firstIndex c (charIndices 0 t)

theorem firstIndex_append (c : Char) (a b : List (Nat × Char)) :
    firstIndex c (a ++ b) = (firstIndex c a).or (firstIndex c b) := by
  rw [firstIndex, List.find?_append, Option.map_or]
  rfl

theorem firstIndex_eq_some {c : Char} {indices : List (Nat × Char)} {position : Nat} :
    firstIndex c indices = some position ↔ ∃ before after,
      indices = before ++ (position, c) :: after ∧ ∀ index ∈ before, index.2 ≠ c := by
  simp only [firstIndex, Option.map_eq_some_iff, List.find?_eq_some_iff_append]
  constructor
  · rintro ⟨⟨n, d⟩, ⟨hd, before, after, hsplit, hbefore⟩, rfl⟩
    obtain rfl := beq_iff_eq.mp hd
    exact ⟨before, after, hsplit, fun index hmem => by simpa using hbefore index hmem⟩
  · rintro ⟨before, after, hsplit, hbefore⟩
    refine ⟨(position, c), ⟨beq_self_eq_true c, before, after, hsplit, ?_⟩, rfl⟩
    intro index hmem
    simpa using hbefore index hmem

theorem firstIndex_eq_none {c : Char} {indices : List (Nat × Char)} :
    firstIndex c indices = none ↔ c ∉ indices.map Prod.snd := by
  simp only [firstIndex, Option.map_eq_none_iff, List.find?_eq_none, List.mem_map, not_exists]
  constructor
  · rintro h index ⟨hmem, rfl⟩
    exact h index hmem (beq_self_eq_true _)
  · intro h index hmem hc
    exact h index ⟨hmem, beq_iff_eq.mp hc⟩

end Indices

section Lossy
variable {t : Text} {rest : List UInt8}

def isContinuation (b : UInt8) : Bool := b &&& 0xc0 == 0x80

def isSecond (b second : UInt8) : Bool :=
  if b == 0xe0 then 0xa0 ≤ second && second ≤ 0xbf
  else if b == 0xed then 0x80 ≤ second && second ≤ 0x9f
  else if b == 0xf0 then 0x90 ≤ second && second ≤ 0xbf
  else if b == 0xf4 then 0x80 ≤ second && second ≤ 0x8f
  else isContinuation second

/-- How many bytes one replacement character stands for: a first byte and what could still have
become an encoding with it. -/
def malformedWidth : List UInt8 → Nat
  | b :: second :: rest =>
    if 0xe0 ≤ b && b ≤ 0xef && isSecond b second then 2
    else if 0xf0 ≤ b && b ≤ 0xf4 && isSecond b second then
      if (rest.head?.map isContinuation).getD false then 3 else 2
    else 1
  | _ => 1

/-- What lossy decoding emits, each character with the position of the bytes it stands for. -/
def lossyFrom : Nat → Nat → List UInt8 → List (Nat × Char)
  | 0, _, _ => []
  | _ + 1, _, [] => []
  | fuel + 1, position, b :: rest =>
    match decodeHead (b :: rest) with
    | some c => (position, c) ::
        lossyFrom fuel (position + c.utf8Size) ((b :: rest).drop c.utf8Size)
    | none => (position, REPLACEMENT) ::
        lossyFrom fuel (position + malformedWidth (b :: rest))
          ((b :: rest).drop (malformedWidth (b :: rest)))

def lossyIndices (bytes : List UInt8) : List (Nat × Char) := lossyFrom bytes.length 0 bytes

/-- `String::from_utf8_lossy`. -/
def fromUtf8Lossy (bytes : List UInt8) : Text := (lossyIndices bytes).map Prod.snd

theorem lossyFrom_front (fuel position : Nat) (t : Text) (rest : List UInt8) :
    lossyFrom (t.length + fuel) position (utf8 t ++ rest) =
      charIndices position t ++ lossyFrom fuel (position + byteLen t) rest := by
  induction t generalizing position with
  | nil =>
    rw [List.length_nil, Nat.zero_add]
    rfl
  | cons c t ih =>
    have hfuel : (c :: t).length + fuel = (t.length + fuel) + 1 := by
      rw [List.length_cons]
      omega
    have hsize : c.utf8Size = (String.utf8EncodeChar c).length :=
      (String.length_utf8EncodeChar c).symm
    have hposition : position + byteLen (c :: t) = position + c.utf8Size + byteLen t := by
      rw [byteLen, utf8_cons, List.length_append, ← hsize, Nat.add_assoc]
      rfl
    have hhead := decodeHead_append c (utf8 t ++ rest)
    have hdrop : (String.utf8EncodeChar c ++ (utf8 t ++ rest)).drop c.utf8Size = utf8 t ++ rest := by
      rw [hsize, List.drop_left]
    rw [hfuel, hposition, utf8_cons, List.append_assoc, charIndices, List.cons_append, ← ih]
    cases hbytes : String.utf8EncodeChar c ++ (utf8 t ++ rest) with
    | nil => exact absurd (List.append_eq_nil_iff.mp hbytes).1 String.utf8EncodeChar_ne_nil
    | cons b behind =>
      rw [hbytes] at hhead hdrop
      rw [lossyFrom, hhead]
      dsimp only
      rw [hdrop]

theorem length_le_byteLen (t : Text) : t.length ≤ byteLen t := by
  induction t with
  | nil => exact Nat.le_refl 0
  | cons c t ih =>
    have hpos := List.length_pos_iff.mpr (String.utf8EncodeChar_ne_nil (c := c))
    rw [byteLen] at ih
    rw [byteLen, utf8_cons, List.length_append, List.length_cons]
    omega

theorem lossyIndices_utf8 (t : Text) : lossyIndices (utf8 t) = charIndices 0 t := by
  obtain ⟨fuel, hfuel⟩ := Nat.exists_eq_add_of_le (length_le_byteLen t)
  have hfront := lossyFrom_front fuel 0 t []
  rw [List.append_nil] at hfront
  change lossyFrom (byteLen t) 0 (utf8 t) = _
  rw [hfuel, hfront]
  cases fuel <;> simp [lossyFrom]

/-- The replacement character for the first byte at which no scalar value begins. -/
theorem lossyIndices_append (hrest : decodeHead rest = none) (hne : rest ≠ []) :
    ∃ after, lossyIndices (utf8 t ++ rest) =
      charIndices 0 t ++ (byteLen t, REPLACEMENT) :: after := by
  obtain ⟨fuel, hfuel⟩ := Nat.exists_eq_add_of_le (length_le_byteLen t)
  obtain ⟨b, behind, rfl⟩ := List.exists_cons_of_ne_nil hne
  have hlength : (utf8 t ++ b :: behind).length = t.length + (fuel + behind.length + 1) := by
    rw [List.length_append, List.length_cons, ← byteLen, hfuel]
    omega
  rw [lossyIndices, hlength, lossyFrom_front, Nat.zero_add, lossyFrom, hrest]
  exact ⟨_, rfl⟩

end Lossy

end CharText
