import GptLiveProxy.AsciiText

/-!
# Percent encoding

A set of characters is encoded byte by byte as escapes with upper-case digits; every other
character stands for itself.
-/

namespace CharText

def upperHexDigit (n : Nat) : Char := Char.ofNat (if n < 10 then 48 + n else 55 + n)

def escapeByte (b : UInt8) : Text :=
  ['%', upperHexDigit (b.toNat / 16), upperHexDigit (b.toNat % 16)]

def encodeChar (set : Char → Bool) (c : Char) : Text :=
  if set c then (String.utf8EncodeChar c).flatMap escapeByte else [c]

def percentEncode (set : Char → Bool) (t : Text) : Text := t.flatMap (encodeChar set)

section Encoding
variable {set : Char → Bool}

theorem percentEncode_append (a b : Text) :
    percentEncode set (a ++ b) = percentEncode set a ++ percentEncode set b := by
  simp [percentEncode]

theorem percentEncode_eq_self {t : Text} (h : ∀ c ∈ t, set c = false) : percentEncode set t = t := by
  induction t with
  | nil => rfl
  | cons c t ih =>
    obtain ⟨hc, ht⟩ := List.forall_mem_cons.mp h
    rw [percentEncode, List.flatMap_cons, encodeChar, hc]
    exact congrArg (c :: ·) (ih ht)

/-- An encoded character is spelled with a percent sign. -/
theorem percent_mem_encodeChar {c : Char} (h : set c = true) : '%' ∈ encodeChar set c := by
  rw [encodeChar, if_pos h, List.mem_flatMap]
  obtain ⟨b, bytes, hbytes⟩ := List.exists_cons_of_ne_nil (String.utf8EncodeChar_ne_nil (c := c))
  exact ⟨b, hbytes ▸ List.mem_cons_self, List.mem_cons_self⟩

theorem encodeChar_ne_nil (c : Char) : encodeChar set c ≠ [] := by
  cases h : set c with
  | false => simp [encodeChar, h]
  | true => exact List.ne_nil_of_mem (percent_mem_encodeChar h)

theorem percentEncode_eq_nil {t : Text} : percentEncode set t = [] ↔ t = [] := by
  constructor
  · intro h
    cases t with
    | nil => rfl
    | cons c t =>
      rw [percentEncode, List.flatMap_cons] at h
      exact absurd (List.append_eq_nil_iff.mp h).1 (encodeChar_ne_nil c)
  · rintro rfl
    rfl

theorem upperHexDigit_mem (n : Nat) (hn : n < 16) :
    upperHexDigit n ∈ "0123456789ABCDEF".toList := by
  have hall : ∀ n : Fin 16, upperHexDigit n ∈ "0123456789ABCDEF".toList := by decide +kernel
  exact hall ⟨n, hn⟩

/-- What is written is either kept from the text or part of an escape. -/
theorem mem_percentEncode {t : Text} {c : Char} (h : c ∈ percentEncode set t) :
    (c ∈ t ∧ set c = false) ∨ c ∈ "%0123456789ABCDEF".toList := by
  obtain ⟨d, hd, hmem⟩ := List.mem_flatMap.mp h
  cases hset : set d with
  | false =>
    rw [encodeChar, hset] at hmem
    obtain rfl := List.mem_singleton.mp hmem
    exact .inl ⟨hd, hset⟩
  | true =>
    rw [encodeChar, hset, if_pos rfl] at hmem
    obtain ⟨b, -, hb⟩ := List.mem_flatMap.mp hmem
    have hlt : b.toNat < 256 := b.toNat_lt
    right
    change c ∈ '%' :: "0123456789ABCDEF".toList
    simp only [escapeByte, List.mem_cons, List.not_mem_nil, or_false] at hb
    rcases hb with rfl | rfl | rfl
    · exact List.mem_cons_self
    · exact List.mem_cons_of_mem _ (upperHexDigit_mem _ (by omega))
    · exact List.mem_cons_of_mem _ (upperHexDigit_mem _ (by omega))

end Encoding

end CharText
