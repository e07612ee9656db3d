import GptLiveProxy.AsciiText
import Mathlib.Algebra.Group.Nat.Defs
import Mathlib.Data.List.Lex

/-!
# Numerals of a fixed width

A numeral padded with zeros to its width has as many bytes as digits, so that two numerals of one
width compare as texts exactly as their numbers do. A text built of such fields, each closed by the
same separator, compares field by field.
-/

namespace CharText

/-- The order of `str`, by the bytes of the texts. -/
def strLt (a b : Text) : Prop := List.Lex (fun x y : UInt8 => x.toNat < y.toNat) (utf8 a) (utf8 b)

/-- The last `width` decimal digits of the number. -/
def numeral : Nat → Nat → Text
  | 0, _ => []
  | width + 1, n => numeral width (n / 10) ++ [Nat.digitChar (n % 10)]

section Order
variable {a b : Text}

theorem strLt_asymm (h : strLt a b) : ¬ strLt b a := by
  have hbytes : Std.Asymm (fun x y : UInt8 => x.toNat < y.toNat) := ⟨fun _ _ => Nat.lt_asymm⟩
  exact (List.Lex.asymm _).asymm _ _ h

theorem strLt_irrefl (a : Text) : ¬ strLt a a := fun h => strLt_asymm h h

theorem strLt_append_left (front : Text) (h : strLt a b) : strLt (front ++ a) (front ++ b) := by
  unfold strLt
  rw [utf8_append, utf8_append]
  exact List.Lex.append_left _ h _

theorem lex_append_of_length {α : Type} {r : α → α → Prop} {xs ys : List α} (h : List.Lex r xs ys)
    (hlength : xs.length = ys.length) (xs' ys' : List α) : List.Lex r (xs ++ xs') (ys ++ ys') := by
  induction h with
  | nil => cases hlength
  | cons _ ih => exact .cons (ih (Nat.succ.inj hlength))
  | rel hlt => exact .rel hlt

theorem strLt_append_right (h : strLt a b) (hlength : byteLen a = byteLen b) (a' b' : Text) :
    strLt (a ++ a') (b ++ b') := by
  unfold strLt
  rw [utf8_append, utf8_append]
  exact lex_append_of_length h hlength _ _

end Order

section Digits
variable {m n width : Nat}

theorem digitChar_ascii (h : n < 10) : (Nat.digitChar n).toNat < 128 := by
  rw [Nat.toNat_digitChar_of_lt_ten h]
  omega

theorem strLt_digit (hmn : m < n) (hn : n < 10) : strLt [Nat.digitChar m] [Nat.digitChar n] := by
  unfold strLt
  rw [utf8_cons_ascii (digitChar_ascii (by omega)), utf8_cons_ascii (digitChar_ascii hn)]
  apply List.Lex.rel
  rw [Nat.toNat_digitChar_of_lt_ten (by omega), Nat.toNat_digitChar_of_lt_ten hn,
    UInt8.toNat_ofNat', UInt8.toNat_ofNat']
  omega

theorem byteLen_numeral (width n : Nat) : byteLen (numeral width n) = width := by
  induction width generalizing n with
  | zero => rfl
  | succ width ih =>
    rw [numeral, byteLen_append, ih, byteLen,
      utf8_cons_ascii (digitChar_ascii (Nat.mod_lt _ (by omega)))]
    rfl

/-- Numerals of one width are ordered as their numbers are. -/
theorem strLt_numeral (hmn : m < n) (hn : n < 10 ^ width) :
    strLt (numeral width m) (numeral width n) := by
  induction width generalizing m n with
  | zero => omega
  | succ width ih =>
    rw [numeral, numeral]
    by_cases hfront : m / 10 < n / 10
    · have hn' : n / 10 < 10 ^ width := by
        rw [Nat.pow_succ] at hn
        omega
      apply strLt_append_right (ih hfront hn')
      rw [byteLen_numeral, byteLen_numeral]
    · have hsame : m / 10 = n / 10 := by omega
      rw [hsame]
      exact strLt_append_left _ (strLt_digit (by omega) (Nat.mod_lt _ (by omega)))

/-- Texts whose first fields have one width compare by these fields, then by what follows. -/
theorem strLt_field {a b : Text} (sep : Char) (hn : n < 10 ^ width)
    (h : m < n ∨ m = n ∧ strLt a b) :
    strLt (numeral width m ++ sep :: a) (numeral width n ++ sep :: b) := by
  rcases h with hlt | ⟨rfl, hrest⟩
  · apply strLt_append_right (strLt_numeral hlt hn)
    rw [byteLen_numeral, byteLen_numeral]
  · exact strLt_append_left _ (strLt_append_left [sep] hrest)

theorem numeral_zero (width : Nat) : numeral width 0 = List.replicate width '0' := by
  induction width with
  | zero => rfl
  | succ width ih =>
    rw [numeral, Nat.zero_div, ih, List.replicate_succ']
    rfl

/-- Padding with zeros writes the digits at their width. -/
theorem zeroFilled_eq_numeral (hpos : 0 < width) (hn : n < 10 ^ width) :
    List.replicate (width - (Nat.toDigits 10 n).length) '0' ++ Nat.toDigits 10 n =
      numeral width n := by
  obtain ⟨width, rfl⟩ := Nat.exists_eq_succ_of_ne_zero (Nat.ne_of_gt hpos)
  induction width generalizing n with
  | zero =>
    have hdigit : n < 10 := by simpa using hn
    rw [Nat.toDigits_of_lt_base hdigit, numeral, Nat.mod_eq_of_lt hdigit]
    rfl
  | succ width ih =>
    rw [numeral]
    by_cases hdigit : n < 10
    · rw [Nat.toDigits_of_lt_base hdigit, Nat.div_eq_of_lt hdigit, Nat.mod_eq_of_lt hdigit,
        numeral_zero]
      rfl
    · have hn' : n / 10 < 10 ^ (width + 1) := by
        rw [Nat.pow_succ] at hn
        omega
      rw [Nat.toDigits_of_base_le (by omega) (Nat.le_of_not_lt hdigit), List.length_append,
        ← List.append_assoc, ← ih (Nat.succ_pos _) hn']
      have hwidth (k : Nat) : width + 1 + 1 - (k + 1) = width + 1 - k := by omega
      rw [List.length_singleton, Nat.succ_eq_add_one, Nat.succ_eq_add_one, hwidth]

end Digits

end CharText
