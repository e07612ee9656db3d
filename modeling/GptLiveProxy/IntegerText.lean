import GptLiveProxy.CharText

/-!
# Parsing unsigned integers with their errors

The `FromStr` of an unsigned integer type reads an optional plus sign and at least one digit, and
stops at the first character that is no digit or that takes the value past the largest one.
-/

namespace CharText

inductive IntError
  | empty
  | invalidDigit
  | posOverflow
deriving DecidableEq

def IntError.text : IntError → String
  | empty => "cannot parse integer from empty string"
  | invalidDigit => "invalid digit found in string"
  | posOverflow => "number too large to fit in target type"

def parseDigits (max acc : Nat) : Text → Except IntError Nat
  | [] => .ok acc
  | c :: t =>
    if !isAsciiDigit c then .error .invalidDigit
    else
      let next := acc * 10 + (c.toNat - '0'.toNat)
      if next > max then .error .posOverflow else parseDigits max next t

def parseInt (max : Nat) : Text → Except IntError Nat
  | [] => .error .empty
  | ['+'] => .error .invalidDigit
  | '+' :: digits => parseDigits max 0 digits
  | digits => parseDigits max 0 digits

end CharText
