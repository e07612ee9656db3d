import GptLiveProxy.LossyUtf8
import GptLiveProxy.Outcome
import Mathlib.Algebra.Group.Int.Defs
import Mathlib.Algebra.Group.Nat.Defs

/-!
# Frame records

A record of the frame log holds the time, the direction and the kind of a frame, its length, and
where its text is first corrupt. The arithmetic of the time is that of the machine integers: `i64`
and `u64` panic outside their range, and the casts wrap.
-/

namespace GptLiveProxy
open CharText

inductive Direction
  | clientToUpstream
  | upstreamToClient
deriving DecidableEq

def Direction.asStr : Direction → Text
  | clientToUpstream => "c2u".toList
  | upstreamToClient => "u2c".toList

inductive FrameKind
  | text
  | binary
deriving DecidableEq

def FrameKind.asStr : FrameKind → Text
  | text => "text".toList
  | binary => "binary".toList

structure FrameRecord where
  ts : Text
  dir : Text
  kind : Text
  bytes : Nat
  fffd : Bool
  faultByteOffset : Option Nat
deriving DecidableEq

/-- A `Duration` since the Unix epoch, in whole milliseconds. -/
structure SinceEpoch where
  secs : Nat
  millis : Nat
  secs_lt : secs < 2 ^ 64
  millis_lt : millis < 1000

section MachineIntegers

/-- The result of an operation on `i64`. -/
def i64 (n : Int) : Outcome Empty Int := if -2 ^ 63 ≤ n ∧ n < 2 ^ 63 then .ok n else .panicked

/-- The result of an operation on `u64`. -/
def u64 (n : Int) : Outcome Empty Nat := if 0 ≤ n ∧ n < 2 ^ 64 then .ok n.toNat else .panicked

def asI64 (n : Nat) : Int := (n : Int).bmod (2 ^ 64)

def asU64 (n : Int) : Nat := (n % 2 ^ 64).toNat

def asU32 (n : Nat) : Nat := n % 2 ^ 32

/-- The decimal digits of the number, padded with zeros as `format!` pads them. -/
def zeroPadded (width : Nat) (n : Int) : Text :=
  let digits := Nat.toDigits 10 n.natAbs
  if n < 0 then '-' :: (List.replicate (width - 1 - digits.length) '0' ++ digits)
  else List.replicate (width - digits.length) '0' ++ digits

end MachineIntegers

section Timestamps

/-- The year, the month, and the day of a number of days since the Unix epoch. -/
def civilFromDays (days : Int) : Outcome Empty (Int × Nat × Nat) := do
  let z ← i64 (days + 719468)
  let shifted ← (if 0 ≤ z then .ok z else i64 (z - 146096))
  let era := shifted.tdiv 146097
  let eraStart ← i64 (era * 146097)
  let doe := asU64 (← i64 (z - eraStart))
  let corrected ← u64 ((doe : Int) - ↑(doe / 1460))
  let corrected ← u64 ((corrected : Int) + ↑(doe / 36524))
  let corrected ← u64 ((corrected : Int) - ↑(doe / 146096))
  let yoe := corrected / 365
  let eraYears ← i64 (era * 400)
  let y ← i64 (asI64 yoe + eraYears)
  let yearStart ← u64 (365 * (yoe : Int))
  let yearStart ← u64 ((yearStart : Int) + ↑(yoe / 4))
  let yearStart ← u64 ((yearStart : Int) - ↑(yoe / 100))
  let doy ← u64 ((doe : Int) - yearStart)
  let scaled ← u64 (5 * (doy : Int))
  let scaled ← u64 ((scaled : Int) + 2)
  let mp := scaled / 153
  let monthStart ← u64 (153 * (mp : Int))
  let monthStart ← u64 ((monthStart : Int) + 2)
  let d ← u64 ((doy : Int) - ↑(monthStart / 5))
  let d ← u64 ((d : Int) + 1)
  let m ← (if mp < 10 then u64 ((mp : Int) + 3) else u64 ((mp : Int) - 9))
  let year ← (if asU32 m ≤ 2 then i64 (y + 1) else .ok y)
  return (year, asU32 m, asU32 d)

def timestamp (now : SinceEpoch) : Outcome Empty Text := do
  let days := now.secs / 86400
  let rem := now.secs % 86400
  let (year, month, day) ← civilFromDays (asI64 days)
  return zeroPadded 4 year ++ '-' :: (zeroPadded 2 month ++ '-' :: (zeroPadded 2 day ++ 'T' ::
    (zeroPadded 2 ↑(rem / 3600) ++ ':' :: (zeroPadded 2 ↑(rem % 3600 / 60) ++ ':' ::
      (zeroPadded 2 ↑(rem % 60) ++ '.' :: (zeroPadded 3 now.millis ++ ['Z']))))))

end Timestamps

section Records

/-- The position of the first literal replacement character or malformed sequence. -/
def firstFaultByte (bytes : List UInt8) : Option Nat :=
  match fromUtf8 bytes with
  | .ok text => findChar REPLACEMENT text
  | .error invalidAt =>
    let validPrefix := match fromUtf8 (bytes.take invalidAt) with
      | .ok text => text
      | .error _ => []
    (findChar REPLACEMENT validPrefix).or (some invalidAt)

def textRecord (now : SinceEpoch) (dir : Direction) (text : Text) : Outcome Empty FrameRecord := do
  let faultByteOffset := findChar REPLACEMENT text
  let ts ← timestamp now
  return ⟨ts, dir.asStr, FrameKind.text.asStr, byteLen text, faultByteOffset.isSome, faultByteOffset⟩

def binaryRecord (now : SinceEpoch) (dir : Direction) (bytes : List UInt8) :
    Outcome Empty FrameRecord := do
  let faultByteOffset := firstFaultByte bytes
  let ts ← timestamp now
  return ⟨ts, dir.asStr, FrameKind.binary.asStr, bytes.length, faultByteOffset.isSome, faultByteOffset⟩

end Records

end GptLiveProxy
