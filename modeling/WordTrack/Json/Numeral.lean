import WordTrack.Json.Reader
import WordTrack.Number.Decimal

/-! Numerals. Whole numbers of 64 bits are kept exactly. Every other numeral
becomes a double: its leading digits that fit 64 bits are scaled by a power of
ten, each step rounded. -/
namespace WordTrack.Json

/-- A nonnegative whole number, a negative one by its size, or a double by sign
and order code. -/
inductive Numeral where
  | natural (n : Nat)
  | negative (n : Nat)
  | real (negative : Bool) (code : Nat)
deriving DecidableEq, Repr

namespace Numeral

/-- The largest coefficient a numeral keeps. -/
def coefficientMax : Nat := twoPow 64 - 1

/-- The largest exponent that is read as a number. -/
def exponentMax : Nat := twoPow 31 - 1

/-- The largest power of ten among doubles. -/
def powerMax : Nat := 308

def digitValue (c : Char) : Nat := c.toNat - '0'.toNat

/-- Appends digits as long as the coefficient fits; the rest is left over. -/
def absorb (coefficient : Nat) : List Char → Nat × List Char
  | [] => (coefficient, [])
  | c :: rest =>
    let longer := coefficient * 10 + digitValue c
    if longer ≤ coefficientMax then absorb longer rest else (coefficient, c :: rest)

/-- A double scaled by a power of ten. A small result is reached by dividing
more than once; three divisions take any coefficient to zero. -/
def scale : (fuel code : Nat) → (exponent : Int) → Except Fault Nat
  | 0, _, _ => .ok 0
  | fuel + 1, code, exponent =>
    let format := BinaryFormat.double
    if exponent.natAbs ≤ powerMax then
      let power := format.ofNat (tenPow exponent.natAbs)
      if exponent < 0 then .ok (format.div code power)
      else
        let product := format.mul code power
        if product < format.top then .ok product else .error .malformed
    else if code = 0 then .ok 0
    else if 0 ≤ exponent then .error .malformed
    else scale fuel (format.div code (format.ofNat (tenPow powerMax))) (exponent + powerMax)

/-- The double of a coefficient and a power of ten. -/
def ofDecimal (d : Decimal) : Except Fault Nat :=
  scale 3 (BinaryFormat.double.ofNat d.coefficient) d.exponent

/-- A whole numeral. A negative zero, or one below the 64-bit integers, is a
double. -/
def ofWhole (negative : Bool) (n : Nat) : Numeral :=
  if !negative then .natural n
  else if 0 < n ∧ n ≤ twoPow 63 then .negative n
  else .real true (BinaryFormat.double.ofNat n)

/-- The nearest single-precision number. -/
def toBinary32 : Numeral → Binary32
  | .natural n => Binary32.ofNat n
  | .negative n => -Binary32.ofNat n
  | .real minus code =>
    Binary32.ofRatio minus (BinaryFormat.double.units code) BinaryFormat.double.one

end Numeral

/-- At least one digit. -/
def digits1 : Reader (List Char) := do
  match ← look with
  | none => throw .truncated
  | some c => if c.isDigit then takeRun Char.isDigit else throw .malformed

/-- The digits of a whole part: a leading zero stands alone. -/
def wholeDigits : Reader (List Char) := do
  let ds ← digits1
  if ds.head? = some '0' ∧ 1 < ds.length then throw .malformed else return ds

/-- The decimal digits after a point, if there is one. -/
def fractionDigits : Reader (Option (List Char)) := do
  if (← look) = some '.' then
    drop
    return some (← digits1)
  else return none

/-- The power of ten after its mark, if there is one, as sign and digits. -/
def exponentDigits : Reader (Option (Bool × List Char)) := do
  match ← look with
  | some 'e' | some 'E' =>
    drop
    let sign ← look
    if sign = some '+' ∨ sign = some '-' then drop
    return some (decide (sign = some '-'), ← digits1)
  | _ => return none

/-- The double of a numeral with a fraction, a power of ten or too many digits.
An exponent past all bounds is an overflow, or zero. -/
def Numeral.ofParts (coefficient : Nat) (exponent : Int) :
    Option (Bool × List Char) → Except Fault Nat
  | none => ofDecimal ⟨coefficient, exponent⟩
  | some (down, ds) =>
    let size := ds.foldl (fun n c => n * 10 + digitValue c) 0
    if exponentMax < size then
      if coefficient = 0 ∨ down then .ok 0 else .error .malformed
    else ofDecimal ⟨coefficient, if down then exponent - size else exponent + size⟩

/-- A numeral without its sign. -/
def unsignedNumeral (negative : Bool) : Reader Numeral := do
  let (coefficient, left) := Numeral.absorb 0 (← wholeDigits)
  let fraction ← fractionDigits
  let power ← exponentDigits
  if left.isEmpty ∧ fraction.isNone ∧ power.isNone then
    return Numeral.ofWhole negative coefficient
  let ds := fraction.getD []
  let (coefficient, dropped) := Numeral.absorb coefficient ds
  let exponent : Int := left.length - (ds.length - dropped.length : Nat)
  return .real negative (← Numeral.ofParts coefficient exponent power)

/-- A numeral at the front of the text. -/
def numeral : Reader Numeral := do
  if (← look) = some '-' then
    drop
    unsignedNumeral true
  else unsignedNumeral false

end WordTrack.Json
