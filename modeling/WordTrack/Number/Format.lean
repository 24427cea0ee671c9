/-! Binary floating-point formats by order code. A nonnegative finite value is
named by the bits of its encoding without the sign. Codes are ordered as their
values are, every value is a whole number of the format's least unit, and
rounding works on exact quotients of units. -/
namespace WordTrack

def twoPow (n : Nat) : Nat := Nat.pow 2 n

def tenPow (n : Nat) : Nat := Nat.pow 10 n

/-- The quotient rounded to nearest, a tie going to the even neighbour. -/
def roundDiv (num den : Nat) : Nat :=
  let quotient := num / den
  let excess := 2 * (num % den)
  if excess < den then quotient
  else if den < excess then quotient + 1
  else quotient + quotient % 2

/-- A format stores `fractionBits` bits of significand, measures in units of
`2 ^ -unitExponent` and has its finite values at the codes below `top`. -/
structure BinaryFormat where
  fractionBits : Nat
  unitExponent : Nat
  top : Nat

namespace BinaryFormat

def single : BinaryFormat := ⟨23, 149, 0x7f800000⟩

def double : BinaryFormat := ⟨52, 1074, 0x7ff0000000000000⟩

/-- How many units make one. -/
def one (f : BinaryFormat) : Nat := twoPow f.unitExponent

/-- The value of a code, in units. Codes of the first two binades are their own
value; each later binade doubles the spacing. -/
def units (f : BinaryFormat) (code : Nat) : Nat :=
  let binade := code / twoPow f.fractionBits - 1
  (code - binade * twoPow f.fractionBits) * twoPow binade

/-- The code nearest to `num / den` units, a tie going to the even code. An
answer of `top` or more is an overflow. -/
def encode (f : BinaryFormat) (num den : Nat) : Nat :=
  let binade := (num / den).log2 - f.fractionBits
  binade * twoPow f.fractionBits + roundDiv num (den * twoPow binade)

/-- The code nearest to a product. -/
def mul (f : BinaryFormat) (a b : Nat) : Nat := f.encode (f.units a * f.units b) f.one

/-- The code nearest to a quotient. -/
def div (f : BinaryFormat) (a b : Nat) : Nat := f.encode (f.units a * f.one) (f.units b)

/-- The code nearest to a whole number. -/
def ofNat (f : BinaryFormat) (n : Nat) : Nat := f.encode (n * f.one) 1

end BinaryFormat

end WordTrack
