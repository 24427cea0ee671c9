import WordTrack.Number.Binary32

/-! Decimal text of single-precision numbers: a fixed number of places, or the
fewest digits that read back as the same number. -/
namespace WordTrack

/-- The number `coefficient * 10 ^ exponent`. -/
structure Decimal where
  coefficient : Nat
  exponent : Int
deriving DecidableEq, Repr

namespace Decimal

/-- Decimal digits of a natural number. -/
def digits (n : Nat) : String := n.repr

/-- How many digits follow the leading one of a whole number. -/
def wholePlaces : (fuel n : Nat) → Nat
  | 0, _ => 0
  | fuel + 1, n => if n < 10 then 0 else wholePlaces fuel (n / 10) + 1

/-- How many decimal places stand up to the first digit of a proper fraction. -/
def leadingPlaces : (fuel num den : Nat) → Nat
  | 0, _, _ => 0
  | fuel + 1, num, den => if den ≤ num then 0 else leadingPlaces fuel (10 * num) den + 1

/-- The exponent of the leading digit of a positive quotient. Steps of ten take
no more rounds than the number has bits. -/
def leadingExponent (num den : Nat) : Int :=
  if den ≤ num then (wholePlaces ((num / den).log2 + 1) (num / den) : Int)
  else -(leadingPlaces (den.log2 + 1) num den : Int)

/-- The value as a quotient. -/
def quotient (d : Decimal) : Nat × Nat :=
  if d.exponent < 0 then (d.coefficient, tenPow d.exponent.natAbs)
  else (d.coefficient * tenPow d.exponent.natAbs, 1)

/-- The two neighbours of `num / den` on the grid of `count` significant digits,
the nearer first. Of two equally near ones the upper is first if `up` holds of the
digits of the lower. -/
def neighbours (up : Nat → Bool) (num den count : Nat) : List Decimal :=
  let exponent := leadingExponent num den - count + 1
  let (n, d) := if exponent < 0 then (num * tenPow exponent.natAbs, den)
    else (num, den * tenPow exponent.natAbs)
  let below : Decimal := ⟨n / d, exponent⟩
  let above : Decimal :=
    if n / d + 1 = tenPow count then ⟨1, exponent + count⟩ else ⟨n / d + 1, exponent⟩
  let excess := 2 * (n % d)
  if excess < d ∨ (excess = d ∧ up (n / d) = false) then [below, above] else [above, below]

/-- Digits that always suffice for a single-precision number. -/
def enough : Nat := 9

/-- The decimal of fewest digits accepted by `readsBack`, and of those the
nearest to `num / den`. Without any, the nearest of `enough` digits. -/
def shortest (up : Nat → Bool) (readsBack : Decimal → Bool) (num den : Nat) : Decimal :=
  let candidates := (List.range enough).flatMap fun n => neighbours up num den (n + 1)
  match candidates.find? readsBack with
  | some d => d
  | none => (neighbours up num den enough).headD ⟨0, 0⟩

/-- Text without an exponent and with at least one place. -/
def positional (d : Decimal) : List Char :=
  let text := (digits d.coefficient).toList
  let places := (-d.exponent).toNat
  if places = 0 then text ++ List.replicate d.exponent.toNat '0' ++ ['.', '0']
  else
    let padded := List.replicate (places + 1 - text.length) '0' ++ text
    let cut := padded.length - places
    padded.take cut ++ '.' :: padded.drop cut

/-- The exponent of the leading digit. -/
def lead (d : Decimal) : Int := d.exponent + (digits d.coefficient).length - 1

/-- Text with one digit before the point and a power of ten. -/
def scientific (d : Decimal) : List Char :=
  let text := (digits d.coefficient).toList
  let tail := ((text.drop 1).reverse.dropWhile (· == '0')).reverse
  text.take 1 ++ (if tail.isEmpty then [] else '.' :: tail) ++
    'e' :: (if d.lead < 0 then ['-'] else []) ++ (digits d.lead.natAbs).toList

end Decimal

namespace Binary32

/-- A sign for negative numbers, zero included, before the text of the size. -/
def signed (negative : Bool) (text : String) : String := if negative then "-" ++ text else text

/-- Text with exactly `places` decimal places, a half going to the even digit. -/
def fixed (places : Nat) : Binary32 → String
  | .nan => "NaN"
  | .infinite negative => signed negative "inf"
  | .finite negative code =>
    let scaled := roundDiv (BinaryFormat.single.units code * tenPow places) BinaryFormat.single.one
    let whole := Decimal.digits (scaled / tenPow places)
    let part := Decimal.digits (scaled % tenPow places)
    let point := if places = 0 then "" else "." ++ "".pushn '0' (places - part.length) ++ part
    signed negative (whole ++ point)

/-- Whether a decimal rounds to the finite number of this code. -/
def reads (code : Nat) (d : Decimal) : Bool :=
  let (num, den) := d.quotient
  BinaryFormat.single.encode (num * BinaryFormat.single.one) den == code

/-- How numbers are laid out. -/
structure Layout where
  /-- Whether of two equally near decimals the upper is taken, by the digits of the lower. -/
  up : Nat → Bool
  /-- Whether a number is written without a power of ten, by its code and its decimal. -/
  plain : Nat → Decimal → Bool

/-- A finite number by the fewest digits that read back. -/
def laidOut (layout : Layout) (negative : Bool) (code : Nat) : List Char :=
  let size :=
    if code = 0 then ['0', '.', '0']
    else
      let d := Decimal.shortest layout.up (reads code) (BinaryFormat.single.units code)
        BinaryFormat.single.one
      if layout.plain code d then d.positional else d.scientific
  (if negative then ['-'] else []) ++ size

/-- Numbers of this code and above, and below the other, are written without a
power of ten. -/
def positionalFrom : Nat := BinaryFormat.single.encode BinaryFormat.single.one (tenPow 4)

def positionalBelow : Nat := BinaryFormat.single.ofNat (tenPow 16)

/-- The fewest digits that read back. -/
def shortest : Binary32 → String
  | .nan => "NaN"
  | .infinite negative => signed negative "inf"
  | .finite negative code =>
    let layout : Layout := ⟨fun _ => true, fun code _ => positionalFrom ≤ code ∧ code < positionalBelow⟩
    String.ofList (laidOut layout negative code)

end Binary32

end WordTrack
