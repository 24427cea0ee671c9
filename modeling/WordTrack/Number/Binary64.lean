import WordTrack.Number.Binary32

/-! Double-precision intermediates. A value is its signed count of units, and a
sum or a product is the exact one rounded once to the double-precision grid.
Only finite work is done here, so values have one zero and no upper end. -/
namespace WordTrack

/-- A value by its signed count of units `2 ^ -1074`. -/
structure Binary64 where
  units : Int
deriving DecidableEq, Repr

namespace Binary64

/-- The value nearest to `num / den` units. -/
def ofUnits (num : Int) (den : Nat) : Binary64 :=
  let size : Int := BinaryFormat.double.units (BinaryFormat.double.encode num.natAbs den)
  ⟨if num < 0 then -size else size⟩

def ofInt (n : Int) : Binary64 := ofUnits (n * BinaryFormat.double.one) 1

instance (n : Nat) : OfNat Binary64 n := ⟨ofInt n⟩

/-- The bit of the sign. -/
def signBit : Nat := 0x8000000000000000

/-- The value whose encoding is `bits`. -/
def ofBits (bits : Nat) : Binary64 :=
  let size : Int := BinaryFormat.double.units (bits % signBit)
  ⟨if signBit ≤ bits then -size else size⟩

/-- The single-precision number of a sign and an order code, which is exact in
double precision. -/
def ofSingle (negative : Bool) (code : Nat) : Binary64 :=
  let spacing := twoPow (BinaryFormat.double.unitExponent - BinaryFormat.single.unitExponent)
  ⟨Binary32.signedUnits negative code * spacing⟩

/-- The nearest single-precision number. -/
def toSingle (a : Binary64) : Binary32 :=
  Binary32.ofRatio (decide (a.units < 0)) a.units.natAbs BinaryFormat.double.one

def neg (a : Binary64) : Binary64 := ⟨-a.units⟩

def add (a b : Binary64) : Binary64 := ofUnits (a.units + b.units) 1

def sub (a b : Binary64) : Binary64 := a.add b.neg

def mul (a b : Binary64) : Binary64 := ofUnits (a.units * b.units) BinaryFormat.double.one

instance : Neg Binary64 := ⟨neg⟩
instance : Add Binary64 := ⟨add⟩
instance : Sub Binary64 := ⟨sub⟩
instance : Mul Binary64 := ⟨mul⟩

instance : LE Binary64 := ⟨fun a b => a.units ≤ b.units⟩

instance : LT Binary64 := ⟨fun a b => a.units < b.units⟩

instance (a b : Binary64) : Decidable (a ≤ b) := inferInstanceAs (Decidable (a.units ≤ b.units))

instance (a b : Binary64) : Decidable (a < b) := inferInstanceAs (Decidable (a.units < b.units))

end Binary64

end WordTrack
