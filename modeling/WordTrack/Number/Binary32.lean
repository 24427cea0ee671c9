import WordTrack.Number.Format

/-! Single-precision numbers. Every operation takes the exact result in units
and rounds once, so its value is determined by integer arithmetic alone. -/
namespace WordTrack

/-- A number is not-a-number, an infinity, or a sign with an order code. Both
zeros are kept apart. -/
inductive Binary32 where
  | nan
  | infinite (negative : Bool)
  | finite (negative : Bool) (code : Fin BinaryFormat.single.top)
deriving DecidableEq, Repr

namespace Binary32

def zero (negative : Bool) : Binary32 := .finite negative ⟨0, by decide⟩

instance : Inhabited Binary32 := ⟨zero false⟩

/-- The number with a sign and an order code; a code past the finite ones is an
infinity. -/
def ofCode (negative : Bool) (code : Nat) : Binary32 :=
  if h : code < BinaryFormat.single.top then .finite negative ⟨code, h⟩ else .infinite negative

/-- The number nearest to `num / den` units. -/
def ofUnits (negative : Bool) (num den : Nat) : Binary32 :=
  ofCode negative (BinaryFormat.single.encode num den)

/-- The number nearest to `num / den`. -/
def ofRatio (negative : Bool) (num den : Nat) : Binary32 :=
  ofUnits negative (num * BinaryFormat.single.one) den

def ofNat (n : Nat) : Binary32 := ofRatio false n 1

instance (n : Nat) : OfNat Binary32 n := ⟨ofNat n⟩

/-- The bit of the sign. -/
def signBit : Nat := 0x80000000

/-- The number whose encoding is `bits`. -/
def ofBits (bits : UInt32) : Binary32 :=
  let negative := decide (signBit ≤ bits.toNat)
  let code := bits.toNat % signBit
  if code ≤ BinaryFormat.single.top then ofCode negative code else .nan

/-- The encoding; every not-a-number is written as one quiet pattern. -/
def toBits : Binary32 → UInt32
  | .nan => 0x7fc00000
  | .infinite negative => UInt32.ofNat (BinaryFormat.single.top + if negative then signBit else 0)
  | .finite negative code => UInt32.ofNat (code + if negative then signBit else 0)

def isNaN : Binary32 → Bool
  | .nan => true
  | _ => false

def isFinite : Binary32 → Bool
  | .finite .. => true
  | _ => false

/-- The whole part of a nonnegative finite number, and zero for any other. -/
def toNat : Binary32 → Nat
  | .finite false code => BinaryFormat.single.units code / BinaryFormat.single.one
  | _ => 0

/-- The exact value in units of a sign and a code. -/
def signedUnits (negative : Bool) (code : Nat) : Int :=
  let size : Int := BinaryFormat.single.units code
  if negative then -size else size

/-- Position on the ordered line, the two zeros together and the infinities at
its ends. Not-a-number has none. -/
def rank : Binary32 → Option Int
  | .nan => none
  | .infinite negative => some (if negative then -BinaryFormat.single.top else BinaryFormat.single.top)
  | .finite negative code => some (if negative then -code else code)

/-- Compares two numbers; nothing holds of not-a-number. -/
def compareWith (holds : Int → Int → Bool) (a b : Binary32) : Bool :=
  match a.rank, b.rank with
  | some x, some y => holds x y
  | _, _ => false

def le (a b : Binary32) : Bool := compareWith (fun x y => decide (x ≤ y)) a b

def lt (a b : Binary32) : Bool := compareWith (fun x y => decide (x < y)) a b

/-- Numeric equality: the zeros are equal, not-a-number differs from itself. -/
def equal (a b : Binary32) : Bool := compareWith (fun x y => decide (x = y)) a b

instance : LE Binary32 := ⟨fun a b => a.le b = true⟩

instance : LT Binary32 := ⟨fun a b => a.lt b = true⟩

instance (a b : Binary32) : Decidable (a ≤ b) := inferInstanceAs (Decidable (a.le b = true))

instance (a b : Binary32) : Decidable (a < b) := inferInstanceAs (Decidable (a.lt b = true))

/-- The lesser of two numbers. A not-a-number operand is ignored, and equal
numbers give the second. -/
def min (a b : Binary32) : Binary32 :=
  if b.isNaN then a else if a < b then a else b

/-- The greater of two numbers, with the rules of `min`. -/
def max (a b : Binary32) : Binary32 :=
  if b.isNaN then a else if b < a then a else b

def neg : Binary32 → Binary32
  | .nan => .nan
  | .infinite negative => .infinite !negative
  | .finite negative code => .finite (!negative) code

/-- An exact zero sum is negative only when both operands are. -/
def add : Binary32 → Binary32 → Binary32
  | .nan, _ => .nan
  | _, .nan => .nan
  | .infinite p, .infinite q => if p = q then .infinite p else .nan
  | .infinite p, .finite .. => .infinite p
  | .finite .., .infinite q => .infinite q
  | .finite p a, .finite q b =>
    let sum := signedUnits p a + signedUnits q b
    if sum = 0 then zero (p && q) else ofUnits (decide (sum < 0)) sum.natAbs 1

def sub (a b : Binary32) : Binary32 := a.add b.neg

def mul : Binary32 → Binary32 → Binary32
  | .nan, _ => .nan
  | _, .nan => .nan
  | .infinite p, .infinite q => .infinite (p ^^ q)
  | .infinite p, .finite q b => if b.val = 0 then .nan else .infinite (p ^^ q)
  | .finite p a, .infinite q => if a.val = 0 then .nan else .infinite (p ^^ q)
  | .finite p a, .finite q b => ofCode (p ^^ q) (BinaryFormat.single.mul a b)

def div : Binary32 → Binary32 → Binary32
  | .nan, _ => .nan
  | _, .nan => .nan
  | .infinite _, .infinite _ => .nan
  | .infinite p, .finite q _ => .infinite (p ^^ q)
  | .finite p _, .infinite q => zero (p ^^ q)
  | .finite p a, .finite q b =>
    if b.val = 0 then if a.val = 0 then .nan else .infinite (p ^^ q)
    else ofCode (p ^^ q) (BinaryFormat.single.div a b)

instance : Neg Binary32 := ⟨neg⟩
instance : Add Binary32 := ⟨add⟩
instance : Sub Binary32 := ⟨sub⟩
instance : Mul Binary32 := ⟨mul⟩
instance : Div Binary32 := ⟨div⟩

end Binary32

end WordTrack
