import WordTrack.Number.Binary64

/-! Powers of whole bases, by `b ^ y = 2 ^ (y * log₂ b)`. Both functions cut
their argument into a tabulated part and a small rest and take a polynomial of
the rest. Every step is rounded to double precision, the last one to single, so
the order of the operations is part of the answer. -/
namespace WordTrack

namespace Binary64

/-- A tabulated `c`: nearly `1 / c`, and the logarithm of the `c` that makes it so. -/
structure LogPoint where
  inverse : Binary64
  log : Binary64

/-- One `c` for each cell of `logStart`'s binade, near the middle of the cell. -/
def logPoints : List LogPoint := [
  ⟨ofBits 0x3ff661ec79f8f3be, ofBits 0xbfdefec65b963019⟩,
  ⟨ofBits 0x3ff571ed4aaf883d, ofBits 0xbfdb0b6832d4fca4⟩,
  ⟨ofBits 0x3ff49539f0f010b0, ofBits 0xbfd7418b0a1fb77b⟩,
  ⟨ofBits 0x3ff3c995b0b80385, ofBits 0xbfd39de91a6dcf7b⟩,
  ⟨ofBits 0x3ff30d190c8864a5, ofBits 0xbfd01d9bf3f2b631⟩,
  ⟨ofBits 0x3ff25e227b0b8ea0, ofBits 0xbfc97c1d1b3b7af0⟩,
  ⟨ofBits 0x3ff1bb4a4a1a343f, ofBits 0xbfc2f9e393af3c9f⟩,
  ⟨ofBits 0x3ff12358f08ae5ba, ofBits 0xbfb960cbbf788d5c⟩,
  ⟨ofBits 0x3ff0953f419900a7, ofBits 0xbfaa6f9db6475fce⟩,
  ⟨ofBits 0x3ff0000000000000, ofBits 0x0000000000000000⟩,
  ⟨ofBits 0x3fee608cfd9a47ac, ofBits 0x3fb338ca9f24f53d⟩,
  ⟨ofBits 0x3feca4b31f026aa0, ofBits 0x3fc476a9543891ba⟩,
  ⟨ofBits 0x3feb2036576afce6, ofBits 0x3fce840b4ac4e4d2⟩,
  ⟨ofBits 0x3fe9c2d163a1aa2d, ofBits 0x3fd40645f0c6651c⟩,
  ⟨ofBits 0x3fe886e6037841ed, ofBits 0x3fd88e9c2c1b9ff8⟩,
  ⟨ofBits 0x3fe767dcf5534862, ofBits 0x3fdce0a44eb17bcc⟩]

/-- The code of `179 / 256`, where the binade of the table starts. -/
def logStart : Nat := 0x3f330000

/-- Cells of the table that share a binade. -/
def logCells : Nat := 16

/-- The logarithm to base two of a single-precision number of `logStart` or
more. With `x = z * 2 ^ k` and `r = z / c - 1` it is `k + log₂ c + log₂ (1 + r)`,
the last of degree five in `r`. -/
def log2 (code : Nat) : Binary64 :=
  let binade := twoPow BinaryFormat.single.fractionBits
  let k := (code - logStart) / binade
  let cell := (code - logStart) % binade / (binade / logCells)
  let point := logPoints.getD cell ⟨1, 0⟩
  let r := ofSingle false (code - k * binade) * point.inverse - 1
  let square := r * r
  let high := ofBits 0x3fd27616c9496e0b * r + ofBits 0xbfd71969a075c67a
  let middle := ofBits 0x3fdec70a6ca7badd * r + ofBits 0xbfe7154748bef6c8
  let low := ofBits 0x3ff71547652ab82b * r + (point.log + ofInt k)
  high * (square * square) + (middle * square + low)

/-- The codes of `2 ^ (i / 32)`, each the nearest. -/
def expCodes : List Nat := [
  0x3ff0000000000000, 0x3ff059b0d3158574, 0x3ff0b5586cf9890f, 0x3ff11301d0125b51,
  0x3ff172b83c7d517b, 0x3ff1d4873168b9aa, 0x3ff2387a6e756238, 0x3ff29e9df51fdee1,
  0x3ff306fe0a31b715, 0x3ff371a7373aa9cb, 0x3ff3dea64c123422, 0x3ff44e086061892d,
  0x3ff4bfdad5362a27, 0x3ff5342b569d4f82, 0x3ff5ab07dd485429, 0x3ff6247eb03a5585,
  0x3ff6a09e667f3bcd, 0x3ff71f75e8ec5f74, 0x3ff7a11473eb0187, 0x3ff82589994cce13,
  0x3ff8ace5422aa0db, 0x3ff93737b0cdc5e5, 0x3ff9c49182a3f090, 0x3ffa5503b23e255d,
  0x3ffae89f995ad3ad, 0x3ffb7f76f2fb5e47, 0x3ffc199bdd85529c, 0x3ffcb720dcef9069,
  0x3ffd5818dcfba487, 0x3ffdfc97337b9b5f, 0x3ffea4afa2a490da, 0x3fff50765b6e4540]

/-- Tabulated powers in a binade. -/
def expSteps : Nat := 32

/-- How many steps of `1 / 32` come nearest, a tie going to the even count. -/
def nearestStep (x : Binary64) : Int :=
  let size : Int := roundDiv (x.units.natAbs * expSteps) BinaryFormat.double.one
  if x.units < 0 then -size else size

/-- Two to the power of a whole count of steps. -/
def expStep (n : Int) : Binary64 :=
  let code := expCodes.getD (n % expSteps).toNat 0
  ofBits (code + n / expSteps * twoPow BinaryFormat.double.fractionBits).toNat

/-- Two to a power. With `x = n / 32 + r` it is `2 ^ (n / 32) * 2 ^ r`, the
second of degree three in `r`. -/
def exp2 (x : Binary64) : Binary64 :=
  let n := x.nearestStep
  let r := x - ofUnits (n * BinaryFormat.double.one) expSteps
  let high := ofBits 0x3fac6af84b912394 * r + ofBits 0x3fcebfce50fac4f3
  let low := ofBits 0x3fe62e42ff0c52d6 * r + 1
  (high * (r * r) + low) * expStep n

/-- Above this the power of two rounds past the single-precision numbers. -/
def expOverflow : Binary64 := ofBits 0x405fffffffd1d571

/-- From this down the power of two rounds to zero. -/
def expUnderflow : Binary64 := -150

end Binary64

namespace Binary32

/-- A whole base of at least one to any power. One stays one for every exponent
and anything to a zero exponent is one. -/
def natPow (base : Nat) (exponent : Binary32) : Binary32 :=
  if base ≤ 1 then 1
  else match exponent with
    | .nan => .nan
    | .infinite negative => if negative then zero false else .infinite false
    | .finite negative code =>
      let power := Binary64.ofSingle negative code * Binary64.log2 (BinaryFormat.single.ofNat base)
      if Binary64.expOverflow < power then .infinite false
      else if power ≤ Binary64.expUnderflow then zero false
      else power.exp2.toSingle

end Binary32

end WordTrack
