/-! A permuted congruential generator: a 64-bit linear recurrence whose high
bits choose how far a 32-bit digest of the state is rotated. -/
namespace WordTrack

/-- The recurrence is `state * multiplier + increment`. -/
structure Generator where
  state : UInt64
  increment : UInt64
deriving DecidableEq, Repr

namespace Generator

def multiplier : UInt64 := 6364136223846793005

/-- The increment of the recurrence that spreads a seed. -/
def seedIncrement : UInt64 := 11634580027462260723

def rotateRight (x amount : UInt32) : UInt32 := (x >>> amount) ||| (x <<< (32 - amount))

/-- The word drawn from a state. -/
def digest (state : UInt64) : UInt32 :=
  rotateRight (((state >>> 18) ^^^ state) >>> 27).toUInt32 (state >>> 59).toUInt32

/-- The first `count` words of the seed recurrence. -/
def seedWords : (count : Nat) → UInt64 → List UInt32
  | 0, _ => []
  | count + 1, seed =>
    let next := seed * multiplier + seedIncrement
    digest next :: seedWords count next

/-- Little-endian join of two words. -/
def join (low high : UInt32) : UInt64 := low.toUInt64 ||| (high.toUInt64 <<< 32)

/-- State and increment come from four seed words; the increment is made odd
and the state takes one step. -/
def ofSeed (seed : UInt64) : Generator :=
  match seedWords 4 seed with
  | [a, b, c, d] =>
    let increment := join c d ||| 1
    ⟨(join a b + increment) * multiplier + increment, increment⟩
  | _ => ⟨0, 1⟩

def next (g : Generator) : UInt32 × Generator :=
  (digest g.state, { g with state := g.state * multiplier + g.increment })

/-- The next `count` words. -/
def take : (count : Nat) → Generator → List UInt32
  | 0, _ => []
  | count + 1, g => g.next.1 :: take count g.next.2

/-- How many values a word has. -/
def wordRange : Nat := 0x100000000

/-- A number below `bound`: the high word of a draw scaled by the bound. When
the low word leaves room for a carry, a second draw decides it. -/
def below (bound : Nat) (g : Generator) : Nat × Generator :=
  let (word, g) := g.next
  let product := word.toNat * bound
  let high := product / wordRange
  let low := product % wordRange
  if low ≤ wordRange - bound then (high, g)
  else
    let (word, g) := g.next
    if wordRange ≤ low + word.toNat * bound / wordRange then (high + 1, g) else (high, g)

end Generator

end WordTrack
