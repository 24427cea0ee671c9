import WordTrack.Random.Generator

/-! Shuffling. Positions are drawn first, from the length alone, and then decide
where each element goes. One draw serves as many positions as its range covers. -/
namespace WordTrack

namespace Generator

/-- The longest product `m * (m + 1) * …` that fits 32 bits, and how many
factors it has past `count`. Past 32 factors of two or more none fits. -/
def span : (fuel product factor count : Nat) → Nat × Nat
  | 0, product, _, count => (product, count)
  | fuel + 1, product, factor, count =>
    if product * factor < wordRange then span fuel (product * factor) (factor + 1) (count + 1)
    else (product, count)

/-- A mixed-radix number that still holds `left` positions. -/
structure Chunk where
  value : Nat
  left : Nat

/-- A chunk that covers the positions of the sizes from `size` on. -/
def chunk (size : Nat) (g : Generator) : Chunk × Generator :=
  let (bound, count) := span 32 size (size + 1) 1
  let (value, g) := g.below bound
  (⟨value, count⟩, g)

/-- A position below each of `count` sizes from `size` on. The last position of
a chunk is what remains of it. -/
def positionsFrom : (count size : Nat) → Chunk → Generator → List Nat × Generator
  | 0, _, _, g => ([], g)
  | count + 1, size, held, g =>
    let (held, g) := if held.left = 0 then g.chunk size else (held, g)
    let position := if held.left ≤ 1 then held.value else held.value % size
    let (rest, g) := positionsFrom count (size + 1) ⟨held.value / size, held.left - 1⟩ g
    (position :: rest, g)

/-- One position below each of `1, 2, …, length`. A list too short to reorder
draws nothing. -/
def positions (length : Nat) (g : Generator) : List Nat × Generator :=
  if length ≤ 1 then (List.replicate length 0, g) else positionsFrom length 1 ⟨0, 1⟩ g

end Generator

namespace Shuffle

/-- Puts `x` at `position`; what stood there moves to the end. A position past
the end appends. -/
def place (placed : List α) (x : α) (position : Nat) : List α :=
  match placed[position]? with
  | some y => placed.set position x ++ [y]
  | none => placed ++ [x]

/-- Places the elements one by one; those without a position keep their order. -/
def arrange : (placed : List α) → List α → (positions : List Nat) → List α
  | placed, x :: xs, p :: ps => arrange (place placed x p) xs ps
  | placed, xs, _ => placed ++ xs

end Shuffle

/-- A list in the order that the generator decides. -/
def Generator.shuffle (g : Generator) (xs : List α) : List α × Generator :=
  let (positions, g) := g.positions xs.length
  (Shuffle.arrange [] xs positions, g)

end WordTrack
