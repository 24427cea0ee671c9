import WordTrack.Game.Basic

/-! Shoves: a thrown word that reaches the drifting one pushes it back and
shuffles its letters. Letters that are being typed stay marked. -/
namespace WordTrack.Game

variable {σ : Type}

/-- Shuffles the letters shown and marks those that are typed. -/
def reshuffle (g : Game σ) : Game σ :=
  let (letters, generator) := g.generator.shuffle g.round.word
  let tiles := Tile.selectAll g.round.typed (Tile.row letters)
  { g with generator := generator, round := { g.round with tiles := tiles } }

/-- Applies the shove of the thrown word, if there is one. -/
def hit (g : Game σ) : Outcome σ Bool :=
  if g.round.mayShove then
    let settled := g.settle { g.round with offset := g.round.offset + g.round.shove }
    let game := settled.game.reshuffle
    ⟨{ game with round := { game.round with shove := 0 } }, true,
      settled.events ++ [.logged (.shoved game.round.offset)]⟩
  else ⟨g, false, []⟩

end WordTrack.Game
