import WordTrack.Game.Basic

/-! Drift: the word moves by its velocity and never leaves the track. Reaching
the floor raises the game-over hint and stops nothing. -/
namespace WordTrack.Game

variable {σ : Type}

/-- Lets the word drift for some seconds. -/
def tick (g : Game σ) (seconds : Binary32) : Outcome σ Unit :=
  let r := g.round
  g.settle { r with offset := r.offset + seconds * g.tuning.trackWidth * r.velocity }

/-- Seconds between two clock readings; a clock set back counts as standing. -/
def elapsed (before after : Nat) : Binary32 := Binary32.ofNat (after - before) / 1000

/-- Lets the word drift up to a clock reading. -/
def tickTo (g : Game σ) (clock : Nat) : Outcome σ Unit :=
  tick { g with clock := clock } (elapsed g.clock clock)

/-- Fits the track to a screen. -/
def fitScreen (g : Game σ) (width : Binary32) : Game σ :=
  let scale := width / g.tuning.trackWidth
  { g with scale := scale, round := g.round.rescale scale }

end WordTrack.Game
