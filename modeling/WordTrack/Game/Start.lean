import WordTrack.Game.Basic

/-! Starting rounds: the first one, a given one, or one some levels away. -/
namespace WordTrack

/-- The first state of a round of a level. Score, points and the last throw are
those of the round before. -/
def Round.restart (r : Round) (level : Level) (letters : List Char) (velocity : Binary32) : Round :=
  { r with
    target := level.text
    tiles := Tile.row letters
    pool := letters
    typed := []
    origins := []
    accepted := ∅
    offset := level.offset
    velocity := velocity
    hint := level.help
    tag := .none }

namespace Game

variable {σ : Type}

/-- The letters as shown, the velocity and the generator of a new round. A level
with help keeps its order and its velocity. -/
def deal (g : Game σ) (level : Level) : List Char × Binary32 × Generator :=
  let letters := level.text.toList
  if level.help.isEmpty then
    let (shuffled, generator) := g.generator.shuffle letters
    (shuffled, g.tuning.shuffledSpeed letters.length, generator)
  else (letters, level.velocity, g.generator)

variable [LevelSource σ]

/-- Starts a round; one without a word is refused and leaves the game as it was. -/
def start (g : Game σ) (level : Level) : Outcome σ (Except SetupError Unit) :=
  match level.check with
  | .error e => ⟨g, .error e, []⟩
  | .ok () =>
    let (letters, velocity, generator) := g.deal level
    let settled := settle { g with generator := generator } (g.round.restart level letters velocity)
    ⟨settled.game, .ok (), settled.events ++
      [.logged (.roundStarted (LevelSource.index g.levels) letters.length velocity)]⟩

/-- Jumps some levels, back if negative, and begins at the start of the track.
The score is lost in any case. -/
def jump (g : Game σ) (steps : Int) : Outcome σ (Except SetupError Unit) :=
  let (levels, level) := LevelSource.advance g.levels steps
  let started := start { g with levels := levels, round := { g.round with score := 0 } } level
  match started.reply with
  | .error _ => started
  | .ok () =>
    let game := started.game
    let round := { game.round with offset := 0 }
    ⟨{ game with round := round.rescale game.scale }, .ok (), started.events ++
      [.logged (.levelJumped steps (LevelSource.index game.levels))]⟩

/-- Goes on to the next level. One that cannot start is reported, and the round
stays. -/
def startNext (g : Game σ) : Outcome σ Unit :=
  let (levels, level) := LevelSource.advance g.levels 1
  let started := start { g with levels := levels } level
  match started.reply with
  | .ok () => ⟨started.game, (), started.events⟩
  | .error e => ⟨started.game, (), [.logged (.levelRefused (LevelSource.index levels) e)]⟩

/-- A game before its first round. -/
def idle (tuning : Tuning) (levels : σ) (lexicon : String → Bool) (seed : UInt64) : Game σ where
  tuning := tuning
  levels := levels
  lexicon := lexicon
  seed := seed
  generator := Generator.ofSeed seed
  round := .blank
  scale := 1
  clock := 0
  listener := none

/-- A game in the round of its current level, with what starting it told. -/
def create (tuning : Tuning) (levels : σ) (lexicon : String → Bool) (seed : UInt64) :
    Except SetupError (Game σ × List Event) := do
  tuning.check
  let started := (idle tuning levels lexicon seed).start (LevelSource.current levels)
  started.reply
  return (started.game, started.events)

end Game

end WordTrack
