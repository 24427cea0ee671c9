import WordTrack.Game.Basic
import WordTrack.Text.Outline

/-! A game in one line, for diagnostics. Levels and lexicon are left out. -/
namespace WordTrack

open Text

def describeBool (b : Bool) : String := if b then "true" else "false"

def describeLetters (letters : List Char) : String := outlineList (letters.map quotedChar)

def Tile.describe (t : Tile) : String :=
  outlineRecord "Slot" [("letter", quotedChar t.letter), ("selected", describeBool t.selected)]

def HintTag.describe : HintTag → String
  | .none => "None"
  | .gameOver => "GameOver"
  | .repeated => "Repeat"

def Tuning.describe (t : Tuning) : String :=
  outlineRecord "Settings" [
    ("track_width", t.trackWidth.shortest),
    ("word_width", t.wordWidth.shortest),
    ("letter_max", t.letterMax.repr),
    ("base_speed", t.baseSpeed.shortest),
    ("speed_power", t.speedPower.shortest),
    ("knockback_per_length", t.letterShove.shortest),
    ("complete_knockback_multiplier", t.solvedFactor.shortest),
    ("repeat_help_max_level", t.repeatHintLevel.repr)]

def Round.describe (r : Round) : String :=
  outlineRecord "Round" [
    ("text", quoted r.target),
    ("slots", outlineList (r.tiles.map Tile.describe)),
    ("available", describeLetters r.pool),
    ("inputs", describeLetters r.typed),
    ("input_origins", outlineList (r.origins.map Nat.repr)),
    ("repeat", outlineSet (r.accepted.toList.map quoted)),
    ("outputs", describeLetters r.thrown),
    ("completes", describeLetters r.solved),
    ("points", r.points.toNat.repr),
    ("score", r.score.toNat.repr),
    ("word_position", r.offset.shortest),
    ("word_position_scaled", r.screenOffset.shortest),
    ("word_width_per_second", r.velocity.shortest),
    ("output_knockback", r.shove.shortest),
    ("help", quoted r.hint),
    ("help_state", r.tag.describe)]

def describeSeed (seed : UInt64) : String := outlineRecord "RngState" [("seed", seed.toNat.repr)]

def Game.describe {σ : Type} (g : Game σ) : String :=
  outlinePartly "RoundEngine" [
    ("settings", g.tuning.describe),
    ("rng_state", describeSeed g.seed),
    ("round", g.round.describe),
    ("scale", g.scale.shortest),
    ("previous_ms", g.clock.repr),
    ("on_complete", describeBool g.listener.isSome)]

end WordTrack
