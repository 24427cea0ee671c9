import WordTrack.Round.Basic

/-! Rounds as JSON. -/
namespace WordTrack.Round

/-- The values read so far. -/
structure Draft where
  target : Option String := none
  tiles : Option (List Tile) := none
  pool : Option (List Char) := none
  typed : Option (List Char) := none
  origins : Option (List Nat) := none
  accepted : Option WordSet := none
  thrown : Option (List Char) := none
  solved : Option (List Char) := none
  points : Option UInt32 := none
  score : Option UInt32 := none
  offset : Option Binary32 := none
  screenOffset : Option Binary32 := none
  velocity : Option Binary32 := none
  shove : Option Binary32 := none
  hint : Option String := none
  tag : Option HintTag := none

/-- Only the origins may be left out. -/
def Draft.finish (d : Draft) : Option Round := do
  return {
    target := ← d.target
    tiles := ← d.tiles
    pool := ← d.pool
    typed := ← d.typed
    origins := d.origins.getD []
    accepted := ← d.accepted
    thrown := ← d.thrown
    solved := ← d.solved
    points := ← d.points
    score := ← d.score
    offset := ← d.offset
    screenOffset := ← d.screenOffset
    velocity := ← d.velocity
    shove := ← d.shove
    hint := ← d.hint
    tag := ← d.tag }

def letters : Json.Reader (List Char) := Json.list Json.character

def words : Json.Reader WordSet := do return WordSet.ofList (← Json.list Json.string)

def amount : Json.Reader UInt32 := do return UInt32.ofNat (← Json.natural (twoPow 32))

def indices : Json.Reader (List Nat) := Json.list (Json.natural (twoPow 64))

def fields : List (Json.Field Draft) := [
  Json.field "text" (·.target) (fun d x => { d with target := some x }) Json.string,
  Json.field "slots" (·.tiles) (fun d x => { d with tiles := some x }) (Json.list Tile.reader),
  Json.field "available" (·.pool) (fun d x => { d with pool := some x }) letters,
  Json.field "inputs" (·.typed) (fun d x => { d with typed := some x }) letters,
  Json.field "input_origins" (·.origins) (fun d x => { d with origins := some x }) indices,
  Json.field "repeat" (·.accepted) (fun d x => { d with accepted := some x }) words,
  Json.field "outputs" (·.thrown) (fun d x => { d with thrown := some x }) letters,
  Json.field "completes" (·.solved) (fun d x => { d with solved := some x }) letters,
  Json.field "points" (·.points) (fun d x => { d with points := some x }) amount,
  Json.field "score" (·.score) (fun d x => { d with score := some x }) amount,
  Json.field "word_position" (·.offset) (fun d x => { d with offset := some x }) Json.real,
  Json.field "word_position_scaled" (·.screenOffset) (fun d x => { d with screenOffset := some x })
    Json.real,
  Json.field "word_width_per_second" (·.velocity) (fun d x => { d with velocity := some x })
    Json.real,
  Json.field "output_knockback" (·.shove) (fun d x => { d with shove := some x }) Json.real,
  Json.field "help" (·.hint) (fun d x => { d with hint := some x }) Json.string,
  Json.field "help_state" (·.tag) (fun d x => { d with tag := some x }) HintTag.reader]

def reader : Json.Reader Round := Json.record fields {} Draft.finish

def ofJson (text : String) : Except Json.Fault Round := Json.parse reader text

def lettersJson (letters : List Char) : Json.Tree := .list (letters.map fun c => .text c.toString)

def toJson (r : Round) : Json.Tree := .object [
  ("text", .text r.target),
  ("slots", .list (r.tiles.map Tile.toJson)),
  ("available", lettersJson r.pool),
  ("inputs", lettersJson r.typed),
  ("input_origins", .list (r.origins.map .natural)),
  ("repeat", .list (r.accepted.toList.map .text)),
  ("outputs", lettersJson r.thrown),
  ("completes", lettersJson r.solved),
  ("points", .natural r.points.toNat),
  ("score", .natural r.score.toNat),
  ("word_position", .real r.offset),
  ("word_position_scaled", .real r.screenOffset),
  ("word_width_per_second", .real r.velocity),
  ("output_knockback", .real r.shove),
  ("help", .text r.hint),
  ("help_state", .text r.tag.name)]

/-- A round as text, whose finite numbers `write` writes. -/
def renderWith (write : Binary32 → List Char) (r : Round) : String := r.toJson.render write

/-- A round as text that `ofJson` reads. -/
def render (r : Round) : String := r.renderWith Json.numberChars

end WordTrack.Round
