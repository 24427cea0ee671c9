import WordTrack.Event
import WordTrack.Round.Hint
import WordTrack.Round.Tile
import WordTrack.Round.WordSet

/-! The live round: a word drifting along the track and the letters typed of it. -/
namespace WordTrack

structure Round where
  /-- The word to solve. -/
  target : String
  /-- Its letters as shown. -/
  tiles : List Tile
  /-- Letters not typed yet in this attempt. -/
  pool : List Char
  /-- Letters typed in this attempt, in order. -/
  typed : List Char
  /-- Where in the pool each typed letter was taken. -/
  origins : List Nat
  /-- Words accepted in this round. -/
  accepted : WordSet
  /-- Letters of the last submission. -/
  thrown : List Char
  /-- Letters of the last solved word. -/
  solved : List Char
  /-- Points of the last accepted word. -/
  points : UInt32
  score : UInt32
  /-- How far the word has drifted, zero or negative, in design units. -/
  offset : Binary32
  /-- The offset on the screen. -/
  screenOffset : Binary32
  /-- Track widths per second. -/
  velocity : Binary32
  /-- Distance by which the thrown word will shove the drifting one. -/
  shove : Binary32
  hint : String
  tag : HintTag
deriving DecidableEq, Repr

namespace Round

/-- Before the first word. -/
def blank : Round where
  target := ""
  tiles := []
  pool := []
  typed := []
  origins := []
  accepted := ∅
  thrown := []
  solved := []
  points := 0
  score := 0
  offset := 0
  screenOffset := 0
  velocity := 0
  shove := 0
  hint := ""
  tag := .none

instance : Inhabited Round := ⟨blank⟩

/-- The letters in the order shown. -/
def word (r : Round) : List Char := Tile.letters r.tiles

/-- The letters as drawn. -/
def display (r : Round) : List Char := r.tiles.map Tile.display

/-- What is typed so far. -/
def candidate (r : Round) : String := String.ofList r.typed

def letterCount (r : Round) : Nat := r.tiles.length

def isOver (r : Round) : Bool := r.tag == .gameOver

/-- Ends the attempt: nothing is typed and every letter is in the pool. -/
def clearAttempt (r : Round) : Round :=
  { r with typed := [], origins := [], pool := r.word, tiles := Tile.row r.word }

/-- Brings the screen offset up to date. -/
def rescale (scale : Binary32) (r : Round) : Round := { r with screenOffset := r.offset * scale }

/-- Flags a word at the floor as game over. -/
def flag (floor : Binary32) (r : Round) : Round :=
  if r.offset ≤ floor then { r with hint := Hint.gameOver, tag := .gameOver } else r

/-- Keeps the word between the floor and the start of the track; a word that has
reached the floor is flagged. -/
def settle (floor scale : Binary32) (r : Round) : Round :=
  rescale scale { r.flag floor with offset := (r.offset.min 0).max floor }

/-- The notice due when settling flags a word for the first time. -/
def boundaryEvents (floor : Binary32) (r : Round) : List Event :=
  if r.offset ≤ floor ∧ r.tag ≠ .gameOver then [.logged .boundaryReached] else []

/-- Whether a thrown word is about to shove. -/
def mayShove (r : Round) : Bool := decide (0 < r.shove) && !r.thrown.isEmpty

end Round

end WordTrack
