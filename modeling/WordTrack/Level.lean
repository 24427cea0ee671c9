import WordTrack.Event
import WordTrack.Json.Record
import WordTrack.Json.Tree

/-! Levels: the words to solve and how their rounds begin. -/
namespace WordTrack

structure Level where
  /-- The word to solve. -/
  text : String
  /-- Instruction shown with the word; a word with help is not shuffled. -/
  help : String
  /-- Track widths per second; shuffled words follow the speed curve instead. -/
  velocity : Binary32
  /-- Where the word begins. -/
  offset : Binary32
deriving DecidableEq, Repr

namespace Level

def standardVelocity : Binary32 := Binary32.ofRatio true 1 100

def ofText (text : String) : Level := ⟨text, "", standardVelocity, 0⟩

/-- Equal in every value, zeros of either sign being equal. -/
def same (a b : Level) : Bool :=
  a.text == b.text && a.help == b.help && a.velocity.equal b.velocity && a.offset.equal b.offset

def letterCount (l : Level) : Nat := l.text.length

/-- A level can be played if it has a word. -/
def Playable (l : Level) : Prop := l.text ≠ ""

instance (l : Level) : Decidable l.Playable := inferInstanceAs (Decidable (l.text ≠ ""))

def check (l : Level) : Except SetupError Unit :=
  if l.Playable then .ok () else .error .emptyText

/-- The values read so far. -/
structure Draft where
  text : Option String := none
  help : Option String := none
  velocity : Option Binary32 := none
  offset : Option Binary32 := none

/-- Only the word has to be given. -/
def Draft.finish (d : Draft) : Option Level :=
  d.text.map fun text =>
    ⟨text, d.help.getD "", d.velocity.getD standardVelocity, d.offset.getD 0⟩

def fields : List (Json.Field Draft) := [
  Json.field "text" (·.text) (fun d s => { d with text := some s }) Json.string,
  Json.field "help" (·.help) (fun d s => { d with help := some s }) Json.string,
  Json.field "wordWidthPerSecond" (·.velocity) (fun d x => { d with velocity := some x }) Json.real,
  Json.field "wordPosition" (·.offset) (fun d x => { d with offset := some x }) Json.real]

def reader : Json.Reader Level := Json.record fields {} Draft.finish

def toJson (l : Level) : Json.Tree := .object [
  ("text", .text l.text),
  ("help", .text l.help),
  ("wordWidthPerSecond", .real l.velocity),
  ("wordPosition", .real l.offset)]

/-- Reads a level without checking it. -/
def ofJson (text : String) : Except SetupError Level :=
  (Json.parse reader text).mapError .unreadable

end Level

/-- Where a game takes its levels from. -/
class LevelSource (σ : Type) where
  /-- Index of the current level. -/
  index : σ → Nat
  current : σ → Level
  /-- Moves on by some levels, back if negative, and gives the level there. -/
  advance : σ → Int → σ × Level

end WordTrack
