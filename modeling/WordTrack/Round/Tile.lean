import WordTrack.Text.LowerCase
import WordTrack.Json.Record
import WordTrack.Json.Tree

/-! Tiles: the letters of the drifting word, each marked while it is typed. -/
namespace WordTrack

structure Tile where
  letter : Char
  selected : Bool
deriving DecidableEq, Repr

namespace Tile

def fresh (letter : Char) : Tile := ⟨letter, false⟩

/-- The letter as drawn, in lower case while selected. -/
def display (t : Tile) : Char := if t.selected then Text.lowerCase t.letter else t.letter

def row (letters : List Char) : List Tile := letters.map fresh

def letters (tiles : List Tile) : List Char := tiles.map (·.letter)

/-- Marks the first unmarked tile of a letter and gives its index. -/
def selectFirst (letter : Char) (tiles : List Tile) : List Tile × Option Nat :=
  match tiles.findIdx? fun t => !t.selected && t.letter == letter with
  | some i => (tiles.modify i fun t => { t with selected := true }, some i)
  | none => (tiles, none)

/-- The index of the last element with a property. -/
def lastIdx? (p : Tile → Bool) (tiles : List Tile) : Option Nat :=
  (tiles.reverse.findIdx? p).map (tiles.length - 1 - ·)

/-- Clears the mark of the last marked tile of a letter and gives its index. -/
def unselectLast (letter : Char) (tiles : List Tile) : List Tile × Option Nat :=
  match lastIdx? (fun t => t.selected && t.letter == letter) tiles with
  | some i => (tiles.modify i fun t => { t with selected := false }, some i)
  | none => (tiles, none)

/-- Marks a tile for each letter. -/
def selectAll (letters : List Char) (tiles : List Tile) : List Tile :=
  letters.foldl (fun tiles letter => (selectFirst letter tiles).1) tiles

/-- The values read so far. -/
structure Draft where
  letter : Option Char := none
  selected : Option Bool := none

def Draft.finish (d : Draft) : Option Tile := do return ⟨← d.letter, ← d.selected⟩

def fields : List (Json.Field Draft) := [
  Json.field "letter" (·.letter) (fun d c => { d with letter := some c }) Json.character,
  Json.field "selected" (·.selected) (fun d b => { d with selected := some b }) Json.boolean]

def reader : Json.Reader Tile := Json.record fields {} Draft.finish

def toJson (t : Tile) : Json.Tree := .object [
  ("letter", .text t.letter.toString),
  ("selected", .boolean t.selected)]

end Tile

end WordTrack
