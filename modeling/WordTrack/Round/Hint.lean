import WordTrack.Json.Value

/-! Hints shown with the word, and the tag that says where a hint comes from. -/
namespace WordTrack

inductive HintTag where
  | none
  | gameOver
  | repeated
deriving DecidableEq, Repr

namespace HintTag

/-- Name for the display; an untagged hint has none. -/
def label : HintTag → String
  | .none => ""
  | .gameOver => "gameOver"
  | .repeated => "repeat"

/-- Name in stored rounds. -/
def name : HintTag → String
  | .none => "none"
  | .gameOver => "gameOver"
  | .repeated => "repeat"

def all : List HintTag := [.none, .gameOver, .repeated]

def ofName? (name : String) : Option HintTag := all.find? (·.name == name)

def reader : Json.Reader HintTag := Json.named ofName?

end HintTag

namespace Hint

def gameOver : String :=
  "GAME OVER! TO SKIP ANY WORD, PRESS THE PAGEUP KEY (MAC: FN+UP).  " ++
    "TO GO BACK A WORD, PRESS THE PAGEDOWN KEY (MAC: FN+DOWN)."

def repeated : String := "YOU CAN ONLY ENTER EACH SHORTER WORD ONCE."

end Hint

end WordTrack
