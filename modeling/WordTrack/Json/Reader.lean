/-! Reading JSON text from left to right. The first fault met decides the answer,
so readers check the kind of a value as they come to it. -/
namespace WordTrack.Json

/-- Why a text was refused: it ends too early, it is not JSON, or it is JSON of
the wrong shape. -/
inductive Fault where
  | truncated
  | malformed
  | mismatched
deriving DecidableEq, Repr

/-- A reader takes a value off the front of the text. -/
abbrev Reader := StateT (List Char) (Except Fault)

def isBlank (c : Char) : Bool := c == ' ' || c == '\n' || c == '\t' || c == '\r'

def skipBlanks : Reader Unit := modify (List.dropWhile isBlank)

/-- The next character, left in place. -/
def look : Reader (Option Char) := do return (← get).head?

/-- Passes over one character. -/
def drop : Reader Unit := modify List.tail

/-- The next character after blanks, left in place. -/
def token : Reader Char := do
  skipBlanks
  match ← look with
  | some c => return c
  | none => throw .truncated

/-- Passes over exactly these characters. -/
def expect : List Char → Reader Unit
  | [] => return
  | c :: rest => do
    match ← look with
    | none => throw .truncated
    | some d =>
      if d = c then
        drop
        expect rest
      else throw .malformed

/-- Passes over the longest run of characters of a class. -/
def takeRun (p : Char → Bool) : Reader (List Char) := do
  let text ← get
  set (text.dropWhile p)
  return text.takeWhile p

/-- Passes over one closing bracket or colon after blanks. -/
def mark (c : Char) : Reader Unit := do
  if (← token) = c then drop else throw .malformed

/-- Reads a whole text: one value and nothing but blanks after it. -/
def parse (reader : Reader α) (text : String) : Except Fault α := do
  let (value, rest) ← reader text.toList
  if rest.all isBlank then return value else throw .malformed

end WordTrack.Json
