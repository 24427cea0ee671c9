import WordTrack.Json.Numeral
import WordTrack.Json.Text

/-! JSON values to be written. Strings use the short escapes where there are any, and
numbers without a finite value are written as null. -/
namespace WordTrack.Json

inductive Tree where
  | null
  | boolean (b : Bool)
  | natural (n : Nat)
  | real (x : Binary32)
  | text (s : String)
  | list (items : List Tree)
  | object (members : List (String × Tree))

def naturalChars (n : Nat) : List Char := n.repr.toList

/-- Ties go to the even digit, and numbers that are neither tiny nor huge are written
without a power of ten. -/
def layout : Binary32.Layout :=
  ⟨fun n => n % 2 == 1, fun _ d => -7 < d.lead ∧ d.lead < 13⟩

/-- A finite number as a numeral. -/
def numberChars : Binary32 → List Char
  | .finite negative code => Binary32.laidOut layout negative code
  | _ => []

def hexDigit (n : Nat) : Char :=
  Char.ofNat (if n < 10 then n + '0'.toNat else n - 10 + 'a'.toNat)

/-- A character as it stands in a string: by a letter if it has one. -/
def textChar : Char → List Char
  | '"' => ['\\', '"']
  | '\\' => ['\\', '\\']
  | '\x08' => ['\\', 'b']
  | '\t' => ['\\', 't']
  | '\n' => ['\\', 'n']
  | '\x0c' => ['\\', 'f']
  | '\r' => ['\\', 'r']
  | c =>
    if isBare c then [c]
    else ['\\', 'u', '0', '0', hexDigit (c.toNat / 16), hexDigit (c.toNat % 16)]

def textChars (s : String) : List Char := '"' :: s.toList.flatMap textChar ++ ['"']

namespace Tree

section Chars

variable (write : Binary32 → List Char)

mutual

/-- The text of a tree, whose finite numbers `write` writes. -/
def chars : Tree → List Char
  | .null => "null".toList
  | .boolean b => if b then "true".toList else "false".toList
  | .natural n => naturalChars n
  | .real x => if x.isFinite then write x else "null".toList
  | .text s => textChars s
  | .list items => '[' :: itemChars items ++ [']']
  | .object members => '{' :: memberChars members ++ ['}']

def itemChars : List Tree → List Char
  | [] => []
  | [item] => item.chars
  | item :: next :: rest => item.chars ++ ',' :: itemChars (next :: rest)

def memberChars : List (String × Tree) → List Char
  | [] => []
  | [(key, value)] => textChars key ++ ':' :: value.chars
  | (key, value) :: next :: rest =>
    textChars key ++ ':' :: value.chars ++ ',' :: memberChars (next :: rest)

end

end Chars

def render (write : Binary32 → List Char) (t : Tree) : String := String.ofList (t.chars write)

end Tree

end WordTrack.Json
