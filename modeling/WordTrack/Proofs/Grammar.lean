import WordTrack.Json.Numeral
import WordTrack.Json.Pass

/-! The grammar of JSON texts, stated without any reader: blanks, strings with escapes,
numerals by their parts, and values nested to any depth. A string that is read stands for
characters; one that is passed over need not, so lone surrogates may stand in it. -/
namespace WordTrack.Json

def Blanks (s : List Char) : Prop := ∀ c ∈ s, isBlank c = true

instance (s : List Char) : Decidable (Blanks s) :=
  decidable_of_iff (s.all isBlank = true) List.all_eq_true

/-- Four hexadecimal digits and their number. -/
inductive Quad : List Char → Nat → Prop where
  | digits {a b c d : Char} {w x y z : Nat} :
      hexValue a = some w → hexValue b = some x → hexValue c = some y → hexValue d = some z →
      Quad [a, b, c, d] (((w * 16 + x) * 16 + y) * 16 + z)

/-- How a character is written in a string: as itself, by a letter, by its number, or by
the numbers of two surrogates. -/
inductive Glyph : List Char → Char → Prop where
  | bare {c : Char} : isBare c = true → c ≠ '"' → c ≠ '\\' → Glyph [c] c
  | short {e c : Char} : shortEscape e = some c → Glyph ['\\', e] c
  | unit {q : List Char} {n : Nat} :
      Quad q n → isHighSurrogate n = false → isLowSurrogate n = false →
      Glyph ('\\' :: 'u' :: q) (Char.ofNat n)
  | pair {q r : List Char} {high low : Nat} :
      Quad q high → Quad r low → isHighSurrogate high = true → isLowSurrogate low = true →
      Glyph ('\\' :: 'u' :: (q ++ '\\' :: 'u' :: r))
        (Char.ofNat (0x10000 + (high - 0xd800) * 0x400 + (low - 0xdc00)))

/-- The text between two quotes and the characters it stands for. -/
inductive Spells : List Char → List Char → Prop where
  | nil : Spells [] []
  | cons {g s cs : List Char} {c : Char} : Glyph g c → Spells s cs → Spells (g ++ s) (c :: cs)

/-- A step of a string whose characters nobody needs. -/
inductive Stroke : List Char → Prop where
  | bare {c : Char} : isBare c = true → c ≠ '"' → c ≠ '\\' → Stroke [c]
  | short {e c : Char} : shortEscape e = some c → Stroke ['\\', e]
  | numbered {q : List Char} {n : Nat} : Quad q n → Stroke ('\\' :: 'u' :: q)

inductive Strokes : List Char → Prop where
  | nil : Strokes []
  | cons {p s : List Char} : Stroke p → Strokes s → Strokes (p ++ s)

/-- At least one decimal digit. -/
structure Digits where
  chars : List Char
  ne_nil : chars ≠ []
  isDigit : ∀ c ∈ chars, c.isDigit = true

/-- The number with these digits. -/
def Digits.number (ds : Digits) : Nat := Nat.ofDigitChars 10 ds.chars 0

/-- A power of ten after its mark. -/
structure Power where
  capital : Bool
  /-- The sign, if there is one, and whether it is a minus. -/
  sign : Option Bool
  digits : Digits

namespace Power

def mark (p : Power) : Char := if p.capital then 'E' else 'e'

def signChars (p : Power) : List Char :=
  match p.sign with
  | none => []
  | some false => ['+']
  | some true => ['-']

def chars (p : Power) : List Char := p.mark :: (p.signChars ++ p.digits.chars)

/-- The sign and the digits. -/
def parts (p : Power) : Bool × List Char := (p.sign == some true, p.digits.chars)

def exponent (p : Power) : Int :=
  if p.sign = some true then -p.digits.number else p.digits.number

end Power

/-- A numeral by its parts; a leading zero stands alone. -/
structure Literal where
  negative : Bool
  whole : Digits
  lead : whole.chars.head? = some '0' → whole.chars.length = 1
  fraction : Option Digits
  power : Option Power

namespace Literal

/-- The text after the whole part. -/
def fractionChars (l : Literal) : List Char := l.fraction.elim [] fun ds => '.' :: ds.chars

def powerChars (l : Literal) : List Char := l.power.elim [] Power.chars

def unsignedChars (l : Literal) : List Char := l.whole.chars ++ (l.fractionChars ++ l.powerChars)

def chars (l : Literal) : List Char := (if l.negative then ['-'] else []) ++ l.unsignedChars

/-- The digits after the point. -/
def places (l : Literal) : List Char := l.fraction.elim [] Digits.chars

/-- The size of the number that a numeral stands for: the number of all its digits, with
the point moved before those after it and then by the power of ten. -/
def decimal (l : Literal) : Decimal where
  coefficient := Nat.ofDigitChars 10 (l.whole.chars ++ l.places) 0
  exponent := l.power.elim 0 Power.exponent - l.places.length

end Literal

def Bracket.opening : Bracket → Char
  | .array => '['
  | .object => '{'

/-- What stands before a value inside a bracket: blanks, and in an object a key with its
colon. -/
inductive Lead : Bracket → List Char → Prop where
  | array {ws : List Char} : Blanks ws → Lead .array ws
  | object {before s after gap : List Char} :
      Blanks before → Strokes s → Blanks after → Blanks gap →
      Lead .object (before ++ '"' :: (s ++ '"' :: (after ++ ':' :: gap)))

/-- A value, or what stands after a value inside a bracket up to the closing one. -/
inductive Part where
  | value
  | tail (b : Bracket)

inductive Written : Part → List Char → Prop where
  | word {w : List Char} : w ∈ ["null".toList, "true".toList, "false".toList] → Written .value w
  | number (l : Literal) : Written .value l.chars
  | text {s : List Char} : Strokes s → Written .value ('"' :: (s ++ ['"']))
  | empty (b : Bracket) {ws : List Char} :
      Blanks ws → Written .value (b.opening :: (ws ++ [b.closing]))
  | full {b : Bracket} {lead v t : List Char} :
      Lead b lead → Written .value v → Written (.tail b) t →
      Written .value (b.opening :: (lead ++ (v ++ t)))
  | close (b : Bracket) {ws : List Char} : Blanks ws → Written (.tail b) (ws ++ [b.closing])
  | more {b : Bracket} {ws lead v t : List Char} :
      Blanks ws → Lead b lead → Written .value v → Written (.tail b) t →
      Written (.tail b) (ws ++ ',' :: (lead ++ (v ++ t)))

/-- A key that is read, with its colon and the blanks around. -/
inductive Key : String → List Char → Prop where
  | spelled {key : String} {before s after gap : List Char} :
      Blanks before → Spells s key.toList → Blanks after → Blanks gap →
      Key key (before ++ '"' :: (s ++ '"' :: (after ++ ':' :: gap)))

/-- What stands between two members; before the first there is nothing. -/
inductive Separator : (first : Bool) → List Char → Prop where
  | first : Separator true []
  | later {ws : List Char} : Blanks ws → Separator false (ws ++ [','])

/-- The members of an object by key and text of the value, with the closing bracket. -/
inductive Members : (first : Bool) → List (String × List Char) → List Char → Prop where
  | close {first : Bool} {ws : List Char} : Blanks ws → Members first [] (ws ++ ['}'])
  | next {first : Bool} {sep lead v t : List Char} {key : String} {ms : List (String × List Char)} :
      Separator first sep → Key key lead → Members false ms t →
      Members first ((key, v) :: ms) (sep ++ (lead ++ (v ++ t)))

/-- A text that is an object with these members. -/
inductive ObjectText : List (String × List Char) → List Char → Prop where
  | between {before s after : List Char} {ms : List (String × List Char)} :
      Blanks before → Members true ms s → Blanks after → ObjectText ms (before ++ '{' :: (s ++ after))

end WordTrack.Json
