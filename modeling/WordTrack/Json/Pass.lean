import WordTrack.Json.Text

/-! Passing over a value of any kind, nested to any depth. -/
namespace WordTrack.Json

inductive Bracket where
  | array
  | object
deriving DecidableEq, Repr

def Bracket.closing : Bracket → Char
  | .array => ']'
  | .object => '}'

/-- At least one digit, an early end being no numeral. -/
def passDigits : Reader Unit := do
  if (← takeRun Char.isDigit).isEmpty then throw .malformed

/-- Passes over a numeral without its sign and without measuring it. -/
def passNumeral : Reader Unit := do
  let ds ← takeRun Char.isDigit
  if ds.isEmpty ∨ (ds.head? = some '0' ∧ 1 < ds.length) then throw .malformed
  if (← look) = some '.' then
    drop
    passDigits
  let c ← look
  if c = some 'e' ∨ c = some 'E' then
    drop
    let sign ← look
    if sign = some '+' ∨ sign = some '-' then drop
    passDigits

/-- Passes over a key and its colon. -/
def passKey : Reader Unit := do
  mark '"'
  passText
  mark ':'

/-- Passes over the start of a value: all of it, or the bracket it opens. -/
def passStart : Reader (Option Bracket) := do
  let c ← token
  if c = 'n' then
    expect "null".toList
    return none
  else if c = 't' then
    expect "true".toList
    return none
  else if c = 'f' then
    expect "false".toList
    return none
  else if c = '-' then
    drop
    passNumeral
    return none
  else if c.isDigit then
    passNumeral
    return none
  else if c = '"' then
    drop
    passText
    return none
  else if c = '[' then
    drop
    return some .array
  else if c = '{' then
    drop
    return some .object
  else throw .malformed

/-- Passes over what closes the open brackets, innermost first, until the next
element begins. The answer is the brackets still open; none means the value is
over. A bracket just opened has no comma before its first element. -/
def passClosings : (fresh : Bool) → List Bracket → Reader (List Bracket)
  | _, [] => return []
  | fresh, b :: outer => do
    let c ← token
    if c = b.closing then
      drop
      passClosings false outer
    else if fresh then return b :: outer
    else if c = ',' then
      drop
      return b :: outer
    else throw .malformed

/-- Passes over the rest of a value inside `opened`. Each round takes at least
one character. -/
def passRest : (fuel : Nat) → (opened : List Bracket) → Reader Unit
  | 0, _ => throw .truncated
  | fuel + 1, opened => do
    let start ← passStart
    let still ← passClosings start.isSome (start.toList ++ opened)
    match still with
    | [] => return
    | .array :: _ => passRest fuel still
    | .object :: _ =>
      passKey
      passRest fuel still

/-- Passes over one value. -/
def passValue : Reader Unit := do passRest ((← get).length + 1) []

end WordTrack.Json
