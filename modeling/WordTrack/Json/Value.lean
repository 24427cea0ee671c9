import WordTrack.Json.Numeral
import WordTrack.Json.Text
import WordTrack.Json.Pass

/-! Readers for single values of an expected kind, and for lists of them. -/
namespace WordTrack.Json

/-- Refuses the next value: by its own fault if it has one, otherwise because it
is of another kind. Brackets are refused unread. -/
def refuse : Reader α := do
  let c ← token
  if c = 'n' then expect "null".toList
  else if c = 't' then expect "true".toList
  else if c = 'f' then expect "false".toList
  else if c = '-' ∨ c.isDigit then discard numeral
  else if c = '"' then
    drop
    discard text
  else if c ≠ '[' ∧ c ≠ '{' then throw .malformed
  throw .mismatched

def number : Reader Numeral := do
  let c ← token
  if c = '-' ∨ c.isDigit then numeral else refuse

def real : Reader Binary32 := do return (← number).toBinary32

/-- A whole numeral below `limit`. -/
def natural (limit : Nat) : Reader Nat := do
  match ← number with
  | .natural n => if n < limit then return n else throw .mismatched
  | _ => throw .mismatched

def string : Reader String := do
  if (← token) = '"' then
    drop
    text
  else refuse

/-- A string of one character. -/
def character : Reader Char := do
  match (← string).toList with
  | [c] => return c
  | _ => throw .mismatched

def boolean : Reader Bool := do
  let c ← token
  if c = 't' then
    expect "true".toList
    return true
  else if c = 'f' then
    expect "false".toList
    return false
  else refuse

def null : Reader Unit := do
  if (← token) = 'n' then expect "null".toList else refuse

/-- Whether an array goes on, at the start of it or after an element. The
closing bracket is left in place. -/
def anotherElement (first : Bool) : Reader Bool := do
  let c ← token
  if c = ']' then return false
  else if first then return true
  else if c = ',' then
    drop
    if (← token) = ']' then throw .malformed else return true
  else throw .malformed

/-- The elements up to the closing bracket. Each round takes at least one
character. -/
def elements (element : Reader α) : (fuel : Nat) → (first : Bool) → Reader (List α)
  | 0, _ => throw .truncated
  | fuel + 1, first => do
    if ← anotherElement first then
      let x ← element
      return x :: (← elements element fuel false)
    else return []

def list (element : Reader α) : Reader (List α) := do
  if (← token) = '[' then
    drop
    let xs ← elements element ((← get).length + 1) true
    mark ']'
    return xs
  else refuse

/-- One of several names, as a string or as the only key of an object that
holds null. -/
def named (ofName : String → Option α) : Reader α := do
  let pick (name : String) : Reader α := match ofName name with
    | some a => return a
    | none => throw .mismatched
  let c ← token
  if c = '"' then pick (← string)
  else if c = '{' then
    drop
    mark '"'
    let a ← pick (← text)
    mark ':'
    null
    mark '}'
    return a
  else throw .malformed

end WordTrack.Json
