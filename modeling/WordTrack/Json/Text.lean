import WordTrack.Json.Reader

/-! Strings: what stands between two quotes, with escapes decoded. -/
namespace WordTrack.Json

/-- Characters that a string holds only as escapes. -/
def isBare (c : Char) : Bool := 0x20 ≤ c.toNat

/-- The character that a one-letter escape stands for. -/
def shortEscape : Char → Option Char
  | '"' => some '"'
  | '\\' => some '\\'
  | '/' => some '/'
  | 'b' => some '\x08'
  | 'f' => some '\x0c'
  | 'n' => some '\n'
  | 'r' => some '\r'
  | 't' => some '\t'
  | _ => none

def hexValue (c : Char) : Option Nat :=
  if c.isDigit then some (c.toNat - '0'.toNat)
  else if 'a' ≤ c ∧ c ≤ 'f' then some (c.toNat - 'a'.toNat + 10)
  else if 'A' ≤ c ∧ c ≤ 'F' then some (c.toNat - 'A'.toNat + 10)
  else none

/-- The number of four hexadecimal digits. Fewer than four bytes of text left
are an early end. -/
def hexQuad : Reader Nat := do
  let quad := (← get).take 4
  if quad.foldl (fun size c => size + c.utf8Size) 0 < 4 then throw .truncated
  match quad.mapM hexValue with
  | some ds =>
    set ((← get).drop 4)
    return ds.foldl (fun n d => n * 16 + d) 0
  | none => throw .malformed

def isHighSurrogate (n : Nat) : Bool := 0xd800 ≤ n && n ≤ 0xdbff

def isLowSurrogate (n : Nat) : Bool := 0xdc00 ≤ n && n ≤ 0xdfff

/-- The character of a numbered escape; a high surrogate takes the low one that
has to follow it. -/
def numberedEscape : Reader Char := do
  let high ← hexQuad
  if isLowSurrogate high then throw .malformed
  if isHighSurrogate high then
    expect ['\\', 'u']
    let low ← hexQuad
    if isLowSurrogate low then
      return Char.ofNat (0x10000 + (high - 0xd800) * 0x400 + (low - 0xdc00))
    else throw .malformed
  else return Char.ofNat high

/-- The character of an escape, after its backslash. -/
def escaped : Reader Char := do
  match ← look with
  | none => throw .truncated
  | some c =>
    drop
    match shortEscape c with
    | some d => return d
    | none => if c = 'u' then numberedEscape else throw .malformed

/-- The characters up to the closing quote, before which stand those of `done`
in reverse. Each round takes at least one character. -/
def textBody : (fuel : Nat) → (done : List Char) → Reader (List Char)
  | 0, _ => throw .truncated
  | fuel + 1, done => do
    match ← look with
    | none => throw .truncated
    | some c =>
      drop
      if c = '"' then return done.reverse
      else if c = '\\' then textBody fuel ((← escaped) :: done)
      else if isBare c then textBody fuel (c :: done)
      else throw .malformed

/-- A string after its opening quote. -/
def text : Reader String := do
  return String.ofList (← textBody ((← get).length + 1) [])

/-- Passes over an escape whose value nobody needs; any four digits will do. -/
def passEscape : Reader Unit := do
  match ← look with
  | none => throw .truncated
  | some c =>
    drop
    if (shortEscape c).isSome then return
    else if c = 'u' then discard hexQuad
    else throw .malformed

def passTextBody : (fuel : Nat) → Reader Unit
  | 0 => throw .truncated
  | fuel + 1 => do
    match ← look with
    | none => throw .truncated
    | some c =>
      drop
      if c = '"' then return
      else if c = '\\' then
        passEscape
        passTextBody fuel
      else if isBare c then passTextBody fuel
      else throw .malformed

/-- Passes over a string after its opening quote. -/
def passText : Reader Unit := do passTextBody ((← get).length + 1)

end WordTrack.Json
