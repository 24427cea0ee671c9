import WordTrack.Json.Value

/-! Records: an object with the fields by key, or an array with the fields in
order. The fields read so far are kept in a draft, and the record is made from
the draft at the closing bracket. -/
namespace WordTrack.Json

/-- A field of a record with drafts of type `δ`. -/
structure Field (δ : Type) where
  key : String
  present : δ → Bool
  read : δ → Reader δ

/-- A field held in a part of the draft. -/
def field (key : String) (get : δ → Option α) (put : δ → α → δ) (value : Reader α) :
    Field δ where
  key := key
  present d := (get d).isSome
  read d := do return put d (← value)

/-- Whether an object goes on with a key, at the start of it or after a member.
A key's opening quote is taken, a closing bracket is left in place. -/
def anotherKey (first : Bool) : Reader Bool := do
  let c ← token
  if c = '}' then return false
  else if first then
    mark '"'
    return true
  else if c = ',' then
    drop
    mark '"'
    return true
  else throw .malformed

/-- Reads a member after its key's opening quote. A known key may come once; the
value of an unknown one is passed over. -/
def member (fields : List (Field δ)) (draft : δ) : Reader δ := do
  let key ← text
  match fields.find? (·.key == key) with
  | some f =>
    if f.present draft then throw .mismatched
    mark ':'
    f.read draft
  | none =>
    mark ':'
    passValue
    return draft

/-- The members up to the closing bracket. Each round takes at least one
character. -/
def members (fields : List (Field δ)) : (fuel : Nat) → (first : Bool) → δ → Reader δ
  | 0, _, _ => throw .truncated
  | fuel + 1, first, draft => do
    if ← anotherKey first then members fields fuel false (← member fields draft)
    else return draft

/-- The fields in order, as far as the array goes. -/
def inOrder : (fields : List (Field δ)) → (first : Bool) → δ → Reader δ
  | [], _, draft => return draft
  | f :: rest, first, draft => do
    if ← anotherElement first then inOrder rest false (← f.read draft) else return draft

/-- A record; a draft that lacks a required field gives none. -/
def record (fields : List (Field δ)) (empty : δ) (finish : δ → Option ρ) : Reader ρ := do
  let complete (draft : δ) : Reader ρ := match finish draft with
    | some r => return r
    | none => throw .mismatched
  let c ← token
  if c = '{' then
    drop
    let r ← complete (← members fields ((← get).length + 1) true empty)
    mark '}'
    return r
  else if c = '[' then
    drop
    let r ← complete (← inOrder fields true empty)
    mark ']'
    return r
  else refuse

end WordTrack.Json
