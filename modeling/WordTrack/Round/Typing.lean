import WordTrack.Round.Basic

/-! Typing: a letter moves between the pool and the typed letters while a tile
of it is marked. The indices of changed tiles are given for the display. -/
namespace WordTrack.Round

/-- Asks about a letter that was not seen before, and keeps it if the answer is yes. -/
def pollStep {m : Type → Type} [Monad m] (ask : Char → m Bool) :
    List Char × List Char → Char → m (List Char × List Char)
  | (seen, kept), letter =>
    if seen.contains letter then return (seen, kept)
    else do
      if ← ask letter then return (seen ++ [letter], kept ++ [letter])
      else return (seen ++ [letter], kept)

/-- Asks about each distinct letter of the pool once, in order, and keeps those
answered with yes. -/
def poll {m : Type → Type} [Monad m] (ask : Char → m Bool) (r : Round) : m (List Char) := do
  let (_, kept) ← r.pool.foldlM (pollStep ask) ([], [])
  return kept

/-- Types one letter, if the pool has it. -/
def pressOne (letter : Char) (r : Round) : Round × List Nat :=
  match r.pool.idxOf? letter with
  | none => (r, [])
  | some i =>
    let (tiles, index) := Tile.selectFirst letter r.tiles
    ({ r with
        pool := r.pool.eraseIdx i
        typed := r.typed ++ [letter]
        origins := r.origins ++ [i]
        tiles := tiles }, index.toList)

/-- Types a letter that was not seen before. -/
def pressStep : List Char × Round × List Nat → Char → List Char × Round × List Nat
  | (seen, r, indices), letter =>
    if seen.contains letter then (seen, r, indices)
    else
      let (r, more) := r.pressOne letter
      (seen ++ [letter], r, indices ++ more)

/-- Types each distinct letter once, in order of first occurrence. -/
def press (letters : List Char) (r : Round) : Round × List Nat :=
  (letters.foldl pressStep ([], r, [])).2

/-- Takes back the last letter and puts it where it came from. -/
def backspace (r : Round) : Round × List Nat :=
  match r.typed.getLast? with
  | none => (r, [])
  | some letter =>
    let origin := min (r.origins.getLast?.getD r.pool.length) r.pool.length
    let (tiles, index) := Tile.unselectLast letter r.tiles
    ({ r with
        pool := r.pool.insertIdx origin letter
        typed := r.typed.dropLast
        origins := r.origins.dropLast
        tiles := tiles }, index.toList)

end WordTrack.Round
