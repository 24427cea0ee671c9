import WordTrack.Level

/-! Level lists that wrap around at both ends. A cycle takes any levels; a course
is a cycle of playable ones. -/
namespace WordTrack

structure LevelCycle where
  levels : List Level
  index : Nat
  index_lt : index < levels.length

namespace LevelCycle

/-- A cycle at its first level. -/
def ofList? : List Level → Option LevelCycle
  | [] => none
  | level :: rest => some ⟨level :: rest, 0, Nat.succ_pos _⟩

def size (c : LevelCycle) : Nat := c.levels.length

def current (c : LevelCycle) : Level := c.levels.get ⟨c.index, c.index_lt⟩

/-- The index `steps` further on, counted around the cycle. -/
def indexAfter (c : LevelCycle) (steps : Int) : Nat :=
  (c.index + (steps % c.size).toNat) % c.size

theorem indexAfter_lt (c : LevelCycle) (steps : Int) : c.indexAfter steps < c.levels.length :=
  Nat.mod_lt _ (Nat.zero_lt_of_lt c.index_lt)

def advance (c : LevelCycle) (steps : Int) : LevelCycle :=
  ⟨c.levels, c.indexAfter steps, c.indexAfter_lt steps⟩

instance : LevelSource LevelCycle where
  index := LevelCycle.index
  current := LevelCycle.current
  advance c steps := (c.advance steps, (c.advance steps).current)

end LevelCycle

structure Course where
  cycle : LevelCycle
  playable : ∀ level ∈ cycle.levels, level.Playable

namespace Course

/-- The index of the first level that cannot be played. -/
def firstUnplayable? (levels : List Level) : Option Nat :=
  levels.findIdx? fun level => decide ¬level.Playable

theorem playable_of_firstUnplayable? {levels : List Level} (h : firstUnplayable? levels = none) :
    ∀ level ∈ levels, level.Playable := by
  intro level member
  have := List.findIdx?_eq_none_iff.mp h level member
  simpa using this

/-- A course at its first level. -/
def ofLevels (levels : List Level) : Except SetupError Course :=
  match levels with
  | [] => .error .noLevels
  | level :: rest =>
    match h : firstUnplayable? (level :: rest) with
    | some index => .error (.invalidLevel index .emptyText)
    | none => .ok ⟨⟨level :: rest, 0, Nat.succ_pos _⟩, playable_of_firstUnplayable? h⟩

def ofWords (words : List String) : Except SetupError Course := ofLevels (words.map Level.ofText)

def ofJson (text : String) : Except SetupError Course := do
  ofLevels (← (Json.parse (Json.list Level.reader) text).mapError .unreadable)

def size (c : Course) : Nat := c.cycle.size

/-- Reads a course and reports its size. -/
def load (text : String) : Except SetupError (Course × List Event) := do
  let course ← ofJson text
  return (course, [.logged (.levelsLoaded course.size)])

def current (c : Course) : Level := c.cycle.current

def advance (c : Course) (steps : Int) : Course := ⟨c.cycle.advance steps, c.playable⟩

instance : LevelSource Course where
  index c := c.cycle.index
  current := Course.current
  advance c steps := (c.advance steps, (c.advance steps).current)

end Course

end WordTrack
