import WordTrack.Error
import WordTrack.Verdict
import WordTrack.Number.Decimal
import WordTrack.Text.Quoted

/-! What the game tells the outside while it runs: notices for the log, and
calls of the completion listener. -/
namespace WordTrack

/-- Log severities, the gravest first. -/
inductive Severity where
  | error
  | warn
  | info
  | debug
  | trace
deriving DecidableEq, Repr

namespace Severity

def name : Severity → String
  | .error => "error"
  | .warn => "warn"
  | .info => "info"
  | .debug => "debug"
  | .trace => "trace"

def label : Severity → String
  | .error => "ERROR"
  | .warn => "WARN"
  | .info => "INFO"
  | .debug => "DEBUG"
  | .trace => "TRACE"

def all : List Severity := [.error, .warn, .info, .debug, .trace]

/-- The severities from the gravest down to the one of this name; any other name
selects none. -/
def downTo (name : String) : List Severity :=
  match all.findIdx? (·.name == name) with
  | some i => all.take (i + 1)
  | none => []

end Severity

inductive Notice where
  | tuningLoaded
  | levelsLoaded (count : Nat)
  | roundStarted (level letters : Nat) (velocity : Binary32)
  | levelJumped (steps : Int) (level : Nat)
  | levelRefused (level : Nat) (cause : SetupError)
  | boundaryReached
  | submitted (word : String) (verdict : Verdict)
  | wordSolved (word : String) (points score : UInt32)
  | shoved (offset : Binary32)
deriving DecidableEq, Repr

namespace Notice

def severity : Notice → Severity
  | .levelRefused .. => .error
  | .boundaryReached => .warn
  | .tuningLoaded | .levelsLoaded _ | .levelJumped .. | .wordSolved .. => .info
  | .roundStarted .. | .submitted .. | .shoved _ => .debug

def message : Notice → String
  | .tuningLoaded => "Loaded settings from JSON"
  | .levelsLoaded count => "Loaded " ++ count.repr ++ " levels"
  | .roundStarted level letters velocity =>
    "Round started: level " ++ level.repr ++ " (" ++ letters.repr ++ " letters, " ++
      velocity.fixed 4 ++ " widths/s)"
  | .levelJumped steps level => "Level jump by " ++ toString steps ++ " to level " ++ level.repr
  | .levelRefused level cause => "Level " ++ level.repr ++ " could not start: " ++ cause.message
  | .boundaryReached => "Word reached the boundary: game over"
  | .submitted word verdict => "Submit " ++ Text.quoted word ++ ": " ++ verdict.name
  | .wordSolved word points score =>
    "Solved " ++ word ++ " for " ++ points.toNat.repr ++ " points (score " ++ score.toNat.repr ++ ")"
  | .shoved offset => "Knockback to " ++ offset.fixed 1

end Notice

/-- A notice for the log, or a call of the listener with this label. -/
inductive Event where
  | logged (notice : Notice)
  | called (listener : String)
deriving DecidableEq, Repr

end WordTrack
