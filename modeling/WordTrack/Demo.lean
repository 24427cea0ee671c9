import WordTrack.Game.Play
import WordTrack.Level.Course
import WordTrack.Lexicon
import WordTrack.Text.Outline

/-! A scripted typist. It finds shorter words in each word, throws them at it and
solves it, on a course of four words. -/
namespace WordTrack.Demo

def courseText : String :=
  "[\x7b\"text\": \"START\", \"help\": \"TYPE THE LETTERS OF START, THEN PRESS ENTER.\"\x7d, " ++
    "\x7b\"text\": \"PLANET\"\x7d, \x7b\"text\": \"ORBIT\"\x7d, \x7b\"text\": \"GALAXY\"\x7d]"

def vocabulary : List String := [
  "START", "STAR", "ART", "TAR", "RAT", "PLANET", "PLAN", "PLANE", "PLANT", "NET", "ANT",
  "ORBIT", "BIT", "ROB", "RIOT", "GALAXY", "GAL", "LAY"]

def seed : UInt64 := 2024

/-- Seconds between two frames. -/
def frame : Binary32 := Binary32.ofNat 1 / Binary32.ofNat 60

/-- Frames before each key. -/
def keyFrames : Nat := 12

/-- Frames until a thrown word hits. -/
def throwFrames : Nat := 20

/-- Width of the screen as a multiple of the track. -/
def screenFactor : Binary32 := Binary32.ofRatio false 3 2

/-- Whether the letters can be taken from the stock one after the other. -/
def takesFrom : (letters stock : List Char) → Bool
  | [], _ => true
  | c :: rest, stock => stock.contains c && takesFrom rest (stock.erase c)

def isSubWord (word text : String) : Bool := takesFrom word.toList text.toList

/-- The words to type for a target: two shorter ones, then the target itself. -/
def script (target : String) : List String :=
  let shorter := vocabulary.filter fun word => word != target && isSubWord word target
  shorter.take 2 ++ (vocabulary.find? (· == target)).toList

/-- A line of the log. -/
structure Entry where
  severity : Severity
  message : String
deriving DecidableEq, Repr

def Entry.ofEvent? : Event → Option Entry
  | .logged notice => some ⟨notice.severity, notice.message⟩
  | .called _ => none

def entries (events : List Event) : List Entry := events.filterMap Entry.ofEvent?

/-- A demo in progress: the game, the lines printed and the log. -/
structure Stage where
  game : Game Course
  lines : List String
  log : List Entry

namespace Stage

def print (line : String) (s : Stage) : Stage := { s with lines := s.lines ++ [line] }

/-- Takes over what an operation left and told. -/
def follow {α : Type} (o : Outcome Course α) (s : Stage) : Stage :=
  { s with game := o.game, log := s.log ++ entries o.events }

def wait : (frames : Nat) → Stage → Stage
  | 0, s => s
  | frames + 1, s => wait frames (s.follow (s.game.tick frame))

/-- Waits and types a letter, if the pool offers it. -/
def type (letter : Char) (s : Stage) : Stage :=
  let s := s.wait keyFrames
  let offered := Id.run (s.game.round.poll fun c => pure (c == letter))
  let pressed := s.game.press offered
  let indices := Text.outlineList (pressed.reply.map Nat.repr)
  let s := s.follow pressed
  { s with log := s.log ++ [⟨.trace, letter.toString ++ " -> slots " ++ indices⟩] }

def padRight (width : Nat) (text : String) : String := text.pushn ' ' (width - text.length)

def padLeft (width : Nat) (text : String) : String := "".pushn ' ' (width - text.length) ++ text

/-- The line about a submitted word. -/
def resultLine (word : String) (verdict : Verdict) (g : Game Course) : String :=
  "  " ++ padRight 8 word ++ " " ++ padRight 8 verdict.name ++
    " score " ++ padLeft 3 g.score.toNat.repr ++
    "  position " ++ padLeft 7 (g.round.offset.fixed 1)

/-- Types and submits a word; an accepted one flies and hits. -/
def submitWord (word : String) (s : Stage) : Verdict × Stage :=
  let s := word.toList.foldl (fun s letter => s.type letter) s
  let submitted := s.game.submit
  let s := s.follow submitted |>.print (resultLine word submitted.reply submitted.game)
  if submitted.reply.isAccepted then
    let s := s.wait throwFrames
    (submitted.reply, s.follow s.game.hit)
  else (submitted.reply, s)

/-- Works through a script until the target is solved. -/
def playScript : List String → Stage → Stage
  | [], s => s
  | word :: rest, s =>
    let (verdict, s) := s.submitWord word
    if verdict = .complete then s else playScript rest s

/-- Plays some rounds, or fewer if the word reaches the boundary. -/
def playRounds : (count : Nat) → Stage → Stage
  | 0, s => s
  | count + 1, s =>
    let target := s.game.round.target
    let s := s.print ("Round: " ++ String.ofList s.game.round.display) |> playScript (script target)
    if s.game.round.isOver then s.print ("  " ++ s.game.round.hint) else playRounds count s

end Stage

/-- Exit code, printed lines and log. -/
structure Report where
  code : UInt32
  lines : List String
  log : List Entry

def greeting : Entry := ⟨.info, "Anagram Drift (headless demo) starting..."⟩

/-- A demo that could not begin. -/
def failure (log : List Entry) (cause : String) (e : SetupError) : Report :=
  ⟨1, [], log ++ [⟨.error, cause ++ e.message⟩]⟩

/-- Plays the whole course once. -/
def run : Report :=
  match Course.load courseText with
  | .error e => failure [greeting] "Bad level list: " e
  | .ok (course, loaded) =>
    let log := greeting :: entries loaded
    let tuning := Tuning.standard
    match Game.create tuning course (Lexicon.ofList vocabulary).contains seed with
    | .error e => failure log "Could not start: " e
    | .ok (game, begun) =>
      let game := game.fitScreen (tuning.trackWidth * screenFactor)
      let s := Stage.playRounds course.size ⟨game, [], log ++ entries begun⟩
      let s := s.print ("Final score: " ++ s.game.score.toNat.repr)
      ⟨0, s.lines, s.log⟩

/-- The entries from the gravest down to the named severity. -/
def visible (name : String) (log : List Entry) : List Entry :=
  log.filter fun entry => (Severity.downTo name).contains entry.severity

end WordTrack.Demo
