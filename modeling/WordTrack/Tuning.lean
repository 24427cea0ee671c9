import WordTrack.Event
import WordTrack.Number.Power
import WordTrack.Json.Record
import WordTrack.Json.Tree

/-! The balance of the game: the track, the speed of shuffled words, and how far
a thrown word shoves the drifting one. -/
namespace WordTrack

structure Tuning where
  /-- Width of the track in design units. -/
  trackWidth : Binary32
  /-- Width of the drifting word. -/
  wordWidth : Binary32
  /-- Word length the speed curve is measured against. -/
  letterMax : Nat
  /-- Track widths per second of the longest words. -/
  baseSpeed : Binary32
  /-- Exponent of the letters a word falls short of `letterMax`. -/
  speedPower : Binary32
  /-- Shove of one thrown letter as a share of the track. -/
  letterShove : Binary32
  /-- Factor of the shove when the whole word is solved. -/
  solvedFactor : Binary32
  /-- Last level index that still explains repeated words. -/
  repeatHintLevel : Nat
deriving DecidableEq, Repr

namespace Tuning

def standard : Tuning where
  trackWidth := 720
  wordWidth := 160
  letterMax := 10
  baseSpeed := Binary32.ofRatio true 2 1000
  speedPower := 2
  letterShove := Binary32.ofRatio false 3 100
  solvedFactor := 3
  repeatHintLevel := 50

instance : Inhabited Tuning := ⟨standard⟩

/-- Equal in every value, zeros of either sign being equal. -/
def same (a b : Tuning) : Bool :=
  a.trackWidth.equal b.trackWidth && a.wordWidth.equal b.wordWidth && a.letterMax == b.letterMax &&
    a.baseSpeed.equal b.baseSpeed && a.speedPower.equal b.speedPower &&
    a.letterShove.equal b.letterShove && a.solvedFactor.equal b.solvedFactor &&
    a.repeatHintLevel == b.repeatHintLevel

def reals (t : Tuning) : List Binary32 :=
  [t.trackWidth, t.wordWidth, t.baseSpeed, t.speedPower, t.letterShove, t.solvedFactor]

/-- The first flaw, if there is one. -/
def flaw? (t : Tuning) : Option TuningFlaw :=
  if t.reals.any (!·.isFinite) then some .notFinite
  else if t.trackWidth ≤ 0 then some .emptyTrack
  else if t.wordWidth < 0 ∨ t.trackWidth < t.wordWidth then some .wordOffTrack
  else none

def check (t : Tuning) : Except SetupError Unit :=
  match t.flaw? with
  | some flaw => .error (.invalidTuning flaw)
  | none => .ok ()

/-- The lowest offset, where the word touches the boundary. -/
def floor (t : Tuning) : Binary32 := t.wordWidth - t.trackWidth

/-- Velocity of a shuffled word: the shorter it is, the faster it drifts. -/
def shuffledSpeed (t : Tuning) (letters : Nat) : Binary32 :=
  let shortfall := Binary32.ofNat (max (t.letterMax - letters) 1)
  t.baseSpeed * Binary32.natPow shortfall.toNat t.speedPower

/-- How far a thrown word of `letters` shoves. -/
def shove (t : Tuning) (letters : Nat) (complete : Bool) : Binary32 :=
  let distance := t.letterShove * t.trackWidth * Binary32.ofNat letters
  if complete then distance * t.solvedFactor else distance

/-- The values read so far. -/
structure Draft where
  trackWidth : Option Binary32 := none
  wordWidth : Option Binary32 := none
  letterMax : Option Nat := none
  baseSpeed : Option Binary32 := none
  speedPower : Option Binary32 := none
  letterShove : Option Binary32 := none
  solvedFactor : Option Binary32 := none
  repeatHintLevel : Option Nat := none

/-- Values that were not given are standard. -/
def Draft.finish (d : Draft) : Tuning where
  trackWidth := d.trackWidth.getD standard.trackWidth
  wordWidth := d.wordWidth.getD standard.wordWidth
  letterMax := d.letterMax.getD standard.letterMax
  baseSpeed := d.baseSpeed.getD standard.baseSpeed
  speedPower := d.speedPower.getD standard.speedPower
  letterShove := d.letterShove.getD standard.letterShove
  solvedFactor := d.solvedFactor.getD standard.solvedFactor
  repeatHintLevel := d.repeatHintLevel.getD standard.repeatHintLevel

/-- Counts are 64-bit. -/
def countLimit : Nat := twoPow 64

def fields : List (Json.Field Draft) := [
  Json.field "track_width" (·.trackWidth) (fun d x => { d with trackWidth := some x }) Json.real,
  Json.field "word_width" (·.wordWidth) (fun d x => { d with wordWidth := some x }) Json.real,
  Json.field "letter_max" (·.letterMax) (fun d n => { d with letterMax := some n })
    (Json.natural countLimit),
  Json.field "base_speed" (·.baseSpeed) (fun d x => { d with baseSpeed := some x }) Json.real,
  Json.field "speed_power" (·.speedPower) (fun d x => { d with speedPower := some x }) Json.real,
  Json.field "knockback_per_length" (·.letterShove) (fun d x => { d with letterShove := some x })
    Json.real,
  Json.field "complete_knockback_multiplier" (·.solvedFactor)
    (fun d x => { d with solvedFactor := some x }) Json.real,
  Json.field "repeat_help_max_level" (·.repeatHintLevel)
    (fun d n => { d with repeatHintLevel := some n }) (Json.natural countLimit)]

def reader : Json.Reader Tuning := Json.record fields {} fun d => some d.finish

def toJson (t : Tuning) : Json.Tree := .object [
  ("track_width", .real t.trackWidth),
  ("word_width", .real t.wordWidth),
  ("letter_max", .natural t.letterMax),
  ("base_speed", .real t.baseSpeed),
  ("speed_power", .real t.speedPower),
  ("knockback_per_length", .real t.letterShove),
  ("complete_knockback_multiplier", .real t.solvedFactor),
  ("repeat_help_max_level", .natural t.repeatHintLevel)]

/-- Reads a tuning and refuses one with a flaw. -/
def ofJson (text : String) : Except SetupError Tuning := do
  let t ← (Json.parse reader text).mapError .unreadable
  t.check
  return t

/-- Reads a tuning and reports it. -/
def load (text : String) : Except SetupError (Tuning × List Event) := do
  return (← ofJson text, [.logged .tuningLoaded])

end Tuning

end WordTrack
