import WordTrack.Tuning
import WordTrack.Level
import WordTrack.Random.Shuffle
import WordTrack.Round.Basic

/-! The game: a live round with everything that decides how it goes on. -/
namespace WordTrack

structure Game (σ : Type) where
  tuning : Tuning
  levels : σ
  /-- Which words may be submitted. -/
  lexicon : String → Bool
  seed : UInt64
  generator : Generator
  round : Round
  /-- Screen widths per track width. -/
  scale : Binary32
  /-- The last clock reading in milliseconds. -/
  clock : Nat
  /-- Label of the listener that is called when a word is solved. -/
  listener : Option String

/-- What an operation leaves, answers and tells. -/
structure Outcome (σ α : Type) where
  game : Game σ
  reply : α
  events : List Event

namespace Game

variable {σ : Type}

def floor (g : Game σ) : Binary32 := g.tuning.floor

def score (g : Game σ) : UInt32 := g.round.score

/-- Settles a changed round on the track. -/
def settle (g : Game σ) (r : Round) : Outcome σ Unit :=
  ⟨{ g with round := r.settle g.floor g.scale }, (), r.boundaryEvents g.floor⟩

def listen (g : Game σ) (label : String) : Game σ := { g with listener := some label }

def unlisten (g : Game σ) : Game σ := { g with listener := none }

end Game

end WordTrack
