import Std.Data.HashSet

/-! Word lists that answer whether a word may be submitted. -/
namespace WordTrack

structure Lexicon where
  words : Std.HashSet String

namespace Lexicon

def empty : Lexicon := ⟨∅⟩

def ofList (words : List String) : Lexicon := ⟨Std.HashSet.ofList words⟩

def contains (l : Lexicon) (word : String) : Bool := l.words.contains word

/-- Adds a word and tells whether it is new. -/
def insert (l : Lexicon) (word : String) : Bool × Lexicon :=
  (!l.contains word, ⟨l.words.insert word⟩)

def size (l : Lexicon) : Nat := l.words.size

def isEmpty (l : Lexicon) : Bool := l.words.isEmpty

end Lexicon

end WordTrack
