import WordTrack.Json.Value

/-! Verdicts on submitted words. -/
namespace WordTrack

/-- How a submission was judged. -/
inductive Verdict where
  | wrong
  | repeated
  | accepted
  | complete
deriving DecidableEq, Repr

namespace Verdict

def name : Verdict → String
  | .wrong => "wrong"
  | .repeated => "repeat"
  | .accepted => "submit"
  | .complete => "complete"

def all : List Verdict := [.wrong, .repeated, .accepted, .complete]

def ofName? (name : String) : Option Verdict := all.find? (·.name == name)

def reader : Json.Reader Verdict := Json.named ofName?

/-- Whether the submission scored. -/
def isAccepted : Verdict → Bool
  | .accepted | .complete => true
  | _ => false

end Verdict

end WordTrack
