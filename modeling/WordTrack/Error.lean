import WordTrack.Json.Reader

/-! Why a game, a level list or a tuning cannot be set up. -/
namespace WordTrack

/-- What makes a tuning unusable. -/
inductive TuningFlaw where
  | notFinite
  | emptyTrack
  | wordOffTrack
deriving DecidableEq, Repr

def TuningFlaw.reason : TuningFlaw → String
  | .notFinite => "values must be finite"
  | .emptyTrack => "track_width must be positive"
  | .wordOffTrack => "word_width must be between 0 and track_width"

inductive SetupError where
  | emptyText
  | noLevels
  | invalidLevel (index : Nat) (cause : SetupError)
  | invalidTuning (flaw : TuningFlaw)
  | unreadable (fault : Json.Fault)
deriving DecidableEq, Repr

def Json.Fault.reason : Json.Fault → String
  | .truncated => "unexpected end of text"
  | .malformed => "malformed text"
  | .mismatched => "unexpected value"

def SetupError.message : SetupError → String
  | .emptyText => "round text cannot be empty"
  | .noLevels => "level list is empty"
  | .invalidLevel index cause => "level " ++ index.repr ++ " is invalid: " ++ cause.message
  | .invalidTuning flaw => "invalid settings: " ++ flaw.reason
  | .unreadable fault => "failed to parse configuration: " ++ fault.reason

end WordTrack
