import WordTrack.Game.Motion
import WordTrack.Game.Shove
import WordTrack.Game.Submission
import WordTrack.Round.Typing

/-! Playing: every operation as an action with a reply, and runs of actions. -/
namespace WordTrack

inductive Action where
  | tick (seconds : Binary32)
  | tickTo (clock : Nat)
  | fitScreen (width : Binary32)
  | press (letters : List Char)
  | poll (down : Char → Bool)
  | backspace
  | submit
  | hit
  | start (level : Level)
  | jump (steps : Int)
  | listen (label : String)
  | unlisten

inductive Reply where
  | none
  | tiles (indices : List Nat)
  | letters (letters : List Char)
  | verdict (verdict : Verdict)
  | struck (moved : Bool)
  | started (result : Except SetupError Unit)

namespace Game

variable {σ : Type}

def press (g : Game σ) (letters : List Char) : Outcome σ (List Nat) :=
  let (round, indices) := g.round.press letters
  ⟨{ g with round := round }, indices, []⟩

def backspace (g : Game σ) : Outcome σ (List Nat) :=
  let (round, indices) := g.round.backspace
  ⟨{ g with round := round }, indices, []⟩

variable [LevelSource σ]

/-- Performs one action. -/
def step (g : Game σ) : Action → Outcome σ Reply
  | .tick seconds => let o := g.tick seconds; ⟨o.game, .none, o.events⟩
  | .tickTo clock => let o := g.tickTo clock; ⟨o.game, .none, o.events⟩
  | .fitScreen width => ⟨g.fitScreen width, .none, []⟩
  | .press letters => let o := g.press letters; ⟨o.game, .tiles o.reply, o.events⟩
  | .poll down => ⟨g, .letters (Id.run (g.round.poll fun c => pure (down c))), []⟩
  | .backspace => let o := g.backspace; ⟨o.game, .tiles o.reply, o.events⟩
  | .submit => let o := g.submit; ⟨o.game, .verdict o.reply, o.events⟩
  | .hit => let o := g.hit; ⟨o.game, .struck o.reply, o.events⟩
  | .start level => let o := g.start level; ⟨o.game, .started o.reply, o.events⟩
  | .jump steps => let o := g.jump steps; ⟨o.game, .started o.reply, o.events⟩
  | .listen label => ⟨g.listen label, .none, []⟩
  | .unlisten => ⟨g.unlisten, .none, []⟩

/-- Performs actions one after the other and keeps what each of them left. -/
def play (g : Game σ) : List Action → List (Outcome σ Reply)
  | [] => []
  | a :: rest => g.step a :: (g.step a).game.play rest

/-- The game after some actions. -/
def after (g : Game σ) (actions : List Action) : Game σ :=
  actions.foldl (fun g a => (g.step a).game) g

end Game

end WordTrack
