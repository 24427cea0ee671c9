import WordTrack.Proofs.Operations
import Mathlib.Data.List.DropRight

/-! Runs as histories. What happened in a run is read off its turns alone: which
words scored, and where rounds started. -/
namespace WordTrack

def Action.isSubmit : Action → Bool
  | .submit => true
  | _ => false

/-- An action and the game in which it was made. -/
structure Turn (σ : Type) where
  before : Game σ
  action : Action

namespace Turn

variable {σ : Type} [LevelSource σ]

def outcome (t : Turn σ) : Outcome σ Reply := t.before.step t.action

/-- The word that was submitted and scored. -/
def credited (t : Turn σ) : Option String :=
  match t.outcome.reply with
  | .verdict verdict => if verdict.isAccepted then some t.before.round.candidate else none
  | _ => none

/-- Whether a round started. A solved word starts the next one if its level can
be played. -/
def startsRound (t : Turn σ) : Bool :=
  match t.outcome.reply with
  | .started (.ok _) => true
  | .verdict .complete => decide (t.before.levelAt 1).Playable
  | _ => false

def isJump (t : Turn σ) : Bool :=
  match t.action with
  | .jump _ => true
  | _ => false

/-- What is known of a turn in which a word scored. -/
structure Scores (t : Turn σ) (word : String) : Prop where
  submits : t.action = .submit
  spelled : word = t.before.round.candidate
  nonempty : t.before.round.typed ≠ []
  known : t.before.lexicon word = true
  unused : word ∉ t.before.round.accepted
  complete : t.outcome.reply.isComplete = decide (word.length = t.before.round.target.length)

theorem scores_of_credited {t : Turn σ} {word : String} (scored : t.credited = some word) :
    t.Scores word := by
  obtain ⟨g, action⟩ := t
  cases action with
  | submit =>
    have judged := g.judge_judgement
    have reply : (⟨g, .submit⟩ : Turn σ).outcome.reply = .verdict g.judge.reply := rfl
    rw [credited, reply] at scored
    generalize g.judge = o at judged scored reply
    cases judged with
    | empty | unknown | repeated => contradiction
    | accepted nonempty known unused shorter =>
      obtain rfl := Option.some.inj scored
      refine ⟨rfl, rfl, nonempty, known, unused, ?_⟩
      rw [reply, decide_eq_false shorter]
      rfl
    | complete nonempty known unused whole =>
      obtain rfl := Option.some.inj scored
      refine ⟨rfl, rfl, nonempty, known, unused, ?_⟩
      rw [reply, decide_eq_true whole]
      rfl
  | _ => contradiction

theorem startsRound_start (g : Game σ) (level : Level) :
    (⟨g, .start level⟩ : Turn σ).startsRound = decide level.Playable := by
  by_cases playable : level.Playable
  · simp [startsRound, outcome, Game.step, g.start_playable playable, playable]
  · simp [startsRound, outcome, Game.step, g.start_refused playable, playable]

theorem startsRound_jump (g : Game σ) (steps : Int) :
    (⟨g, .jump steps⟩ : Turn σ).startsRound = decide (g.levelAt steps).Playable := by
  by_cases playable : (g.levelAt steps).Playable
  · simp [startsRound, outcome, Game.step, Game.jump_playable playable, playable]
  · simp [startsRound, outcome, Game.step, Game.jump_refused playable, playable]

end Turn

namespace Game

variable {σ : Type} [LevelSource σ]

/-- The turns of a run. -/
def turns (g : Game σ) : List Action → List (Turn σ)
  | [] => []
  | action :: rest => ⟨g, action⟩ :: (g.step action).game.turns rest

theorem after_concat (g : Game σ) (actions : List Action) (action : Action) :
    g.after (actions ++ [action]) = ((g.after actions).step action).game := by
  simp [after]

theorem turns_concat (g : Game σ) (actions : List Action) (action : Action) :
    g.turns (actions ++ [action]) = g.turns actions ++ [⟨g.after actions, action⟩] := by
  induction actions generalizing g with
  | nil => rfl
  | cons first rest ih => exact congrArg (_ :: ·) (ih (g.step first).game)

/-- A turn is made in the game that the turns before it left. -/
theorem turns_split {g : Game σ} {actions : List Action} {earlier later : List (Turn σ)} {t : Turn σ}
    (split : g.turns actions = earlier ++ t :: later) :
    ∃ done, g.turns done = earlier ∧ g.after done = t.before := by
  induction earlier generalizing g actions with
  | nil =>
    cases actions with
    | nil => simp [turns] at split
    | cons action rest =>
      obtain ⟨rfl, -⟩ := List.cons.inj split
      exact ⟨[], rfl, rfl⟩
  | cons first earlier ih =>
    cases actions with
    | nil => simp [turns] at split
    | cons action rest =>
      obtain ⟨rfl, tail⟩ := List.cons.inj split
      obtain ⟨done, turns, after⟩ := ih tail
      exact ⟨action :: done, congrArg (_ :: ·) turns, after⟩

end Game

end WordTrack
