import WordTrack.Level.Course
import WordTrack.Proofs.Operations
import Mathlib.Logic.Relation

/-! Actions as chains of moves. A move is a change that an action makes as one
piece. What every move keeps is kept by every action, and so it holds in every
game that can be reached. -/
namespace WordTrack

namespace Game

variable {σ : Type} [LevelSource σ]

/-- The pieces that actions are made of. -/
inductive Move (g : Game σ) : Game σ → Prop where
  | clock (clock : Nat) : Move g { g with clock := clock }
  | fitScreen (width : Binary32) : Move g (g.fitScreen width)
  | listener (listener : Option String) : Move g { g with listener := listener }
  | advance (steps : Int) : Move g (g.advance steps)
  | drift (offset : Binary32) : Move g (g.settle { g.round with offset := offset }).game
  | rewind : Move g { g with round := Round.rescale g.scale { g.round with offset := 0 } }
  | pressOne (letter : Char) : Move g { g with round := (g.round.pressOne letter).1 }
  | backspace : Move g { g with round := g.round.backspace.1 }
  | reshuffle : Move g g.reshuffle
  | restart {level : Level} (playable : level.Playable) : Move g (g.start level).game
  | throwTyped (nonempty : g.round.typed ≠ []) : Move g g.throwTyped
  | hintRepeated : Move g { g with round := g.round.hintRepeated }
  /-- A word is credited while it is still typed. -/
  | credit (nonempty : g.round.typed ≠ []) (known : g.lexicon g.round.candidate = true)
      (unused : g.round.candidate ∉ g.round.accepted) : Move g (g.credit g.round.candidate).game
  | noteSolved : Move g g.noteSolved
  | shoved : Move g { g with round := { g.round with shove := 0 } }
  | forfeit : Move g g.forfeit
  | clearAttempt : Move g { g with round := g.round.clearAttempt }

/-- Any number of moves. -/
abbrev Moves : Game σ → Game σ → Prop := Relation.ReflTransGen Move

theorem Moves.invariant {P : Game σ → Prop} (preserves : ∀ {g h : Game σ}, Move g h → P g → P h)
    {g h : Game σ} (moves : Moves g h) (initial : P g) : P h := by
  induction moves with
  | refl => exact initial
  | tail _ move ih => exact preserves move ih

theorem press_moves (g : Game σ) (letters : List Char) : Moves g (g.press letters).game :=
  Round.press_invariant (P := fun r => Moves g { g with round := r })
    (fun letter moves => moves.tail (.pressOne letter)) letters .refl

theorem start_moves (g : Game σ) (level : Level) : Moves g (g.start level).game := by
  by_cases playable : level.Playable
  · exact .single (.restart playable)
  · rw [start_refused g playable]

theorem jump_moves (g : Game σ) (steps : Int) : Moves g (g.jump steps).game := by
  have forfeited : Moves g (g.advance steps).forfeit := .tail (.single (.advance steps)) .forfeit
  by_cases playable : (g.levelAt steps).Playable
  · rw [jump_playable playable]
    exact (forfeited.tail (.restart playable)).tail .rewind
  · rwa [jump_refused playable]

theorem startNext_moves (g : Game σ) : Moves g g.startNext.game := by
  have advanced : Moves g (g.advance 1) := .single (.advance 1)
  by_cases playable : (g.levelAt 1).Playable
  · rw [startNext_playable playable]
    exact advanced.tail (.restart playable)
  · rwa [startNext_refused playable]

theorem solve_moves (g : Game σ) : Moves g g.solve.game :=
  (Relation.ReflTransGen.single .noteSolved).trans (startNext_moves _)

theorem judge_moves (g : Game σ) : Moves g g.judge.game := by
  have judged := judge_judgement g
  generalize g.judge = o at judged
  cases judged with
  | empty => exact .refl
  | unknown nonempty => exact .single (.throwTyped nonempty)
  | repeated nonempty =>
    have thrown : Moves g g.throwTyped := .single (.throwTyped nonempty)
    dsimp only
    split
    · exact thrown.tail .hintRepeated
    · exact thrown
  | accepted nonempty known unused =>
    have thrown : Moves g g.throwTyped := .single (.throwTyped nonempty)
    exact thrown.tail (.credit nonempty known unused)
  | complete nonempty known unused =>
    have thrown : Moves g g.throwTyped := .single (.throwTyped nonempty)
    exact (thrown.tail (.credit nonempty known unused)).trans (solve_moves _)

theorem submit_moves (g : Game σ) : Moves g g.submit.game := (judge_moves g).tail .clearAttempt

theorem hit_moves (g : Game σ) : Moves g g.hit.game := by
  cases shoves : g.round.mayShove with
  | false => rw [hit_idle shoves]
  | true =>
    rw [hit_shoves shoves]
    have drifted : Moves g (g.settle { g.round with offset := g.round.offset + g.round.shove }).game :=
      .single (.drift _)
    exact (drifted.tail .reshuffle).tail .shoved

/-- Every action is a chain of moves. -/
theorem step_moves (g : Game σ) (action : Action) : Moves g (g.step action).game := by
  cases action with
  | tick seconds => exact .single (.drift _)
  | tickTo clock => exact (Relation.ReflTransGen.single (.clock clock)).tail (.drift _)
  | fitScreen width => exact .single (.fitScreen width)
  | press letters => exact press_moves g letters
  | poll down => exact .refl
  | backspace => exact .single .backspace
  | submit => exact submit_moves g
  | hit => exact hit_moves g
  | start level => exact start_moves g level
  | jump steps => exact jump_moves g steps
  | listen label => exact .single (.listener (some label))
  | unlisten => exact .single (.listener none)

theorem create_eq_ok_iff {tuning : Tuning} {levels : σ} {lexicon : String → Bool} {seed : UInt64}
    {g : Game σ} {told : List Event} :
    create tuning levels lexicon seed = .ok (g, told) ↔
      tuning.check = .ok () ∧ (LevelSource.current levels).Playable ∧
        ((idle tuning levels lexicon seed).start (LevelSource.current levels)).game = g ∧
        ((idle tuning levels lexicon seed).start (LevelSource.current levels)).events = told := by
  cases checked : tuning.check with
  | error e => simp [create, checked, bind, Except.bind]
  | ok _ =>
    by_cases playable : (LevelSource.current levels).Playable
    · simp [create, checked, bind, Except.bind, pure, Except.pure, start_playable _ playable, playable]
    · simp [create, checked, bind, Except.bind, start_refused _ playable, playable]

/-- The games that a new one can become. -/
inductive Reachable : Game σ → Prop where
  | create {tuning : Tuning} {levels : σ} {lexicon : String → Bool} {seed : UInt64} {g : Game σ}
      {told : List Event} : create tuning levels lexicon seed = .ok (g, told) → Reachable g
  | step {g : Game σ} (action : Action) : Reachable g → Reachable (g.step action).game

theorem Reachable.invariant {P : Game σ → Prop}
    (idle : ∀ (tuning : Tuning) (levels : σ) (lexicon : String → Bool) (seed : UInt64),
      tuning.check = .ok () → P (idle tuning levels lexicon seed))
    (preserves : ∀ {g h : Game σ}, Move g h → P g → P h) {g : Game σ} (reachable : g.Reachable) :
    P g := by
  induction reachable with
  | create created =>
    obtain ⟨checked, -, rfl, -⟩ := create_eq_ok_iff.mp created
    exact (start_moves _ _).invariant preserves (idle _ _ _ _ checked)
  | step action _ ih => exact (step_moves _ action).invariant preserves ih

theorem Reachable.after {g : Game σ} (reachable : g.Reachable) (actions : List Action) :
    (g.after actions).Reachable := by
  induction actions generalizing g with
  | nil => exact reachable
  | cons action rest ih => exact ih (reachable.step action)

/-- What no action changes. -/
def rules (g : Game σ) : Tuning × (String → Bool) := (g.tuning, g.lexicon)

theorem Move.rules_eq {g h : Game σ} (move : Move g h) : h.rules = g.rules := by
  cases move with
  | restart playable =>
    rw [start_playable g playable]
    rfl
  | _ => rfl

theorem Moves.rules_eq {g h : Game σ} (moves : Moves g h) : h.rules = g.rules :=
  moves.invariant (P := fun k => k.rules = g.rules)
    (fun move same => move.rules_eq.trans same) rfl

theorem after_rules (g : Game σ) (actions : List Action) : (g.after actions).rules = g.rules := by
  induction actions generalizing g with
  | nil => rfl
  | cons action rest ih => exact (ih (g.step action).game).trans (step_moves g action).rules_eq

theorem create_rules {tuning : Tuning} {levels : σ} {lexicon : String → Bool} {seed : UInt64}
    {g : Game σ} {told : List Event}
    (created : create tuning levels lexicon seed = .ok (g, told)) : g.rules = (tuning, lexicon) := by
  obtain ⟨-, -, rfl, -⟩ := create_eq_ok_iff.mp created
  exact (start_moves _ _).rules_eq

/-! A game to try statements at. Its second level has no word, so a solved word
or a jump may find no level to start. -/
namespace Sample

def levels : LevelCycle := ⟨[.ofText "LOOP", .ofText ""], 0, by decide⟩

def lexicon (word : String) : Bool := ["LO", "PO", "POOL"].contains word

/-- The first round of the game. -/
def opening : Game LevelCycle :=
  ((idle Tuning.standard levels lexicon 7).start (LevelSource.current levels)).game

theorem create_opening : ∃ told, create Tuning.standard levels lexicon 7 = .ok (opening, told) :=
  ⟨_, create_eq_ok_iff.mpr ⟨rfl, by decide, rfl, rfl⟩⟩

theorem opening_reachable : opening.Reachable := create_opening.elim fun _ => .create

/-- In the middle of an attempt, after an accepted word, a jump that was refused
and a shove. -/
def midway : Game LevelCycle :=
  opening.after [.press ['L'], .press ['O'], .submit, .press ['O', 'O', 'P'], .press ['O'],
    .backspace, .jump 1, .hit]

theorem midway_reachable : midway.Reachable := opening_reachable.after _

end Sample

end Game

end WordTrack
