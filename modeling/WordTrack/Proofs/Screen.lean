import WordTrack.Proofs.History
import WordTrack.Proofs.Moves

/-! The screen offset is never stale. It is stored beside the offset and the scale of
which it is the product, and whatever writes one of the two brings it up to date. -/
namespace WordTrack

/-- The screen that an action fits the track to. -/
def Action.screen : Action → Option Binary32
  | .fitScreen width => some width
  | _ => none

/-- The scale by the end of some actions: one until a screen is fitted. -/
def fitted (tuning : Tuning) (actions : List Action) : Binary32 :=
  ((actions.filterMap Action.screen).getLast?.map (· / tuning.trackWidth)).getD 1

theorem fitted_concat (tuning : Tuning) (actions : List Action) (action : Action) :
    fitted tuning (actions ++ [action]) =
      (action.screen.map (· / tuning.trackWidth)).getD (fitted tuning actions) := by
  unfold fitted
  cases width : action.screen <;> simp [width]

namespace Game

variable {σ : Type}

/-- The screen offset is up to date. -/
def Scaled (g : Game σ) : Prop := g.round.screenOffset = g.round.offset * g.scale

theorem settle_scaled (g : Game σ) (r : Round) : (g.settle r).game.Scaled := rfl

theorem hit_scale (g : Game σ) : g.hit.game.scale = g.scale := by
  cases shoves : g.round.mayShove with
  | false => rw [hit_idle shoves]
  | true =>
    rw [hit_shoves shoves]
    rfl

variable [LevelSource σ]

theorem start_scale (g : Game σ) (level : Level) : (g.start level).game.scale = g.scale := by
  by_cases playable : level.Playable
  · rw [start_playable g playable]
    rfl
  · rw [start_refused g playable]

theorem jump_scale (g : Game σ) (steps : Int) : (g.jump steps).game.scale = g.scale := by
  by_cases playable : (g.levelAt steps).Playable
  · rw [jump_playable playable]
    exact start_scale (g.advance steps).forfeit _
  · rw [jump_refused playable]
    rfl

theorem solve_scale (g : Game σ) : g.solve.game.scale = g.scale := by
  rw [solve_eq]
  by_cases playable : (g.levelAt 1).Playable
  · rw [startNext_playable (g := g.noteSolved) playable]
    exact start_scale (g.noteSolved.advance 1) _
  · rw [startNext_refused (g := g.noteSolved) playable]
    rfl

theorem submit_scale (g : Game σ) : g.submit.game.scale = g.scale := by
  have judged := judge_judgement g
  change g.judge.game.scale = _
  generalize g.judge = o at judged ⊢
  cases judged with
  | empty | unknown | accepted => rfl
  | repeated =>
    dsimp only
    split <;> rfl
  | complete => exact solve_scale _

/-- Only fitting a screen changes the scale. -/
theorem step_scale (g : Game σ) (action : Action) :
    (g.step action).game.scale = (action.screen.map (· / g.tuning.trackWidth)).getD g.scale := by
  cases action with
  | tick | tickTo | fitScreen | press | poll | backspace | listen | unlisten => rfl
  | submit => exact submit_scale g
  | hit => exact hit_scale g
  | start level => exact start_scale g level
  | jump steps => exact jump_scale g steps

theorem Move.scaled {g h : Game σ} (move : Move g h) (scaled : g.Scaled) : h.Scaled := by
  cases move with
  | clock | listener | advance | reshuffle | throwTyped | noteSolved | shoved | forfeit
  | clearAttempt => exact scaled
  | fitScreen | rewind => rfl
  | drift offset => exact settle_scaled g _
  | pressOne letter =>
    dsimp only [Round.pressOne]
    split
    · exact scaled
    · exact scaled
  | backspace =>
    dsimp only [Round.backspace]
    split
    · exact scaled
    · exact scaled
  | restart playable =>
    rw [start_playable g playable]
    exact settle_scaled _ _
  | hintRepeated =>
    rw [Round.hintRepeated_eq]
    exact scaled
  | credit => exact settle_scaled g _

theorem Reachable.scaled {g : Game σ} (reachable : g.Reachable) : g.Scaled := by
  refine reachable.invariant ?_ Move.scaled
  intro tuning levels lexicon seed _
  have blank : (0 : Binary32) = 0 * 1 := by decide +kernel
  exact blank

theorem scale_after {tuning : Tuning} {g : Game σ} (tuned : g.tuning = tuning) (unfitted : g.scale = 1)
    (actions : List Action) : (g.after actions).scale = fitted tuning actions := by
  induction actions using List.reverseRecOn with
  | nil => exact unfitted
  | append_singleton done action ih =>
    have same : (g.after done).tuning = tuning :=
      (congrArg Prod.fst (g.after_rules done)).trans tuned
    rw [after_concat, step_scale, fitted_concat, ih, same]

theorem create_scale {tuning : Tuning} {levels : σ} {lexicon : String → Bool} {seed : UInt64}
    {g : Game σ} {told : List Event}
    (created : create tuning levels lexicon seed = .ok (g, told)) : g.scale = 1 := by
  obtain ⟨-, -, rfl, -⟩ := create_eq_ok_iff.mp created
  exact start_scale _ _

/-- The screen offset is the offset times the scale, and the scale is that of the
screen fitted last. -/
theorem screen_offset_current {tuning : Tuning} {levels : σ} {lexicon : String → Bool}
    {seed : UInt64} {g : Game σ} {told : List Event}
    (created : create tuning levels lexicon seed = .ok (g, told)) (actions : List Action) :
    let h := g.after actions
    h.scale = fitted tuning actions ∧ h.round.screenOffset = h.round.offset * h.scale := by
  intro h
  have reachable : g.Reachable := .create created
  have tuned : g.tuning = tuning := congrArg Prod.fst (create_rules created)
  constructor
  · exact scale_after tuned (create_scale created) actions
  · exact (reachable.after actions).scaled

/-- Two screens are fitted, the second without bound, and the word goes back to the
start of the track. -/
def Sample.refitted : List Action :=
  [.fitScreen 360, .tick 1, .fitScreen (.infinite false), .tick 1, .jump 0]

/-- The product of nothing and an unbounded scale is no number, and is stored as such. -/
theorem screen_offset_current_refitted :
    (∃ told, create Tuning.standard Sample.levels Sample.lexicon 7 = .ok (Sample.opening, told)) ∧
      (Sample.opening.after Sample.refitted).round.offset = 0 ∧
      (Sample.opening.after Sample.refitted).scale = .infinite false ∧
      (Sample.opening.after Sample.refitted).round.screenOffset = .nan := by
  obtain ⟨told, created⟩ := Sample.create_opening
  obtain ⟨scale, product⟩ := screen_offset_current created Sample.refitted
  have start : (Sample.opening.after Sample.refitted).round.offset = 0 := by decide +kernel
  have unbounded : fitted Tuning.standard Sample.refitted = .infinite false := by decide +kernel
  rw [unbounded] at scale
  refine ⟨⟨told, created⟩, start, scale, ?_⟩
  rw [product, start, scale]
  decide +kernel

end Game

end WordTrack
