import WordTrack.Game.Play
import WordTrack.Proofs.Distinct

/-! What each operation does, case by case. Nothing later looks inside the
operations themselves. -/
namespace WordTrack

namespace Round

theorem mayShove_iff {r : Round} : r.mayShove = true ↔ 0 < r.shove ∧ r.thrown ≠ [] := by
  simp [mayShove]

theorem isOver_iff {r : Round} : r.isOver = true ↔ r.tag = .gameOver := beq_iff_eq

/-- Settling touches the offsets and the hint. -/
theorem settle_eq (floor scale : Binary32) (r : Round) :
    r.settle floor scale =
      { r with
        offset := (r.offset.min 0).max floor
        screenOffset := (r.offset.min 0).max floor * scale
        hint := if r.offset ≤ floor then Hint.gameOver else r.hint
        tag := if r.offset ≤ floor then .gameOver else r.tag } := by
  unfold settle flag rescale
  split <;> rfl

theorem credit_eq (r : Round) (word : String) :
    r.credit word =
      { r with
        accepted := r.accepted.insert word
        points := UInt32.ofNat word.length
        score := r.score + UInt32.ofNat word.length
        hint := if r.tag = .repeated then "" else r.hint
        tag := if r.tag = .repeated then .none else r.tag } := by
  unfold credit
  split <;> rfl

theorem hintRepeated_eq (r : Round) :
    r.hintRepeated =
      { r with
        hint := if r.hint.isEmpty then Hint.repeated else r.hint
        tag := if r.hint.isEmpty then .repeated else r.tag } := by
  unfold hintRepeated
  split <;> rfl

/-- The hint about repeated words never replaces that of the game over. -/
theorem hintRepeated_of_gameOver {r : Round} (hinted : r.hint = Hint.gameOver) :
    r.hintRepeated = r := by
  apply if_neg
  intro empty
  have blank : Hint.gameOver = "" := hinted.symm.trans (String.isEmpty_iff.mp empty)
  exact absurd blank (by decide)

/-- Pressing keeps what typing one letter keeps. -/
theorem press_invariant {P : Round → Prop}
    (preserves : ∀ {r : Round} (letter : Char), P r → P (r.pressOne letter).1) {r : Round}
    (letters : List Char) (initial : P r) : P (r.press letters).1 := by
  rw [press_eq_typeEach]
  refine List.foldlRecOn (motive := fun p : Round × List Nat => P p.1) letters.eraseDups _ initial ?_
  intro p holds letter _
  exact preserves letter holds

end Round

namespace Game

variable {σ : Type}

/-- The letters typed are thrown. -/
def throwTyped (g : Game σ) : Game σ :=
  { g with round := { g.round with thrown := g.round.typed } }

/-- A word is credited and its shove prepared. -/
def credit (g : Game σ) (word : String) : Outcome σ Unit :=
  g.settle { g.round.credit word with
    shove := g.tuning.shove word.length (word.length == g.round.target.length) }

theorem hit_idle {g : Game σ} (idle : g.round.mayShove = false) : g.hit = ⟨g, false, []⟩ := by
  simp [hit, idle]

theorem hit_shoves {g : Game σ} (shoves : g.round.mayShove = true) :
    g.hit =
      let settled := g.settle { g.round with offset := g.round.offset + g.round.shove }
      let game := settled.game.reshuffle
      ⟨{ game with round := { game.round with shove := 0 } }, true,
        settled.events ++ [.logged (.shoved game.round.offset)]⟩ := by
  simp [hit, shoves]

theorem hit_reply (g : Game σ) : g.hit.reply = g.round.mayShove := by
  cases shoves : g.round.mayShove with
  | false => rw [hit_idle shoves]
  | true => rw [hit_shoves shoves]

/-- The letters shown are kept as those of a solved word. -/
def noteSolved (g : Game σ) : Game σ :=
  { g with round := { g.round with solved := g.round.word } }

def forfeit (g : Game σ) : Game σ := { g with round := { g.round with score := 0 } }

variable [LevelSource σ]

theorem start_refused {level : Level} (g : Game σ) (refused : ¬level.Playable) :
    g.start level = ⟨g, .error .emptyText, []⟩ := by
  simp [start, Level.check, refused]

theorem start_playable {level : Level} (g : Game σ) (playable : level.Playable) :
    g.start level =
      let letters := (g.deal level).1
      let velocity := (g.deal level).2.1
      let settled := settle { g with generator := (g.deal level).2.2 }
        (g.round.restart level letters velocity)
      ⟨settled.game, .ok (), settled.events ++
        [.logged (.roundStarted (LevelSource.index g.levels) letters.length velocity)]⟩ := by
  simp [start, Level.check, playable]

/-- The level that lies some steps away. -/
def levelAt (g : Game σ) (steps : Int) : Level := (LevelSource.advance g.levels steps).2

/-- The levels move on by some steps. -/
def advance (g : Game σ) (steps : Int) : Game σ :=
  { g with levels := (LevelSource.advance g.levels steps).1 }

theorem jump_refused {g : Game σ} {steps : Int} (refused : ¬(g.levelAt steps).Playable) :
    g.jump steps = ⟨(g.advance steps).forfeit, .error .emptyText, []⟩ := by
  have started := start_refused (g.advance steps).forfeit refused
  simp only [advance, forfeit, levelAt] at started
  simp [jump, started, advance, forfeit]

theorem jump_playable {g : Game σ} {steps : Int} (playable : (g.levelAt steps).Playable) :
    g.jump steps =
      let started := (g.advance steps).forfeit.start (g.levelAt steps)
      let game := started.game
      ⟨{ game with round := Round.rescale game.scale { game.round with offset := 0 } }, .ok (),
        started.events ++ [.logged (.levelJumped steps (LevelSource.index game.levels))]⟩ := by
  have started := congrArg Outcome.reply (start_playable (g.advance steps).forfeit playable)
  simp only [advance, forfeit, levelAt] at started
  simp [jump, started, advance, forfeit, levelAt]

theorem startNext_refused {g : Game σ} (refused : ¬(g.levelAt 1).Playable) :
    g.startNext = ⟨g.advance 1, (),
      [.logged (.levelRefused (LevelSource.index (g.advance 1).levels) .emptyText)]⟩ := by
  have started := start_refused (g.advance 1) refused
  simp only [advance, levelAt] at started
  simp [startNext, started, advance]

theorem startNext_playable {g : Game σ} (playable : (g.levelAt 1).Playable) :
    g.startNext =
      let started := (g.advance 1).start (g.levelAt 1)
      ⟨started.game, (), started.events⟩ := by
  have started := congrArg Outcome.reply (start_playable (g.advance 1) playable)
  simp only [advance, levelAt] at started
  simp [startNext, started, advance, levelAt]

theorem solve_eq (g : Game σ) :
    g.solve =
      let next := g.noteSolved.startNext
      ⟨next.game, .complete, .logged (.wordSolved g.round.target g.round.points g.round.score) ::
        next.events ++ next.game.listener.toList.map .called⟩ := rfl

/-- How a submission is judged. -/
inductive Judgement (g : Game σ) : Outcome σ Verdict → Prop where
  | empty (nothing : g.round.typed = []) : Judgement g ⟨g, .wrong, []⟩
  | unknown (nonempty : g.round.typed ≠ []) (unknown : g.lexicon g.round.candidate = false) :
      Judgement g ⟨g.throwTyped, .wrong, []⟩
  | repeated (nonempty : g.round.typed ≠ []) (known : g.lexicon g.round.candidate = true)
      (used : g.round.candidate ∈ g.round.accepted) :
      Judgement g ⟨if LevelSource.index g.levels ≤ g.tuning.repeatHintLevel then
        { g.throwTyped with round := g.throwTyped.round.hintRepeated } else g.throwTyped,
        .repeated, []⟩
  | accepted (nonempty : g.round.typed ≠ []) (known : g.lexicon g.round.candidate = true)
      (unused : g.round.candidate ∉ g.round.accepted)
      (shorter : g.round.candidate.length ≠ g.round.target.length) :
      Judgement g ⟨(g.throwTyped.credit g.round.candidate).game, .accepted,
        (g.throwTyped.credit g.round.candidate).events⟩
  | complete (nonempty : g.round.typed ≠ []) (known : g.lexicon g.round.candidate = true)
      (unused : g.round.candidate ∉ g.round.accepted)
      (whole : g.round.candidate.length = g.round.target.length) :
      Judgement g ⟨(g.throwTyped.credit g.round.candidate).game.solve.game, .complete,
        (g.throwTyped.credit g.round.candidate).events ++
          (g.throwTyped.credit g.round.candidate).game.solve.events⟩

theorem Judgement.judge_eq {g : Game σ} {o : Outcome σ Verdict} (judgement : Judgement g o) :
    g.judge = o := by
  cases judgement with
  | empty nothing => simp [judge, nothing]
  | unknown nonempty unknown => simp [judge, nonempty, unknown, throwTyped]
  | repeated nonempty known used => simp [judge, nonempty, known, accept, used, throwTyped]
  | accepted nonempty known unused shorter =>
    simp [judge, nonempty, known, accept, unused, shorter, throwTyped, credit]
  | complete nonempty known unused whole =>
    simp [judge, nonempty, known, accept, unused, whole, throwTyped, credit, solve]

theorem judge_judgement (g : Game σ) : Judgement g g.judge := by
  have judged : ∃ o, Judgement g o := by
    by_cases nothing : g.round.typed = []
    · exact ⟨_, .empty nothing⟩
    cases known : g.lexicon g.round.candidate with
    | false => exact ⟨_, .unknown nothing known⟩
    | true =>
      by_cases used : g.round.candidate ∈ g.round.accepted
      · exact ⟨_, .repeated nothing known used⟩
      by_cases whole : g.round.candidate.length = g.round.target.length
      · exact ⟨_, .complete nothing known used whole⟩
      · exact ⟨_, .accepted nothing known used whole⟩
  obtain ⟨o, judgement⟩ := judged
  rwa [judgement.judge_eq]

end Game

def Event.listener? : Event → Option String
  | .called label => some label
  | .logged _ => none

/-- The listeners called, in order. -/
def called (events : List Event) : List String := events.filterMap Event.listener?

def Reply.isComplete : Reply → Bool
  | .verdict .complete => true
  | _ => false

theorem called_append (first second : List Event) :
    called (first ++ second) = called first ++ called second := List.filterMap_append

theorem called_listener (listener : Option String) :
    called (listener.toList.map .called) = listener.toList := by
  cases listener <;> rfl

/-- Whether an event is a notice that tells of no level refused. -/
def Event.isRoutine : Event → Bool
  | .called _ | .logged (.levelRefused ..) => false
  | .logged _ => true

theorem called_of_routine {events : List Event} (routine : events.all Event.isRoutine = true) :
    called events = [] := by
  refine List.filterMap_eq_nil_iff.mpr fun event member => ?_
  have plain := List.all_eq_true.mp routine event member
  cases event with
  | logged notice => rfl
  | called label => contradiction

namespace Game

variable {σ : Type}

theorem settle_routine (g : Game σ) (r : Round) : (g.settle r).events.all Event.isRoutine = true := by
  unfold settle Round.boundaryEvents
  dsimp only
  split <;> rfl

theorem hit_routine (g : Game σ) : g.hit.events.all Event.isRoutine = true := by
  cases shoves : g.round.mayShove with
  | false =>
    rw [hit_idle shoves]
    rfl
  | true =>
    rw [hit_shoves shoves]
    simp only [List.all_append, settle_routine]
    rfl

variable [LevelSource σ]

theorem start_routine (g : Game σ) (level : Level) :
    (g.start level).events.all Event.isRoutine = true := by
  by_cases playable : level.Playable
  · rw [start_playable g playable]
    simp only [List.all_append, settle_routine]
    rfl
  · rw [start_refused g playable]
    rfl

theorem start_listener (g : Game σ) (level : Level) : (g.start level).game.listener = g.listener := by
  by_cases playable : level.Playable
  · rw [start_playable g playable]
    rfl
  · rw [start_refused g playable]

theorem jump_routine (g : Game σ) (steps : Int) :
    (g.jump steps).events.all Event.isRoutine = true := by
  by_cases playable : (g.levelAt steps).Playable
  · rw [jump_playable playable]
    simp only [List.all_append, start_routine]
    rfl
  · rw [jump_refused playable]
    rfl

theorem called_solve (g : Game σ) : called g.solve.events = g.listener.toList := by
  have next : called g.noteSolved.startNext.events = [] ∧
      g.noteSolved.startNext.game.listener = g.listener := by
    by_cases playable : (g.noteSolved.levelAt 1).Playable
    · rw [startNext_playable playable]
      exact ⟨called_of_routine (start_routine _ _), start_listener _ _⟩
    · rw [startNext_refused playable]
      exact ⟨rfl, rfl⟩
  rw [solve_eq]
  change called (g.noteSolved.startNext.events ++ _) = _
  rw [called_append, next.1, next.2, called_listener, List.nil_append]

theorem called_judge (g : Game σ) :
    called g.judge.events =
      if (Reply.verdict g.judge.reply).isComplete then g.listener.toList else [] := by
  have judged := judge_judgement g
  generalize g.judge = o at judged ⊢
  cases judged with
  | empty | unknown | repeated => rfl
  | accepted => exact called_of_routine (settle_routine _ _)
  | complete =>
    simp only [called_append, called_solve, credit, called_of_routine (settle_routine _ _)]
    rfl

/-- A listener is called exactly when a word is solved. -/
theorem called_step (g : Game σ) (action : Action) :
    called (g.step action).events =
      if (g.step action).reply.isComplete then g.listener.toList else [] := by
  cases action with
  | tick | tickTo => exact called_of_routine (settle_routine _ _)
  | fitScreen | press | poll | backspace | listen | unlisten => rfl
  | submit =>
    have told : called (g.step .submit).events = called g.judge.events := by
      simp only [step, submit, called_append]
      exact List.append_nil _
    rw [told]
    exact called_judge g
  | hit => exact called_of_routine (hit_routine g)
  | start level => exact called_of_routine (start_routine g level)
  | jump steps => exact called_of_routine (jump_routine g steps)

end Game

end WordTrack
