import WordTrack.Proofs.Moves

/-! The drift never decides anything in the word game. A game without its drift
goes through every other action on its own, and the actions that only concern
the drift leave it as it is. Hence two runs that differ in such actions alone
play the same word game. -/
namespace WordTrack

/-- Whether an action only moves the word or fits it to a screen. -/
def Action.isDrift : Action → Bool
  | .tick _ | .tickTo _ | .fitScreen _ => true
  | _ => false

/-- A round without what the drift decides. -/
def Round.still (r : Round) : Round :=
  { r with offset := 0, screenOffset := 0, hint := "", tag := .none }

/-- A game without what the drift decides. -/
def Game.still {σ : Type} (g : Game σ) : Game σ :=
  { g with round := g.round.still, scale := 1, clock := 0 }

/-- What an outcome leaves and answers, without what the drift decides. -/
def Outcome.still {σ α : Type} (o : Outcome σ α) : Game σ × α := (o.game.still, o.reply)

theorem Outcome.still_eq_iff {σ α : Type} {o p : Outcome σ α} :
    o.still = p.still ↔ o.game.still = p.game.still ∧ o.reply = p.reply := by
  simp only [Outcome.still, Prod.mk.injEq]

namespace Round

theorem pressOne_still (letter : Char) (r : Round) :
    r.still.pressOne letter = ((r.pressOne letter).1.still, (r.pressOne letter).2) := by
  simp only [pressOne, still]
  cases r.pool.idxOf? letter <;> rfl

theorem press_still (letters : List Char) (r : Round) :
    r.still.press letters = ((r.press letters).1.still, (r.press letters).2) := by
  rw [press_eq_typeEach, press_eq_typeEach]
  unfold typeEach
  rw [← List.foldl_hom (fun p : Round × List Nat => (p.1.still, p.2))]
  rintro ⟨r, indices⟩ letter
  simp only [pressOne_still]

theorem backspace_still (r : Round) :
    r.still.backspace = (r.backspace.1.still, r.backspace.2) := by
  simp only [backspace, still]
  cases r.typed.getLast? <;> rfl

end Round

namespace Game

variable {σ : Type}

theorem still_eq_iff {g h : Game σ} :
    g.still = h.still ↔ g.tuning = h.tuning ∧ g.levels = h.levels ∧ g.lexicon = h.lexicon ∧
      g.seed = h.seed ∧ g.generator = h.generator ∧ g.round.still = h.round.still ∧
      g.listener = h.listener := by
  simp only [still, Game.mk.injEq, true_and]

theorem settle_still (g : Game σ) (r : Round) :
    (g.settle r).game.still = { g with round := r }.still := by
  simp only [settle, still, Round.settle_eq]
  rfl

/-- Whether an operation goes without the drift. -/
def Blind {α : Type} (operation : Game σ → Outcome σ α) : Prop :=
  ∀ g, (operation g).still = (operation g.still).still

/-- Games that differ in the drift alone are treated alike. -/
theorem Blind.congr {α : Type} {operation : Game σ → Outcome σ α} (blind : Blind operation)
    {g h : Game σ} (agree : g.still = h.still) :
    (operation g).game.still = (operation h).game.still ∧
      (operation g).reply = (operation h).reply := by
  rw [← Outcome.still_eq_iff, blind g, blind h, agree]

/-- How an operation answers an action makes no difference. -/
theorem Blind.answering {α : Type} {operation : Game σ → Outcome σ α} (blind : Blind operation)
    (answer : α → Reply) :
    Blind fun g => ⟨(operation g).game, answer (operation g).reply, (operation g).events⟩ := by
  intro g
  obtain ⟨games, replies⟩ := Outcome.still_eq_iff.mp (blind g)
  exact Outcome.still_eq_iff.mpr ⟨games, congrArg answer replies⟩

theorem credit_blind (word : String) : Blind fun g : Game σ => g.credit word := by
  intro g
  simp only [Outcome.still, credit, settle_still, Round.credit_eq]
  rfl

theorem hit_blind : Blind fun g : Game σ => g.hit := by
  intro g
  dsimp only
  cases shoves : g.round.mayShove with
  | false =>
    rw [hit_idle shoves, hit_idle (g := g.still) shoves]
    rfl
  | true =>
    rw [hit_shoves shoves, hit_shoves (g := g.still) shoves]
    simp only [Outcome.still, settle, still, reshuffle, Round.settle_eq]
    rfl

variable [LevelSource σ]

theorem start_blind (level : Level) : Blind fun g : Game σ => g.start level := by
  intro g
  dsimp only
  by_cases playable : level.Playable
  · rw [start_playable g playable, start_playable g.still playable]
    simp only [Outcome.still, settle_still]
    rfl
  · rw [start_refused g playable, start_refused g.still playable]
    rfl

theorem jump_blind (steps : Int) : Blind fun g : Game σ => g.jump steps := by
  intro g
  dsimp only
  by_cases playable : (g.levelAt steps).Playable
  · have agree : (g.advance steps).forfeit.still = (g.still.advance steps).forfeit.still := rfl
    obtain ⟨games, -⟩ := (start_blind (g.levelAt steps)).congr agree
    rw [jump_playable playable, jump_playable (g := g.still) playable]
    exact Outcome.still_eq_iff.mpr ⟨games, rfl⟩
  · rw [jump_refused playable, jump_refused (g := g.still) playable]
    rfl

theorem startNext_blind : Blind fun g : Game σ => g.startNext := by
  intro g
  dsimp only
  by_cases playable : (g.levelAt 1).Playable
  · have agree : (g.advance 1).still = (g.still.advance 1).still := rfl
    obtain ⟨games, -⟩ := (start_blind (g.levelAt 1)).congr agree
    rw [startNext_playable playable, startNext_playable (g := g.still) playable]
    exact Outcome.still_eq_iff.mpr ⟨games, rfl⟩
  · rw [startNext_refused playable, startNext_refused (g := g.still) playable]
    rfl

theorem solve_blind : Blind fun g : Game σ => g.solve := by
  intro g
  have agree : g.noteSolved.still = g.still.noteSolved.still := rfl
  obtain ⟨games, -⟩ := startNext_blind.congr agree
  exact Outcome.still_eq_iff.mpr ⟨games, rfl⟩

/-- The hint is read to judge a repeated word, and decides only the hint. -/
theorem judge_blind : Blind fun g : Game σ => g.judge := by
  intro g
  dsimp only
  have thrown : g.throwTyped.still = g.still.throwTyped.still := rfl
  obtain ⟨credited, -⟩ := (credit_blind g.round.candidate).congr thrown
  have judged := judge_judgement g
  generalize g.judge = o at judged
  cases judged with
  | empty nothing =>
    rw [(Judgement.empty (g := g.still) nothing).judge_eq]
    rfl
  | unknown nonempty unknown =>
    rw [(Judgement.unknown (g := g.still) nonempty unknown).judge_eq]
    rfl
  | repeated nonempty known used =>
    rw [(Judgement.repeated (g := g.still) nonempty known used).judge_eq]
    by_cases low : LevelSource.index g.levels ≤ g.tuning.repeatHintLevel
    · have low' : LevelSource.index g.still.levels ≤ g.still.tuning.repeatHintLevel := low
      simp only [Outcome.still, if_pos low, if_pos low', Round.hintRepeated_eq]
      rfl
    · have low' : ¬LevelSource.index g.still.levels ≤ g.still.tuning.repeatHintLevel := low
      simp only [Outcome.still, if_neg low, if_neg low']
      rfl
  | accepted nonempty known unused shorter =>
    rw [(Judgement.accepted (g := g.still) nonempty known unused shorter).judge_eq]
    exact Outcome.still_eq_iff.mpr ⟨credited, rfl⟩
  | complete nonempty known unused whole =>
    rw [(Judgement.complete (g := g.still) nonempty known unused whole).judge_eq]
    obtain ⟨games, -⟩ := solve_blind.congr credited
    exact Outcome.still_eq_iff.mpr ⟨games, rfl⟩

theorem submit_blind : Blind fun g : Game σ => g.submit := by
  intro g
  obtain ⟨games, replies⟩ := Outcome.still_eq_iff.mp (judge_blind g)
  refine Outcome.still_eq_iff.mpr ⟨?_, replies⟩
  exact congrArg (fun k : Game σ => { k with round := k.round.clearAttempt }) games

/-- An action that concerns more than the drift does not read it. -/
theorem step_blind {action : Action} (acts : action.isDrift = false) :
    Blind fun g : Game σ => g.step action := by
  cases action with
  | tick | tickTo | fitScreen => contradiction
  | press letters =>
    intro g
    have pressed := Round.press_still letters g.round
    simp only [step, press, Outcome.still, still, pressed]
    rfl
  | backspace =>
    intro g
    have taken := Round.backspace_still g.round
    simp only [step, backspace, Outcome.still, still, taken]
    rfl
  | poll | listen | unlisten => exact fun _ => rfl
  | submit => exact submit_blind.answering .verdict
  | hit => exact hit_blind.answering .struck
  | start level => exact (start_blind level).answering .started
  | jump steps => exact (jump_blind steps).answering .started

theorem step_drift (g : Game σ) {action : Action} (drift : action.isDrift = true) :
    (g.step action).game.still = g.still ∧ called (g.step action).events = [] := by
  rw [called_step]
  cases action with
  | tick seconds => exact ⟨settle_still g _, rfl⟩
  | tickTo clock => exact ⟨settle_still { g with clock := clock } _, rfl⟩
  | fitScreen width => exact ⟨rfl, rfl⟩
  | press | poll | backspace | submit | hit | start | jump | listen | unlisten => contradiction

/-- The listeners called in a run. -/
def calls (g : Game σ) (actions : List Action) : List String :=
  (g.play actions).flatMap fun o => called o.events

/-- The replies in a run to all actions that concern more than the drift. -/
def answers (g : Game σ) (actions : List Action) : List Reply :=
  ((actions.zip (g.play actions)).filter fun p => !p.1.isDrift).map fun p => p.2.reply

theorem calls_cons (g : Game σ) (action : Action) (rest : List Action) :
    g.calls (action :: rest) = called (g.step action).events ++ (g.step action).game.calls rest := rfl

theorem answers_cons (g : Game σ) (action : Action) (rest : List Action) :
    g.answers (action :: rest) =
      if action.isDrift then (g.step action).game.answers rest
      else (g.step action).reply :: (g.step action).game.answers rest := by
  cases drift : action.isDrift <;> simp [answers, play, drift]

/-- Leaving out what only concerns the drift changes nothing in the word game. The
two games need not have drifted alike before. -/
theorem run_still {g h : Game σ} (agree : g.still = h.still) (actions : List Action) :
    (g.after actions).still = (h.after (actions.filter (!·.isDrift))).still ∧
      g.calls actions = h.calls (actions.filter (!·.isDrift)) ∧
      g.answers actions = h.answers (actions.filter (!·.isDrift)) := by
  induction actions generalizing g h with
  | nil => exact ⟨agree, rfl, rfl⟩
  | cons action rest ih =>
    cases drift : action.isDrift with
    | true =>
      obtain ⟨same, silent⟩ := step_drift g drift
      rw [List.filter_cons_of_neg (by simp [drift]), calls_cons, answers_cons, silent, if_pos drift]
      exact ih (same.trans agree)
    | false =>
      obtain ⟨games, replies⟩ := (step_blind drift).congr agree
      obtain ⟨-, -, -, -, -, -, listeners⟩ := still_eq_iff.mp agree
      obtain ⟨afters, later, answers⟩ := ih games
      rw [List.filter_cons_of_pos (by simp [drift])]
      refine ⟨afters, ?_, ?_⟩
      · rw [calls_cons, calls_cons, called_step, called_step, replies, listeners, later]
      · rw [answers_cons, answers_cons, drift, replies, answers]

/-- Two runs of a game whose actions are the same but for those that only concern
the drift leave the same word game, get the same replies and call the same
listeners. -/
theorem drift_never_interferes (g : Game σ) {first second : List Action}
    (same : first.filter (!·.isDrift) = second.filter (!·.isDrift)) :
    let a := g.after first
    let b := g.after second
    (a.round.target = b.round.target ∧ a.round.tiles = b.round.tiles ∧
      a.round.pool = b.round.pool ∧ a.round.typed = b.round.typed ∧
      a.round.origins = b.round.origins ∧ a.round.accepted = b.round.accepted ∧
      a.round.thrown = b.round.thrown ∧ a.round.solved = b.round.solved ∧
      a.round.points = b.round.points ∧ a.round.score = b.round.score ∧
      a.round.velocity = b.round.velocity ∧ a.round.shove = b.round.shove) ∧
    a.levels = b.levels ∧ a.generator = b.generator ∧
    g.calls first = g.calls second ∧ g.answers first = g.answers second := by
  intro a b
  obtain ⟨firstGame, firstCalls, firstAnswers⟩ := run_still (g := g) rfl first
  obtain ⟨secondGame, secondCalls, secondAnswers⟩ := run_still (g := g) rfl second
  rw [← same] at secondGame secondCalls secondAnswers
  have games : a.still = b.still := firstGame.trans secondGame.symm
  obtain ⟨-, levels, -, -, generator, rounds, -⟩ := still_eq_iff.mp games
  simp only [Round.still, Round.mk.injEq] at rounds
  obtain ⟨target, tiles, pool, typed, origins, accepted, thrown, solved, points, score, -, -, velocity,
    shove, -, -⟩ := rounds
  exact ⟨⟨target, tiles, pool, typed, origins, accepted, thrown, solved, points, score, velocity,
    shove⟩, levels, generator, firstCalls.trans secondCalls.symm,
    firstAnswers.trans secondAnswers.symm⟩

namespace Sample

def calm : List Action :=
  [.press ['L'], .press ['O'], .submit, .press ['P', 'O'], .hit, .press ['O'], .press ['L'], .submit]

/-- The same word game while the word reaches the floor. -/
def adrift : List Action :=
  [.press ['L'], .tick .nan, .press ['O'], .tickTo 90000, .submit, .fitScreen (.infinite true),
    .press ['P', 'O'], .hit, .tick (.infinite false), .press ['O'], .press ['L'], .submit]

end Sample

theorem drift_never_interferes_sample :
    Sample.calm.filter (!·.isDrift) = Sample.adrift.filter (!·.isDrift) ∧
      (Sample.opening.after Sample.calm).round.tag = .none ∧
      (Sample.opening.after Sample.adrift).round.tag = .gameOver ∧
      (Sample.opening.after Sample.calm).round.score =
        (Sample.opening.after Sample.adrift).round.score ∧
      Sample.opening.answers Sample.calm = Sample.opening.answers Sample.adrift := by
  have same : Sample.calm.filter (!·.isDrift) = Sample.adrift.filter (!·.isDrift) := rfl
  obtain ⟨⟨-, -, -, -, -, -, -, -, -, score, -, -⟩, -, -, -, answers⟩ :=
    drift_never_interferes Sample.opening same
  exact ⟨same, by decide +kernel, by decide +kernel, score, answers⟩

end Game

end WordTrack
