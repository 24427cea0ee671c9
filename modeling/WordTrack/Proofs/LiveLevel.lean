import WordTrack.Proofs.History
import WordTrack.Proofs.Moves

/-! The level of the live round. The history of a run says which level started
last; the round shows its word, and its hint until the tag says otherwise. -/
namespace WordTrack

/-- How an action begins a round of a level. -/
inductive Game.Begins {σ : Type} [LevelSource σ] (g : Game σ) : Action → Level → Prop where
  | start {level : Level} (playable : level.Playable) : Begins g (.start level) level
  | jump {steps : Int} (playable : (g.levelAt steps).Playable) :
      Begins g (.jump steps) (g.levelAt steps)
  | solve (solved : g.judge.game = (g.throwTyped.credit g.round.candidate).game.solve.game)
      (playable : (g.levelAt 1).Playable) : Begins g .submit (g.levelAt 1)

namespace Turn

variable {σ : Type} [LevelSource σ]

/-- The level of the round that a turn started. -/
def begun (t : Turn σ) : Option Level :=
  bif t.startsRound then
    match t.action with
    | .start level => some level
    | .jump steps => some (t.before.levelAt steps)
    | _ => some (t.before.levelAt 1)
  else none

/-- The level started last in some turns of a game that began with one. -/
def live (first : Level) (turns : List (Turn σ)) : Level :=
  (turns.filterMap begun).getLast?.getD first

theorem live_concat (first : Level) (turns : List (Turn σ)) (t : Turn σ) :
    live first (turns ++ [t]) = t.begun.getD (live first turns) := by
  unfold live
  cases started : t.begun <;> simp [started]

theorem begins {t : Turn σ} {level : Level} (started : t.begun = some level) :
    t.before.Begins t.action level := by
  obtain ⟨g, action⟩ := t
  cases starts : (⟨g, action⟩ : Turn σ).startsRound with
  | false =>
    rw [begun, starts] at started
    contradiction
  | true =>
    rw [begun, starts] at started
    cases action with
    | start level =>
      obtain rfl := Option.some.inj started
      rw [startsRound_start] at starts
      exact .start (of_decide_eq_true starts)
    | jump steps =>
      obtain rfl := Option.some.inj started
      rw [startsRound_jump] at starts
      exact .jump (of_decide_eq_true starts)
    | submit =>
      obtain rfl := Option.some.inj started
      have judged := g.judge_judgement
      simp only [startsRound, outcome, Game.step, Game.submit] at starts
      generalize judge : g.judge = o at judged starts
      cases judged with
      | empty | unknown | repeated | accepted => contradiction
      | complete =>
        have solved := congrArg Outcome.game judge
        exact .solve solved (of_decide_eq_true starts)
    | _ => contradiction

theorem begun_playable {t : Turn σ} {level : Level} (started : t.begun = some level) :
    level.Playable := by
  obtain ⟨g, action⟩ := t
  cases begins started with
  | start playable | jump playable | solve _ playable => exact playable

end Turn

namespace Round

/-- A round shows the word of its level, and a hint that goes with its tag. -/
structure Shows (r : Round) (level : Level) : Prop where
  word : r.target = level.text
  ended : r.tag = .gameOver → r.hint = Hint.gameOver
  repeated : r.tag = .repeated →
    r.hint = Hint.repeated ∧ level.help = "" ∧ ∃ word, word ∈ r.accepted
  plain : r.tag = .none → r.hint = level.help

variable {r s : Round} {level : Level}

theorem Shows.frame (shows : r.Shows level) (target : s.target = r.target)
    (accepted : s.accepted = r.accepted) (hint : s.hint = r.hint) (tag : s.tag = r.tag) :
    s.Shows level := by
  constructor
  · rw [target]
    exact shows.word
  · rw [tag, hint]
    exact shows.ended
  · rw [tag, hint, accepted]
    exact shows.repeated
  · rw [tag, hint]
    exact shows.plain

theorem Shows.settle (shows : r.Shows level) (floor scale : Binary32) :
    (r.settle floor scale).Shows level := by
  rw [settle_eq]
  by_cases reached : r.offset ≤ floor
  · simp only [if_pos reached]
    exact ⟨shows.word, fun _ => rfl, nofun, nofun⟩
  · simp only [if_neg reached]
    exact shows.frame rfl rfl rfl rfl

theorem Shows.pressOne (shows : r.Shows level) (letter : Char) :
    (r.pressOne letter).1.Shows level := by
  unfold Round.pressOne
  split
  · exact shows
  · exact shows.frame rfl rfl rfl rfl

theorem Shows.press (shows : r.Shows level) (letters : List Char) :
    (r.press letters).1.Shows level :=
  press_invariant (P := (·.Shows level)) (fun letter shows => shows.pressOne letter) letters shows

theorem Shows.backspace (shows : r.Shows level) : r.backspace.1.Shows level := by
  unfold Round.backspace
  split
  · exact shows
  · exact shows.frame rfl rfl rfl rfl

/-- Taking the hint about repeated words away brings back the empty one of the
level. -/
theorem Shows.credit (shows : r.Shows level) (word : String) : (r.credit word).Shows level := by
  rw [credit_eq]
  cases tag : r.tag with
  | none => exact ⟨shows.word, nofun, nofun, fun _ => shows.plain tag⟩
  | gameOver => exact ⟨shows.word, fun _ => shows.ended tag, nofun, nofun⟩
  | repeated =>
    obtain ⟨-, helpless, -⟩ := shows.repeated tag
    exact ⟨shows.word, nofun, nofun, fun _ => helpless.symm⟩

theorem Shows.hintRepeated (shows : r.Shows level) {word : String} (used : word ∈ r.accepted) :
    r.hintRepeated.Shows level := by
  rw [hintRepeated_eq]
  by_cases empty : r.hint.isEmpty = true
  · have blank : r.hint = "" := String.isEmpty_iff.mp empty
    -- An empty hint is that of the level, because the other two have a text.
    have helpless : level.help = "" := by
      cases tag : r.tag with
      | none => rw [← shows.plain tag, blank]
      | gameOver => exact absurd (blank.symm.trans (shows.ended tag)) (by decide)
      | repeated => exact (shows.repeated tag).2.1
    simp only [if_pos empty]
    exact ⟨shows.word, nofun, fun _ => ⟨rfl, helpless, word, used⟩, nofun⟩
  · simp only [if_neg empty]
    exact shows.frame rfl rfl rfl rfl

theorem restart_shows (r : Round) (level : Level) (letters : List Char) (velocity : Binary32) :
    (r.restart level letters velocity).Shows level :=
  ⟨rfl, nofun, nofun, fun _ => rfl⟩

end Round

namespace Game

variable {σ : Type} {level : Level}

theorem credit_shows {g : Game σ} (shows : g.round.Shows level) (word : String) :
    (g.credit word).game.round.Shows level := by
  have prepared (shove : Binary32) : { g.round.credit word with shove := shove }.Shows level :=
    (shows.credit word).frame rfl rfl rfl rfl
  exact (prepared _).settle g.floor g.scale

theorem hit_shows {g : Game σ} (shows : g.round.Shows level) : g.hit.game.round.Shows level := by
  cases shoves : g.round.mayShove with
  | false => rwa [hit_idle shoves]
  | true =>
    rw [hit_shoves shoves]
    have moved : { g.round with offset := g.round.offset + g.round.shove }.Shows level :=
      shows.frame rfl rfl rfl rfl
    exact (moved.settle g.floor g.scale).frame rfl rfl rfl rfl

variable [LevelSource σ]

theorem start_shows (g : Game σ) (playable : level.Playable) :
    (g.start level).game.round.Shows level := by
  rw [start_playable g playable]
  exact (Round.restart_shows _ _ _ _).settle _ _

theorem solve_shows {g : Game σ} (shows : g.round.Shows level) :
    g.solve.game.round.Shows
      ((bif (g.levelAt 1).Playable then some (g.levelAt 1) else none).getD level) := by
  rw [solve_eq]
  by_cases playable : (g.levelAt 1).Playable
  · rw [startNext_playable (g := g.noteSolved) playable, decide_eq_true playable]
    exact start_shows _ playable
  · rw [startNext_refused (g := g.noteSolved) playable, decide_eq_false playable]
    exact shows.frame rfl rfl rfl rfl

end Game

namespace Turn

variable {σ : Type} [LevelSource σ] {level : Level}

theorem submit_shows {g : Game σ} (shows : g.round.Shows level) :
    g.submit.game.round.Shows ((⟨g, .submit⟩ : Turn σ).begun.getD level) := by
  have thrown : g.throwTyped.round.Shows level := shows.frame rfl rfl rfl rfl
  have credited := Game.credit_shows thrown g.round.candidate
  suffices judged : g.judge.game.round.Shows ((⟨g, .submit⟩ : Turn σ).begun.getD level) from
    judged.frame rfl rfl rfl rfl
  have judged := g.judge_judgement
  simp only [begun, startsRound, outcome, Game.step, Game.submit]
  generalize g.judge = o at judged ⊢
  cases judged with
  | empty => exact shows
  | unknown => exact thrown
  | repeated _ _ used =>
    dsimp only
    split
    · exact thrown.hintRepeated used
    · exact thrown
  | accepted => exact credited
  | complete => exact Game.solve_shows credited

/-- A turn that starts a round shows its level, and any other keeps showing the
level there was. -/
theorem outcome_shows (t : Turn σ) (shows : t.before.round.Shows level) :
    t.outcome.game.round.Shows (t.begun.getD level) := by
  obtain ⟨g, action⟩ := t
  cases action with
  | tick | tickTo =>
    have moved (offset : Binary32) : { g.round with offset := offset }.Shows level :=
      shows.frame rfl rfl rfl rfl
    exact (moved _).settle _ _
  | fitScreen => exact shows.frame rfl rfl rfl rfl
  | poll | listen | unlisten => exact shows
  | press letters => exact shows.press letters
  | backspace => exact shows.backspace
  | submit => exact submit_shows shows
  | hit => exact Game.hit_shows shows
  | start level =>
    rw [begun, startsRound_start]
    by_cases playable : level.Playable
    · rw [decide_eq_true playable]
      exact g.start_shows playable
    · rw [decide_eq_false playable, outcome, Game.step, g.start_refused playable]
      exact shows
  | jump steps =>
    rw [begun, startsRound_jump]
    by_cases playable : (g.levelAt steps).Playable
    · rw [decide_eq_true playable, outcome, Game.step, Game.jump_playable playable]
      exact (Game.start_shows _ playable).frame rfl rfl rfl rfl
    · rw [decide_eq_false playable, outcome, Game.step, Game.jump_refused playable]
      exact shows.frame rfl rfl rfl rfl

end Turn

namespace Game

variable {σ : Type} [LevelSource σ]

theorem create_shows {tuning : Tuning} {levels : σ} {lexicon : String → Bool} {seed : UInt64}
    {g : Game σ} {told : List Event}
    (created : create tuning levels lexicon seed = .ok (g, told)) :
    g.round.Shows (LevelSource.current levels) := by
  obtain ⟨-, playable, rfl, -⟩ := create_eq_ok_iff.mp created
  exact start_shows _ playable

/-- The round shows the level started last. -/
theorem after_shows {g : Game σ} {first : Level} (shows : g.round.Shows first)
    (actions : List Action) :
    (g.after actions).round.Shows (Turn.live first (g.turns actions)) := by
  induction actions using List.reverseRecOn with
  | nil => exact shows
  | append_singleton done action ih =>
    rw [after_concat, turns_concat, Turn.live_concat]
    exact Turn.outcome_shows ⟨g.after done, action⟩ ih

/-- The tag always says which hint is shown: that of the game over, that about
repeated words in a round whose level has none, or that of the level. -/
theorem hint_goes_with_tag {tuning : Tuning} {levels : σ} {lexicon : String → Bool}
    {seed : UInt64} {g : Game σ} {told : List Event}
    (created : create tuning levels lexicon seed = .ok (g, told)) (actions : List Action) :
    let r := (g.after actions).round
    let level := Turn.live (LevelSource.current levels) (g.turns actions)
    (r.tag = .gameOver → r.hint = Hint.gameOver) ∧
    (r.tag = .repeated →
      r.hint = Hint.repeated ∧ level.help = "" ∧ ∃ word, word ∈ r.accepted) ∧
    (r.tag = .none → r.hint = level.help) := by
  intro r level
  have shows := after_shows (create_shows created) actions
  exact ⟨shows.ended, shows.repeated, shows.plain⟩

/-- A round with help is left by a jump, and then a word is submitted twice. -/
def Sample.repeating : List Action :=
  [.start ⟨"LOOP", "TYPE IT", -1, -20⟩, .jump 0, .press ['L'], .press ['O'], .submit, .press ['L'],
    .press ['O'], .submit]

theorem hint_goes_with_tag_sample :
    (∃ told, create Tuning.standard Sample.levels Sample.lexicon 7 = .ok (Sample.opening, told)) ∧
      (Sample.opening.after Sample.repeating).round.tag = .repeated ∧
      (Sample.opening.after Sample.repeating).round.hint = Hint.repeated ∧
      (Sample.opening.after (Sample.repeating.take 1)).round.tag = .none ∧
      (Sample.opening.after (Sample.repeating.take 1)).round.hint = "TYPE IT" ∧
      (Sample.opening.after (Sample.repeating ++ [.tick 9000])).round.tag = .gameOver ∧
      (Sample.opening.after (Sample.repeating ++ [.tick 9000])).round.hint = Hint.gameOver := by
  obtain ⟨told, created⟩ := Sample.create_opening
  obtain ⟨-, repeated, -⟩ := hint_goes_with_tag created Sample.repeating
  obtain ⟨-, -, plain⟩ := hint_goes_with_tag created (Sample.repeating.take 1)
  obtain ⟨ended, -, -⟩ := hint_goes_with_tag created (Sample.repeating ++ [.tick 9000])
  have first : (Sample.opening.after Sample.repeating).round.tag = .repeated := by decide +kernel
  have second : (Sample.opening.after (Sample.repeating.take 1)).round.tag = .none := by
    decide +kernel
  have third : (Sample.opening.after (Sample.repeating ++ [.tick 9000])).round.tag = .gameOver := by
    decide +kernel
  exact ⟨⟨told, created⟩, first, (repeated first).1, second, plain second, third, ended third⟩

end Game

end WordTrack
