import WordTrack.Proofs.LiveLevel
import WordTrack.Proofs.Track

/-! How rounds start. Of the round before, a new one takes the last throw with its
shove, the letters solved last, the points and the score. All else is decided by the
level, the tuning, the scale and the generator. A word is flagged where its level
puts it, and a jump takes it away from there afterwards. A start that is refused
changes nothing, but a jump that is refused has cost the score already. -/
namespace WordTrack

/-- What outlives a round is taken from the one before. -/
def Round.succeeding (r old : Round) : Round :=
  { r with
    thrown := old.thrown
    solved := old.solved
    points := old.points
    score := old.score
    shove := old.shove }

/-- Settling writes the screen offset, the only field of the round before that
restarting leaves standing. -/
theorem Round.settle_restart (r : Round) (level : Level) (letters : List Char)
    (velocity floor scale : Binary32) :
    (r.restart level letters velocity).settle floor scale =
      ((blank.restart level letters velocity).settle floor scale).succeeding r := by
  simp only [settle_eq]
  rfl

namespace Game

variable {σ τ : Type}

/-- The round of a level as it begins when there is none before it. -/
def firstRound (g : Game σ) (level : Level) : Round :=
  (Round.blank.restart level (g.deal level).1 (g.deal level).2.1).settle g.floor g.scale

theorem deal_congr {g : Game σ} {h : Game τ} (tuning : g.tuning = h.tuning)
    (generator : g.generator = h.generator) (level : Level) : g.deal level = h.deal level := by
  unfold deal
  rw [tuning, generator]

theorem firstRound_congr {g : Game σ} {h : Game τ} (tuning : g.tuning = h.tuning)
    (scale : g.scale = h.scale) (generator : g.generator = h.generator) (level : Level) :
    g.firstRound level = h.firstRound level := by
  unfold firstRound
  rw [deal_congr tuning generator level, floor, floor, tuning, scale]

variable [LevelSource σ] [LevelSource τ]

theorem start_round {level : Level} (g : Game σ) (playable : level.Playable) :
    (g.start level).game.round = (g.firstRound level).succeeding g.round := by
  rw [start_playable g playable]
  exact g.round.settle_restart level _ _ _ _

/-- Two games that agree in tuning, scale and generator start the same round of a
level with a word, whatever they have played before. The rounds differ only in the
throw, the letters solved, the points, the score and the shove, which each game
keeps. -/
theorem start_forgets_round {g : Game σ} {h : Game τ} (tuning : g.tuning = h.tuning)
    (scale : g.scale = h.scale) (generator : g.generator = h.generator) {level : Level}
    (worded : level.text ≠ "") :
    let a := g.start level
    let b := h.start level
    let r := a.game.round
    let s := b.game.round
    a.reply = .ok () ∧ b.reply = .ok () ∧ a.game.generator = b.game.generator ∧
    (r.target = s.target ∧ r.tiles = s.tiles ∧ r.pool = s.pool ∧ r.typed = s.typed ∧
      r.origins = s.origins ∧ r.accepted = s.accepted ∧ r.offset = s.offset ∧
      r.screenOffset = s.screenOffset ∧ r.velocity = s.velocity ∧ r.hint = s.hint ∧
      r.tag = s.tag) ∧
    (r.score = g.round.score ∧ r.points = g.round.points ∧ r.thrown = g.round.thrown ∧
      r.solved = g.round.solved ∧ r.shove = g.round.shove) ∧
    (s.score = h.round.score ∧ s.points = h.round.points ∧ s.thrown = h.round.thrown ∧
      s.solved = h.round.solved ∧ s.shove = h.round.shove) := by
  intro a b r s
  have first : r = (g.firstRound level).succeeding g.round := start_round g worded
  have second : s = (g.firstRound level).succeeding h.round := by
    rw [firstRound_congr tuning scale generator level]
    exact start_round h worded
  have drawn : a.game.generator = b.game.generator := by
    have dealt := deal_congr tuning generator level
    simp only [a, b, start_playable g worded, start_playable h worded]
    exact congrArg (fun dealing => dealing.2.2) dealt
  refine ⟨?_, ?_, drawn, ?_, ?_, ?_⟩
  · simp only [a, start_playable g worded]
  · simp only [b, start_playable h worded]
  · rw [first, second]
    exact ⟨rfl, rfl, rfl, rfl, rfl, rfl, rfl, rfl, rfl, rfl, rfl⟩
  · rw [first]
    exact ⟨rfl, rfl, rfl, rfl, rfl⟩
  · rw [second]
    exact ⟨rfl, rfl, rfl, rfl, rfl⟩

namespace Sample

/-- The second word begins far below the floor. -/
def descent : Course :=
  ⟨⟨[.ofText "LOOP", ⟨"POLO", "", Level.standardVelocity, -1000⟩], 0, by decide⟩, by decide⟩

/-- A round that no game reaches, in a game that goes on as another does. -/
def stray : Game Course :=
  { idle Tuning.standard descent lexicon 3 with
    generator := midway.generator
    round := { Round.blank with
      typed := ['X']
      origins := [5, 6]
      score := 9
      offset := .nan
      screenOffset := .nan
      shove := .infinite true
      tag := .repeated } }

end Sample

theorem start_forgets_round_stray :
    Sample.midway.tuning = Sample.stray.tuning ∧ Sample.midway.scale = Sample.stray.scale ∧
      Sample.midway.generator = Sample.stray.generator ∧
      (Sample.midway.start (.ofText "POLO")).game.round.tiles =
        (Sample.stray.start (.ofText "POLO")).game.round.tiles ∧
      (Sample.midway.start (.ofText "POLO")).game.round.screenOffset =
        (Sample.stray.start (.ofText "POLO")).game.round.screenOffset ∧
      (Sample.midway.start (.ofText "POLO")).game.round.thrown = ['L', 'O'] ∧
      (Sample.stray.start (.ofText "POLO")).game.round.score = 9 := by
  have tuning : Sample.midway.tuning = Sample.stray.tuning := by decide +kernel
  have scale : Sample.midway.scale = Sample.stray.scale := by decide +kernel
  have worded : (Level.ofText "POLO").text ≠ "" := by decide
  obtain ⟨-, -, -, ⟨-, tiles, -, -, -, -, -, screen, -, -, -⟩, ⟨-, -, thrown, -, -⟩, score, -⟩ :=
    start_forgets_round tuning scale rfl worded
  have before : Sample.midway.round.thrown = ['L', 'O'] := by decide +kernel
  exact ⟨tuning, scale, rfl, tiles, screen, thrown.trans before, score⟩

end Game

/-- Where a round of a level begins, and with which tag. -/
def Level.entry (l : Level) (floor : Binary32) : Binary32 × HintTag :=
  ((l.offset.min 0).max floor, if l.offset ≤ floor then .gameOver else .none)

/-- Where a word is, and how it is tagged. -/
def Round.stand (r : Round) : Binary32 × HintTag := (r.offset, r.tag)

theorem Level.entry_over_iff (l : Level) (floor : Binary32) :
    (l.entry floor).2 = .gameOver ↔ l.offset ≤ floor := by
  simp [entry]

theorem Level.entry_sunk_iff (l : Level) {floor : Binary32} (low : floor < 0) :
    (l.entry floor).1 ≤ floor ↔ l.offset ≤ floor := Binary32.clamp_le_iff low

namespace Game

variable {σ : Type} [LevelSource σ]

theorem start_stand {level : Level} (g : Game σ) (playable : level.Playable) :
    (g.start level).game.round.stand = level.entry g.floor := by
  rw [start_round g playable, firstRound, Round.settle_eq]
  rfl

/-- A jump keeps the tag of the start and moves the word. -/
theorem jump_stand {g : Game σ} {steps : Int} (playable : (g.levelAt steps).Playable) :
    (g.jump steps).game.round.stand = (0, ((g.levelAt steps).entry g.floor).2) := by
  rw [jump_playable playable]
  have started := start_stand (g.advance steps).forfeit playable
  exact congrArg (fun stand : Binary32 × HintTag => (0, stand.2)) started

theorem solve_stand {g : Game σ} (playable : (g.levelAt 1).Playable) :
    g.solve.game.round.stand = (g.levelAt 1).entry g.floor := by
  rw [solve_eq, startNext_playable (g := g.noteSolved) playable]
  exact start_stand (g.noteSolved.advance 1) playable

end Game

namespace Turn

variable {σ : Type} [LevelSource σ]

/-- A round stands where its level puts it, with the tag due there. Only a jump takes
the word back to the start of the track, and leaves the tag. -/
theorem outcome_stand {t : Turn σ} {level : Level} (started : t.begun = some level) :
    t.outcome.game.round.stand =
      (bif t.isJump then 0 else (level.entry t.before.floor).1, (level.entry t.before.floor).2) := by
  obtain ⟨g, action⟩ := t
  cases begins started with
  | start playable => exact g.start_stand playable
  | jump playable => exact Game.jump_stand playable
  | solve solved playable =>
    change g.judge.game.round.stand = _
    rw [solved]
    exact Game.solve_stand (g := (g.throwTyped.credit g.round.candidate).game) playable

theorem begun_over_iff {t : Turn σ} {level : Level} (started : t.begun = some level) :
    t.outcome.game.round.isOver = true ↔ level.offset ≤ t.before.floor := by
  have tag := congrArg Prod.snd (outcome_stand started)
  rw [Round.isOver_iff, ← level.entry_over_iff, ← tag]
  rfl

theorem begun_sunk_iff {t : Turn σ} {level : Level} (low : t.before.floor < 0)
    (started : t.begun = some level) :
    t.outcome.game.round.offset ≤ t.before.floor ↔
      t.isJump = false ∧ level.offset ≤ t.before.floor := by
  have offset : t.outcome.game.round.offset =
      bif t.isJump then 0 else (level.entry t.before.floor).1 :=
    congrArg Prod.fst (outcome_stand started)
  rw [offset, ← level.entry_sunk_iff low]
  cases t.isJump with
  | true => simp [Binary32.not_le_of_lt low]
  | false => simp

end Turn

namespace Game

variable {σ : Type} [LevelSource σ]

theorem start_over_iff {level : Level} {g : Game σ} (low : g.floor < 0) (playable : level.Playable) :
    (g.start level).game.round.isOver = true ↔ (g.start level).game.round.offset ≤ g.floor := by
  have stand := g.start_stand playable
  have offset : (g.start level).game.round.offset = (level.entry g.floor).1 :=
    congrArg Prod.fst stand
  have tag : (g.start level).game.round.tag = (level.entry g.floor).2 := congrArg Prod.snd stand
  rw [Round.isOver_iff, tag, offset, level.entry_over_iff, level.entry_sunk_iff low]

/-- On a track wider than the word, the first round is over exactly if its word lies at
the floor. A later one is over exactly if its level begins at the floor, and this agrees
with where the word lies unless a jump has taken it away from there. -/
theorem fresh_round_over_iff {tuning : Tuning} {levels : σ} {lexicon : String → Bool}
    {seed : UInt64} {g : Game σ} {told : List Event}
    (created : create tuning levels lexicon seed = .ok (g, told))
    (room : tuning.wordWidth < tuning.trackWidth) :
    (g.round.isOver = true ↔ g.round.offset ≤ g.floor) ∧
    ∀ actions, ∀ t ∈ g.turns actions, ∀ level, t.begun = some level →
      let h := t.outcome.game
      (h.round.isOver = true ↔ level.offset ≤ h.floor) ∧
      ((h.round.isOver = true ↔ h.round.offset ≤ h.floor) ↔
        ¬(t.isJump = true ∧ level.offset ≤ h.floor)) := by
  obtain ⟨checked, playable, started, -⟩ := create_eq_ok_iff.mp created
  have low : tuning.floor < 0 := Tuning.floor_neg checked room
  have floored (h : Game σ) (same : h.rules = g.rules) : h.floor = tuning.floor :=
    congrArg (·.1.floor) (same.trans (create_rules created))
  constructor
  · have first := start_over_iff (g := idle tuning levels lexicon seed) low playable
    rw [started] at first
    rwa [floored g rfl]
  · intro actions t member level begun h
    obtain ⟨earlier, later, split⟩ := List.append_of_mem member
    obtain ⟨done, -, before⟩ := turns_split split
    have kept : t.before.rules = g.rules := before ▸ g.after_rules done
    have after : h.rules = g.rules := (step_moves t.before t.action).rules_eq.trans kept
    have floor : h.floor = t.before.floor := (floored h after).trans (floored t.before kept).symm
    have ended := Turn.begun_over_iff begun
    have sunk := Turn.begun_sunk_iff (floored t.before kept ▸ low) begun
    rw [← floor] at ended sunk
    refine ⟨ended, ?_⟩
    rw [ended, sunk]
    cases t.isJump with
    | true => simp
    | false => simp

namespace Sample

/-- The first round of the descent. -/
def descending : Game Course :=
  ((idle Tuning.standard descent lexicon 7).start (LevelSource.current descent)).game

theorem create_descending :
    ∃ told, create Tuning.standard descent lexicon 7 = .ok (descending, told) :=
  ⟨_, create_eq_ok_iff.mpr ⟨rfl, by decide, rfl, rfl⟩⟩

/-- The turn in which the first word of the descent is solved. -/
def plunge : Turn Course :=
  ⟨descending.after [.press ['P'], .press ['O'], .press ['O'], .press ['L']], .submit⟩

end Sample

/-- The word after the solved one begins at the floor and stays there. -/
theorem fresh_round_over_iff_plunge :
    (∃ told, create Tuning.standard Sample.descent Sample.lexicon 7 =
        .ok (Sample.descending, told)) ∧
      Tuning.standard.wordWidth < Tuning.standard.trackWidth ∧
      Sample.plunge.begun.map Level.offset = some (-1000) ∧
      Sample.plunge.outcome.game.round.isOver = true ∧
      Sample.plunge.outcome.game.round.offset ≤ Sample.plunge.outcome.game.floor := by
  obtain ⟨told, created⟩ := Sample.create_descending
  have room : Tuning.standard.wordWidth < Tuning.standard.trackWidth := by decide +kernel
  obtain ⟨-, later⟩ := fresh_round_over_iff created room
  have member : Sample.plunge ∈ Sample.descending.turns
      ([.press ['P'], .press ['O'], .press ['O'], .press ['L']] ++ [.submit]) := by
    rw [turns_concat]
    exact List.mem_append_right _ (List.mem_singleton_self _)
  have begun : Sample.plunge.begun = some (Sample.descending.levelAt 1) := by decide +kernel
  obtain ⟨flagged, agree⟩ := later _ _ member _ begun
  have low : (Sample.descending.levelAt 1).offset ≤ Sample.plunge.outcome.game.floor := by
    decide +kernel
  have ended := flagged.mpr low
  refine ⟨⟨told, created⟩, room, ?_, ended, ?_⟩
  · rw [begun]
    rfl
  · exact (agree.mpr (fun jumped => nomatch jumped.1)).mp ended

/-- A jump to the same word says game over although the word is back at the start of the
track. -/
theorem jump_over_off_floor :
    (∃ told, create Tuning.standard Sample.descent Sample.lexicon 7 =
        .ok (Sample.descending, told)) ∧
      Tuning.standard.wordWidth < Tuning.standard.trackWidth ∧
      (Sample.descending.jump 1).reply = .ok () ∧
      (Sample.descending.jump 1).game.round.offset = 0 ∧
      ¬((Sample.descending.jump 1).game.round.isOver = true ↔
        (Sample.descending.jump 1).game.round.offset ≤ (Sample.descending.jump 1).game.floor) := by
  have playable : (Sample.descending.levelAt 1).Playable := by decide +kernel
  refine ⟨Sample.create_descending, by decide +kernel, ?_, by decide +kernel, by decide +kernel⟩
  rw [jump_playable playable]

/-- A refused jump has moved the levels on and taken the score, and leaves all else as it
was. So it leaves the round as it was exactly if the round had no score. -/
theorem refused_jump_costs_score {g : Game σ} {steps : Int} {e : SetupError}
    (refused : (g.jump steps).reply = .error e) :
    e = .emptyText ∧ (g.levelAt steps).text = "" ∧ (g.jump steps).events = [] ∧
      (g.jump steps).game = { g with
        levels := (LevelSource.advance g.levels steps).1
        round := { g.round with score := 0 } } ∧
      ((g.jump steps).game.round = g.round ↔ g.round.score = 0) := by
  by_cases playable : (g.levelAt steps).Playable
  · rw [jump_playable playable] at refused
    contradiction
  · rw [jump_refused playable] at refused ⊢
    refine ⟨(Except.error.inj refused).symm, not_not.mp playable, rfl, rfl, ?_⟩
    constructor
    · intro same
      exact (congrArg Round.score same).symm
    · intro unscored
      change { g.round with score := 0 } = g.round
      rw [← unscored]

/-- After a word that scored. -/
def Sample.scored : Game LevelCycle := opening.after [.press ['L'], .press ['O'], .submit]

theorem refused_jump_costs_score_unscored :
    Sample.opening.Reachable ∧ (Sample.opening.jump 1).reply = .error .emptyText ∧
      LevelSource.index (Sample.opening.jump 1).game.levels = 1 ∧
      (Sample.opening.jump 1).game.round = Sample.opening.round := by
  have refused : (Sample.opening.jump 1).reply = .error .emptyText := by
    rw [jump_refused (by decide +kernel)]
  obtain ⟨-, -, -, -, keeps⟩ := refused_jump_costs_score refused
  exact ⟨Sample.opening_reachable, refused, by decide +kernel, keeps.mpr (by decide +kernel)⟩

/-- The jump is refused, yet the score is gone. -/
theorem refused_jump_changes_round :
    Sample.scored.Reachable ∧ (Sample.scored.jump 1).reply = .error .emptyText ∧
      Sample.scored.round.score = 2 ∧ (Sample.scored.jump 1).game.round.score = 0 ∧
      (Sample.scored.jump 1).game.round ≠ Sample.scored.round := by
  refine ⟨Sample.opening_reachable.after _, ?_, by decide +kernel, by decide +kernel,
    by decide +kernel⟩
  rw [jump_refused (by decide +kernel)]

end Game

end WordTrack
