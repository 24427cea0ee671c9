import WordTrack.Proofs.Attempt
import WordTrack.Proofs.LiveLevel

/-! Reaching the boundary ends a round for good and is told once. A run falls into
episodes, one for each round that started. Whatever happens in an episode, the
warnings told so far are as many as the round says that it is over: none or one. -/
namespace WordTrack

/-- Whether an event puts a message of this severity in the log. -/
def Event.logs (severity : Severity) (message : String) : Event → Bool
  | .logged notice => notice.severity == severity && notice.message == message
  | .called _ => false

/-- How often the log warns that the boundary was reached. -/
def warnings (events : List Event) : Nat :=
  events.countP (Event.logs .warn "Word reached the boundary: game over")

@[simp] theorem warnings_append (first second : List Event) :
    warnings (first ++ second) = warnings first + warnings second := List.countP_append

theorem warnings_boundary : warnings [.logged .boundaryReached] = 1 := by decide +kernel

theorem warnings_quiet {notice : Notice} (quiet : (notice.severity == .warn) = false)
    (events : List Event) : warnings (.logged notice :: events) = warnings events := by
  apply List.countP_cons_of_neg
  simp [Event.logs, quiet]

theorem warnings_called (listener : Option String) :
    warnings (listener.toList.map .called) = 0 := by
  cases listener <;> rfl

namespace Round

/-- Between two states of a round it is told that the round is over, if it came to
be, and otherwise not. -/
def Tells (r : Round) (events : List Event) (s : Round) : Prop :=
  r.isOver.toNat + warnings events = s.isOver.toNat

variable {r s t : Round} {events more : List Event}

theorem Tells.trans (first : r.Tells events s) (second : s.Tells more t) :
    r.Tells (events ++ more) t := by
  unfold Tells at *
  rw [warnings_append]
  omega

theorem Tells.silent (quiet : warnings events = 0) (same : s.tag = r.tag) : r.Tells events s := by
  simp [Tells, isOver, quiet, same]

theorem Tells.lasts (tells : r.Tells events s) (ended : r.isOver = true) : s.isOver = true := by
  unfold Tells at tells
  rw [ended] at tells
  cases ends : s.isOver with
  | true => rfl
  | false =>
    rw [ends, Bool.toNat_true, Bool.toNat_false] at tells
    omega

theorem settle_tells (floor scale : Binary32) (r : Round) :
    r.Tells (r.boundaryEvents floor) (r.settle floor scale) := by
  simp only [Tells, settle_eq, boundaryEvents, isOver]
  by_cases reached : r.offset ≤ floor
  · by_cases ended : r.tag = .gameOver
    · simp [reached, ended, warnings]
    · simp [reached, ended, warnings_boundary]
  · simp [reached, warnings]

theorem credit_isOver (r : Round) (word : String) : (r.credit word).isOver = r.isOver := by
  rw [credit_eq]
  simp only [isOver]
  cases r.tag <;> rfl

theorem Shows.hintRepeated_isOver {level : Level} (shows : r.Shows level) :
    r.hintRepeated.isOver = r.isOver := by
  cases ended : r.isOver with
  | true => rw [hintRepeated_of_gameOver (shows.ended (isOver_iff.mp ended)), ended]
  | false =>
    rw [hintRepeated_eq]
    simp only [isOver] at ended ⊢
    split
    · rfl
    · exact ended

end Round

namespace Game

variable {σ : Type}

theorem drift_tells (g : Game σ) (offset : Binary32) :
    g.round.Tells (g.settle { g.round with offset := offset }).events
      (g.settle { g.round with offset := offset }).game.round :=
  Round.settle_tells g.floor g.scale { g.round with offset := offset }

theorem credit_tells (g : Game σ) (word : String) :
    g.round.Tells (g.credit word).events (g.credit word).game.round := by
  have settled := Round.settle_tells g.floor g.scale { g.round.credit word with
    shove := g.tuning.shove word.length (word.length == g.round.target.length) }
  have same := g.round.credit_isOver word
  unfold Round.Tells at *
  rw [← same]
  exact settled

theorem hit_tells (g : Game σ) : g.round.Tells g.hit.events g.hit.game.round := by
  cases shoves : g.round.mayShove with
  | false =>
    rw [hit_idle shoves]
    exact .silent rfl rfl
  | true =>
    rw [hit_shoves shoves]
    have drifted := g.drift_tells (g.round.offset + g.round.shove)
    exact drifted.trans (.silent (warnings_quiet (by rfl) []) rfl)

variable [LevelSource σ]

/-- A round that starts owes nothing to the one before. -/
theorem start_tells {level : Level} (g : Game σ) (playable : level.Playable) :
    Round.blank.Tells (g.start level).events (g.start level).game.round := by
  rw [start_playable g playable]
  have settled := Round.settle_tells g.floor g.scale
    (g.round.restart level (g.deal level).1 (g.deal level).2.1)
  exact Round.Tells.trans settled (.silent (warnings_quiet (by rfl) []) rfl)

theorem jump_tells {g : Game σ} {steps : Int} (playable : (g.levelAt steps).Playable) :
    Round.blank.Tells (g.jump steps).events (g.jump steps).game.round := by
  rw [jump_playable playable]
  exact (start_tells _ playable).trans (.silent (warnings_quiet (by rfl) []) rfl)

theorem warnings_solve (g : Game σ) :
    warnings g.solve.events = warnings g.noteSolved.startNext.events := by
  rw [solve_eq]
  dsimp only
  rw [warnings_append, warnings_called, Nat.add_zero]
  exact warnings_quiet (by rfl) _

theorem solve_tells {g : Game σ} (playable : (g.levelAt 1).Playable) :
    Round.blank.Tells g.solve.events g.solve.game.round := by
  have started := start_tells (g.noteSolved.advance 1) playable
  unfold Round.Tells at *
  rw [warnings_solve, solve_eq, startNext_playable (g := g.noteSolved) playable]
  exact started

theorem solve_tells_nothing {g : Game σ} (refused : ¬(g.levelAt 1).Playable) :
    g.round.Tells g.solve.events g.solve.game.round := by
  apply Round.Tells.silent
  · rw [warnings_solve, startNext_refused (g := g.noteSolved) refused]
    exact warnings_quiet (by rfl) []
  · rw [solve_eq, startNext_refused (g := g.noteSolved) refused]
    rfl

end Game

namespace Turn

variable {σ : Type} [LevelSource σ]

/-- What a turn that starts a round does before that in the round it leaves: a
solved word is credited and noted, and a jump gives up the score. -/
def farewell (t : Turn σ) : Outcome σ Unit :=
  match t.action with
  | .submit =>
    let credited := t.before.throwTyped.credit t.before.round.candidate
    ⟨credited.game.noteSolved, (), credited.events⟩
  | .jump steps => ⟨(t.before.advance steps).forfeit, (), []⟩
  | _ => ⟨t.before, (), []⟩

/-- What a turn that starts a round tells from there on. -/
def overture (t : Turn σ) : List Event := t.outcome.events.drop t.farewell.events.length

theorem farewell_tells (t : Turn σ) :
    t.before.round.Tells t.farewell.events t.farewell.game.round := by
  obtain ⟨g, action⟩ := t
  cases action with
  | submit => exact g.throwTyped.credit_tells g.round.candidate
  | _ => exact .silent rfl rfl

/-- A turn that starts a round tells of the one it leaves first, and then of the new
one as if there had been none before. -/
theorem outcome_tells_both {t : Turn σ} (starts : t.startsRound = true) :
    ∃ later, t.outcome.events = t.farewell.events ++ later ∧
      Round.blank.Tells later t.outcome.game.round := by
  obtain ⟨g, action⟩ := t
  cases action with
  | start level =>
    rw [startsRound_start, decide_eq_true_iff] at starts
    exact ⟨_, rfl, g.start_tells starts⟩
  | jump steps =>
    rw [startsRound_jump, decide_eq_true_iff] at starts
    exact ⟨_, rfl, Game.jump_tells starts⟩
  | submit =>
    have judged := g.judge_judgement
    simp only [startsRound, farewell, outcome, Game.step, Game.submit] at starts ⊢
    generalize g.judge = o at judged starts ⊢
    cases judged with
    | empty | unknown | repeated | accepted => contradiction
    | complete =>
      -- The word is credited to the old round before the next one starts.
      have solved := Game.solve_tells (g := (g.throwTyped.credit g.round.candidate).game)
        (of_decide_eq_true starts)
      refine ⟨_, List.append_assoc _ _ _, ?_⟩
      exact solved.trans (.silent (warnings_quiet (by rfl) []) rfl)
  | _ => contradiction

theorem outcome_events {t : Turn σ} (starts : t.startsRound = true) :
    t.outcome.events = t.farewell.events ++ t.overture := by
  obtain ⟨later, events, -⟩ := outcome_tells_both starts
  rw [overture, events, List.drop_left]

theorem overture_tells {t : Turn σ} (starts : t.startsRound = true) :
    Round.blank.Tells t.overture t.outcome.game.round := by
  obtain ⟨later, events, tells⟩ := outcome_tells_both starts
  rwa [overture, events, List.drop_left]

theorem submit_tells {g : Game σ} {level : Level} (shows : g.round.Shows level)
    (goesOn : (⟨g, .submit⟩ : Turn σ).startsRound = false) :
    g.round.Tells g.submit.events g.submit.game.round := by
  suffices tells : g.round.Tells g.judge.events g.judge.game.round from
    tells.trans (.silent (warnings_quiet (by rfl) []) rfl)
  have credited := g.throwTyped.credit_tells g.round.candidate
  have judged := g.judge_judgement
  simp only [startsRound, outcome, Game.step, Game.submit] at goesOn
  generalize g.judge = o at judged goesOn ⊢
  cases judged with
  | empty | unknown => exact .silent rfl rfl
  | repeated =>
    have thrown : g.throwTyped.round.Shows level := shows.frame rfl rfl rfl rfl
    have same := thrown.hintRepeated_isOver
    dsimp only
    split
    · unfold Round.Tells
      rw [same]
      rfl
    · exact .silent rfl rfl
  | accepted => exact credited
  | complete =>
    have refused : ¬(g.levelAt 1).Playable := of_decide_eq_false goesOn
    exact credited.trans (Game.solve_tells_nothing refused)

theorem outcome_tells {t : Turn σ} {level : Level} (shows : t.before.round.Shows level)
    (goesOn : t.startsRound = false) :
    t.before.round.Tells t.outcome.events t.outcome.game.round := by
  obtain ⟨g, action⟩ := t
  cases action with
  | tick seconds => exact g.drift_tells _
  | tickTo clock => exact Game.drift_tells { g with clock := clock } _
  | fitScreen | poll | listen | unlisten => exact .silent rfl rfl
  | press letters =>
    have typed := Round.press_untyped letters g.round
    exact .silent rfl (Round.congr_untyped Round.tag (fun _ => rfl) typed)
  | backspace =>
    have typed := g.round.backspace_untyped
    exact .silent rfl (Round.congr_untyped Round.tag (fun _ => rfl) typed)
  | submit => exact submit_tells shows goesOn
  | hit => exact g.hit_tells
  | start level =>
    rw [startsRound_start, decide_eq_false_iff_not] at goesOn
    rw [outcome, Game.step, g.start_refused goesOn]
    exact .silent rfl rfl
  | jump steps =>
    rw [startsRound_jump, decide_eq_false_iff_not] at goesOn
    rw [outcome, Game.step, Game.jump_refused goesOn]
    exact .silent rfl rfl

end Turn

/-- What became of one round. -/
structure Episode where
  /-- The round as it began, as each operation left it, and as the next one found it. -/
  rounds : List Round
  /-- What was told from its start to its end. -/
  told : List Event

namespace Episode

def extend (e : Episode) (r : Round) (events : List Event) : Episode :=
  ⟨e.rounds ++ [r], e.told ++ events⟩

/-- An episode that has come to a round tells of it as it should. -/
structure Faithful (e : Episode) (r : Round) : Prop where
  present : r ∈ e.rounds
  final : e.rounds.Pairwise fun earlier later => earlier.isOver = true → later.isOver = true
  lasting : ∀ s ∈ e.rounds, s.isOver = true → r.isOver = true
  tells : Round.blank.Tells e.told r

variable {e : Episode} {r s : Round} {events : List Event}

theorem faithful_new (tells : Round.blank.Tells events r) : Faithful ⟨[r], events⟩ r := by
  refine ⟨List.mem_singleton_self r, List.pairwise_singleton _ r, ?_, tells⟩
  intro s member ended
  rwa [← List.mem_singleton.mp member]

theorem Faithful.extend (faithful : e.Faithful r) (tells : r.Tells events s) :
    (e.extend s events).Faithful s := by
  have lasting : ∀ u ∈ e.rounds, u.isOver = true → s.isOver = true := by
    intro u member ended
    exact tells.lasts (faithful.lasting u member ended)
  refine ⟨List.mem_append_right _ (List.mem_singleton_self s), ?_, ?_, faithful.tells.trans tells⟩
  · rw [Episode.extend, List.pairwise_append]
    refine ⟨faithful.final, List.pairwise_singleton _ s, ?_⟩
    intro u member v last
    rw [List.mem_singleton.mp last]
    exact lasting u member
  · intro u member ended
    rcases List.mem_append.mp member with earlier | last
    · exact lasting u earlier ended
    · rwa [← List.mem_singleton.mp last]

theorem Faithful.warnings_eq (faithful : e.Faithful r) :
    warnings e.told = if ∃ s ∈ e.rounds, s.isOver = true then 1 else 0 := by
  have tells : warnings e.told = r.isOver.toNat := (Nat.zero_add _).symm.trans faithful.tells
  rw [tells]
  split
  · next reached =>
    obtain ⟨s, member, ended⟩ := reached
    rw [faithful.lasting s member ended]
    rfl
  · next never =>
    have goesOn : r.isOver = false := by
      rw [Bool.eq_false_iff]
      intro ended
      exact never ⟨r, faithful.present, ended⟩
    rw [goesOn]
    rfl

end Episode

namespace Turn

variable {σ : Type} [LevelSource σ]

/-- The episodes of some turns that go on with one. -/
def episodes (e : Episode) : List (Turn σ) → List Episode
  | [] => [e]
  | t :: rest =>
    bif t.startsRound then
      e.extend t.farewell.game.round t.farewell.events ::
        episodes ⟨[t.outcome.game.round], t.overture⟩ rest
    else episodes (e.extend t.outcome.game.round t.outcome.events) rest

/-- Everything that is told belongs to one episode. -/
theorem episodes_told (e : Episode) (turns : List (Turn σ)) :
    (episodes e turns).flatMap Episode.told =
      e.told ++ turns.flatMap (·.outcome.events) := by
  induction turns generalizing e with
  | nil => simp [episodes]
  | cons t rest ih =>
    cases starts : t.startsRound with
    | true => simp [episodes, starts, ih, Episode.extend, outcome_events starts]
    | false => simp [episodes, starts, ih, Episode.extend]

theorem episodes_length (e : Episode) (turns : List (Turn σ)) :
    (episodes e turns).length = turns.countP startsRound + 1 := by
  induction turns generalizing e with
  | nil => rfl
  | cons t rest ih => cases starts : t.startsRound <;> simp [episodes, starts, ih]

end Turn

namespace Game

variable {σ : Type} [LevelSource σ]

theorem create_tells {tuning : Tuning} {levels : σ} {lexicon : String → Bool} {seed : UInt64}
    {g : Game σ} {told : List Event}
    (created : create tuning levels lexicon seed = .ok (g, told)) : Round.blank.Tells told g.round := by
  obtain ⟨-, playable, rfl, rfl⟩ := create_eq_ok_iff.mp created
  exact start_tells _ playable

theorem episodes_faithful {g : Game σ} {e : Episode} {level : Level} (shows : g.round.Shows level)
    (faithful : e.Faithful g.round) (actions : List Action) :
    ∀ d ∈ Turn.episodes e (g.turns actions), ∃ r, d.Faithful r := by
  induction actions generalizing g e level with
  | nil =>
    intro d member
    rw [List.mem_singleton.mp member]
    exact ⟨g.round, faithful⟩
  | cons action rest ih =>
    have next := Turn.outcome_shows ⟨g, action⟩ shows
    intro d member
    rw [turns, Turn.episodes] at member
    cases starts : (⟨g, action⟩ : Turn σ).startsRound with
    | true =>
      rw [starts, cond_true] at member
      rcases List.mem_cons.mp member with rfl | later
      · exact ⟨_, faithful.extend (Turn.farewell_tells ⟨g, action⟩)⟩
      · exact ih next (Episode.faithful_new (Turn.overture_tells starts)) d later
    | false =>
      rw [starts, cond_false] at member
      exact ih next (faithful.extend (Turn.outcome_tells shows starts)) d member

/-- A run has one episode for each round that started, and what it tells is what they
tell one after the other. In each of them the round stays over once it is, and the log
warns once if it came to that, and otherwise never. -/
theorem boundary_told_once {tuning : Tuning} {levels : σ} {lexicon : String → Bool}
    {seed : UInt64} {g : Game σ} {told : List Event}
    (created : create tuning levels lexicon seed = .ok (g, told)) (actions : List Action) :
    let episodes := Turn.episodes ⟨[g.round], told⟩ (g.turns actions)
    episodes.length = (g.turns actions).countP Turn.startsRound + 1 ∧
    episodes.flatMap Episode.told = told ++ (g.turns actions).flatMap (·.outcome.events) ∧
    ∀ e ∈ episodes,
      (e.rounds.Pairwise fun earlier later => earlier.tag = .gameOver → later.tag = .gameOver) ∧
      e.told.countP (Event.logs .warn "Word reached the boundary: game over") =
        if ∃ r ∈ e.rounds, r.tag = .gameOver then 1 else 0 := by
  intro episodes
  refine ⟨Turn.episodes_length _ _, Turn.episodes_told _ _, ?_⟩
  intro e member
  have first := Episode.faithful_new (create_tells created)
  obtain ⟨r, faithful⟩ := episodes_faithful (create_shows created) first actions e member
  have final := faithful.final
  have counted := faithful.warnings_eq
  simp only [Round.isOver_iff] at final counted
  exact ⟨final, counted⟩

namespace Sample

/-- A track that the word fills, so that its floor is where it starts. -/
def cramped : Tuning := { Tuning.standard with wordWidth := 720 }

def twins : LevelCycle := ⟨[⟨"LOOP", "", 0, 5⟩, .ofText "POLO"], 0, by decide⟩

def crowded : Outcome LevelCycle (Except SetupError Unit) :=
  (idle cramped twins lexicon 7).start (LevelSource.current twins)

/-- The first word is solved, and then the word is left to drift. -/
def solvingCrowded : List Action :=
  [.press ['P', 'O'], .press ['O'], .press ['L'], .submit, .tick 1, .tick 1]

end Sample

/-- One submission tells of the boundary twice: in the round that it solves, and in
the next one. -/
theorem boundary_told_once_crowded :
    create Sample.cramped Sample.twins Sample.lexicon 7 =
        .ok (Sample.crowded.game, Sample.crowded.events) ∧
      (Sample.crowded.game.after (Sample.solvingCrowded.take 3)).submit.events.countP
        (Event.logs .warn "Word reached the boundary: game over") = 2 ∧
      (Turn.episodes ⟨[Sample.crowded.game.round], Sample.crowded.events⟩
        (Sample.crowded.game.turns Sample.solvingCrowded)).map
          (fun e => e.told.countP (Event.logs .warn "Word reached the boundary: game over")) =
        [1, 1] := by
  have created : create Sample.cramped Sample.twins Sample.lexicon 7 =
      .ok (Sample.crowded.game, Sample.crowded.events) :=
    create_eq_ok_iff.mpr ⟨by decide +kernel, by decide, rfl, rfl⟩
  obtain ⟨-, -, once⟩ := boundary_told_once created Sample.solvingCrowded
  have ended : (Turn.episodes ⟨[Sample.crowded.game.round], Sample.crowded.events⟩
      (Sample.crowded.game.turns Sample.solvingCrowded)).map
        (fun e => if ∃ r ∈ e.rounds, r.tag = .gameOver then 1 else 0) = [1, 1] := by
    decide +kernel
  refine ⟨created, by decide +kernel, ?_⟩
  rw [← ended]
  exact List.map_congr_left fun e member => (once e member).2

end Game

end WordTrack
