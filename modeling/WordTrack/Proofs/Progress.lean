import WordTrack.Proofs.LiveLevel
import Mathlib.Data.Int.Cast.Lemmas

/-! Going from level to level. The levels move on by one with every solved word
and by its steps with every jump, and never otherwise. On a course every level
can be played, so the live round follows them until another is started by hand. -/
namespace WordTrack

theorem LevelCycle.indexAfter_eq (c : LevelCycle) (steps : Int) :
    (c.indexAfter steps : Int) = (c.index + steps) % c.size := by
  have nonempty : (c.size : Int) ≠ 0 := by
    have inside := c.index_lt
    simp only [size]
    omega
  have nonneg := Int.emod_nonneg steps nonempty
  simp only [indexAfter]
  rw [Int.natCast_mod, Int.natCast_add, Int.toNat_of_nonneg nonneg, Int.add_emod_emod]

theorem LevelCycle.index_emod (c : LevelCycle) : (c.index : Int) % c.size = c.index :=
  Int.emod_eq_of_lt (Int.natCast_nonneg _) (Int.ofNat_lt.mpr c.index_lt)

theorem Course.ofLevels_eq_ok {levels : List Level} {course : Course}
    (accepted : ofLevels levels = .ok course) :
    course.cycle.levels = levels ∧ course.cycle.index = 0 := by
  unfold ofLevels at accepted
  split at accepted
  · contradiction
  · split at accepted
    · contradiction
    · cases accepted
      exact ⟨rfl, rfl⟩

theorem Course.current_playable (c : Course) : c.current.Playable :=
  c.playable _ (List.get_mem _ _)

/-- Whether an event reports a level that could not start. -/
def Event.isRefusal : Event → Bool
  | .logged (.levelRefused ..) => true
  | _ => false

theorem isRefusal_of_routine {events : List Event} (routine : events.all Event.isRoutine = true) :
    events.any Event.isRefusal = false := by
  rw [List.any_eq_false]
  intro event member refusal
  have plain := List.all_eq_true.mp routine event member
  unfold Event.isRefusal at refusal
  split at refusal <;> contradiction

/-- What an action registers: a listener, or none any more. -/
def Action.registers : Action → Option (Option String)
  | .listen label => some (some label)
  | .unlisten => some none
  | _ => none

/-- The listener registered by the end of some actions. -/
def registered (actions : List Action) : Option String :=
  (actions.filterMap Action.registers).getLast?.join

theorem registered_concat (actions : List Action) (action : Action) :
    registered (actions ++ [action]) = action.registers.getD (registered actions) := by
  unfold registered
  cases told : action.registers <;> simp [told]

namespace Turn

variable {σ : Type} [LevelSource σ]

def isComplete (t : Turn σ) : Bool := t.outcome.reply.isComplete

/-- The steps of a jump. -/
def jumped (t : Turn σ) : Int :=
  match t.action with
  | .jump steps => steps
  | _ => 0

/-- Whether a turn goes on to another level. -/
def isProgress (t : Turn σ) : Bool := t.isComplete || t.isJump

/-- Whether a turn starts a round of a level given by hand. -/
def startsGiven (t : Turn σ) : Bool :=
  match t.action with
  | .start _ => t.startsRound
  | _ => false

/-- How far a turn moves the levels on. -/
def advanced (t : Turn σ) : Int := (bif t.isComplete then 1 else 0) + t.jumped

/-- How far some turns move the levels on: a step for each solved word, and the
steps of the jumps. -/
def travelled (turns : List (Turn σ)) : Int :=
  turns.countP isComplete + (turns.map jumped).sum

theorem travelled_concat (turns : List (Turn σ)) (t : Turn σ) :
    travelled (turns ++ [t]) = travelled turns + t.advanced := by
  simp only [travelled, advanced, List.countP_append, List.countP_singleton, List.map_append,
    List.sum_append, List.map_cons, List.map_nil, List.sum_singleton]
  cases t.isComplete <;> simp <;> omega

theorem advanced_jump (g : Game σ) (steps : Int) :
    (⟨g, .jump steps⟩ : Turn σ).advanced = steps := Int.zero_add steps

theorem advanced_eq_zero {t : Turn σ} (stays : t.isProgress = false) : t.advanced = 0 := by
  obtain ⟨complete, jump⟩ := Bool.or_eq_false_iff.mp stays
  obtain ⟨g, action⟩ := t
  cases action with
  | jump steps => contradiction
  | _ => rw [advanced, complete]; rfl

end Turn

namespace Game

variable {σ : Type} [LevelSource σ]

theorem solve_isRefusal (g : Game σ) :
    g.solve.events.any Event.isRefusal = !decide (g.levelAt 1).Playable := by
  have calls (listener : Option String) :
      (listener.toList.map Event.called).any Event.isRefusal = false := by
    cases listener <;> rfl
  rw [solve_eq]
  simp only [List.any_append, List.cons_append, List.any_cons, calls]
  by_cases playable : (g.levelAt 1).Playable
  · rw [startNext_playable (g := g.noteSolved) playable, decide_eq_true playable,
      isRefusal_of_routine (start_routine _ _)]
    rfl
  · rw [startNext_refused (g := g.noteSolved) playable, decide_eq_false playable]
    rfl

/-- A level is reported as refused exactly if a word is solved and the next level
has no word. -/
theorem step_isRefusal (g : Game σ) (action : Action) :
    (g.step action).events.any Event.isRefusal =
      ((g.step action).reply.isComplete && !decide (g.levelAt 1).Playable) := by
  cases action with
  | tick | tickTo => exact isRefusal_of_routine (settle_routine _ _)
  | fitScreen | press | poll | backspace | listen | unlisten => rfl
  | hit => exact isRefusal_of_routine (hit_routine g)
  | start level => exact isRefusal_of_routine (start_routine g level)
  | jump steps => exact isRefusal_of_routine (jump_routine g steps)
  | submit =>
    have judged := judge_judgement g
    simp only [step, submit, List.any_append]
    generalize g.judge = o at judged ⊢
    cases judged with
    | empty | unknown | repeated => rfl
    | accepted =>
      rw [credit, isRefusal_of_routine (settle_routine _ _)]
      rfl
    | complete =>
      rw [List.any_append, solve_isRefusal, credit,
        isRefusal_of_routine (settle_routine _ _)]
      exact Bool.or_false _

theorem levelAt_playable (g : Game Course) (steps : Int) : (g.levelAt steps).Playable :=
  (g.levels.advance steps).current_playable

/-- What an action may change outside the round: the levels and the listener. -/
def outside (g : Game σ) : σ × Option String := (g.levels, g.listener)

omit [LevelSource σ] in
theorem hit_outside (g : Game σ) : g.hit.game.outside = g.outside := by
  cases shoves : g.round.mayShove with
  | false => rw [hit_idle shoves]
  | true =>
    rw [hit_shoves shoves]
    rfl

theorem start_outside (g : Game σ) (level : Level) : (g.start level).game.outside = g.outside := by
  by_cases playable : level.Playable
  · rw [start_playable g playable]
    rfl
  · rw [start_refused g playable]

theorem jump_outside (g : Game σ) (steps : Int) :
    (g.jump steps).game.outside = (g.advance steps).outside := by
  by_cases playable : (g.levelAt steps).Playable
  · rw [jump_playable playable]
    exact start_outside (g.advance steps).forfeit _
  · rw [jump_refused playable]
    rfl

theorem startNext_outside (g : Game σ) : g.startNext.game.outside = (g.advance 1).outside := by
  by_cases playable : (g.levelAt 1).Playable
  · rw [startNext_playable playable]
    exact start_outside (g.advance 1) _
  · rw [startNext_refused playable]

theorem submit_outside (g : Game σ) :
    g.submit.game.outside =
      bif (Reply.verdict g.submit.reply).isComplete then (g.advance 1).outside else g.outside := by
  have judged := judge_judgement g
  change g.judge.game.outside = bif (Reply.verdict g.judge.reply).isComplete then _ else _
  generalize g.judge = o at judged ⊢
  cases judged with
  | empty | unknown | accepted => rfl
  | repeated =>
    dsimp only
    split <;> rfl
  | complete => exact startNext_outside _

theorem step_outside (g : Game σ) (action : Action) :
    (g.step action).game.outside =
      (bif (⟨g, action⟩ : Turn σ).isProgress then
          (g.advance (⟨g, action⟩ : Turn σ).advanced).levels else g.levels,
        action.registers.getD g.listener) := by
  cases action with
  | tick | tickTo | fitScreen | press | poll | backspace | listen | unlisten => rfl
  | hit => exact hit_outside g
  | start level => exact start_outside g level
  | jump steps =>
    rw [Turn.advanced_jump]
    exact jump_outside g steps
  | submit =>
    refine (submit_outside g).trans ?_
    simp only [Turn.isProgress, Turn.advanced, Turn.isComplete, Turn.outcome, step]
    cases (Reply.verdict g.submit.reply).isComplete <;> rfl

theorem create_outside {tuning : Tuning} {levels : σ} {lexicon : String → Bool} {seed : UInt64}
    {g : Game σ} {told : List Event}
    (created : create tuning levels lexicon seed = .ok (g, told)) :
    g.outside = (levels, none) := by
  obtain ⟨-, -, rfl, -⟩ := create_eq_ok_iff.mp created
  exact start_outside _ _

theorem listener_after {g : Game σ} (unset : g.listener = none) (actions : List Action) :
    (g.after actions).listener = registered actions := by
  induction actions using List.reverseRecOn with
  | nil => exact unset
  | append_singleton done action ih =>
    have told := congrArg Prod.snd (step_outside (g.after done) action)
    rw [after_concat, registered_concat, ← ih]
    exact told

end Game

namespace Turn

variable {σ : Type} [LevelSource σ]

theorem levels_outcome (t : Turn σ) :
    t.outcome.game.levels =
      bif t.isProgress then (t.before.advance t.advanced).levels else t.before.levels :=
  congrArg Prod.fst (Game.step_outside t.before t.action)

theorem startsRound_submit (g : Game σ) :
    (⟨g, .submit⟩ : Turn σ).startsRound =
      ((⟨g, .submit⟩ : Turn σ).isComplete && decide (g.levelAt 1).Playable) := by
  simp only [startsRound, isComplete, outcome, Game.step]
  cases g.submit.reply <;> rfl

theorem begun_eq_none {t : Turn σ} (stays : t.isProgress = false) (free : t.startsGiven = false) :
    t.begun = none := by
  obtain ⟨g, action⟩ := t
  have unstarted : (⟨g, action⟩ : Turn σ).startsRound = false := by
    cases action with
    | start level => exact free
    | jump steps => contradiction
    | submit =>
      obtain ⟨incomplete, -⟩ := Bool.or_eq_false_iff.mp stays
      rw [startsRound_submit, incomplete]
      rfl
    | _ => rfl
  rw [begun, unstarted]
  rfl

theorem begun_eq_current {t : Turn Course} (progress : t.isProgress = true) :
    t.begun = some t.outcome.game.levels.current := by
  rw [levels_outcome, progress]
  obtain ⟨g, action⟩ := t
  cases action with
  | jump steps =>
    have starts : (⟨g, .jump steps⟩ : Turn Course).startsRound = true := by
      rw [startsRound_jump]
      exact decide_eq_true (g.levelAt_playable steps)
    rw [begun, starts, advanced_jump]
    rfl
  | submit =>
    have complete : (⟨g, .submit⟩ : Turn Course).isComplete = true := by
      rwa [isProgress, isJump, Bool.or_false] at progress
    have starts : (⟨g, .submit⟩ : Turn Course).startsRound = true := by
      rw [startsRound_submit, complete]
      exact decide_eq_true (g.levelAt_playable 1)
    rw [begun, starts, advanced, complete]
    rfl
  | _ => contradiction

theorem index_outcome (t : Turn Course) :
    t.outcome.game.levels.cycle.levels = t.before.levels.cycle.levels ∧
      (t.outcome.game.levels.cycle.index : Int) =
        (t.before.levels.cycle.index + t.advanced) % t.before.levels.size := by
  rw [levels_outcome]
  cases progress : t.isProgress with
  | true => exact ⟨rfl, t.before.levels.cycle.indexAfter_eq t.advanced⟩
  | false =>
    rw [advanced_eq_zero progress, Int.add_zero]
    exact ⟨rfl, t.before.levels.cycle.index_emod.symm⟩

end Turn

namespace Game

theorem index_after (g : Game Course) (actions : List Action) :
    (g.after actions).levels.cycle.levels = g.levels.cycle.levels ∧
      ((g.after actions).levels.cycle.index : Int) =
        (g.levels.cycle.index + Turn.travelled (g.turns actions)) % g.levels.size := by
  induction actions using List.reverseRecOn with
  | nil =>
    have still : Turn.travelled (g.turns []) = 0 := rfl
    rw [still, Int.add_zero]
    exact ⟨rfl, g.levels.cycle.index_emod.symm⟩
  | append_singleton done action ih =>
    obtain ⟨list, index⟩ := ih
    obtain ⟨sameList, moved⟩ := Turn.index_outcome ⟨g.after done, action⟩
    have sameSize : (g.after done).levels.size = g.levels.size := congrArg List.length list
    rw [after_concat, turns_concat, Turn.travelled_concat]
    refine ⟨sameList.trans list, moved.trans ?_⟩
    dsimp only
    rw [index, sameSize, Int.emod_add_emod, Int.add_assoc]

/-- Until a round is started by hand, the one started last is of the current level. -/
theorem live_eq_current {g : Game Course} {actions : List Action}
    (free : ∀ t ∈ (g.turns actions).rtakeWhile (!·.isProgress), t.startsGiven = false) :
    Turn.live g.levels.current (g.turns actions) = (g.after actions).levels.current := by
  induction actions using List.reverseRecOn with
  | nil => rfl
  | append_singleton done action ih =>
    rw [turns_concat, List.rtakeWhile_concat] at free
    rw [turns_concat, Turn.live_concat, after_concat]
    cases progress : (⟨g.after done, action⟩ : Turn Course).isProgress with
    | true =>
      rw [Turn.begun_eq_current progress]
      rfl
    | false =>
      simp only [progress, Bool.not_false, if_true, List.mem_append, List.mem_singleton] at free
      have same := Turn.levels_outcome ⟨g.after done, action⟩
      rw [progress] at same
      rw [Turn.begun_eq_none progress (free _ (.inr rfl))]
      refine (ih fun t member => free t (.inl member)).trans ?_
      exact congrArg Course.current same.symm

/-- On a course jumps always succeed and no level is refused. The index counts the
solved words and the steps of the jumps around the course, each solved word calls
the listener registered at that moment, and the round has the word of the current
level until another one is started by hand. -/
theorem progress_follows_levels {list : List Level} {course : Course}
    (valid : Course.ofLevels list = .ok course) {tuning : Tuning} {lexicon : String → Bool}
    {seed : UInt64} {g : Game Course} {told : List Event}
    (created : create tuning course lexicon seed = .ok (g, told)) (actions : List Action) :
    (∀ t ∈ g.turns actions, ∀ steps, t.action = .jump steps →
      t.outcome.reply = .started (.ok ())) ∧
    (∀ t ∈ g.turns actions, t.outcome.events.any Event.isRefusal = false) ∧
    (LevelSource.index (g.after actions).levels : Int) =
      ((g.turns actions).countP Turn.isComplete + ((g.turns actions).map Turn.jumped).sum) %
        list.length ∧
    called told = [] ∧
    (∀ done action rest, actions = done ++ action :: rest →
      called ((g.after done).step action).events =
        if ((g.after done).step action).reply.isComplete then (registered done).toList else []) ∧
    ((∀ t ∈ (g.turns actions).rtakeWhile (!·.isProgress), t.startsGiven = false) →
      (g.after actions).round.target = (LevelSource.current (g.after actions).levels).text) := by
  obtain ⟨levels, zero⟩ := Course.ofLevels_eq_ok valid
  have outside := create_outside created
  have same : g.levels = course := congrArg Prod.fst outside
  have unset : g.listener = none := congrArg Prod.snd outside
  refine ⟨?_, ?_, ?_, ?_, ?_, ?_⟩
  · rintro ⟨h, action⟩ - steps rfl
    simp [Turn.outcome, step, jump_playable (h.levelAt_playable steps)]
  · rintro ⟨h, action⟩ -
    rw [Turn.outcome, step_isRefusal, decide_eq_true (h.levelAt_playable 1)]
    exact Bool.and_false _
  · obtain ⟨-, index⟩ := index_after g actions
    rw [same, zero, Course.size, LevelCycle.size, levels] at index
    rw [← Int.zero_add (_ + _)]
    exact index
  · obtain ⟨-, -, -, rfl⟩ := create_eq_ok_iff.mp created
    exact called_of_routine (start_routine _ _)
  · intro done action rest split
    rw [called_step, listener_after unset]
  · intro free
    have shows := after_shows (create_shows created) actions
    have live := live_eq_current free
    rw [same] at live
    exact shows.word.trans (congrArg Level.text live)

namespace Sample

def course : Course :=
  ⟨⟨[.ofText "LOOP", .ofText "POOL", .ofText "POLO"], 0, by decide⟩, by decide⟩

/-- The first round of the course. -/
def outset : Game Course :=
  ((idle Tuning.standard course lexicon 7).start (LevelSource.current course)).game

/-- A word is solved after a jump back, and another one in a round started by
hand. -/
def touring : List Action :=
  [.listen "first", .jump (-2), .press ['P', 'O'], .press ['O'], .press ['L'], .submit,
    .listen "second", .start (.ofText "LO"), .press ['L'], .press ['O'], .submit]

end Sample

theorem progress_follows_levels_touring :
    Course.ofLevels Sample.course.cycle.levels = .ok Sample.course ∧
      (∃ told, create Tuning.standard Sample.course Sample.lexicon 7 = .ok (Sample.outset, told)) ∧
      (LevelSource.index (Sample.outset.after Sample.touring).levels : Int) = (2 + -2) % 3 ∧
      called ((Sample.outset.after (Sample.touring.take 10)).step .submit).events = ["second"] ∧
      (Sample.outset.after Sample.touring).round.target = "LOOP" := by
  have valid : Course.ofLevels Sample.course.cycle.levels = .ok Sample.course := rfl
  have created : ∃ told, create Tuning.standard Sample.course Sample.lexicon 7 =
      .ok (Sample.outset, told) := ⟨_, create_eq_ok_iff.mpr ⟨rfl, by decide, rfl, rfl⟩⟩
  obtain ⟨told, first⟩ := created
  obtain ⟨-, -, index, -, calls, target⟩ := progress_follows_levels valid first Sample.touring
  have solved : (Sample.outset.turns Sample.touring).countP Turn.isComplete = 2 := by
    decide +kernel
  have jumps : ((Sample.outset.turns Sample.touring).map Turn.jumped).sum = -2 := by
    decide +kernel
  have free : ∀ t ∈ (Sample.outset.turns Sample.touring).rtakeWhile (!·.isProgress),
      t.startsGiven = false := by decide +kernel
  rw [solved, jumps] at index
  have complete : ((Sample.outset.after (Sample.touring.take 10)).step .submit).reply.isComplete =
      true := by decide +kernel
  have second := calls (Sample.touring.take 10) .submit [] rfl
  rw [if_pos complete] at second
  refine ⟨valid, ⟨told, first⟩, index, second, (target free).trans ?_⟩
  decide +kernel

end Game

end WordTrack
