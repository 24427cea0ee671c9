import WordTrack.Proofs.Attempt
import WordTrack.Proofs.Independence
import WordTrack.Proofs.Progress

/-! Throws and shoves. A scored word is thrown and its shove waits until it strikes.
Starting another round, jumping and words that do not score leave the shove as it
is, so each scored word strikes at most once and nothing strikes that was not
thrown. -/
namespace WordTrack

/-- What flies at the drifting word. -/
structure Flight where
  letters : List Char
  shove : Binary32

def Round.flight (r : Round) : Flight := ⟨r.thrown, r.shove⟩

theorem Round.settle_flight (r : Round) (floor scale : Binary32) :
    (r.settle floor scale).flight = r.flight := by
  rw [settle_eq]
  rfl

theorem Round.shove_ne_zero {r : Round} (positive : 0 < r.shove) : r.shove ≠ 0 := by
  intro zero
  rw [zero] at positive
  exact absurd positive (by decide +kernel)

namespace Turn

variable {σ : Type} [LevelSource σ]

/-- Whether a word struck. -/
def strikes (t : Turn σ) : Bool :=
  match t.outcome.reply with
  | .struck moved => moved
  | _ => false

/-- Whether letters were thrown; words that do not score are thrown too. -/
def throws (t : Turn σ) : Bool := t.action.isSubmit && !t.before.round.typed.isEmpty

/-- The shove of the word that scored. -/
def prepares (tuning : Tuning) (t : Turn σ) : Option Binary32 :=
  t.credited.map fun word => tuning.shove word.length t.isComplete

/-- The shove of the word scored last, unless one has struck since. -/
def pending (tuning : Tuning) (turns : List (Turn σ)) : Binary32 :=
  ((turns.rtakeWhile (!·.strikes)).filterMap (prepares tuning)).getLast?.getD 0

theorem pending_concat (tuning : Tuning) (turns : List (Turn σ)) (t : Turn σ) :
    pending tuning (turns ++ [t]) =
      bif t.strikes then 0 else (t.prepares tuning).getD (pending tuning turns) := by
  unfold pending
  rw [List.rtakeWhile_concat]
  cases t.strikes with
  | true => rfl
  | false => cases prepared : t.prepares tuning <;> simp [prepared]

theorem pending_eq_zero {tuning : Tuning} {earlier later : List (Turn σ)} {t : Turn σ}
    (struck : t.strikes = true) (unscored : ∀ s ∈ later, s.credited = none) :
    pending tuning (earlier ++ t :: later) = 0 := by
  induction later using List.reverseRecOn with
  | nil =>
    rw [pending_concat, struck]
    rfl
  | append_singleton later s ih =>
    have before := ih fun u member => unscored u (List.mem_append_left _ member)
    have idle : s.prepares tuning = none := by
      rw [prepares, unscored s (List.mem_append_right _ (List.mem_singleton_self s))]
      rfl
    rw [← List.cons_append, ← List.append_assoc, pending_concat, before, idle]
    cases s.strikes <;> rfl

theorem strikes_hit (g : Game σ) : (⟨g, .hit⟩ : Turn σ).strikes = g.round.mayShove := g.hit_reply

theorem mayShove_of_strikes {t : Turn σ} (struck : t.strikes = true) :
    t.before.round.mayShove = true := by
  obtain ⟨g, action⟩ := t
  cases action with
  | hit => rwa [strikes_hit] at struck
  | _ => contradiction

end Turn

namespace Game

variable {σ : Type}

theorem hit_flight (g : Game σ) :
    g.hit.game.round.flight = ⟨g.round.thrown, bif g.round.mayShove then 0 else g.round.shove⟩ := by
  cases shoves : g.round.mayShove with
  | false =>
    rw [hit_idle shoves]
    rfl
  | true =>
    have settled := Round.settle_flight { g.round with offset := g.round.offset + g.round.shove }
      g.floor g.scale
    rw [hit_shoves shoves]
    exact congrArg (fun f : Flight => { f with shove := 0 }) settled

theorem credit_flight (g : Game σ) (word : String) :
    (g.credit word).game.round.flight =
      ⟨g.round.thrown, g.tuning.shove word.length (word.length == g.round.target.length)⟩ := by
  simp only [credit, settle, Round.settle_flight, Round.credit_eq]
  rfl

theorem press_flight (g : Game σ) (letters : List Char) :
    (g.press letters).game.round.flight = g.round.flight :=
  Round.congr_untyped Round.flight (fun _ => rfl) (Round.press_untyped letters g.round)

theorem backspace_flight (g : Game σ) : g.backspace.game.round.flight = g.round.flight :=
  Round.congr_untyped Round.flight (fun _ => rfl) (Round.backspace_untyped g.round)

variable [LevelSource σ]

theorem drift_flight (g : Game σ) {action : Action} (drift : action.isDrift = true) :
    (g.step action).game.round.flight = g.round.flight := by
  have same := congrArg (fun h : Game σ => h.round.flight) (g.step_drift drift).1
  exact same

theorem start_flight (g : Game σ) (level : Level) :
    (g.start level).game.round.flight = g.round.flight := by
  by_cases playable : level.Playable
  · rw [start_playable g playable]
    exact Round.settle_flight _ _ _
  · rw [start_refused g playable]

theorem jump_flight (g : Game σ) (steps : Int) :
    (g.jump steps).game.round.flight = g.round.flight := by
  by_cases playable : (g.levelAt steps).Playable
  · rw [jump_playable playable]
    exact start_flight (g.advance steps).forfeit _
  · rw [jump_refused playable]
    rfl

theorem solve_flight (g : Game σ) : g.solve.game.round.flight = g.round.flight := by
  rw [solve_eq]
  by_cases playable : (g.levelAt 1).Playable
  · rw [startNext_playable (g := g.noteSolved) playable]
    exact start_flight (g.noteSolved.advance 1) _
  · rw [startNext_refused (g := g.noteSolved) playable]
    rfl

end Game

namespace Turn

variable {σ : Type} [LevelSource σ]

theorem submit_flight (g : Game σ) :
    g.submit.game.round.flight =
      ⟨bif (⟨g, .submit⟩ : Turn σ).throws then g.round.typed else g.round.thrown,
        ((⟨g, .submit⟩ : Turn σ).prepares g.tuning).getD g.round.shove⟩ := by
  have judged := g.judge_judgement
  have credited := g.throwTyped.credit_flight g.round.candidate
  have thrown : (⟨g, .submit⟩ : Turn σ).throws = !g.round.typed.isEmpty := Bool.true_and _
  rw [thrown]
  simp only [prepares, Turn.credited, isComplete, outcome, Game.step, Game.submit]
  change g.judge.game.round.flight = _
  generalize g.judge = o at judged ⊢
  cases judged with
  | empty nothing =>
    rw [nothing]
    rfl
  | unknown nonempty =>
    rw [List.isEmpty_eq_false_iff.mpr nonempty]
    rfl
  | repeated nonempty =>
    rw [List.isEmpty_eq_false_iff.mpr nonempty]
    dsimp only
    split
    · rw [Round.hintRepeated_eq]
      rfl
    · rfl
  | accepted nonempty known unused shorter =>
    rw [List.isEmpty_eq_false_iff.mpr nonempty]
    refine credited.trans ?_
    rw [show (g.round.candidate.length == g.throwTyped.round.target.length) = false from
      beq_eq_false_iff_ne.mpr shorter]
    rfl
  | complete nonempty known unused whole =>
    rw [List.isEmpty_eq_false_iff.mpr nonempty, Game.solve_flight]
    refine credited.trans ?_
    rw [show (g.round.candidate.length == g.throwTyped.round.target.length) = true from
      beq_iff_eq.mpr whole]
    rfl

/-- What flies after a turn: the letters thrown last, and the shove that has not
struck yet. -/
theorem outcome_flight (t : Turn σ) :
    t.outcome.game.round.flight =
      ⟨bif t.throws then t.before.round.typed else t.before.round.thrown,
        bif t.strikes then 0 else (t.prepares t.before.tuning).getD t.before.round.shove⟩ := by
  obtain ⟨g, action⟩ := t
  cases action with
  | tick | tickTo | fitScreen => exact g.drift_flight (by rfl)
  | poll | listen | unlisten => rfl
  | press letters => exact g.press_flight letters
  | backspace => exact g.backspace_flight
  | submit => exact submit_flight g
  | hit =>
    rw [strikes_hit]
    exact g.hit_flight
  | start level => exact g.start_flight level
  | jump steps => exact g.jump_flight steps

theorem throws_of_credited {t : Turn σ} {word : String} (scored : t.credited = some word) :
    t.throws = true := by
  have scores := scores_of_credited scored
  simp [throws, scores.submits, Action.isSubmit, scores.nonempty]

omit [LevelSource σ] in
theorem typed_of_throws {t : Turn σ} (thrown : t.throws = true) : t.before.round.typed ≠ [] := by
  intro nothing
  simp [throws, nothing] at thrown

/-- A shove waits only while the letters thrown last are there. -/
theorem outcome_armed (t : Turn σ)
    (armed : t.before.round.shove ≠ 0 → t.before.round.thrown ≠ []) :
    t.outcome.game.round.shove ≠ 0 → t.outcome.game.round.thrown ≠ [] := by
  have shove : t.outcome.game.round.shove =
      bif t.strikes then 0 else (t.prepares t.before.tuning).getD t.before.round.shove :=
    congrArg Flight.shove t.outcome_flight
  have thrown : t.outcome.game.round.thrown =
      bif t.throws then t.before.round.typed else t.before.round.thrown :=
    congrArg Flight.letters t.outcome_flight
  intro waits
  rw [thrown]
  cases throws : t.throws with
  | true => exact typed_of_throws throws
  | false =>
    -- Nothing was thrown, so nothing scored and the shove is an earlier one.
    have unscored : t.credited = none := by
      apply Option.eq_none_iff_forall_ne_some.mpr
      intro word scored
      rw [throws_of_credited scored] at throws
      contradiction
    apply armed
    rw [shove, prepares, unscored] at waits
    cases struck : t.strikes with
    | true =>
      rw [struck] at waits
      contradiction
    | false =>
      rw [struck] at waits
      exact waits

end Turn

namespace Game

variable {σ : Type} [LevelSource σ]

theorem shove_after {tuning : Tuning} {g : Game σ} (tuned : g.tuning = tuning)
    (fresh : g.round.shove = 0) (actions : List Action) :
    (g.after actions).round.shove = Turn.pending tuning (g.turns actions) := by
  induction actions using List.reverseRecOn with
  | nil => exact fresh
  | append_singleton done action ih =>
    have same : (g.after done).tuning = tuning :=
      (congrArg Prod.fst (g.after_rules done)).trans tuned
    have flight := congrArg Flight.shove (Turn.outcome_flight ⟨g.after done, action⟩)
    rw [after_concat, turns_concat, Turn.pending_concat, ← ih, ← same]
    exact flight

theorem armed_after {g : Game σ} (fresh : g.round.shove = 0) (actions : List Action) :
    (g.after actions).round.shove ≠ 0 → (g.after actions).round.thrown ≠ [] := by
  induction actions using List.reverseRecOn with
  | nil =>
    intro waits
    contradiction
  | append_singleton done action ih =>
    rw [after_concat]
    exact Turn.outcome_armed ⟨g.after done, action⟩ ih

theorem create_flight {tuning : Tuning} {levels : σ} {lexicon : String → Bool} {seed : UInt64}
    {g : Game σ} {told : List Event}
    (created : create tuning levels lexicon seed = .ok (g, told)) : g.round.flight = ⟨[], 0⟩ := by
  obtain ⟨-, -, rfl, -⟩ := create_eq_ok_iff.mp created
  exact start_flight _ _

/-- The shove that waits is that of the word scored last, as long as it has not
struck, and zero otherwise. A positive one always has letters thrown, so it strikes
at the next hit, and between two words that strike one is scored. -/
theorem scored_word_strikes_once {tuning : Tuning} {levels : σ} {lexicon : String → Bool}
    {seed : UInt64} {g : Game σ} {told : List Event}
    (created : create tuning levels lexicon seed = .ok (g, told)) (actions : List Action) :
    let h := g.after actions
    h.round.shove = Turn.pending tuning (g.turns actions) ∧
    (0 < h.round.shove → h.round.thrown ≠ []) ∧
    (h.hit.reply = true ↔ 0 < h.round.shove) ∧
    ∀ (earlier between later : List (Turn σ)) (t u : Turn σ),
      g.turns actions = earlier ++ t :: between ++ u :: later →
      t.strikes = true → u.strikes = true → ∃ s ∈ between, s.credited.isSome = true := by
  intro h
  have tuned : g.tuning = tuning := congrArg Prod.fst (create_rules created)
  have fresh : g.round.shove = 0 := congrArg Flight.shove (create_flight created)
  have armed : 0 < h.round.shove → h.round.thrown ≠ [] := by
    intro positive
    exact armed_after fresh actions (Round.shove_ne_zero positive)
  refine ⟨shove_after tuned fresh actions, armed, ?_, ?_⟩
  · rw [h.hit_reply, Round.mayShove_iff]
    exact ⟨fun may => may.1, fun positive => ⟨positive, armed positive⟩⟩
  · intro earlier between later t u split first second
    by_contra absent
    have unscored : ∀ s ∈ between, s.credited = none := by
      intro s member
      by_contra scored
      exact absent ⟨s, member, Option.isSome_iff_ne_none.mpr scored⟩
    -- The shove is zero from the first strike on, so the second one has nothing to strike with.
    obtain ⟨done, turns, before⟩ := turns_split split
    have zero : u.before.round.shove = 0 := by
      rw [← before, shove_after tuned fresh done, turns]
      exact Turn.pending_eq_zero first unscored
    obtain ⟨positive, -⟩ := Round.mayShove_iff.mp (Turn.mayShove_of_strikes second)
    exact Round.shove_ne_zero positive zero

/-- A word strikes in another round than it was scored in. The next one waits while
a jump is refused and a word that does not score is thrown. -/
def Sample.striking : List Action :=
  [.press ['L'], .press ['O'], .submit, .start (.ofText "POOL"), .hit, .press ['P'], .press ['O'],
    .submit, .jump 1, .press ['L'], .submit]

theorem scored_word_strikes_once_striking :
    (∃ told, create Tuning.standard Sample.levels Sample.lexicon 7 = .ok (Sample.opening, told)) ∧
      (Sample.opening.after Sample.striking).round.thrown = ['L'] ∧
      (Sample.opening.after Sample.striking).round.shove = Tuning.standard.shove 2 false ∧
      (Sample.opening.after Sample.striking).hit.reply = true ∧
      (Sample.opening.after (Sample.striking ++ [.hit])).round.shove = 0 ∧
      (Sample.opening.after (Sample.striking ++ [.hit])).hit.reply = false := by
  obtain ⟨told, created⟩ := Sample.create_opening
  obtain ⟨shove, -, strikes, -⟩ := scored_word_strikes_once created Sample.striking
  obtain ⟨gone, -, again, -⟩ := scored_word_strikes_once created (Sample.striking ++ [.hit])
  have waiting : Turn.pending Tuning.standard (Sample.opening.turns Sample.striking) =
      Tuning.standard.shove 2 false := by decide +kernel
  have none : Turn.pending Tuning.standard (Sample.opening.turns (Sample.striking ++ [.hit])) = 0 := by
    decide +kernel
  rw [waiting] at shove
  rw [none] at gone
  refine ⟨⟨told, created⟩, by decide +kernel, shove, ?_, gone, ?_⟩
  · rw [strikes, shove]
    decide +kernel
  · rw [Bool.eq_false_iff, Ne, again, gone]
    decide +kernel

end Game

end WordTrack
