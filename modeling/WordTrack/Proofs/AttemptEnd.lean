import WordTrack.Proofs.Shoves
import WordTrack.Proofs.Verdicts

/-! How attempts end. Whatever the verdict, and whichever round is live afterwards, all
letters are back in the pool, so that submitting again finds nothing to judge. A word
that is rejected is thrown and may raise the hint about repeated words, and costs
nothing else: a shove that waits goes on waiting. -/
namespace WordTrack

namespace Round

/-- Nothing is typed, and every letter is in the pool in the order shown. -/
structure Clear (r : Round) : Prop where
  typed : r.typed = []
  origins : r.origins = []
  pool : r.pool = r.word
  unmarked : ∀ t ∈ r.tiles, t.selected = false

theorem word_clearAttempt (r : Round) : r.clearAttempt.word = r.word := Tile.letters_row r.word

theorem clearAttempt_clear (r : Round) : r.clearAttempt.Clear := by
  refine ⟨rfl, rfl, r.word_clearAttempt.symm, ?_⟩
  intro t shown
  obtain ⟨letter, -, rfl⟩ := List.mem_map.mp shown
  rfl

theorem Clear.tiles_eq {r : Round} (clear : r.Clear) : Tile.row r.word = r.tiles := by
  have same : ∀ t ∈ r.tiles, Tile.fresh t.letter = t := by
    rintro ⟨letter, selected⟩ shown
    obtain rfl : selected = false := clear.unmarked _ shown
    rfl
  simp only [Tile.row, word, Tile.letters, List.map_map]
  exact (List.map_congr_left same).trans (List.map_id _)

/-- Ending an attempt that has not begun changes nothing. -/
theorem Clear.clearAttempt_eq {r : Round} (clear : r.Clear) : r.clearAttempt = r := by
  calc r.clearAttempt
    _ = { r with typed := [], origins := [], pool := r.word, tiles := r.tiles } := by
      rw [← clear.tiles_eq, clearAttempt]
    _ = r := by rw [← clear.typed, ← clear.origins, ← clear.pool]

end Round

namespace Game

variable {σ : Type} [LevelSource σ] {g : Game σ}

theorem submit_clear (clear : g.round.Clear) :
    g.submit = ⟨g, .wrong, [.logged (.submitted "" .wrong)]⟩ := by
  have judged : g.judge = ⟨g, .wrong, []⟩ := (Judgement.empty clear.typed).judge_eq
  have nothing : g.round.candidate = "" := Round.candidate_eq_empty_iff.mpr clear.typed
  simp only [submit, judged, nothing, clear.clearAttempt_eq, List.nil_append]

/-- After a submission every letter is in the pool again and no tile is marked, in any
game and whatever the verdict is. Submitting once more is answered with a wrong word and
leaves the game as it is, with no listener called. -/
theorem attempt_ends_clear (g : Game σ) :
    let ended := g.submit.game
    (ended.round.typed = [] ∧ ended.round.origins = [] ∧ ended.round.pool = ended.round.word ∧
      ∀ t ∈ ended.round.tiles, t.selected = false) ∧
    ended.submit.reply = .wrong ∧ ended.submit.game = ended ∧ called ended.submit.events = [] := by
  intro ended
  have clear : ended.round.Clear := g.judge.game.round.clearAttempt_clear
  refine ⟨⟨clear.typed, clear.origins, clear.pool, clear.unmarked⟩, ?_⟩
  rw [submit_clear clear]
  exact ⟨rfl, rfl, rfl⟩

/-- A rejected submission changes what is thrown and the hint, before the attempt ends. -/
theorem Judgement.rejected {o : Outcome σ Verdict} (judgement : Judgement g o)
    (rejected : o.reply = .wrong ∨ o.reply = .repeated) :
    ∃ thrown hint tag,
      o.game = { g with round := { g.round with thrown := thrown, hint := hint, tag := tag } } ∧
      thrown = (if g.round.typed = [] then g.round.thrown else g.round.typed) ∧
      (hint, tag) =
        if o.reply = .repeated ∧ g.round.hint = "" ∧
          LevelSource.index g.levels ≤ g.tuning.repeatHintLevel then (Hint.repeated, .repeated)
        else (g.round.hint, g.round.tag) := by
  cases judgement with
  | empty nothing => exact ⟨_, _, _, rfl, by simp [nothing], by simp⟩
  | unknown nonempty => exact ⟨_, _, _, rfl, by simp [nonempty], by simp⟩
  | repeated nonempty =>
    by_cases low : LevelSource.index g.levels ≤ g.tuning.repeatHintLevel
    · simp only [if_pos low, throwTyped, Round.hintRepeated_eq]
      refine ⟨_, _, _, rfl, by simp [nonempty], ?_⟩
      by_cases hintless : g.round.hint = ""
      · simp [low, hintless]
      · simp [hintless]
    · simp only [if_neg low]
      exact ⟨_, _, _, rfl, by simp [nonempty], by simp [low]⟩
  | accepted | complete => simp at rejected

theorem called_rejected (rejected : g.submit.reply = .wrong ∨ g.submit.reply = .repeated) :
    called g.submit.events = [] := by
  have told := called_step g .submit
  rcases rejected with wrong | repeated
  · simpa [step, wrong, Reply.isComplete] using told
  · simpa [step, repeated, Reply.isComplete] using told

/-- In play a shove that waits always has letters thrown. -/
theorem Reachable.armed (reachable : g.Reachable) : g.round.shove ≠ 0 → g.round.thrown ≠ [] := by
  induction reachable with
  | @create _ _ _ _ g _ created =>
    intro waits
    exact absurd (congrArg Flight.shove (create_flight created)) waits
  | @step g action _ ih => exact Turn.outcome_armed ⟨g, action⟩ ih

theorem Reachable.mayShove_iff (reachable : g.Reachable) :
    g.round.mayShove = true ↔ 0 < g.round.shove := by
  rw [Round.mayShove_iff]
  constructor
  · rintro ⟨positive, -⟩
    exact positive
  · intro positive
    exact ⟨positive, reachable.armed (Round.shove_ne_zero positive)⟩

/-- A rejected submission leaves the game outside the round as it was and calls no
listener. In the round, score, points, the accepted words, the letters shown, the drift
and the shove stay, what was typed is thrown, and the hint changes exactly if a repeated
word meets none, on a level where the hint about repeated words is given. -/
theorem rejection_costs_nothing (reachable : g.Reachable)
    (rejected : g.submit.reply = .wrong ∨ g.submit.reply = .repeated) :
    let r := g.round
    let s := g.submit.game.round
    let hinted := g.submit.reply = .repeated ∧ r.hint = "" ∧
      LevelSource.index g.levels ≤ g.tuning.repeatHintLevel
    g.submit.game = { g with round := s } ∧ called g.submit.events = [] ∧
    (s.target = r.target ∧ s.word = r.word ∧ s.accepted = r.accepted ∧ s.solved = r.solved ∧
      s.points = r.points ∧ s.score = r.score ∧ s.offset = r.offset ∧
      s.screenOffset = r.screenOffset ∧ s.velocity = r.velocity ∧ s.shove = r.shove ∧
      s.mayShove = r.mayShove) ∧
    s.thrown = (if r.typed = [] then r.thrown else r.typed) ∧
    ((s.hint, s.tag) ≠ (r.hint, r.tag) ↔ hinted) ∧
    (hinted → (s.hint, s.tag) = (Hint.repeated, .repeated)) := by
  intro r s hinted
  obtain ⟨thrown, hint, tag, judged, thrownEq, hintEq⟩ := (judge_judgement g).rejected rejected
  have ended : g.submit.game =
      { g with round :=
        Round.clearAttempt { r with thrown := thrown, hint := hint, tag := tag } } := by
    simp only [submit, judged, r]
  have round : s = Round.clearAttempt { r with thrown := thrown, hint := hint, tag := tag } :=
    congrArg Game.round ended
  have word : s.word = r.word := by
    rw [round, Round.word_clearAttempt]
    rfl
  -- Other letters are thrown now, but while a shove waits there were some before.
  have waits : s.mayShove = r.mayShove := by
    have shove : s.shove = r.shove := by rw [round]; rfl
    have after : s.mayShove = true ↔ 0 < s.shove := (reachable.step .submit).mayShove_iff
    rw [Bool.eq_iff_iff, after, shove, reachable.mayShove_iff]
  have hints : (s.hint, s.tag) =
      if hinted then (Hint.repeated, .repeated) else (r.hint, r.tag) := by
    rw [round]
    exact hintEq
  rw [hints]
  refine ⟨?_, called_rejected rejected, ?_, ?_, ?_, ?_⟩
  · rw [ended, round]
  · rw [← word, ← waits, round]
    exact ⟨rfl, rfl, rfl, rfl, rfl, rfl, rfl, rfl, rfl, rfl, rfl⟩
  · rw [round]
    exact thrownEq
  · constructor
    · intro changed
      by_contra unhinted
      exact changed (if_neg unhinted)
    · rintro raised same
      rw [if_pos raised, raised.2.1] at same
      have blank : Hint.repeated = "" := congrArg Prod.fst same
      exact absurd blank (by decide)
  · intro raised
    exact if_pos raised

/-- A word is typed again while its shove waits. -/
def Sample.retyping : Game LevelCycle :=
  opening.after [.press ['L'], .press ['O'], .submit, .press ['L'], .press ['O']]

theorem rejection_costs_nothing_retyping :
    Sample.retyping.Reachable ∧ Sample.retyping.submit.reply = .repeated ∧
      Sample.retyping.submit.game.round.score = 2 ∧
      Sample.retyping.submit.game.round.mayShove = true ∧
      Sample.retyping.submit.game.generator = Sample.retyping.generator ∧
      Sample.retyping.submit.game.round.hint = Hint.repeated := by
  have reachable : Sample.retyping.Reachable := Sample.opening_reachable.after _
  have repeated : Sample.retyping.submit.reply = .repeated := by decide +kernel
  have score : Sample.retyping.round.score = 2 := by decide +kernel
  have waits : Sample.retyping.round.mayShove = true := by decide +kernel
  obtain ⟨outside, -, ⟨-, -, -, -, -, scored, -, -, -, -, waiting⟩, -, -, hint⟩ :=
    rejection_costs_nothing reachable (.inr repeated)
  have raised := hint ⟨repeated, by decide +kernel, by decide +kernel⟩
  refine ⟨reachable, repeated, scored.trans score, waiting.trans waits, ?_, ?_⟩
  · rw [outside]
  · exact congrArg Prod.fst raised

end Game

end WordTrack
