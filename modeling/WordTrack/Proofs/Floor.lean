import WordTrack.Proofs.Track

/-! A word at the floor is always flagged. Every sum is settled, and settling tests
the offset before it is brought back to the track. On a track wider than the word
the floor lies below zero, so an offset that was not at the floor before is not at
it afterwards. -/
namespace WordTrack

/-- Game over, with the hint that says so. -/
structure Round.Ended (r : Round) : Prop where
  tagged : r.tag = .gameOver
  hinted : r.hint = Hint.gameOver

namespace Round

theorem settle_ended {r : Round} {floor scale : Binary32} (reached : r.offset ≤ floor) :
    (r.settle floor scale).Ended := by
  rw [settle_eq]
  constructor
  · exact if_pos reached
  · exact if_pos reached

theorem settle_ended_of_le {floor : Binary32} (low : floor < 0) (scale : Binary32) (r : Round)
    (sunk : (r.settle floor scale).offset ≤ floor) : (r.settle floor scale).Ended := by
  apply settle_ended
  rw [settle_eq] at sunk
  exact Binary32.le_of_clamp_le low sunk

end Round

namespace Game

variable {σ : Type}

/-- Where the floor lies below zero, a word at the floor is flagged. -/
def Flagged (g : Game σ) : Prop := g.floor < 0 → g.round.offset ≤ g.floor → g.round.Ended

theorem Flagged.frame {g h : Game σ} (flagged : g.Flagged) (tuning : h.tuning = g.tuning)
    (offset : h.round.offset = g.round.offset) (tag : h.round.tag = g.round.tag)
    (hint : h.round.hint = g.round.hint) : h.Flagged := by
  intro low sunk
  rw [floor, tuning] at low sunk
  rw [offset] at sunk
  obtain ⟨tagged, hinted⟩ := flagged low sunk
  exact ⟨tag.trans tagged, hint.trans hinted⟩

theorem settle_flagged (g : Game σ) (r : Round) : (g.settle r).game.Flagged :=
  fun low sunk => Round.settle_ended_of_le low g.scale r sunk

theorem flagged_of_zero {g : Game σ} (start : g.round.offset = 0) : g.Flagged := by
  intro low sunk
  rw [start] at sunk
  exact absurd sunk (Binary32.not_le_of_lt low)

variable [LevelSource σ]

theorem Move.flagged {g h : Game σ} (move : Move g h) (flagged : g.Flagged) : h.Flagged := by
  cases move with
  | clock | listener | advance | fitScreen | reshuffle | throwTyped | noteSolved | shoved | forfeit
  | clearAttempt => exact flagged.frame rfl rfl rfl rfl
  | drift offset => exact settle_flagged g _
  | rewind => exact flagged_of_zero rfl
  | pressOne letter =>
    dsimp only [Round.pressOne]
    split
    · exact flagged
    · exact flagged.frame rfl rfl rfl rfl
  | backspace =>
    dsimp only [Round.backspace]
    split
    · exact flagged
    · exact flagged.frame rfl rfl rfl rfl
  | restart playable =>
    rw [start_playable g playable]
    exact settle_flagged _ _
  | hintRepeated =>
    intro low sunk
    have before : g.round.offset ≤ g.floor := by rwa [Round.hintRepeated_eq] at sunk
    have ended := flagged low before
    change g.round.hintRepeated.Ended
    rwa [Round.hintRepeated_of_gameOver ended.hinted]
  | credit => exact settle_flagged g _

theorem Reachable.flagged {g : Game σ} (reachable : g.Reachable) : g.Flagged :=
  reachable.invariant (fun _ _ _ _ _ => flagged_of_zero rfl) Move.flagged

/-- On a track wider than the word, a word at the floor is game over and says so. -/
theorem floor_is_flagged {g : Game σ} (reachable : g.Reachable)
    (room : g.tuning.wordWidth < g.tuning.trackWidth) (sunk : g.round.offset ≤ g.floor) :
    g.round.tag = .gameOver ∧ g.round.hint = Hint.gameOver := by
  have low : g.floor < 0 := Tuning.floor_neg reachable.onTrack.checked room
  obtain ⟨tagged, hinted⟩ := reachable.flagged low sunk
  exact ⟨tagged, hinted⟩

/-- The word sinks while the hint about repeated words stands, and then another
word is accepted. -/
def Sample.sunk : Game LevelCycle :=
  opening.after [.press ['L'], .press ['O'], .submit, .press ['L'], .press ['O'], .submit,
    .tick (.infinite false), .press ['P'], .press ['O'], .submit]

theorem floor_is_flagged_sunk :
    Sample.sunk.Reachable ∧ Sample.sunk.tuning.wordWidth < Sample.sunk.tuning.trackWidth ∧
      Sample.sunk.round.offset ≤ Sample.sunk.floor ∧ Sample.sunk.round.score = 4 ∧
      Sample.sunk.round.tag = .gameOver ∧ Sample.sunk.round.hint = Hint.gameOver := by
  have reachable : Sample.sunk.Reachable := Sample.opening_reachable.after _
  have room : Sample.sunk.tuning.wordWidth < Sample.sunk.tuning.trackWidth := by decide +kernel
  have sunk : Sample.sunk.round.offset ≤ Sample.sunk.floor := by decide +kernel
  exact ⟨reachable, room, sunk, by decide +kernel, floor_is_flagged reachable room sunk⟩

end Game

end WordTrack
