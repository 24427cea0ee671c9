import WordTrack.Proofs.Floor
import WordTrack.Proofs.Letters

/-! A strike only helps. The word moves away from the floor or stays where it is, its
letters change places, and the shove is used up. Settling the moved word tests it
against the floor again, which changes nothing: a shove that rounding swallows at the
floor finds a word that is flagged already, and where the floor is the start of the
track no shove is swallowed. -/
namespace WordTrack.Game

variable {σ : Type}

theorem reshuffle_word_perm (g : Game σ) : g.reshuffle.round.word.Perm g.round.word := by
  have shown : g.reshuffle.round.word = (g.generator.shuffle g.round.word).1 := by
    simp only [reshuffle, Round.word, Tile.selectAll_row, Tile.letters_marked]
  rw [shown]
  exact g.generator.shuffle_perm g.round.word

variable [LevelSource σ] {g : Game σ} {distance : Binary32}

/-- A word that is moved up and settled is not below where it was. -/
theorem Reachable.le_settled (reachable : g.Reachable) (positive : 0 < distance) :
    g.round.offset ≤ ((g.round.offset + distance).min 0).max g.floor := by
  have sum : g.round.offset ≤ g.round.offset + distance :=
    Binary32.le_add_right reachable.offset_finite (Binary32.le_of_lt positive)
  have capped : g.round.offset ≤ (g.round.offset + distance).min 0 :=
    Binary32.le_min sum reachable.onTrack.below
  exact Binary32.le_trans capped (Binary32.le_max_left (Binary32.isNaN_of_ge capped) g.floor)

/-- A word that is moved up and yet found at the floor was there before, and is game
over. -/
theorem Reachable.ended_of_swallowed (reachable : g.Reachable) (positive : 0 < distance)
    (swallowed : g.round.offset + distance ≤ g.floor) : g.round.Ended := by
  have on := reachable.onTrack
  have finite := reachable.offset_finite
  obtain ⟨bounded, -, high⟩ := Tuning.floor_between on.checked
  have sunk : g.round.offset ≤ g.floor :=
    Binary32.le_trans (Binary32.le_add_right finite (Binary32.le_of_lt positive)) swallowed
  by_cases low : g.floor < 0
  · exact reachable.flagged low sunk
  · -- With no room on the track the word lies at zero, so the sum is no less than the shove.
    have zero : 0 ≤ g.floor :=
      Binary32.le_of_not_lt (Binary32.isNaN_of_isFinite bounded)
        (Binary32.isNaN_of_isFinite Binary32.isFinite_zero) low
    have whole : distance ≤ g.round.offset + distance :=
      Binary32.le_add_left finite (Binary32.le_trans zero on.above)
        (Binary32.isNaN_of_ge (Binary32.le_of_lt positive))
    have small : distance ≤ 0 := Binary32.le_trans (Binary32.le_trans whole swallowed) high
    exact absurd small (Binary32.not_le_of_lt positive)

/-- Settling a word that was moved up changes only its offsets. -/
theorem Reachable.settle_lifted (reachable : g.Reachable) (positive : 0 < distance) :
    (g.settle { g.round with offset := g.round.offset + distance }).game.round =
      { g.round with
        offset := ((g.round.offset + distance).min 0).max g.floor
        screenOffset := ((g.round.offset + distance).min 0).max g.floor * g.scale } := by
  dsimp only [settle]
  rw [Round.settle_eq]
  by_cases swallowed : g.round.offset + distance ≤ g.floor
  · obtain ⟨tagged, hinted⟩ := reachable.ended_of_swallowed positive swallowed
    simp only [if_pos swallowed, tagged, hinted]
  · simp only [if_neg swallowed]

/-- All that a strike changes in a round. -/
theorem Reachable.hit_round (reachable : g.Reachable) (shoves : g.round.mayShove = true) :
    ∃ tiles : List Tile, (Tile.letters tiles).Perm g.round.word ∧
      g.hit.game.round = { g.round with
        tiles := tiles
        offset := ((g.round.offset + g.round.shove).min 0).max g.floor
        screenOffset := ((g.round.offset + g.round.shove).min 0).max g.floor * g.scale
        shove := 0 } := by
  obtain ⟨positive, -⟩ := Round.mayShove_iff.mp shoves
  have lifted := reachable.settle_lifted positive
  generalize settled : (g.settle { g.round with offset := g.round.offset + g.round.shove }).game = h
    at lifted
  refine ⟨h.reshuffle.round.tiles, ?_, ?_⟩
  · have shown : h.round.word = g.round.word := by
      rw [lifted]
      rfl
    exact h.reshuffle_word_perm.trans (.of_eq shown)
  · have moved : h.reshuffle.round = { h.round with tiles := h.reshuffle.round.tiles } := rfl
    rw [hit_shoves shoves]
    dsimp only
    rw [settled, moved, lifted]

/-- A strike moves the word up if anything, uses up the shove, reorders the tiles and
leaves every other part of the word game, the hint and its tag as they were. Where
nothing strikes, the game is as it was. -/
theorem strike_only_helps (reachable : g.Reachable) :
    let r := g.round
    let s := g.hit.game.round
    (g.hit.reply = true →
      r.offset ≤ s.offset ∧ s.shove = 0 ∧ s.word.Perm r.word ∧
      s.target = r.target ∧ s.pool = r.pool ∧ s.typed = r.typed ∧ s.origins = r.origins ∧
      s.accepted = r.accepted ∧ s.thrown = r.thrown ∧ s.solved = r.solved ∧
      s.points = r.points ∧ s.score = r.score ∧ s.velocity = r.velocity ∧
      s.hint = r.hint ∧ s.tag = r.tag) ∧
    (g.hit.reply = false → g.hit.game = g ∧ g.hit.events = []) := by
  intro r s
  constructor
  · intro struck
    rw [hit_reply] at struck
    obtain ⟨positive, -⟩ := Round.mayShove_iff.mp struck
    have up := reachable.le_settled positive
    obtain ⟨tiles, letters, after⟩ := reachable.hit_round struck
    have changed : s = _ := after
    rw [changed]
    exact ⟨up, rfl, letters, rfl, rfl, rfl, rfl, rfl, rfl, rfl, rfl, rfl, rfl, rfl, rfl⟩
  · intro missed
    rw [hit_reply] at missed
    rw [hit_idle missed]
    exact ⟨rfl, rfl⟩

namespace Sample

/-- Shoves so small that rounding swallows them at the floor. -/
def faint : Tuning := { Tuning.standard with letterShove := .ofBits 1 }

/-- A thrown word is about to strike at the floor, while another one is typed. -/
def faltering : Game LevelCycle :=
  ((idle faint levels lexicon 7).start (LevelSource.current levels)).game.after
    [.press ['L'], .press ['O'], .submit, .tick (.infinite false), .press ['P']]

theorem faltering_reachable : faltering.Reachable :=
  (Reachable.create (create_eq_ok_iff.mpr ⟨rfl, by decide, rfl, rfl⟩)).after _

end Sample

/-- The letters change places although the word does not move. -/
theorem strike_only_helps_faltering :
    Sample.faltering.Reachable ∧ Sample.faltering.hit.reply = true ∧
      Sample.faltering.round.offset + Sample.faltering.round.shove ≤ Sample.faltering.floor ∧
      Sample.faltering.hit.game.round.word ≠ Sample.faltering.round.word ∧
      Sample.faltering.hit.game.round.word.Perm Sample.faltering.round.word ∧
      Sample.faltering.hit.game.round.typed = ['P'] ∧
      Sample.faltering.round.offset ≤ Sample.faltering.hit.game.round.offset ∧
      Sample.faltering.hit.game.round.tag = .gameOver := by
  have struck : Sample.faltering.hit.reply = true := by decide +kernel
  obtain ⟨helps, -⟩ := strike_only_helps Sample.faltering_reachable
  obtain ⟨up, -, letters, -, -, typed, -, -, -, -, -, -, -, -, tag⟩ := helps struck
  have before : Sample.faltering.round.tag = .gameOver := by decide +kernel
  have pending : Sample.faltering.round.typed = ['P'] := by decide +kernel
  exact ⟨Sample.faltering_reachable, struck, by decide +kernel, by decide +kernel, letters,
    typed.trans pending, up, tag.trans before⟩

end WordTrack.Game
