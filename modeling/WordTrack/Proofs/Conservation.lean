import WordTrack.Proofs.Letters
import WordTrack.Proofs.Moves

/-! No letter is ever lost or made up, and the marks always tell exactly what is
typed. Both hold in every game that can be reached, whatever the levels, the
lexicon and the seed are. -/
namespace WordTrack

theorem Round.Coherent.settle {r : Round} (coherent : r.Coherent) (floor scale : Binary32) :
    (r.settle floor scale).Coherent := by
  rw [Round.settle_eq]
  exact coherent.frame rfl rfl rfl rfl rfl

theorem Round.Coherent.credit {r : Round} (coherent : r.Coherent) (word : String)
    (shove : Binary32) : { r.credit word with shove := shove }.Coherent := by
  rw [Round.credit_eq]
  exact coherent.frame rfl rfl rfl rfl rfl

namespace Game

variable {σ : Type} [LevelSource σ]

theorem Move.coherent {g h : Game σ} (move : Move g h) (coherent : g.round.Coherent) :
    h.round.Coherent := by
  cases move with
  | clock | listener | advance => exact coherent
  | fitScreen | rewind | throwTyped | noteSolved | shoved | forfeit =>
    exact coherent.frame rfl rfl rfl rfl rfl
  | drift offset =>
    have moved : { g.round with offset := offset }.Coherent := coherent.frame rfl rfl rfl rfl rfl
    exact moved.settle g.floor g.scale
  | pressOne letter => exact Round.pressOne_coherent coherent letter
  | backspace => exact Round.backspace_coherent coherent
  | reshuffle => exact reshuffle_coherent coherent
  | @restart level playable =>
    rw [start_playable g playable]
    exact (Round.restart_coherent g.round level _ (g.deal_perm level)).settle _ _
  | hintRepeated =>
    dsimp only
    rw [Round.hintRepeated_eq]
    exact coherent.frame rfl rfl rfl rfl rfl
  | credit => exact (coherent.credit _ _).settle _ _
  | clearAttempt => exact Round.clearAttempt_coherent coherent

theorem Reachable.coherent {g : Game σ} (reachable : g.Reachable) : g.round.Coherent :=
  reachable.invariant (fun _ _ _ _ _ => Round.blank_coherent) Move.coherent

/-- The tiles spell the target in some order, pool and typed letters together
are the letters of the tiles, and each typed letter has an origin. -/
theorem letters_conserved {g : Game σ} (reachable : g.Reachable) :
    g.round.word.Perm g.round.target.toList ∧
      (g.round.pool ++ g.round.typed).Perm g.round.word ∧
      g.round.origins.length = g.round.typed.length :=
  ⟨reachable.coherent.spelled, reachable.coherent.shared, reachable.coherent.traced⟩

theorem letters_conserved_midway :
    Sample.midway.Reachable ∧ Sample.midway.round.typed = ['O', 'P'] ∧
      Sample.midway.round.word.Perm Sample.midway.round.target.toList ∧
      (Sample.midway.round.pool ++ Sample.midway.round.typed).Perm Sample.midway.round.word ∧
      Sample.midway.round.origins.length = Sample.midway.round.typed.length :=
  ⟨Sample.midway_reachable, by decide +kernel, letters_conserved Sample.midway_reachable⟩

/-- A tile is marked exactly if fewer tiles before it hold its letter than the
letter occurs among those typed. -/
theorem selected_iff_count {g : Game σ} (reachable : g.Reachable) {i : Nat} {t : Tile}
    (here : g.round.tiles[i]? = some t) :
    t.selected = true ↔
      (g.round.tiles.take i).countP (·.letter == t.letter) < g.round.typed.count t.letter := by
  rw [reachable.coherent.marks] at here
  rw [Tile.marked_selected_iff here, Round.word, Tile.letters, ← List.map_take, List.count,
    List.countP_map]
  rfl

/-- Of two equal letters the first is marked. -/
theorem selected_iff_count_midway :
    Sample.midway.Reachable ∧ Sample.midway.round.tiles[2]? = some ⟨'O', true⟩ ∧
      Sample.midway.round.tiles[3]? = some ⟨'O', false⟩ ∧
      (Sample.midway.round.tiles.take 2).countP (·.letter == 'O') <
        Sample.midway.round.typed.count 'O' ∧
      ¬(Sample.midway.round.tiles.take 3).countP (·.letter == 'O') <
        Sample.midway.round.typed.count 'O' := by
  have first : Sample.midway.round.tiles[2]? = some ⟨'O', true⟩ := by decide +kernel
  have second : Sample.midway.round.tiles[3]? = some ⟨'O', false⟩ := by decide +kernel
  refine ⟨Sample.midway_reachable, first, second, ?_, ?_⟩
  · exact (selected_iff_count Sample.midway_reachable first).mp rfl
  · intro fewer
    exact absurd ((selected_iff_count Sample.midway_reachable second).mpr fewer) (by decide)

end Game

end WordTrack
