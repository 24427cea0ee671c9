import WordTrack.Game.Start
import WordTrack.Game.Shove
import WordTrack.Round.Typing
import WordTrack.Proofs.Marks
import WordTrack.Proofs.Shuffle

/-! The letters of a round. A letter is either in the pool or typed, the tiles
show all of them, and the marks say which are typed. Every operation on the
letters keeps this. -/
namespace WordTrack

open scoped List

namespace Round

/-- The letters of a round agree with each other. -/
structure Coherent (r : Round) : Prop where
  spelled : r.word.Perm r.target.toList
  shared : (r.pool ++ r.typed).Perm r.word
  traced : r.origins.length = r.typed.length
  marks : r.tiles = Tile.marked r.word r.typed

/-- The word of a round need not be computed from its tiles when their marks are
known. -/
theorem coherent_of_tiles {r : Round} (word : List Char)
    (marks : r.tiles = Tile.marked word r.typed) (spelled : word.Perm r.target.toList)
    (shared : (r.pool ++ r.typed).Perm word) (traced : r.origins.length = r.typed.length) :
    r.Coherent := by
  have same : r.word = word := by rw [Round.word, marks, Tile.letters_marked]
  exact ⟨same ▸ spelled, same ▸ shared, traced, same ▸ marks⟩

/-- Only five fields matter. -/
theorem Coherent.frame {r s : Round} (coherent : r.Coherent) (target : s.target = r.target)
    (tiles : s.tiles = r.tiles) (pool : s.pool = r.pool) (typed : s.typed = r.typed)
    (origins : s.origins = r.origins) : s.Coherent := by
  refine coherent_of_tiles r.word ?_ ?_ ?_ ?_
  · rw [tiles, typed]
    exact coherent.marks
  · rw [target]
    exact coherent.spelled
  · rw [pool, typed]
    exact coherent.shared
  · rw [origins, typed]
    exact coherent.traced

theorem blank_coherent : blank.Coherent := ⟨.refl _, .refl _, rfl, rfl⟩

theorem Coherent.count_eq {r : Round} (coherent : r.Coherent) (c : Char) :
    r.pool.count c + r.typed.count c = r.word.count c := by
  rw [← coherent.shared.count_eq c, List.count_append]

theorem pressOne_absent {letter : Char} {r : Round} (absent : letter ∉ r.pool) :
    r.pressOne letter = (r, []) := by
  simp [pressOne, List.idxOf?_eq_none_iff.mpr absent]

theorem pressOne_found {letter : Char} {r : Round} {i : Nat} (found : r.pool.idxOf? letter = some i) :
    r.pressOne letter =
      ({ r with
          pool := r.pool.eraseIdx i
          typed := r.typed ++ [letter]
          origins := r.origins ++ [i]
          tiles := (Tile.selectFirst letter r.tiles).1 },
        (Tile.selectFirst letter r.tiles).2.toList) := by
  simp [pressOne, found]

theorem pressOne_coherent {r : Round} (coherent : r.Coherent) (letter : Char) :
    (r.pressOne letter).1.Coherent := by
  cases found : r.pool.idxOf? letter with
  | none => rwa [pressOne_absent (List.idxOf?_eq_none_iff.mp found)]
  | some i =>
    obtain ⟨inside, rfl, -⟩ := List.idxOf?_eq_some_iff.mp found
    rw [pressOne_found found]
    refine coherent_of_tiles r.word ?_ ?_ ?_ ?_
    · rw [coherent.marks, Tile.selectFirst_marked]
      exact Tile.marked_congr _ (List.perm_append_singleton _ _).symm
    · exact coherent.spelled
    · calc r.pool.eraseIdx i ++ (r.typed ++ [r.pool[i]])
        _ ~ r.pool[i] :: (r.pool.eraseIdx i ++ r.typed) := by
          rw [← List.append_assoc]
          exact List.perm_append_singleton _ _
        _ ~ r.pool ++ r.typed := (List.getElem_cons_eraseIdx_perm inside).append_right _
        _ ~ r.word := coherent.shared
    · simp [coherent.traced]

theorem backspace_nil {r : Round} (empty : r.typed = []) : r.backspace = (r, []) := by
  simp [backspace, empty]

theorem backspace_concat {r : Round} {rest : List Char} {letter : Char}
    (typed : r.typed = rest ++ [letter]) :
    r.backspace =
      ({ r with
          pool := r.pool.insertIdx (min (r.origins.getLast?.getD r.pool.length) r.pool.length) letter
          typed := rest
          origins := r.origins.dropLast
          tiles := (Tile.unselectLast letter r.tiles).1 },
        (Tile.unselectLast letter r.tiles).2.toList) := by
  simp [backspace, typed]

/-- The last letter typed has a marked tile, and clearing its mark leaves the marks
of the letters typed before it. -/
theorem Coherent.unselect {r : Round} (coherent : r.Coherent) {rest : List Char} {letter : Char}
    (typed : r.typed = rest ++ [letter]) :
    ∃ i, Tile.unselectLast letter r.tiles = (Tile.marked r.word rest, some i) := by
  have perm : r.typed.Perm (letter :: rest) := by
    rw [typed]
    exact List.perm_append_singleton letter rest
  have room : rest.count letter < r.word.count letter := by
    have total := coherent.count_eq letter
    rw [perm.count_eq, List.count_cons_self] at total
    omega
  obtain ⟨i, -, unselect⟩ := Tile.select_unselect room
  refine ⟨i, ?_⟩
  rw [coherent.marks, Tile.marked_congr _ perm, unselect]

theorem backspace_coherent {r : Round} (coherent : r.Coherent) : r.backspace.1.Coherent := by
  rcases List.eq_nil_or_concat' r.typed with empty | ⟨rest, letter, typed⟩
  · rwa [backspace_nil empty]
  · obtain ⟨i, unselect⟩ := coherent.unselect typed
    rw [backspace_concat typed]
    refine coherent_of_tiles r.word ?_ ?_ ?_ ?_
    · rw [unselect]
    · exact coherent.spelled
    · calc r.pool.insertIdx _ letter ++ rest
        _ ~ letter :: r.pool ++ rest :=
          (List.perm_insertIdx letter r.pool (Nat.min_le_right _ _)).append_right rest
        _ ~ r.pool ++ letter :: rest := List.perm_middle.symm
        _ ~ r.pool ++ r.typed := by
          rw [typed]
          exact (List.perm_append_singleton letter rest).symm.append_left r.pool
        _ ~ r.word := coherent.shared
    · simp [coherent.traced, typed]

theorem clearAttempt_coherent {r : Round} (coherent : r.Coherent) : r.clearAttempt.Coherent := by
  refine coherent_of_tiles r.word ?_ coherent.spelled ?_ rfl
  · exact (Tile.marked_nil r.word).symm
  · exact .of_eq (List.append_nil r.word)

theorem restart_coherent (r : Round) (level : Level) {letters : List Char} (velocity : Binary32)
    (spelled : letters.Perm level.text.toList) : (r.restart level letters velocity).Coherent := by
  refine coherent_of_tiles letters ?_ spelled ?_ rfl
  · exact (Tile.marked_nil letters).symm
  · exact .of_eq (List.append_nil letters)

end Round

namespace Game

variable {σ : Type}

theorem deal_perm (g : Game σ) (level : Level) : (g.deal level).1.Perm level.text.toList := by
  unfold deal
  split
  · exact g.generator.shuffle_perm _
  · exact .refl _

theorem reshuffle_coherent {g : Game σ} (coherent : g.round.Coherent) :
    g.reshuffle.round.Coherent := by
  have perm := g.generator.shuffle_perm g.round.word
  refine Round.coherent_of_tiles (g.generator.shuffle g.round.word).1 ?_ ?_ ?_ coherent.traced
  · exact Tile.selectAll_row _ _
  · exact perm.trans coherent.spelled
  · exact coherent.shared.trans perm.symm

end Game

end WordTrack
