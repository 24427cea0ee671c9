import WordTrack.Proofs.Solving

/-! Typing and taking back undo each other. A letter comes back to where it was
drawn, and the tile it marked last is the one it clears first. Typing it again
draws it at the same place, for no earlier copy of it was in the pool. -/
namespace WordTrack

namespace Round

variable {r : Round} {letter : Char}

/-- Typing a letter and taking it back changes nothing, and both name one tile. -/
theorem Coherent.backspace_pressOne (coherent : r.Coherent) (present : letter ∈ r.pool) :
    ∃ index, (r.pressOne letter).2 = [index] ∧
      (r.pressOne letter).1.backspace = (r, [index]) := by
  cases found : r.pool.idxOf? letter with
  | none => exact absurd present (List.idxOf?_eq_none_iff.mp found)
  | some i =>
    obtain ⟨inside, rfl, -⟩ := List.idxOf?_eq_some_iff.mp found
    have room : r.typed.count r.pool[i] < r.word.count r.pool[i] := by
      have total := coherent.count_eq r.pool[i]
      have some := List.count_pos_iff.mpr present
      omega
    obtain ⟨index, select, unselect⟩ := Tile.select_unselect room
    rw [← coherent.marks] at select unselect
    refine ⟨index, ?_, ?_⟩
    · rw [pressOne_found found, select]
      rfl
    · have inRange : i ≤ (r.pool.eraseIdx i).length := by
        rw [List.length_eraseIdx_of_lt inside]
        omega
      rw [pressOne_found found, backspace_concat rfl, select, unselect]
      simp only [List.getLast?_concat, Option.getD_some, Nat.min_eq_left inRange,
        List.insertIdx_eraseIdx_getElem inside, List.dropLast_concat, Option.toList_some]

/-- Typing again what was just taken back changes nothing. -/
theorem Attempt.pressOne_backspace {start : List Char} (attempt : r.Attempt start)
    (coherent : r.Coherent) {rest : List Char} (typed : r.typed = rest ++ [letter]) :
    r.backspace.1.pressOne letter = (r, r.backspace.2) := by
  have returned : letter ∈ r.backspace.1.pool := by
    rw [backspace_concat typed]
    exact (List.mem_insertIdx (Nat.min_le_right _ _)).mpr (.inl rfl)
  have back := backspace_coherent coherent
  have again : (r.backspace.1.pressOne letter).1 = r := by
    refine (attempt.backspace.pressOne letter).eq_of_typed attempt (pressOne_coherent back letter)
      coherent ?_ ?_
    · exact (pressOne_untyped letter _).trans (backspace_untyped r)
    · rw [(pressOne_present returned).1, backspace_typed, typed, List.dropLast_concat]
  -- Taking the letter back once more shows which tile it was.
  obtain ⟨index, pressed, undone⟩ := back.backspace_pressOne returned
  rw [again] at undone
  refine Prod.ext again ?_
  rw [pressed, undone]

end Round

namespace Game

variable {σ : Type} [LevelSource σ]

/-- Some letters were typed, each marking a tile, and as many backspaces clear these
tiles from the last to the first and leave the game as it was. -/
structure Undoes (g : Game σ) (typed : Round) (indices : List Nat) (added : List Char) : Prop where
  coherent : typed.Coherent
  appended : typed.typed = g.round.typed ++ added
  marked : indices.length = added.length
  cleared : (play { g with round := typed } (backspaces added.length)).map (·.reply) =
    indices.reverse.map fun index => .tiles [index]
  restored : after { g with round := typed } (backspaces added.length) = g

theorem Undoes.pressOne {g : Game σ} {r : Round} {indices : List Nat} {added : List Char}
    (undoes : g.Undoes r indices added) (letter : Char) :
    ∃ more, g.Undoes (r.pressOne letter).1 (indices ++ (r.pressOne letter).2) more := by
  by_cases present : letter ∈ r.pool
  · obtain ⟨index, pressed, undone⟩ := undoes.coherent.backspace_pressOne present
    have stepped : step { g with round := (r.pressOne letter).1 } .backspace =
        ⟨{ g with round := r }, .tiles [index], []⟩ := by
      simp only [step, backspace, undone]
    rw [pressed]
    refine ⟨added ++ [letter], Round.pressOne_coherent undoes.coherent letter, ?_, ?_, ?_, ?_⟩
    · rw [(Round.pressOne_present present).1, undoes.appended, List.append_assoc]
    · rw [List.length_append, List.length_append, undoes.marked]
      rfl
    · rw [List.length_append, List.length_singleton, backspaces, List.replicate_succ, play, stepped,
        List.map_cons, List.reverse_append, List.reverse_singleton, List.singleton_append,
        List.map_cons]
      exact congrArg (_ :: ·) undoes.cleared
    · rw [List.length_append, List.length_singleton, backspaces, List.replicate_succ, after,
        List.foldl_cons, stepped]
      exact undoes.restored
  · rw [Round.pressOne_absent present, List.append_nil]
    exact ⟨added, undoes⟩

theorem undoes_typeEach {g : Game σ} (coherent : g.round.Coherent) (letters : List Char) :
    ∃ added, g.Undoes (g.round.typeEach letters).1 (g.round.typeEach letters).2 added := by
  induction letters using List.reverseRecOn with
  | nil => exact ⟨[], coherent, (List.append_nil _).symm, rfl, rfl, rfl⟩
  | append_singleton done letter ih =>
    obtain ⟨added, undoes⟩ := ih
    rw [Round.typeEach_concat]
    exact undoes.pressOne letter

/-- Every letter that a press adds marks one tile. As many backspaces as letters were
added clear these tiles in reverse order, one each, and restore the game. -/
theorem backspaces_undo_press {g : Game σ} (reachable : g.Reachable) (letters : List Char) :
    let pressed := g.press letters
    ∃ added, pressed.game.round.typed = g.round.typed ++ added ∧
      pressed.reply.length = added.length ∧
      (pressed.game.play (backspaces added.length)).map (·.reply) =
        pressed.reply.reverse.map (fun index => .tiles [index]) ∧
      pressed.game.after (backspaces added.length) = g := by
  intro pressed
  obtain ⟨added, undoes⟩ := undoes_typeEach reachable.coherent letters.eraseDups
  rw [← Round.press_eq_typeEach] at undoes
  exact ⟨added, undoes.appended, undoes.marked, undoes.cleared, undoes.restored⟩

/-- A letter that is there twice, one that is not there and one that is there. -/
theorem backspaces_undo_press_midway :
    Sample.midway.Reachable ∧ Sample.midway.round.typed = ['O', 'P'] ∧
      (Sample.midway.press ['O', 'X', 'L', 'O']).reply = [3, 0] ∧
      ((Sample.midway.press ['O', 'X', 'L', 'O']).game.play (backspaces 2)).map (·.reply) =
        [.tiles [0], .tiles [3]] ∧
      (Sample.midway.press ['O', 'X', 'L', 'O']).game.after (backspaces 2) = Sample.midway := by
  have indices : (Sample.midway.press ['O', 'X', 'L', 'O']).reply = [3, 0] := by decide +kernel
  obtain ⟨added, -, marked, cleared, restored⟩ :=
    backspaces_undo_press Sample.midway_reachable ['O', 'X', 'L', 'O']
  rw [indices] at marked cleared
  rw [← marked] at cleared restored
  exact ⟨Sample.midway_reachable, by decide +kernel, indices, cleared, restored⟩

theorem Reachable.attempt {g : Game σ} (reachable : g.Reachable) :
    ∃ start, g.round.Attempt start := by
  induction reachable with
  | create created => exact ⟨_, create_fresh created⟩
  | @step g action _ ih =>
    obtain ⟨start, attempt⟩ := ih
    cases reset : (⟨g, action⟩ : Turn σ).resets with
    | true =>
      obtain ⟨typed, origins⟩ := Turn.resets_fresh reset
      exact ⟨_, Round.attempt_fresh typed origins⟩
    | false => exact ⟨start, Turn.outcome_attempt (t := ⟨g, action⟩) attempt reset⟩

/-- Typing the letter that was taken back restores the game and marks the tile that
was cleared. -/
theorem press_undoes_backspace {g : Game σ} (reachable : g.Reachable) {rest : List Char}
    {letter : Char} (typed : g.round.typed = rest ++ [letter]) :
    (g.backspace.game.press [letter]).game = g ∧
      (g.backspace.game.press [letter]).reply = g.backspace.reply := by
  obtain ⟨start, attempt⟩ := reachable.attempt
  have again := attempt.pressOne_backspace reachable.coherent typed
  simp only [press, backspace, Round.press_singleton, again, and_self]

theorem press_undoes_backspace_midway :
    Sample.midway.Reachable ∧ Sample.midway.round.typed = ['O'] ++ ['P'] ∧
      Sample.midway.backspace.reply = [1] ∧
      (Sample.midway.backspace.game.press ['P']).game = Sample.midway ∧
      (Sample.midway.backspace.game.press ['P']).reply = [1] := by
  have typed : Sample.midway.round.typed = ['O'] ++ ['P'] := by decide +kernel
  have cleared : Sample.midway.backspace.reply = [1] := by decide +kernel
  obtain ⟨restored, marked⟩ := press_undoes_backspace Sample.midway_reachable typed
  exact ⟨Sample.midway_reachable, typed, cleared, restored, marked.trans cleared⟩

end Game

end WordTrack
