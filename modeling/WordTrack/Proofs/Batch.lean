import WordTrack.Proofs.Undo
import Mathlib.Data.Finset.Card

/-! Pressing several letters at once. A press takes each distinct letter once, in the
order in which the letters first occur, and does what as many presses of one letter
would do. Each letter that the pool has marks one more tile, so that the tiles named in
the reply are exactly those that changed. -/
namespace WordTrack

namespace Tile

/-- Between two rows of tiles exactly those at the indices changed, each from free to
marked. -/
structure MarksAt (before after : List Tile) (indices : List Nat) : Prop where
  distinct : indices.Nodup
  marked : ∀ i ∈ indices, ∃ letter, before[i]? = some ⟨letter, false⟩ ∧
    after[i]? = some ⟨letter, true⟩
  kept : ∀ i ∉ indices, after[i]? = before[i]?

theorem MarksAt.refl (tiles : List Tile) : MarksAt tiles tiles [] := by
  constructor
  · exact .nil
  · intro i absurdum
    contradiction
  · intro i _
    rfl

/-- A tile marked first is not free any more, so it is not marked again. -/
theorem MarksAt.trans {first second third : List Tile} {indices more : List Nat}
    (earlier : MarksAt first second indices) (later : MarksAt second third more) :
    MarksAt first third (indices ++ more) := by
  have apart : ∀ i ∈ indices, i ∉ more := by
    intro i before after
    obtain ⟨_, -, taken⟩ := earlier.marked i before
    obtain ⟨_, free, -⟩ := later.marked i after
    rw [taken] at free
    simp at free
  constructor
  · refine List.nodup_append.mpr ⟨earlier.distinct, later.distinct, ?_⟩
    rintro i before _ after rfl
    exact apart i before after
  · intro i member
    rcases List.mem_append.mp member with before | after
    · obtain ⟨letter, free, taken⟩ := earlier.marked i before
      exact ⟨letter, free, (later.kept i (apart i before)).trans taken⟩
    · have untouched : i ∉ indices := fun before => apart i before after
      obtain ⟨letter, free, taken⟩ := later.marked i after
      exact ⟨letter, (earlier.kept i untouched).symm.trans free, taken⟩
  · intro i member
    rw [List.mem_append, not_or] at member
    exact (later.kept i member.2).trans (earlier.kept i member.1)

theorem selectFirst_marksAt (letter : Char) (tiles : List Tile) :
    MarksAt tiles (selectFirst letter tiles).1 (selectFirst letter tiles).2.toList := by
  unfold selectFirst
  split
  · next i found =>
    obtain ⟨inside, free, -⟩ := List.findIdx?_eq_some_iff_getElem.mp found
    have here : tiles[i]? = some ⟨letter, false⟩ := by
      rw [List.getElem?_eq_getElem inside]
      generalize tiles[i] = t at free
      obtain ⟨_, _⟩ := t
      simpa [and_comm] using free
    constructor
    · exact List.nodup_singleton i
    · intro j named
      obtain rfl := List.mem_singleton.mp named
      exact ⟨letter, here, by simp [here]⟩
    · intro j other
      have ne : i ≠ j := fun same => other (List.mem_singleton.mpr same.symm)
      simp [ne]
  · exact .refl tiles

end Tile

namespace Round

theorem pressOne_marksAt (letter : Char) (r : Round) :
    Tile.MarksAt r.tiles (r.pressOne letter).1.tiles (r.pressOne letter).2 := by
  cases found : r.pool.idxOf? letter with
  | none =>
    rw [pressOne_absent (List.idxOf?_eq_none_iff.mp found)]
    exact .refl r.tiles
  | some i =>
    rw [pressOne_found found]
    exact Tile.selectFirst_marksAt letter r.tiles

theorem typeEach_marksAt (letters : List Char) (r : Round) :
    Tile.MarksAt r.tiles (r.typeEach letters).1.tiles (r.typeEach letters).2 := by
  induction letters using List.reverseRecOn with
  | nil => exact .refl r.tiles
  | append_singleton letters letter ih =>
    rw [typeEach_concat]
    exact ih.trans (pressOne_marksAt letter _)

theorem typeEach_coherent {r : Round} (coherent : r.Coherent) (letters : List Char) :
    (r.typeEach letters).1.Coherent := by
  induction letters using List.reverseRecOn with
  | nil => exact coherent
  | append_singleton letters letter ih =>
    rw [typeEach_concat]
    exact pressOne_coherent ih letter

theorem mem_pool_pressOne {letter c : Char} (r : Round) (other : c ≠ letter) :
    c ∈ (r.pressOne letter).1.pool ↔ c ∈ r.pool := by
  by_cases present : letter ∈ r.pool
  · simp [(pressOne_present present).2.mem_iff, other]
  · rw [pressOne_absent present]

/-- Typing other letters leaves the copies of a letter in the pool. -/
theorem mem_pool_typeEach {letters : List Char} {c : Char} (r : Round) (untyped : c ∉ letters) :
    c ∈ (r.typeEach letters).1.pool ↔ c ∈ r.pool := by
  induction letters using List.reverseRecOn with
  | nil => rfl
  | append_singleton letters letter ih =>
    rw [List.mem_append, List.mem_singleton, not_or] at untyped
    rw [typeEach_concat, mem_pool_pressOne _ untyped.2, ih untyped.1]

/-- Each letter of the pool marks one tile, and no other letter does. -/
theorem Coherent.pressOne_length {r : Round} (coherent : r.Coherent) (letter : Char) :
    (r.pressOne letter).2.length = if letter ∈ r.pool then 1 else 0 := by
  split
  · next present =>
    obtain ⟨index, marked, -⟩ := coherent.backspace_pressOne present
    rw [marked]
    rfl
  · next absent => rw [pressOne_absent absent, List.length_nil]

theorem Coherent.typeEach_length {r : Round} (coherent : r.Coherent) {letters : List Char}
    (distinct : letters.Nodup) :
    (r.typeEach letters).2.length = (letters.filter (· ∈ r.pool)).length := by
  induction letters using List.reverseRecOn with
  | nil => rfl
  | append_singleton letters letter ih =>
    obtain ⟨earlier, -, apart⟩ := List.nodup_append.mp distinct
    have new : letter ∉ letters := fun member => apart letter member letter (by simp) rfl
    rw [typeEach_concat, List.length_append, ih earlier,
      (typeEach_coherent coherent letters).pressOne_length, List.filter_append, List.length_append]
    -- The letters typed before it are other ones, so the pool has it if it had it at first.
    simp only [mem_pool_typeEach r new]
    split
    · next present => simp [present]
    · next absent => simp [absent]

end Round

namespace Game

variable {σ : Type} [LevelSource σ]

theorem play_concat (g : Game σ) (actions : List Action) (action : Action) :
    g.play (actions ++ [action]) = g.play actions ++ [(g.after actions).step action] := by
  induction actions generalizing g with
  | nil => rfl
  | cons first rest ih => exact congrArg (_ :: ·) (ih (g.step first).game)

/-- Presses of one letter each type the letters in turn, and their replies join to the
tiles marked. -/
theorem spelling_typeEach (g : Game σ) (letters : List Char) :
    g.after (spelling letters) = { g with round := (g.round.typeEach letters).1 } ∧
      ∃ parts : List (List Nat), (g.play (spelling letters)).map (·.reply) = parts.map .tiles ∧
        (g.round.typeEach letters).2 = parts.flatten := by
  induction letters using List.reverseRecOn with
  | nil => exact ⟨rfl, [], rfl, rfl⟩
  | append_singleton letters letter ih =>
    obtain ⟨game, parts, replies, indices⟩ := ih
    have stepped : (g.after (spelling letters)).step (.press [letter]) =
        ⟨{ g with round := ((g.round.typeEach letters).1.pressOne letter).1 },
          .tiles ((g.round.typeEach letters).1.pressOne letter).2, []⟩ := by
      rw [game]
      simp only [step, press, Round.press_singleton]
    have split : spelling (letters ++ [letter]) = spelling letters ++ [.press [letter]] := by
      simp [spelling]
    rw [split, after_concat, play_concat, stepped, Round.typeEach_concat]
    refine ⟨rfl, parts ++ [((g.round.typeEach letters).1.pressOne letter).2], ?_, ?_⟩
    · simp [replies]
    · simp [indices]

/-- A press of several letters leaves the game that presses of its distinct letters
leave, one by one in the order of their first occurrence, and its reply joins theirs. It
marks as many tiles as there are distinct letters in the pool, and changes no others. -/
theorem press_types_distinct {g : Game σ} (reachable : g.Reachable) (letters : List Char) :
    let distinct := letters.eraseDups
    let pressed := g.press letters
    ((∀ c, c ∈ distinct ↔ c ∈ letters) ∧
      distinct.Pairwise fun a b => letters.idxOf a < letters.idxOf b) ∧
    pressed.game = g.after (spelling distinct) ∧
    (∃ parts : List (List Nat), (g.play (spelling distinct)).map (·.reply) = parts.map .tiles ∧
      pressed.reply = parts.flatten) ∧
    pressed.reply.length = (letters.toFinset ∩ g.round.pool.toFinset).card ∧
    Tile.MarksAt g.round.tiles pressed.game.round.tiles pressed.reply := by
  intro distinct pressed
  have members (c : Char) : c ∈ distinct ↔ c ∈ letters := List.mem_eraseDups
  have separate : distinct.Nodup := eraseDups_nodup letters
  have typed : g.round.press letters = g.round.typeEach distinct := g.round.press_eq_typeEach letters
  obtain ⟨game, singly⟩ := g.spelling_typeEach distinct
  have marks := g.round.typeEach_marksAt distinct
  have count := reachable.coherent.typeEach_length separate
  rw [← typed] at game singly marks count
  refine ⟨⟨members, eraseDups_ordered letters⟩, game.symm, singly, ?_, ?_⟩
  · calc pressed.reply.length
      _ = (distinct.filter (· ∈ g.round.pool)).length := count
      _ = (distinct.filter (· ∈ g.round.pool)).toFinset.card :=
        (List.toFinset_card_of_nodup (separate.filter _)).symm
      _ = (letters.toFinset ∩ g.round.pool.toFinset).card := by
        congr 1
        ext c
        simp [members]
  · exact marks

/-- A letter given twice, one that the pool has not and one whose tile comes first. -/
theorem press_types_distinct_midway :
    Sample.midway.Reachable ∧ ['O', 'X', 'L', 'O'].eraseDups = ['O', 'X', 'L'] ∧
      (Sample.midway.press ['O', 'X', 'L', 'O']).reply = [3, 0] ∧
      (Sample.midway.press ['O', 'X', 'L', 'O']).game =
        Sample.midway.after [.press ['O'], .press ['X'], .press ['L']] ∧
      Tile.MarksAt Sample.midway.round.tiles
        (Sample.midway.press ['O', 'X', 'L', 'O']).game.round.tiles [3, 0] := by
  have distinct : ['O', 'X', 'L', 'O'].eraseDups = ['O', 'X', 'L'] := by decide +kernel
  have indices : (Sample.midway.press ['O', 'X', 'L', 'O']).reply = [3, 0] := by decide +kernel
  obtain ⟨-, game, -, -, marks⟩ :=
    press_types_distinct Sample.midway_reachable ['O', 'X', 'L', 'O']
  rw [distinct] at game
  rw [indices] at marks
  exact ⟨Sample.midway_reachable, distinct, indices, game, marks⟩

end Game

end WordTrack
