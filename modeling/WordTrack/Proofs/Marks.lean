import WordTrack.Round.Tile
import Mathlib.Data.List.Perm.Basic

/-! Which tiles are marked. Typing marks the first free tile of a letter and
taking a letter back clears the last marked one, so the marks are packed to the
left letter by letter, and what is typed decides them whatever its order. -/
namespace WordTrack.Tile

/-- The tiles of a word of which some letters are typed: each typed letter
marks the first tile of it that is left. -/
def marked : (word typed : List Char) → List Tile
  | [], _ => []
  | c :: rest, typed => ⟨c, decide (c ∈ typed)⟩ :: marked rest (typed.erase c)

theorem letters_marked (word typed : List Char) : letters (marked word typed) = word := by
  induction word generalizing typed with
  | nil => rfl
  | cons c rest ih => exact congrArg (c :: ·) (ih (typed.erase c))

theorem marked_nil (word : List Char) : marked word [] = row word := by
  induction word with
  | nil => rfl
  | cons c rest ih => exact congrArg (fresh c :: ·) ih

theorem letters_row (word : List Char) : letters (row word) = word := by
  rw [← marked_nil, letters_marked]

theorem marked_congr (word : List Char) {typed other : List Char} (same : typed.Perm other) :
    marked word typed = marked word other := by
  induction word generalizing typed other with
  | nil => rfl
  | cons c rest ih => simp only [marked, same.mem_iff, ih (same.erase c)]

/-- A tile is marked exactly if fewer tiles before it hold its letter than the
letter was typed. -/
theorem marked_selected_iff {word typed : List Char} {i : Nat} {t : Tile}
    (here : (marked word typed)[i]? = some t) :
    t.selected = true ↔ (word.take i).count t.letter < typed.count t.letter := by
  induction word generalizing typed i with
  | nil => simp [marked] at here
  | cons c rest ih =>
    cases i with
    | zero =>
      obtain rfl : ⟨c, decide (c ∈ typed)⟩ = t := by simpa [marked] using here
      simp
    | succ i =>
      have below := ih (by simpa [marked] using here)
      by_cases same : c = t.letter
      · subst same
        simp only [below, List.take_succ_cons, List.count_cons_self, List.count_erase_self]
        omega
      · simp only [below, List.take_succ_cons, List.count_cons_of_ne same,
          List.count_erase_of_ne (Ne.symm same)]

theorem selectFirst_cons (letter : Char) (t : Tile) (tiles : List Tile) :
    selectFirst letter (t :: tiles) =
      if !t.selected && t.letter == letter then (⟨t.letter, true⟩ :: tiles, some 0)
      else (t :: (selectFirst letter tiles).1, (selectFirst letter tiles).2.map (· + 1)) := by
  simp only [selectFirst, List.findIdx?_cons]
  by_cases free : (!t.selected && t.letter == letter) = true
  · simp [free]
  · simp only [if_neg free]
    cases tiles.findIdx? fun t => !t.selected && t.letter == letter <;> rfl

theorem lastIdx?_cons (p : Tile → Bool) (t : Tile) (tiles : List Tile) :
    lastIdx? p (t :: tiles) =
      match lastIdx? p tiles with
      | some i => some (i + 1)
      | none => if p t then some 0 else none := by
  simp only [lastIdx?, List.reverse_cons, List.findIdx?_append]
  cases found : tiles.reverse.findIdx? p with
  | none => by_cases holds : p t <;> simp [holds]
  | some i =>
    obtain ⟨inside, -⟩ := List.findIdx?_eq_some_iff_getElem.mp found
    simp only [List.length_reverse] at inside
    simp only [Option.map_some, Option.some_or, List.length_cons, Option.some.injEq]
    omega

theorem unselectLast_cons (letter : Char) (t : Tile) (tiles : List Tile) :
    unselectLast letter (t :: tiles) =
      match (unselectLast letter tiles).2 with
      | some i => (t :: (unselectLast letter tiles).1, some (i + 1))
      | none =>
        if t.selected && t.letter == letter then (⟨t.letter, false⟩ :: tiles, some 0)
        else (t :: tiles, none) := by
  simp only [unselectLast, lastIdx?_cons]
  cases lastIdx? (fun t => t.selected && t.letter == letter) tiles with
  | some i => rfl
  | none => by_cases holds : (t.selected && t.letter == letter) = true <;> simp [holds]

theorem letters_selectFirst (letter : Char) (tiles : List Tile) :
    letters (selectFirst letter tiles).1 = letters tiles := by
  induction tiles with
  | nil => rfl
  | cons t rest ih =>
    rw [selectFirst_cons]
    split
    · rfl
    · exact congrArg (t.letter :: ·) ih

theorem letters_unselectLast (letter : Char) (tiles : List Tile) :
    letters (unselectLast letter tiles).1 = letters tiles := by
  induction tiles with
  | nil => rfl
  | cons t rest ih =>
    rw [unselectLast_cons]
    split
    · exact congrArg (t.letter :: ·) ih
    · split <;> rfl

/-- Marking one more tile is typing one more letter. Where no tile of the letter
is left, both change nothing. -/
theorem selectFirst_marked (letter : Char) (word typed : List Char) :
    (selectFirst letter (marked word typed)).1 = marked word (letter :: typed) := by
  induction word generalizing typed with
  | nil => rfl
  | cons c rest ih =>
    simp only [marked, selectFirst_cons]
    by_cases same : c = letter
    · subst same
      by_cases taken : c ∈ typed
      -- The new letter goes to a later tile, as if this tile had its own letter erased first.
      · have put := marked_congr rest (List.perm_cons_erase taken)
        simp [taken, ih, put]
      · simp [taken, List.erase_of_not_mem taken]
    · simp [same, ih, List.erase_cons_tail (a := c) (b := letter) (by simpa using Ne.symm same)]

theorem selectAll_marked (letters word typed : List Char) :
    selectAll letters (marked word typed) = marked word (letters ++ typed) := by
  induction letters generalizing typed with
  | nil => rfl
  | cons c rest ih =>
    calc selectAll (c :: rest) (marked word typed)
      _ = selectAll rest (marked word (c :: typed)) := by rw [← selectFirst_marked]; rfl
      _ = marked word (rest ++ c :: typed) := ih (c :: typed)
      _ = marked word (c :: rest ++ typed) := marked_congr word List.perm_middle

/-- Marking the letters typed on a fresh row. -/
theorem selectAll_row (word typed : List Char) : selectAll typed (row word) = marked word typed := by
  rw [← marked_nil, selectAll_marked, List.append_nil]

theorem unselectLast_absent {letter : Char} (word : List Char) {typed : List Char}
    (absent : letter ∉ typed) : (unselectLast letter (marked word typed)).2 = none := by
  induction word generalizing typed with
  | nil => rfl
  | cons c rest ih =>
    have still : letter ∉ typed.erase c := fun member => absent (List.mem_of_mem_erase member)
    have later := ih still
    simp only [marked, unselectLast_cons, later]
    by_cases same : c = letter
    · subst same
      simp [absent]
    · simp [same]

/-- While a letter has a free tile, typing it and taking it back change one and
the same tile. -/
theorem select_unselect {letter : Char} {word typed : List Char}
    (room : typed.count letter < word.count letter) :
    ∃ i, selectFirst letter (marked word typed) = (marked word (letter :: typed), some i) ∧
      unselectLast letter (marked word (letter :: typed)) = (marked word typed, some i) := by
  induction word generalizing typed with
  | nil => simp at room
  | cons c rest ih =>
    by_cases same : c = letter
    · subst same
      by_cases taken : c ∈ typed
      · have put := marked_congr rest (List.perm_cons_erase taken)
        have present := List.count_pos_iff.mpr taken
        have below : (typed.erase c).count c < rest.count c := by
          rw [List.count_cons_self] at room
          rw [List.count_erase_self]
          omega
        obtain ⟨i, select, unselect⟩ := ih below
        refine ⟨i + 1, ?_, ?_⟩
        · simp [marked, selectFirst_cons, taken, select, put]
        · simp [marked, unselectLast_cons, taken, put, unselect]
      -- This tile is the first free one, and no later tile of the letter is marked.
      · refine ⟨0, ?_, ?_⟩
        · simp [marked, selectFirst_cons, taken, List.erase_of_not_mem taken]
        · simp [marked, unselectLast_cons, taken, unselectLast_absent rest taken,
            List.erase_of_not_mem taken]
    · have other : (letter :: typed).erase c = letter :: typed.erase c :=
        List.erase_cons_tail (by simpa using Ne.symm same)
      have below : (typed.erase c).count letter < rest.count letter := by
        rw [List.count_cons_of_ne same] at room
        rwa [List.count_erase_of_ne (Ne.symm same)]
      obtain ⟨i, select, unselect⟩ := ih below
      refine ⟨i + 1, ?_, ?_⟩
      · simp [marked, selectFirst_cons, same, select, other]
      · simp [marked, unselectLast_cons, other, unselect, same]

end WordTrack.Tile
