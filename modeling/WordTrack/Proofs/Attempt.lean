import WordTrack.Proofs.Conservation

/-! An attempt as a series of draws. Every letter typed was drawn from the pool at
its first place, and that place is its origin. So the pool an attempt began with
and the letters typed of it decide the pool and the origins, as they decide the
marks, and typing leaves no trace of corrections. -/
namespace WordTrack

/-- Letters drawn one by one from a pool, each at its first place. -/
inductive Drawn (start : List Char) : List Char → List Nat → List Char → Prop where
  | none : Drawn start [] [] start
  | next {typed : List Char} {origins : List Nat} {pool : List Char} {letter : Char} {i : Nat} :
      Drawn start typed origins pool → pool.idxOf? letter = some i →
      Drawn start (typed ++ [letter]) (origins ++ [i]) (pool.eraseIdx i)

namespace Drawn

variable {start typed pool : List Char} {origins : List Nat} {letter : Char}

theorem last (drawn : Drawn start (typed ++ [letter]) origins pool) :
    ∃ before rest i, Drawn start typed before rest ∧ rest.idxOf? letter = some i ∧
      origins = before ++ [i] ∧ pool = rest.eraseIdx i := by
  generalize whole : typed ++ [letter] = all at drawn
  cases drawn with
  | none => simp at whole
  | next earlier found =>
    obtain ⟨rfl, same⟩ := List.append_inj' whole rfl
    obtain rfl := List.singleton_inj.mp same
    exact ⟨_, _, _, earlier, found, rfl, rfl⟩

theorem nothing (drawn : Drawn start [] origins pool) : origins = [] ∧ pool = start := by
  generalize whole : ([] : List Char) = all at drawn
  cases drawn with
  | none => exact ⟨rfl, rfl⟩
  | next => simp at whole

theorem pool_eq (drawn : Drawn start typed origins pool) : pool = start.diff typed := by
  induction drawn with
  | none => rfl
  | @next typed origins pool letter i earlier found ih =>
    rw [List.diff_append, ← ih, List.diff_cons, List.diff_nil, List.erase_eq_eraseIdx, found]

theorem origins_unique (drawn : Drawn start typed origins pool) {others : List Nat}
    {other : List Char} (again : Drawn start typed others other) : origins = others := by
  induction drawn generalizing others other with
  | none => exact again.nothing.1.symm
  | @next typed origins pool letter i earlier found ih =>
    obtain ⟨before, rest, j, drawn, place, rfl, -⟩ := again.last
    have same : rest = pool := drawn.pool_eq.trans earlier.pool_eq.symm
    rw [same, found] at place
    rw [ih drawn, Option.some.inj place]

end Drawn

namespace Round

/-- The letters typed were drawn from a pool, and what is left is the pool. -/
def Attempt (r : Round) (start : List Char) : Prop := Drawn start r.typed r.origins r.pool

variable {r : Round} {start : List Char}

theorem attempt_fresh (typed : r.typed = []) (origins : r.origins = []) : r.Attempt r.pool := by
  unfold Attempt
  rw [typed, origins]
  exact .none

theorem Attempt.pressOne (attempt : r.Attempt start) (letter : Char) :
    (r.pressOne letter).1.Attempt start := by
  cases found : r.pool.idxOf? letter with
  | none => rwa [pressOne_absent (List.idxOf?_eq_none_iff.mp found)]
  | some i =>
    rw [pressOne_found found]
    exact attempt.next found

theorem Attempt.press (attempt : r.Attempt start) (letters : List Char) :
    (r.press letters).1.Attempt start :=
  press_invariant (P := (·.Attempt start)) (fun letter held => held.pressOne letter) letters attempt

/-- The origin stored last is there and within the pool, and the pool before the
last draw is what comes back. -/
theorem Attempt.backspace_eq (attempt : r.Attempt start) {rest : List Char} {letter : Char}
    (typed : r.typed = rest ++ [letter]) :
    ∃ pool origins origin, r.origins = origins ++ [origin] ∧ origin ≤ r.pool.length ∧
      Drawn start rest origins pool ∧
      r.backspace.1 = { r with
        pool := pool
        typed := rest
        origins := origins
        tiles := (Tile.unselectLast letter r.tiles).1 } := by
  unfold Attempt at attempt
  rw [typed] at attempt
  obtain ⟨before, pool, i, drawn, found, origins, left⟩ := attempt.last
  obtain ⟨inside, rfl, -⟩ := List.idxOf?_eq_some_iff.mp found
  have bound : i ≤ r.pool.length := by
    rw [left, List.length_eraseIdx_of_lt inside]
    omega
  refine ⟨pool, before, i, origins, bound, drawn, ?_⟩
  have back : r.pool.insertIdx i pool[i] = pool := by
    rw [left, List.insertIdx_eraseIdx_getElem inside]
  simp only [backspace_concat typed, origins, List.getLast?_concat, Option.getD_some,
    Nat.min_eq_left bound, back, List.dropLast_concat]

theorem Attempt.backspace (attempt : r.Attempt start) : r.backspace.1.Attempt start := by
  rcases List.eq_nil_or_concat' r.typed with empty | ⟨rest, letter, typed⟩
  · rwa [backspace_nil empty]
  · obtain ⟨pool, origins, origin, -, -, drawn, back⟩ := attempt.backspace_eq typed
    rw [back]
    exact drawn

/-- A round without what typing changes; the letters shown are kept, unmarked. -/
def untyped (r : Round) : Round :=
  { r with tiles := Tile.row r.word, pool := [], typed := [], origins := [] }

theorem pressOne_untyped (letter : Char) (r : Round) : (r.pressOne letter).1.untyped = r.untyped := by
  cases found : r.pool.idxOf? letter with
  | none => rw [pressOne_absent (List.idxOf?_eq_none_iff.mp found)]
  | some i => simp only [pressOne_found found, untyped, word, Tile.letters_selectFirst]

theorem press_untyped (letters : List Char) (r : Round) : (r.press letters).1.untyped = r.untyped :=
  press_invariant (P := fun s => s.untyped = r.untyped)
    (fun {s} letter same => (pressOne_untyped letter s).trans same) letters rfl

theorem backspace_untyped (r : Round) : r.backspace.1.untyped = r.untyped := by
  rcases List.eq_nil_or_concat' r.typed with empty | ⟨rest, letter, typed⟩
  · rw [backspace_nil empty]
  · simp only [backspace_concat typed, untyped, word, Tile.letters_unselectLast]

theorem word_untyped (r : Round) : r.untyped.word = r.word := by
  simp only [untyped, word, Tile.letters_row]

theorem congr_untyped {α : Type} (read : Round → α) (blind : ∀ r : Round, read r.untyped = read r)
    {r s : Round} (rest : r.untyped = s.untyped) : read r = read s := by
  rw [← blind r, ← blind s, rest]

theorem eq_of_untyped {r s : Round} (rest : r.untyped = s.untyped) (tiles : r.tiles = s.tiles)
    (pool : r.pool = s.pool) (typed : r.typed = s.typed) (origins : r.origins = s.origins) :
    r = s := by
  calc r
    _ = { r.untyped with tiles := r.tiles, pool := r.pool, typed := r.typed, origins := r.origins } :=
      rfl
    _ = { s.untyped with tiles := s.tiles, pool := s.pool, typed := s.typed, origins := s.origins } := by
      rw [rest, tiles, pool, typed, origins]

theorem Attempt.congr {s : Round} (first : r.Attempt start) (second : s.Attempt start)
    (coherent : r.Coherent) (coherent' : s.Coherent) (rest : r.untyped = s.untyped)
    (same : r.typed.Perm s.typed) : r.pool = s.pool ∧ r.tiles = s.tiles := by
  have word : r.word = s.word := congr_untyped Round.word word_untyped rest
  constructor
  · rw [first.pool_eq, second.pool_eq, same.diff_left]
  · rw [coherent.marks, coherent'.marks, word, Tile.marked_congr _ same]

theorem Attempt.eq_of_typed {s : Round} (first : r.Attempt start) (second : s.Attempt start)
    (coherent : r.Coherent) (coherent' : s.Coherent) (rest : r.untyped = s.untyped)
    (same : r.typed = s.typed) : r = s := by
  obtain ⟨pool, tiles⟩ := first.congr second coherent coherent' rest (.of_eq same)
  refine eq_of_untyped rest tiles pool same ?_
  -- The same letters in another order may have other origins: here the order counts.
  unfold Attempt at first
  rw [same] at first
  exact first.origins_unique second

end Round

/-- Whether an action only types or takes back. -/
def Action.isTyping : Action → Bool
  | .press _ | .backspace => true
  | _ => false

namespace Game

variable {σ : Type} [LevelSource σ]

theorem step_attempt {g : Game σ} {action : Action} (typing : action.isTyping = true)
    {start : List Char} (attempt : g.round.Attempt start) :
    (g.step action).game.round.Attempt start := by
  cases action with
  | press letters => exact attempt.press letters
  | backspace => exact attempt.backspace
  | _ => contradiction

theorem step_untyped (g : Game σ) {action : Action} (typing : action.isTyping = true) :
    (g.step action).game.round.untyped = g.round.untyped := by
  cases action with
  | press letters => exact Round.press_untyped letters g.round
  | backspace => exact Round.backspace_untyped g.round
  | _ => contradiction

theorem typing_attempt {g : Game σ} {actions : List Action}
    (typing : ∀ action ∈ actions, action.isTyping = true) {start : List Char}
    (attempt : g.round.Attempt start) : (g.after actions).round.Attempt start := by
  induction actions generalizing g with
  | nil => exact attempt
  | cons action rest ih =>
    have drawn := step_attempt (typing action List.mem_cons_self) attempt
    exact ih (fun a member => typing a (List.mem_cons_of_mem _ member)) drawn

theorem typing_untyped (g : Game σ) {actions : List Action}
    (typing : ∀ action ∈ actions, action.isTyping = true) :
    (g.after actions).round.untyped = g.round.untyped := by
  induction actions generalizing g with
  | nil => rfl
  | cons action rest ih =>
    have later := ih (g.step action).game fun a member => typing a (List.mem_cons_of_mem _ member)
    exact later.trans (g.step_untyped (typing action List.mem_cons_self))

/-- Two ways of typing that begin with nothing typed and end with the same letters
typed end in the same round. If the letters are the same up to their order, the
pool and the tiles are still the same. -/
theorem typing_leaves_no_trace {g : Game σ} (reachable : g.Reachable)
    (nothing : g.round.typed = []) {first second : List Action}
    (typing : ∀ action ∈ first, action.isTyping = true)
    (typing' : ∀ action ∈ second, action.isTyping = true) :
    let a := (g.after first).round
    let b := (g.after second).round
    (a.typed = b.typed → a = b) ∧
      (a.typed.Perm b.typed → a.pool = b.pool ∧ a.tiles = b.tiles) := by
  intro a b
  have unmoved : g.round.origins = [] := by
    apply List.eq_nil_of_length_eq_zero
    rw [reachable.coherent.traced, nothing]
    rfl
  have fresh := Round.attempt_fresh nothing unmoved
  have drawn := typing_attempt typing fresh
  have drawn' := typing_attempt typing' fresh
  have rest : a.untyped = b.untyped := (g.typing_untyped typing).trans (g.typing_untyped typing').symm
  have coherent := (reachable.after first).coherent
  have coherent' := (reachable.after second).coherent
  constructor
  · intro same
    exact drawn.eq_of_typed drawn' coherent coherent' rest same
  · intro same
    exact drawn.congr drawn' coherent coherent' rest same

namespace Sample

/-- An accepted word has shuffled the tiles since the pool was filled. -/
def shuffled : Game LevelCycle := opening.after [.press ['L'], .press ['O'], .submit, .hit]

/-- Two ways of typing the same letters, and the letters typed in another order. -/
def straight : List Action := [.press ['O', 'P'], .press ['L']]

def roundabout : List Action :=
  [.press ['L'], .press ['O', 'O', 'X'], .backspace, .backspace, .backspace, .press ['O'],
    .press ['P'], .press ['O'], .backspace, .press ['L', 'P']]

def reordered : List Action := [.press ['L', 'P', 'O']]

end Sample

theorem typing_leaves_no_trace_shuffled :
    Sample.shuffled.Reachable ∧ Sample.shuffled.round.typed = [] ∧
      Sample.shuffled.round.pool ≠ Sample.shuffled.round.word ∧
      (Sample.shuffled.after Sample.straight).round =
        (Sample.shuffled.after Sample.roundabout).round ∧
      (Sample.shuffled.after Sample.straight).round.origins ≠
        (Sample.shuffled.after Sample.reordered).round.origins ∧
      (Sample.shuffled.after Sample.straight).round.pool =
        (Sample.shuffled.after Sample.reordered).round.pool ∧
      (Sample.shuffled.after Sample.straight).round.tiles =
        (Sample.shuffled.after Sample.reordered).round.tiles := by
  have reachable : Sample.shuffled.Reachable := Sample.opening_reachable.after _
  have nothing : Sample.shuffled.round.typed = [] := by decide +kernel
  have straight : ∀ action ∈ Sample.straight, action.isTyping = true := by decide
  have roundabout : ∀ action ∈ Sample.roundabout, action.isTyping = true := by decide
  have reordered : ∀ action ∈ Sample.reordered, action.isTyping = true := by decide
  obtain ⟨equal, -⟩ := typing_leaves_no_trace reachable nothing straight roundabout
  obtain ⟨-, alike⟩ := typing_leaves_no_trace reachable nothing straight reordered
  refine ⟨reachable, nothing, by decide +kernel, equal (by decide +kernel), by decide +kernel, ?_⟩
  exact alike (by decide +kernel)

end Game

end WordTrack
