import WordTrack.Proofs.Batch

/-! Polling the keys. Whoever answers may remember what was asked, so which letters are
asked about, how often and in which order all count. Each distinct letter of the pool is
asked about once, in the order of first occurrence, and pressing the letters answered
with yes types every one of them. -/
namespace WordTrack

section Answers

variable {τ : Type} {ask : Char → StateM τ Bool} {s s' : τ} {notes : List (Char × Bool)}

/-- Asked about letters in turn, whoever answers from a state gives these answers, each
in the state that the one before left, and ends in the last state. -/
inductive Answers (ask : Char → StateM τ Bool) : τ → List (Char × Bool) → τ → Prop where
  | none (s : τ) : Answers ask s [] s
  | next {s s' s'' : τ} {letter : Char} {yes : Bool} {notes : List (Char × Bool)} :
      (ask letter).run s = (yes, s') → Answers ask s' notes s'' →
      Answers ask s ((letter, yes) :: notes) s''

/-- The letters answered with yes. -/
def affirmed (notes : List (Char × Bool)) : List Char := (notes.filter (·.2)).map (·.1)

/-- Asks and notes the question with its answer. -/
def noting (ask : Char → StateM τ Bool) (letter : Char) : StateM (τ × List (Char × Bool)) Bool :=
  fun (s, notes) =>
    let (yes, s) := (ask letter).run s
    (yes, (s, notes ++ [(letter, yes)]))

/-- There are answers to any letters. -/
theorem exists_answers (ask : Char → StateM τ Bool) (s : τ) (letters : List Char) :
    ∃ notes s', notes.map (·.1) = letters ∧ Answers ask s notes s' := by
  induction letters generalizing s with
  | nil => exact ⟨[], s, rfl, .none s⟩
  | cons letter rest ih =>
    obtain ⟨notes, s', asked, answers⟩ := ih ((ask letter).run s).2
    exact ⟨(letter, ((ask letter).run s).1) :: notes, s', congrArg (letter :: ·) asked,
      .next rfl answers⟩

/-- Whoever is asked does not see that notes are taken. -/
theorem Answers.noting (answers : Answers ask s notes s') (done : List (Char × Bool)) :
    Answers (noting ask) (s, done) notes (s', done ++ notes) := by
  induction answers generalizing done with
  | none s =>
    rw [List.append_nil]
    exact .none _
  | @next s₁ s₂ _ letter yes notes answered _ ih =>
    have noted : (WordTrack.noting ask letter).run (s₁, done) =
        (yes, (s₂, done ++ [(letter, yes)])) := by
      change (((ask letter).run s₁).1, (((ask letter).run s₁).2,
        done ++ [(letter, ((ask letter).run s₁).1)])) = _
      rw [answered]
    have later := ih (done ++ [(letter, yes)])
    rw [List.append_assoc, List.singleton_append] at later
    exact .next noted later

theorem Answers.filterAuxM (answers : Answers ask s notes s') (kept : List Char) :
    (List.filterAuxM ask (notes.map (·.1)) kept).run s = ((affirmed notes).reverse ++ kept, s') := by
  induction answers generalizing kept with
  | none s => rfl
  | @next s₁ s₂ s₃ letter yes notes answered _ ih =>
    have stepped : (List.filterAuxM ask (letter :: notes.map (·.1)) kept).run s₁ =
        (List.filterAuxM ask (notes.map (·.1))
          (bif ((ask letter).run s₁).1 then letter :: kept else kept)).run
            ((ask letter).run s₁).2 := rfl
    rw [List.map_cons, stepped, answered]
    dsimp only
    rw [ih]
    cases yes <;> simp [affirmed]

/-- Asking about the letters of some notes keeps those that the notes affirm. -/
theorem Answers.filterM (answers : Answers ask s notes s') :
    ((notes.map (·.1)).filterM ask).run s = (affirmed notes, s') := by
  have stepped : ((notes.map (·.1)).filterM ask).run s =
      (((List.filterAuxM ask (notes.map (·.1)) []).run s).1.reverse,
        ((List.filterAuxM ask (notes.map (·.1)) []).run s).2) := rfl
  rw [stepped, answers.filterAuxM, List.append_nil, List.reverse_reverse]

end Answers

theorem eraseDups_eq_self {letters : List Char} (distinct : letters.Nodup) :
    letters.eraseDups = letters := by
  induction letters using List.reverseRecOn with
  | nil => rfl
  | append_singleton letters letter ih =>
    obtain ⟨earlier, -, apart⟩ := List.nodup_append.mp distinct
    have new : letter ∉ letters := fun member => apart letter member letter (by simp) rfl
    rw [eraseDups_concat, if_neg new, ih earlier]

/-- The tile that a letter marks shows the letter. -/
theorem Tile.letter_selectFirst {letter : Char} {tiles : List Tile} {i : Nat}
    (found : (selectFirst letter tiles).2 = some i) : (letters tiles)[i]? = some letter := by
  induction tiles generalizing i with
  | nil => contradiction
  | cons t rest ih =>
    rw [selectFirst_cons] at found
    split at found
    · next free =>
      obtain rfl := Option.some.inj found
      have same : t.letter = letter := by simpa using (Bool.and_eq_true_iff.mp free).2
      exact congrArg some same
    · obtain ⟨j, later, rfl⟩ := Option.map_eq_some_iff.mp found
      exact ih later

namespace Round

variable {r : Round} {letter : Char} {letters : List Char}

theorem pressOne_word (letter : Char) (r : Round) : (r.pressOne letter).1.word = r.word :=
  congr_untyped word word_untyped (pressOne_untyped letter r)

theorem typeEach_word (letters : List Char) (r : Round) : (r.typeEach letters).1.word = r.word := by
  induction letters using List.reverseRecOn with
  | nil => rfl
  | append_singleton letters letter ih => rw [typeEach_concat, pressOne_word, ih]

/-- A letter of the pool is told by a tile that shows it. -/
theorem Coherent.pressOne_shows (coherent : r.Coherent) (present : letter ∈ r.pool) :
    (r.pressOne letter).2.map (r.word[·]?) = [some letter] := by
  obtain ⟨index, marked, -⟩ := coherent.backspace_pressOne present
  have shown : r.word[index]? = some letter := by
    cases found : r.pool.idxOf? letter with
    | none => exact absurd present (List.idxOf?_eq_none_iff.mp found)
    | some i =>
      rw [pressOne_found found] at marked
      exact Tile.letter_selectFirst (Option.toList_eq_singleton_iff.mp marked)
  rw [marked, List.map_singleton, shown]

/-- Distinct letters of the pool are all typed, and tiles that show them are told in the
same order. -/
theorem Coherent.typeEach_all (coherent : r.Coherent) (distinct : letters.Nodup)
    (present : ∀ c ∈ letters, c ∈ r.pool) :
    (r.typeEach letters).1.typed = r.typed ++ letters ∧
      (r.typeEach letters).2.map (r.word[·]?) = letters.map some := by
  induction letters using List.reverseRecOn with
  | nil => exact ⟨(List.append_nil _).symm, rfl⟩
  | append_singleton letters letter ih =>
    obtain ⟨earlier, -, apart⟩ := List.nodup_append.mp distinct
    have new : letter ∉ letters := fun member => apart letter member letter (by simp) rfl
    obtain ⟨typed, shown⟩ := ih earlier fun c member => present c (by simp [member])
    -- The letters typed before it are other ones, so the pool still has it.
    have still : letter ∈ (r.typeEach letters).1.pool :=
      (mem_pool_typeEach r new).mpr (present letter (by simp))
    have last := (typeEach_coherent coherent letters).pressOne_shows still
    rw [typeEach_word] at last
    rw [typeEach_concat]
    constructor
    · rw [(pressOne_present still).1, typed, List.append_assoc]
    · rw [List.map_append, List.map_append, shown, last]
      rfl

end Round

namespace Game

variable {σ : Type} [LevelSource σ]

/-- Each distinct letter of the pool is asked about once, in the order of first
occurrence, and no other letter is. The letters answered with yes are given in that
order, and a press of them types them all and tells one tile for each. -/
theorem polled_letters_typed {g : Game σ} (reachable : g.Reachable) {τ : Type}
    (ask : Char → StateM τ Bool) (s : τ) :
    ∃ (notes : List (Char × Bool)) (left : τ),
      let asked := notes.map (·.1)
      let letters := affirmed notes
      let pressed := g.press letters
      ((∀ c, c ∈ asked ↔ c ∈ g.round.pool) ∧
        asked.Pairwise fun a b => g.round.pool.idxOf a < g.round.pool.idxOf b) ∧
      Answers ask s notes left ∧
      (g.round.poll (noting ask)).run (s, []) = (letters, (left, notes)) ∧
      (g.round.poll ask).run s = (letters, left) ∧
      pressed.game.round.typed = g.round.typed ++ letters ∧
      pressed.reply.length = letters.length ∧
      pressed.reply.map (g.round.word[·]?) = letters.map some := by
  obtain ⟨notes, left, asked, answers⟩ := exists_answers ask s g.round.pool.eraseDups
  have noted := (answers.noting []).filterM
  have polled := answers.filterM
  rw [asked, ← Round.poll_eq_filterM] at noted polled
  have fewer : (affirmed notes).Sublist g.round.pool.eraseDups := by
    rw [← asked]
    exact List.filter_sublist.map _
  have distinct : (affirmed notes).Nodup := fewer.nodup (eraseDups_nodup _)
  have present : ∀ c ∈ affirmed notes, c ∈ g.round.pool :=
    fun c member => List.mem_eraseDups.mp (fewer.subset member)
  obtain ⟨typed, shown⟩ := reachable.coherent.typeEach_all distinct present
  rw [← eraseDups_eq_self distinct, ← Round.press_eq_typeEach, eraseDups_eq_self distinct]
    at typed shown
  refine ⟨notes, left, ⟨?_, ?_⟩, answers, noted, polled, typed, ?_, shown⟩
  · intro c
    rw [asked, List.mem_eraseDups]
  · rw [asked]
    exact eraseDups_ordered g.round.pool
  · have lengths := congrArg List.length shown
    rwa [List.length_map, List.length_map] at lengths

namespace Sample

/-- Keys that are down, each told once however often it is asked about. -/
def edge (letter : Char) : StateM (List Char) Bool :=
  fun down => (down.contains letter, down.erase letter)

end Sample

/-- A letter that is there twice is asked about once, and the key of a letter that is
not there stays down. -/
theorem polled_letters_typed_edge :
    Sample.opening.Reachable ∧ Sample.opening.round.pool = ['O', 'O', 'L', 'P'] ∧
      (Sample.opening.round.poll (noting Sample.edge)).run (['P', 'X', 'O'], []) =
        (['O', 'P'], (['X'], [('O', true), ('L', false), ('P', true)])) ∧
      (Sample.opening.round.poll Sample.edge).run ['P', 'X', 'O'] = (['O', 'P'], ['X']) ∧
      (Sample.opening.press ['O', 'P']).game.round.typed = ['O', 'P'] ∧
      (Sample.opening.press ['O', 'P']).reply.length = 2 := by
  have run : Id.run ((Sample.opening.round.poll (noting Sample.edge)).run (['P', 'X', 'O'], [])) =
      (['O', 'P'], (['X'], [('O', true), ('L', false), ('P', true)])) := by decide +kernel
  have nothing : Sample.opening.round.typed = [] := by decide +kernel
  obtain ⟨notes, left, -, -, noted, polled, typed, told, -⟩ :=
    polled_letters_typed Sample.opening_reachable Sample.edge ['P', 'X', 'O']
  obtain ⟨letters, rest⟩ := Prod.mk.inj (noted.symm.trans run)
  obtain ⟨rfl, rfl⟩ := Prod.mk.inj rest
  rw [letters] at polled typed told
  rw [nothing] at typed
  exact ⟨Sample.opening_reachable, by decide +kernel, run, polled, typed, told⟩

end Game

end WordTrack
