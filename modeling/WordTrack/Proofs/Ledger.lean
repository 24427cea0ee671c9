import WordTrack.Proofs.History
import WordTrack.Proofs.Moves
import Mathlib.Algebra.GroupWithZero.Nat
import Mathlib.Data.List.Infix

/-! Keeping score. The words accepted in a round, the points and the score are
what the history of the run says: each turn enters its word once, a new round
forgets the words and a jump forgets the score. -/
namespace WordTrack

/-- The part of a round that keeps score. -/
structure Book where
  accepted : WordSet
  points : UInt32
  score : UInt32

def Round.book (r : Round) : Book := ⟨r.accepted, r.points, r.score⟩

def Book.credit (b : Book) (word : String) : Book :=
  ⟨b.accepted.insert word, UInt32.ofNat word.length, b.score + UInt32.ofNat word.length⟩

def Book.forfeit (b : Book) : Book := { b with score := 0 }

def Book.newRound (b : Book) : Book := { b with accepted := ∅ }

/-- What a turn enters in the book. -/
def Turn.enter {σ : Type} [LevelSource σ] (t : Turn σ) (b : Book) : Book :=
  let b := match t.credited with
    | some word => b.credit word
    | none => b
  let b := bif t.isJump then b.forfeit else b
  bif t.startsRound then b.newRound else b

namespace Round

theorem pressOne_book (letter : Char) (r : Round) : (r.pressOne letter).1.book = r.book := by
  unfold pressOne
  split <;> rfl

theorem press_book (letters : List Char) (r : Round) : (r.press letters).1.book = r.book :=
  press_invariant (P := fun s => s.book = r.book)
    (fun {s} letter same => (pressOne_book letter s).trans same) letters rfl

theorem backspace_book (r : Round) : r.backspace.1.book = r.book := by
  unfold backspace
  split <;> rfl

theorem settle_book (r : Round) (floor scale : Binary32) : (r.settle floor scale).book = r.book := by
  rw [settle_eq]
  rfl

end Round

namespace Game

variable {σ : Type}

theorem credit_book (g : Game σ) (word : String) :
    (g.credit word).game.round.book = g.round.book.credit word := by
  simp only [credit, settle, Round.settle_book, Round.credit_eq]
  rfl

theorem hit_book (g : Game σ) : g.hit.game.round.book = g.round.book := by
  cases shoves : g.round.mayShove with
  | false => rw [hit_idle shoves]
  | true =>
    rw [hit_shoves shoves]
    exact Round.settle_book _ g.floor g.scale

variable [LevelSource σ]

theorem start_book {level : Level} (g : Game σ) (playable : level.Playable) :
    (g.start level).game.round.book = g.round.book.newRound := by
  rw [start_playable g playable]
  exact Round.settle_book _ _ _

theorem jump_book {g : Game σ} {steps : Int} (playable : (g.levelAt steps).Playable) :
    (g.jump steps).game.round.book = g.round.book.forfeit.newRound := by
  rw [jump_playable playable]
  exact start_book (g.advance steps).forfeit playable

theorem solve_book (g : Game σ) :
    g.solve.game.round.book =
      bif (g.levelAt 1).Playable then g.round.book.newRound else g.round.book := by
  rw [solve_eq]
  by_cases playable : (g.levelAt 1).Playable
  · rw [startNext_playable (g := g.noteSolved) playable, decide_eq_true playable]
    exact start_book (g.noteSolved.advance 1) playable
  · rw [startNext_refused (g := g.noteSolved) playable, decide_eq_false playable]
    rfl

end Game

namespace Turn

variable {σ : Type} [LevelSource σ]

theorem submit_enter (g : Game σ) :
    g.submit.game.round.book = (⟨g, .submit⟩ : Turn σ).enter g.round.book := by
  have judged := g.judge_judgement
  have credited := g.throwTyped.credit_book g.round.candidate
  simp only [enter, Turn.credited, startsRound, outcome, Game.step, Game.submit]
  change g.judge.game.round.book = _
  generalize g.judge = o at judged ⊢
  cases judged with
  | empty | unknown => rfl
  | repeated =>
    dsimp only
    split
    · rw [Round.hintRepeated_eq]
      rfl
    · rfl
  | accepted => exact credited
  | complete =>
    rw [Game.solve_book, credited]
    rfl

/-- One turn changes the book by its entry. -/
theorem outcome_book (t : Turn σ) : t.outcome.game.round.book = t.enter t.before.round.book := by
  obtain ⟨g, action⟩ := t
  cases action with
  | tick seconds => exact Round.settle_book _ _ _
  | tickTo clock => exact Round.settle_book _ _ _
  | fitScreen | poll | listen | unlisten => rfl
  | press letters => exact Round.press_book letters g.round
  | backspace => exact Round.backspace_book g.round
  | submit => exact submit_enter g
  | hit => exact Game.hit_book g
  | start level =>
    rw [enter, startsRound_start]
    by_cases playable : level.Playable
    · rw [decide_eq_true playable]
      exact g.start_book playable
    · rw [decide_eq_false playable, outcome, Game.step, g.start_refused playable]
      rfl
  | jump steps =>
    rw [enter, startsRound_jump]
    by_cases playable : (g.levelAt steps).Playable
    · rw [decide_eq_true playable]
      exact Game.jump_book playable
    · rw [decide_eq_false playable, outcome, Game.step, Game.jump_refused playable]
      rfl

theorem mem_accepted_outcome (t : Turn σ) (word : String) :
    word ∈ t.outcome.game.round.accepted ↔
      t.startsRound = false ∧ (t.credited = some word ∨ word ∈ t.before.round.accepted) := by
  have entered : t.outcome.game.round.accepted = (t.enter t.before.round.book).accepted :=
    congrArg Book.accepted t.outcome_book
  have absent : word ∉ (∅ : WordSet) := List.not_mem_nil
  rw [entered, enter]
  cases t.startsRound with
  | true => simpa [Book.newRound] using absent
  | false =>
    cases t.credited with
    | none => cases t.isJump <;> simp [Book.forfeit, Round.book]
    | some scored =>
      cases t.isJump <;> simp [Book.forfeit, Book.credit, Round.book, WordSet.mem_insert, eq_comm]

theorem points_outcome (t : Turn σ) :
    t.outcome.game.round.points =
      t.credited.elim t.before.round.points fun word => UInt32.ofNat word.length := by
  have entered : t.outcome.game.round.points = (t.enter t.before.round.book).points :=
    congrArg Book.points t.outcome_book
  rw [entered, enter]
  cases t.credited <;> cases t.isJump <;> cases t.startsRound <;> rfl

theorem score_outcome (t : Turn σ) :
    t.outcome.game.round.score =
      bif t.isJump then 0
      else t.before.round.score + UInt32.ofNat (t.credited.elim 0 String.length) := by
  have entered : t.outcome.game.round.score = (t.enter t.before.round.book).score :=
    congrArg Book.score t.outcome_book
  rw [entered, enter]
  cases t.isJump with
  | true => cases t.startsRound <;> rfl
  | false =>
    cases t.credited with
    | none => cases t.startsRound <;> exact (UInt32.add_zero _).symm
    | some word => cases t.startsRound <;> rfl

/-- Letters of the words scored since the last jump. -/
def total (turns : List (Turn σ)) : Nat :=
  (((turns.rtakeWhile (!·.isJump)).filterMap credited).map String.length).sum

/-- Letters of the word scored last. -/
def latest (turns : List (Turn σ)) : Nat := (turns.filterMap credited).getLast?.elim 0 String.length

theorem credited_jump {t : Turn σ} (jump : t.isJump = true) : t.credited = none := by
  obtain ⟨g, action⟩ := t
  cases action with
  | jump steps => rfl
  | _ => contradiction

theorem total_concat (turns : List (Turn σ)) (t : Turn σ) :
    total (turns ++ [t]) =
      bif t.isJump then 0 else total turns + t.credited.elim 0 String.length := by
  unfold total
  rw [List.rtakeWhile_concat]
  cases t.isJump with
  | true => rfl
  | false => cases scored : t.credited <;> simp [scored]

theorem latest_concat (turns : List (Turn σ)) (t : Turn σ) :
    latest (turns ++ [t]) = t.credited.elim (latest turns) String.length := by
  unfold latest
  cases scored : t.credited <;> simp [scored]

end Turn

namespace Game

variable {σ : Type} [LevelSource σ]

theorem create_book {tuning : Tuning} {levels : σ} {lexicon : String → Bool} {seed : UInt64}
    {g : Game σ} {told : List Event}
    (created : create tuning levels lexicon seed = .ok (g, told)) : g.round.book = ⟨∅, 0, 0⟩ := by
  obtain ⟨-, playable, rfl, -⟩ := create_eq_ok_iff.mp created
  exact start_book _ playable

/-- The words accepted in a round are those scored since it started. -/
theorem mem_accepted_after {g : Game σ} (fresh : g.round.accepted = ∅) (actions : List Action)
    (word : String) :
    word ∈ (g.after actions).round.accepted ↔
      ∃ t ∈ (g.turns actions).rtakeWhile (!·.startsRound), t.credited = some word := by
  induction actions using List.reverseRecOn with
  | nil =>
    have absent : word ∉ (∅ : WordSet) := List.not_mem_nil
    simpa [after, turns, fresh] using absent
  | append_singleton done action ih =>
    have entered := Turn.mem_accepted_outcome ⟨g.after done, action⟩ word
    rw [after_concat, turns_concat, List.rtakeWhile_concat]
    refine entered.trans ?_
    cases starts : (⟨g.after done, action⟩ : Turn σ).startsRound with
    | true => simp
    | false => simp [ih, or_comm, or_and_right, exists_or]

theorem score_after {g : Game σ} (fresh : g.round.score = 0) (actions : List Action) :
    (g.after actions).round.score = UInt32.ofNat (Turn.total (g.turns actions)) := by
  induction actions using List.reverseRecOn with
  | nil => exact fresh
  | append_singleton done action ih =>
    have entered := Turn.score_outcome ⟨g.after done, action⟩
    rw [after_concat, turns_concat, Turn.total_concat]
    refine entered.trans ?_
    cases (⟨g.after done, action⟩ : Turn σ).isJump with
    | true => rfl
    | false => simp only [cond_false, ih, UInt32.ofNat_add]

theorem points_after {g : Game σ} (fresh : g.round.points = 0) (actions : List Action) :
    (g.after actions).round.points = UInt32.ofNat (Turn.latest (g.turns actions)) := by
  induction actions using List.reverseRecOn with
  | nil => exact fresh
  | append_singleton done action ih =>
    have entered := Turn.points_outcome ⟨g.after done, action⟩
    rw [after_concat, turns_concat, Turn.latest_concat]
    refine entered.trans ?_
    cases (⟨g.after done, action⟩ : Turn σ).credited with
    | none => exact ih
    | some word => rfl

/-- A word was part of the total when it was scored, also if a jump came later. -/
theorem latest_lt {g : Game σ} {actions : List Action} {limit : Nat}
    (bounded : ∀ done, done <+: actions → Turn.total (g.turns done) < limit) :
    Turn.latest (g.turns actions) < limit := by
  induction actions using List.reverseRecOn with
  | nil => exact bounded [] (List.nil_prefix)
  | append_singleton done action ih =>
    have now := bounded _ (List.prefix_refl _)
    have before := ih fun earlier begins => bounded earlier (begins.trans (List.prefix_append _ _))
    rw [turns_concat, Turn.total_concat] at now
    rw [turns_concat, Turn.latest_concat]
    cases scored : (⟨g.after done, action⟩ : Turn σ).credited with
    | none => exact before
    | some word =>
      -- A jump would take the word out of the total at once, but a jump scores nothing.
      cases jump : (⟨g.after done, action⟩ : Turn σ).isJump with
      | true =>
        rw [Turn.credited_jump jump] at scored
        contradiction
      | false =>
        simp only [jump, scored, cond_false, Option.elim_some] at now ⊢
        omega

/-- Between two turns that score the same word a round starts. -/
theorem start_between {g : Game σ} (fresh : g.round.accepted = ∅) {actions : List Action}
    {earlier between later : List (Turn σ)} {t u : Turn σ} {word : String}
    (split : g.turns actions = earlier ++ t :: between ++ u :: later)
    (first : t.credited = some word) (second : u.credited = some word) :
    ∃ s ∈ t :: between, s.startsRound = true := by
  by_contra absent
  have none : ∀ s ∈ (t :: between).reverse, (!s.startsRound) = true := by
    intro s member
    rw [Bool.not_eq_true']
    refine Bool.eq_false_iff.mpr fun starts => absent ⟨s, ?_, starts⟩
    exact List.mem_reverse.mp member
  -- With no start in between, the word is still in the set when it is scored again.
  obtain ⟨done, turns, before⟩ := turns_split split
  apply (Turn.scores_of_credited second).unused
  rw [← before, mem_accepted_after fresh, turns, List.rtakeWhile, List.reverse_append,
    List.takeWhile_append_of_pos none]
  exact ⟨t, by simp, first⟩

/-- The history of a run gives the words accepted in the round, the score and the
points. No word scores twice in a round, and the amounts are exact as long as the
total fits 32 bits. -/
theorem scoring_ledger {tuning : Tuning} {levels : σ} {lexicon : String → Bool} {seed : UInt64}
    {g : Game σ} {told : List Event}
    (created : create tuning levels lexicon seed = .ok (g, told)) (actions : List Action) :
    (∀ word, word ∈ (g.after actions).round.accepted ↔
      ∃ t ∈ (g.turns actions).rtakeWhile (!·.startsRound), t.credited = some word) ∧
    (∀ earlier between later t u word, g.turns actions = earlier ++ t :: between ++ u :: later →
      t.credited = some word → u.credited = some word →
      ∃ s ∈ t :: between, s.startsRound = true) ∧
    ((∀ done, done <+: actions → Turn.total (g.turns done) < 2 ^ 32) →
      (g.after actions).score.toNat = Turn.total (g.turns actions) ∧
      (g.after actions).round.points.toNat = Turn.latest (g.turns actions)) := by
  have book := create_book created
  have accepted : g.round.accepted = ∅ := congrArg Book.accepted book
  have points : g.round.points = 0 := congrArg Book.points book
  have score : g.round.score = 0 := congrArg Book.score book
  refine ⟨mem_accepted_after accepted actions, ?_, ?_⟩
  · intro earlier between later t u word split first second
    exact start_between accepted split first second
  · intro bounded
    constructor
    · rw [Game.score, score_after score]
      exact UInt32.toNat_ofNat_of_lt (bounded actions (List.prefix_refl _))
    · rw [points_after points]
      exact UInt32.toNat_ofNat_of_lt (latest_lt bounded)

/-- Two words are accepted, a refused jump forfeits the score, and after the word
is solved the first of the two scores again. -/
def Sample.scoring : List Action :=
  [.press ['L'], .press ['O'], .submit, .press ['P'], .press ['O'], .submit, .jump 1,
    .press ['P', 'O'], .press ['O'], .press ['L'], .submit, .press ['L', 'O'], .submit]

theorem scoring_ledger_sample :
    (∃ told, create Tuning.standard Sample.levels Sample.lexicon 7 = .ok (Sample.opening, told)) ∧
      (∀ done, done <+: Sample.scoring → Turn.total (Sample.opening.turns done) < 2 ^ 32) ∧
      "LO" ∈ (Sample.opening.after Sample.scoring).round.accepted ∧
      (Sample.opening.after Sample.scoring).score.toNat = 6 ∧
      (Sample.opening.after Sample.scoring).round.points.toNat = 2 := by
  obtain ⟨told, created⟩ := Sample.create_opening
  have bounded : ∀ done, done <+: Sample.scoring →
      Turn.total (Sample.opening.turns done) < 2 ^ 32 := by
    have all : ∀ done ∈ Sample.scoring.inits, Turn.total (Sample.opening.turns done) < 2 ^ 32 := by
      decide +kernel
    exact fun done begins => all done ((List.mem_inits _ _).mpr begins)
  obtain ⟨accepted, -, amounts⟩ := scoring_ledger created Sample.scoring
  obtain ⟨score, points⟩ := amounts bounded
  refine ⟨⟨told, created⟩, bounded, (accepted "LO").mpr ?_, ?_, ?_⟩
  · decide +kernel
  · rw [score]
    decide +kernel
  · rw [points]
    decide +kernel

end Game

end WordTrack
