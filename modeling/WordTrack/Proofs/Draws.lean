import WordTrack.Proofs.Shoves

/-! Only shuffles draw from the generator. A shuffle draws by the length of its list
alone, so the generator of a game is that of its seed after the shuffles of the run,
one for each round that started without help and one for each word that struck. -/
namespace WordTrack

namespace Generator

/-- The generator after shuffles of lists of these lengths. -/
def replay (g : Generator) (lengths : List Nat) : Generator :=
  lengths.foldl (fun g length => (g.shuffle (List.replicate length ())).2) g

theorem shuffle_snd {α : Type} (g : Generator) (xs : List α) :
    (g.shuffle xs).2 = g.replay [xs.length] := by
  simp [replay, shuffle]

theorem replay_append (g : Generator) (first second : List Nat) :
    g.replay (first ++ second) = (g.replay first).replay second := List.foldl_append

end Generator

/-- How many letters are shuffled when a round of a level starts. -/
def Level.shuffled (l : Level) : Option Nat :=
  if l.help.isEmpty then some l.letterCount else none

/-- How many letters a turn shuffled. -/
def Turn.shuffled {σ : Type} [LevelSource σ] (t : Turn σ) : Option Nat :=
  bif t.strikes then some t.before.round.target.length else t.begun.bind Level.shuffled

namespace Game

variable {σ : Type}

theorem deal_generator (g : Game σ) (level : Level) :
    (g.deal level).2.2 = g.generator.replay level.shuffled.toList := by
  simp only [deal, Level.shuffled, Level.letterCount]
  split
  · rw [Generator.shuffle_snd, String.length_toList]
    rfl
  · rfl

theorem hit_generator {g : Game σ} (coherent : g.round.Coherent) :
    g.hit.game.generator =
      g.generator.replay (bif g.round.mayShove then [g.round.target.length] else []) := by
  cases shoves : g.round.mayShove with
  | false =>
    rw [hit_idle shoves]
    rfl
  | true =>
    have letters : g.round.word.length = g.round.target.length := by
      rw [coherent.spelled.length_eq, String.length_toList]
    have settled : (g.settle { g.round with offset := g.round.offset + g.round.shove }).game.round.word =
        g.round.word := by
      dsimp only [settle]
      rw [Round.settle_eq]
      rfl
    rw [hit_shoves shoves, cond_true, ← letters, ← settled]
    exact Generator.shuffle_snd _ _

variable [LevelSource σ]

theorem start_generator {level : Level} (g : Game σ) (playable : level.Playable) :
    (g.start level).game.generator = g.generator.replay level.shuffled.toList := by
  rw [start_playable g playable]
  exact g.deal_generator level

theorem jump_generator {g : Game σ} {steps : Int} (playable : (g.levelAt steps).Playable) :
    (g.jump steps).game.generator = g.generator.replay (g.levelAt steps).shuffled.toList := by
  rw [jump_playable playable]
  exact start_generator (g.advance steps).forfeit playable

theorem solve_generator (g : Game σ) :
    g.solve.game.generator = g.generator.replay
      ((bif (g.levelAt 1).Playable then some (g.levelAt 1) else none).bind Level.shuffled).toList := by
  rw [solve_eq]
  by_cases playable : (g.levelAt 1).Playable
  · rw [startNext_playable (g := g.noteSolved) playable, decide_eq_true playable]
    exact start_generator (g.noteSolved.advance 1) playable
  · rw [startNext_refused (g := g.noteSolved) playable, decide_eq_false playable]
    rfl

end Game

namespace Turn

variable {σ : Type} [LevelSource σ]

theorem shuffled_eq_none {t : Turn σ} (misses : t.strikes = false)
    (helped : ∀ level, t.begun = some level → level.help ≠ "") : t.shuffled = none := by
  rw [shuffled, misses, cond_false]
  cases started : t.begun with
  | none => rfl
  | some level =>
    apply if_neg
    intro helpless
    exact helped level started (String.isEmpty_iff.mp helpless)

theorem submit_generator (g : Game σ) :
    g.submit.game.generator =
      g.generator.replay ((⟨g, .submit⟩ : Turn σ).begun.bind Level.shuffled).toList := by
  have judged := g.judge_judgement
  simp only [begun, startsRound, outcome, Game.step, Game.submit]
  generalize g.judge = o at judged ⊢
  cases judged with
  | empty | unknown | accepted => rfl
  | repeated =>
    dsimp only
    split <;> rfl
  | complete => exact Game.solve_generator _

/-- A turn moves the generator on by its shuffle, if it has one. -/
theorem outcome_generator (t : Turn σ) (coherent : t.before.round.Coherent) :
    t.outcome.game.generator = t.before.generator.replay t.shuffled.toList := by
  obtain ⟨g, action⟩ := t
  cases action with
  | tick | tickTo | fitScreen | press | poll | backspace | listen | unlisten => rfl
  | submit => exact submit_generator g
  | hit =>
    refine (Game.hit_generator coherent).trans ?_
    rw [shuffled, strikes_hit]
    cases g.round.mayShove <;> rfl
  | start level =>
    change _ = g.generator.replay ((⟨g, .start level⟩ : Turn σ).begun.bind Level.shuffled).toList
    rw [begun, startsRound_start]
    by_cases playable : level.Playable
    · rw [decide_eq_true playable]
      exact g.start_generator playable
    · rw [decide_eq_false playable, outcome, Game.step, g.start_refused playable]
      rfl
  | jump steps =>
    change _ = g.generator.replay ((⟨g, .jump steps⟩ : Turn σ).begun.bind Level.shuffled).toList
    rw [begun, startsRound_jump]
    by_cases playable : (g.levelAt steps).Playable
    · rw [decide_eq_true playable]
      exact Game.jump_generator playable
    · rw [decide_eq_false playable, outcome, Game.step, Game.jump_refused playable]
      rfl

end Turn

namespace Game

variable {σ : Type} [LevelSource σ]

theorem generator_after {g : Game σ} (reachable : g.Reachable) (actions : List Action) :
    (g.after actions).generator =
      g.generator.replay ((g.turns actions).filterMap Turn.shuffled) := by
  induction actions using List.reverseRecOn with
  | nil => rfl
  | append_singleton done action ih =>
    have moved := Turn.outcome_generator ⟨g.after done, action⟩ (reachable.after done).coherent
    rw [after_concat, turns_concat, List.filterMap_append, Generator.replay_append, ← ih]
    refine moved.trans ?_
    cases drawn : (⟨g.after done, action⟩ : Turn σ).shuffled <;> simp [drawn]

theorem create_generator {tuning : Tuning} {levels : σ} {lexicon : String → Bool} {seed : UInt64}
    {g : Game σ} {told : List Event}
    (created : create tuning levels lexicon seed = .ok (g, told)) :
    g.generator =
      (Generator.ofSeed seed).replay (LevelSource.current levels).shuffled.toList := by
  obtain ⟨-, playable, rfl, -⟩ := create_eq_ok_iff.mp created
  exact start_generator _ playable

/-- The generator is that of the seed after one shuffle for each round that started
without help and for each word that struck, in order. Any other turn leaves it as it
was. -/
theorem only_shuffles_draw {tuning : Tuning} {levels : σ} {lexicon : String → Bool}
    {seed : UInt64} {g : Game σ} {told : List Event}
    (created : create tuning levels lexicon seed = .ok (g, told)) (actions : List Action) :
    (g.after actions).generator =
      (Generator.ofSeed seed).replay ((LevelSource.current levels).shuffled.toList ++
        (g.turns actions).filterMap Turn.shuffled) ∧
    ∀ t ∈ g.turns actions, t.strikes = false →
      (∀ level, t.begun = some level → level.help ≠ "") →
      t.outcome.game.generator = t.before.generator := by
  have reachable : g.Reachable := .create created
  constructor
  · rw [generator_after reachable, create_generator created, Generator.replay_append]
  · intro t member misses helped
    obtain ⟨earlier, later, split⟩ := List.append_of_mem member
    obtain ⟨done, -, before⟩ := turns_split split
    have coherent : t.before.round.Coherent := by
      rw [← before]
      exact (reachable.after done).coherent
    rw [t.outcome_generator coherent, Turn.shuffled_eq_none misses helped]
    rfl

/-- The second round has help. A word of the first one strikes in the third, which is
solved after a jump that was refused. -/
def Sample.shuffling : List Action :=
  [.press ['L'], .press ['O'], .submit, .start ⟨"LOOP", "TYPE IT", -1, 0⟩, .tick 1,
    .start (.ofText "PO"), .hit, .hit, .jump 1, .press ['P'], .press ['O'], .submit]

theorem only_shuffles_draw_shuffling :
    (∃ told, create Tuning.standard Sample.levels Sample.lexicon 7 = .ok (Sample.opening, told)) ∧
      (Sample.opening.after Sample.shuffling).round.score = 2 ∧
      (Sample.opening.after Sample.shuffling).generator = (Generator.ofSeed 7).replay [4, 2, 2, 4] := by
  obtain ⟨told, created⟩ := Sample.create_opening
  obtain ⟨draws, -⟩ := only_shuffles_draw created Sample.shuffling
  have lengths : (LevelSource.current Sample.levels).shuffled.toList ++
      (Sample.opening.turns Sample.shuffling).filterMap Turn.shuffled = [4, 2, 2, 4] := by
    decide +kernel
  rw [lengths] at draws
  exact ⟨⟨told, created⟩, by decide +kernel, draws⟩

end Game

end WordTrack
