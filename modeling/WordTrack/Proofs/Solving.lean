import WordTrack.Proofs.Ledger
import WordTrack.Proofs.Progress
import WordTrack.Proofs.Rewind
import WordTrack.Proofs.Verdicts
import Mathlib.Data.Multiset.Basic

/-! Every word can still be solved. On a course a solved word leaves its round at
once, so the words accepted in a round use some letters of the target and never
all of them. A word that uses all is therefore unused, whatever was done before,
and all its letters can be had by taking back what is typed. -/
namespace WordTrack

namespace Round

theorem press_singleton (letter : Char) (r : Round) : r.press [letter] = r.pressOne letter := by
  simp [press_eq_typeEach, typeEach, List.eraseDups_cons]

theorem pressOne_present {letter : Char} {r : Round} (present : letter ∈ r.pool) :
    (r.pressOne letter).1.typed = r.typed ++ [letter] ∧
      r.pool.Perm (letter :: (r.pressOne letter).1.pool) := by
  cases found : r.pool.idxOf? letter with
  | none => exact absurd present (List.idxOf?_eq_none_iff.mp found)
  | some i =>
    obtain ⟨inside, rfl, -⟩ := List.idxOf?_eq_some_iff.mp found
    rw [pressOne_found found]
    exact ⟨rfl, (List.getElem_cons_eraseIdx_perm inside).symm⟩

theorem length_of_anagram {r : Round} {word : String}
    (anagram : word.toList.Perm r.target.toList) : word.length = r.target.length := by
  rw [← String.length_toList, anagram.length_eq, String.length_toList]

/-- What is typed uses letters of the target, and all of them only in full length. -/
theorem Coherent.candidate_lt {r : Round} (coherent : r.Coherent)
    (shorter : r.candidate.length ≠ r.target.length) :
    (r.candidate.toList : Multiset Char) < r.target.toList := by
  have whole := coherent.shared.trans coherent.spelled
  rw [candidate, String.length_ofList, ← String.length_toList] at shorter
  rw [candidate, String.toList_ofList]
  apply lt_of_le_of_ne
  · apply Multiset.coe_le.mpr
    exact (List.sublist_append_right r.pool r.typed).subperm.trans whole.subperm
  · intro same
    exact shorter (Multiset.coe_eq_coe.mp same).length_eq

end Round

namespace Game

variable {σ : Type} [LevelSource σ]

theorem Reachable.shows {g : Game σ} (reachable : g.Reachable) :
    ∃ level : Level, level.Playable ∧ g.round.Shows level := by
  induction reachable with
  | create created =>
    obtain ⟨-, playable, -, -⟩ := create_eq_ok_iff.mp created
    exact ⟨_, playable, create_shows created⟩
  | @step g action _ ih =>
    obtain ⟨level, playable, shows⟩ := ih
    refine ⟨_, ?_, Turn.outcome_shows ⟨g, action⟩ shows⟩
    cases started : (⟨g, action⟩ : Turn σ).begun with
    | none => exact playable
    | some next => exact Turn.begun_playable started

theorem Reachable.target_outcome {t : Turn σ} (reachable : t.before.Reachable)
    (goesOn : t.startsRound = false) : t.outcome.game.round.target = t.before.round.target := by
  obtain ⟨level, -, shows⟩ := reachable.shows
  have after := t.outcome_shows shows
  rw [Turn.begun, goesOn] at after
  exact after.word.trans shows.word.symm

theorem credited_lt {t : Turn Course} (reachable : t.before.Reachable) {word : String}
    (scored : t.credited = some word) (goesOn : t.startsRound = false) :
    (word.toList : Multiset Char) < t.before.round.target.toList := by
  obtain ⟨submits, rfl, -, -, -, complete⟩ := Turn.scores_of_credited scored
  apply reachable.coherent.candidate_lt
  intro whole
  obtain ⟨g, action⟩ := t
  obtain rfl : action = .submit := submits
  -- A word of full length is solved, and on a course the next level can always start.
  rw [decide_eq_true whole] at complete
  rw [Turn.startsRound_submit, Turn.isComplete, complete, decide_eq_true (g.levelAt_playable 1)]
    at goesOn
  contradiction

theorem Reachable.accepted_lt {g : Game Course} (reachable : g.Reachable) {word : String}
    (used : word ∈ g.round.accepted) :
    word ≠ "" ∧ g.lexicon word = true ∧ (word.toList : Multiset Char) < g.round.target.toList := by
  induction reachable with
  | @create _ _ _ _ g _ created =>
    have fresh : g.round.accepted = ∅ := congrArg Book.accepted (create_book created)
    rw [fresh] at used
    contradiction
  | @step g action earlier ih =>
    obtain ⟨goesOn, entered⟩ := (Turn.mem_accepted_outcome ⟨g, action⟩ word).mp used
    have target : (g.step action).game.round.target = g.round.target :=
      Reachable.target_outcome (t := ⟨g, action⟩) earlier goesOn
    have lexicon : (g.step action).game.lexicon = g.lexicon :=
      congrArg Prod.snd (step_moves g action).rules_eq
    rw [target, lexicon]
    rcases entered with scored | before
    · have scores := Turn.scores_of_credited scored
      have less := credited_lt (t := ⟨g, action⟩) earlier scored goesOn
      refine ⟨?_, scores.known, less⟩
      rw [scores.spelled]
      exact Round.candidate_eq_empty_iff.not.mpr scores.nonempty
    · exact ih before

def spelling (letters : List Char) : List Action := letters.map fun letter => .press [letter]

theorem spelling_typed {g : Game σ} {letters : List Char} (enough : letters.Subperm g.round.pool) :
    (g.after (spelling letters)).round.typed = g.round.typed ++ letters := by
  induction letters generalizing g with
  | nil => exact (List.append_nil _).symm
  | cons letter rest ih =>
    obtain ⟨typed, pool⟩ := Round.pressOne_present (enough.subset List.mem_cons_self)
    have pressed : (g.step (.press [letter])).game.round = (g.round.pressOne letter).1 :=
      congrArg Prod.fst (Round.press_singleton letter g.round)
    have left : rest.Subperm (g.step (.press [letter])).game.round.pool := by
      rw [pressed]
      exact (List.subperm_cons letter).mp (enough.trans pool.subperm)
    calc (g.after (spelling (letter :: rest))).round.typed
      _ = (g.step (.press [letter])).game.round.typed ++ rest := ih left
      _ = g.round.typed ++ [letter] ++ rest := by rw [pressed, typed]
      _ = g.round.typed ++ letter :: rest := List.append_assoc _ _ _

theorem spelling_isTyping (letters : List Char) :
    ∀ action ∈ spelling letters, action.isTyping = true := by
  intro action member
  obtain ⟨letter, -, rfl⟩ := List.mem_map.mp member
  rfl

def backspaces (n : Nat) : List Action := List.replicate n .backspace

theorem backspaces_isTyping (n : Nat) : ∀ action ∈ backspaces n, action.isTyping = true := by
  intro action member
  rw [List.eq_of_mem_replicate member]
  rfl

theorem backspaces_length (g : Game σ) (n : Nat) :
    (g.after (backspaces n)).round.typed.length = g.round.typed.length - n := by
  have retraces : ∀ action ∈ backspaces n, action.retraces = true := by
    intro action member
    rw [List.eq_of_mem_replicate member]
    rfl
  rw [g.retraces_length retraces, backspaces, List.countP_replicate]
  rfl

/-- The game after all that is typed was taken back and a word was typed instead. -/
def retyped (g : Game σ) (word : String) : Game σ :=
  (g.after (backspaces g.round.typed.length)).after (spelling word.toList)

theorem retyped_untyped (g : Game σ) (word : String) :
    (g.retyped word).round.untyped = g.round.untyped :=
  (typing_untyped _ (spelling_isTyping _)).trans (typing_untyped _ (backspaces_isTyping _))

theorem retyped_rules (g : Game σ) (word : String) : (g.retyped word).rules = g.rules :=
  (after_rules _ _).trans (after_rules _ _)

theorem rewound_typed (g : Game σ) :
    (g.after (backspaces g.round.typed.length)).round.typed = [] := by
  apply List.eq_nil_of_length_eq_zero
  rw [backspaces_length]
  exact Nat.sub_self _

theorem retyped_typed {g : Game σ} (reachable : g.Reachable) {word : String}
    (anagram : word.toList.Perm g.round.target.toList) :
    (g.retyped word).round.typed = word.toList := by
  let rewound := g.after (backspaces g.round.typed.length)
  have nothing : rewound.round.typed = [] := g.rewound_typed
  have target : rewound.round.target = g.round.target :=
    Round.congr_untyped Round.target (fun _ => rfl) (g.typing_untyped (backspaces_isTyping _))
  have coherent : rewound.round.Coherent := (reachable.after _).coherent
  -- With nothing typed every letter of the target is in the pool.
  have pool : rewound.round.pool.Perm g.round.target.toList := by
    have shared := coherent.shared.trans coherent.spelled
    rwa [nothing, List.append_nil, target] at shared
  calc (g.retyped word).round.typed
    _ = rewound.round.typed ++ word.toList := spelling_typed (anagram.trans pool.symm).subperm
    _ = word.toList := by rw [nothing, List.nil_append]

theorem submit_score {g : Game σ} (complete : g.submit.reply = .complete) :
    g.submit.game.score = g.score + UInt32.ofNat g.round.candidate.length := by
  have entered := Turn.score_outcome ⟨g, .submit⟩
  have credited : (⟨g, .submit⟩ : Turn σ).credited = some g.round.candidate := by
    simp only [Turn.credited, Turn.outcome, step, complete]
    rfl
  rw [credited] at entered
  exact entered

theorem retyped_candidate {g : Game σ} (reachable : g.Reachable) {word : String}
    (anagram : word.toList.Perm g.round.target.toList) :
    (g.retyped word).round.candidate = word := by
  rw [Round.candidate, retyped_typed reachable anagram, String.ofList_toList]

theorem Reachable.ne_empty {g : Game σ} (reachable : g.Reachable) {word : String}
    (anagram : word.toList.Perm g.round.target.toList) : word ≠ "" := by
  obtain ⟨level, playable, shows⟩ := reachable.shows
  rintro rfl
  apply playable
  rw [← shows.word, ← String.length_eq_zero_iff, ← Round.length_of_anagram anagram]
  rfl

theorem retyped_complete {g : Game Course} (reachable : g.Reachable) {word : String}
    (known : g.lexicon word = true) (anagram : word.toList.Perm g.round.target.toList) :
    (g.retyped word).submit.reply = .complete := by
  have candidate := retyped_candidate reachable anagram
  have same := g.retyped_untyped word
  have target : (g.retyped word).round.target = g.round.target :=
    Round.congr_untyped Round.target (fun _ => rfl) same
  have accepted : (g.retyped word).round.accepted = g.round.accepted :=
    Round.congr_untyped Round.accepted (fun _ => rfl) same
  have lexicon : (g.retyped word).lexicon = g.lexicon := congrArg Prod.snd (g.retyped_rules word)
  have typed : (g.retyped word).round.typed ≠ [] := by
    rw [Ne, ← Round.candidate_eq_empty_iff, candidate]
    exact reachable.ne_empty anagram
  have unused : word ∉ g.round.accepted := by
    intro used
    obtain ⟨-, -, less⟩ := reachable.accepted_lt used
    exact less.ne (Multiset.coe_eq_coe.mpr anagram)
  rw [submit_reply, candidate, target, accepted, lexicon, known]
  simp [typed, unused, Round.length_of_anagram anagram]

/-- The words accepted in a round of a course use letters of the target but never
all of them. A word of the lexicon that uses all is solved by taking back what is
typed, typing it and submitting, and scores its letters. -/
theorem word_stays_solvable {g : Game Course} (reachable : g.Reachable) :
    (∀ word ∈ g.round.accepted, word ≠ "" ∧ g.lexicon word = true ∧
      (word.toList : Multiset Char) < g.round.target.toList) ∧
    (∀ n, (g.after (backspaces n)).round.typed = [] ↔ g.round.typed.length ≤ n) ∧
    ∀ word, g.lexicon word = true → word.toList.Perm g.round.target.toList →
      (g.retyped word).submit.reply = .complete ∧
      (g.score.toNat + g.round.target.length < 2 ^ 32 →
        (g.retyped word).submit.game.score.toNat = g.score.toNat + g.round.target.length) := by
  refine ⟨?_, ?_, ?_⟩
  · intro word used
    exact reachable.accepted_lt used
  · intro n
    rw [← List.length_eq_zero_iff, backspaces_length, Nat.sub_eq_zero_iff_le]
  · intro word known anagram
    have complete := retyped_complete reachable known anagram
    refine ⟨complete, ?_⟩
    intro fits
    have score : (g.retyped word).score = g.score :=
      Round.congr_untyped Round.score (fun _ => rfl) (g.retyped_untyped word)
    have points : (UInt32.ofNat g.round.target.length).toNat = g.round.target.length :=
      UInt32.toNat_ofNat_of_lt (Nat.lt_of_le_of_lt (Nat.le_add_left _ _) fits)
    rw [submit_score complete, retyped_candidate reachable anagram, score,
      Round.length_of_anagram anagram, UInt32.toNat_add, points]
    exact Nat.mod_eq_of_lt fits

/-- A word was accepted and its shove waits, the game is over, and letters are typed. -/
def Sample.belated : Game Course :=
  outset.after [.press ['L'], .press ['O'], .submit, .tick 9000, .press ['P'], .press ['O']]

theorem word_stays_solvable_belated :
    Sample.belated.Reachable ∧ Sample.belated.round.tag = .gameOver ∧
      Sample.belated.round.typed = ['P', 'O'] ∧ 0 < Sample.belated.round.shove ∧
      "LO" ∈ Sample.belated.round.accepted ∧ Sample.belated.lexicon "POOL" = true ∧
      "POOL".toList.Perm Sample.belated.round.target.toList ∧
      ("LO".toList : Multiset Char) < Sample.belated.round.target.toList ∧
      (Sample.belated.retyped "POOL").submit.reply = .complete ∧
      (Sample.belated.retyped "POOL").submit.game.score.toNat = 2 + 4 := by
  have opened : Sample.outset.Reachable := .create (create_eq_ok_iff.mpr ⟨rfl, by decide, rfl, rfl⟩)
  have reachable : Sample.belated.Reachable := opened.after _
  have used : "LO" ∈ Sample.belated.round.accepted := by decide +kernel
  have known : Sample.belated.lexicon "POOL" = true := by decide +kernel
  obtain ⟨target, score, ended, typed, waits⟩ : Sample.belated.round.target = "LOOP" ∧
      Sample.belated.score = 2 ∧ Sample.belated.round.tag = .gameOver ∧
      Sample.belated.round.typed = ['P', 'O'] ∧ 0 < Sample.belated.round.shove := by
    decide +kernel
  have anagram : "POOL".toList.Perm Sample.belated.round.target.toList := by
    rw [target]
    decide
  obtain ⟨shorter, -, solves⟩ := word_stays_solvable reachable
  obtain ⟨-, -, less⟩ := shorter "LO" used
  obtain ⟨complete, scores⟩ := solves "POOL" known anagram
  rw [score, target] at scores
  exact ⟨reachable, ended, typed, waits, used, known, anagram, less, complete, scores (by decide)⟩

end Game

end WordTrack
