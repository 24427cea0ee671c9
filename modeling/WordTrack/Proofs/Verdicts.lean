import WordTrack.Proofs.Conservation

/-! Verdicts by what is typed. A submission is compared with the target by its
length alone. Since no letter is lost or made up, the length tells whether every
letter of the target is used. -/
namespace WordTrack

namespace Round

theorem candidate_eq_empty_iff {r : Round} : r.candidate = "" ↔ r.typed = [] := by
  rw [candidate, String.ofList_eq_empty_iff]

theorem Coherent.length_eq {r : Round} (coherent : r.Coherent) :
    r.pool.length + r.typed.length = r.target.length := by
  have shared := coherent.shared.length_eq
  have spelled := coherent.spelled.length_eq
  rw [List.length_append] at shared
  rw [shared, spelled, String.length_toList]

theorem Coherent.anagram_iff {r : Round} (coherent : r.Coherent) :
    r.typed.Perm r.target.toList ↔ r.pool = [] := by
  constructor
  · intro anagram
    have same := anagram.length_eq
    have total := coherent.length_eq
    rw [String.length_toList] at same
    exact List.eq_nil_of_length_eq_zero (by omega)
  · intro used
    have shared := coherent.shared
    rw [used, List.nil_append] at shared
    exact shared.trans coherent.spelled

theorem Coherent.whole_iff {r : Round} (coherent : r.Coherent) :
    r.candidate.length = r.target.length ↔ r.pool = [] := by
  have total := coherent.length_eq
  rw [candidate, String.length_ofList, ← List.length_eq_zero_iff]
  omega

end Round

namespace Game

variable {σ : Type} [LevelSource σ]

theorem submit_reply (g : Game σ) :
    g.submit.reply =
      if g.round.typed = [] ∨ g.lexicon g.round.candidate = false then .wrong
      else if g.round.candidate ∈ g.round.accepted then .repeated
      else if g.round.candidate.length = g.round.target.length then .complete
      else .accepted := by
  have judged := judge_judgement g
  change g.judge.reply = _
  generalize g.judge = o at judged ⊢
  cases judged with
  | empty nothing => simp [nothing]
  | unknown _ unknown => simp [unknown]
  | repeated nonempty known used => simp [nonempty, known, used]
  | accepted nonempty known unused shorter => simp [nonempty, known, unused, shorter]
  | complete nonempty known unused whole => simp [nonempty, known, unused, whole]

/-- The next round leaves what was thrown and what was solved. -/
theorem startNext_keeps (g : Game σ) :
    g.startNext.game.round.thrown = g.round.thrown ∧
      g.startNext.game.round.solved = g.round.solved := by
  by_cases playable : (g.levelAt 1).Playable
  · rw [startNext_playable playable, start_playable _ playable]
    dsimp only [settle]
    rw [Round.settle_eq]
    exact ⟨rfl, rfl⟩
  · rw [startNext_refused playable]
    exact ⟨rfl, rfl⟩

theorem submit_complete_keeps {g : Game σ} (complete : g.submit.reply = .complete) :
    g.submit.game.round.thrown = g.round.typed ∧ g.submit.game.round.solved = g.round.word := by
  have judged := judge_judgement g
  change g.judge.reply = .complete at complete
  change g.judge.game.round.thrown = _ ∧ g.judge.game.round.solved = _
  generalize g.judge = o at judged complete ⊢
  cases judged with
  | empty | unknown | repeated | accepted => contradiction
  | complete =>
    obtain ⟨thrown, solved⟩ :=
      startNext_keeps (g.throwTyped.credit g.round.candidate).game.noteSolved
    have credited : (g.throwTyped.credit g.round.candidate).game.round.thrown = g.round.typed ∧
        (g.throwTyped.credit g.round.candidate).game.round.word = g.round.word := by
      simp only [credit, settle, Round.settle_eq, Round.credit_eq]
      exact ⟨rfl, rfl⟩
    exact ⟨thrown.trans credited.1, solved.trans credited.2⟩

/-- Each verdict is decided by the lexicon, the words accepted and the letters
left in the pool, and a solved word is kept although its round is over. -/
theorem submission_classified {g : Game σ} (reachable : g.Reachable) :
    let w := g.round.candidate
    (g.submit.reply = .wrong ↔ g.round.typed = [] ∨ g.lexicon w = false) ∧
    (g.submit.reply = .repeated ↔
      g.round.typed ≠ [] ∧ g.lexicon w = true ∧ w ∈ g.round.accepted) ∧
    (g.submit.reply = .accepted ↔
      w ≠ "" ∧ g.lexicon w = true ∧ w ∉ g.round.accepted ∧ g.round.pool ≠ []) ∧
    (g.submit.reply = .complete ↔
      w ≠ "" ∧ g.lexicon w = true ∧ w ∉ g.round.accepted ∧
        w.toList.Perm g.round.target.toList) ∧
    (w.toList.Perm g.round.target.toList ↔ g.round.pool = []) ∧
    (g.submit.reply = .complete →
      String.ofList g.submit.game.round.thrown = w ∧
        g.submit.game.round.solved.Perm g.round.target.toList) := by
  intro w
  have coherent := reachable.coherent
  have spelled : w.toList = g.round.typed := String.toList_ofList
  have nonempty : w ≠ "" ↔ g.round.typed ≠ [] := Round.candidate_eq_empty_iff.not
  have anagram : w.toList.Perm g.round.target.toList ↔ g.round.pool = [] := by
    rw [spelled]
    exact coherent.anagram_iff
  have reply : g.submit.reply =
      if g.round.typed = [] ∨ g.lexicon w = false then .wrong
      else if w ∈ g.round.accepted then .repeated
      else if g.round.pool = [] then .complete else .accepted := by
    rw [submit_reply]
    simp only [coherent.whole_iff]
    rfl
  rw [anagram, nonempty]
  -- The conditions on the right are those under which the reply takes each branch.
  refine ⟨by grind, by grind, by grind, by grind, .rfl, ?_⟩
  intro complete
  obtain ⟨thrown, solved⟩ := submit_complete_keeps complete
  rw [thrown, solved]
  exact ⟨rfl, coherent.spelled⟩

/-- The whole word is typed after another one was accepted. The round stays,
because the next level has no word. -/
def Sample.solving : Game LevelCycle :=
  opening.after [.press ['L'], .press ['O'], .submit, .press ['P', 'O'], .press ['O'], .press ['L']]

theorem submission_classified_solving :
    Sample.solving.Reachable ∧ Sample.solving.round.candidate = "POOL" ∧
      Sample.solving.submit.reply = .complete ∧
      String.ofList Sample.solving.submit.game.round.thrown = "POOL" ∧
      Sample.solving.submit.game.round.solved.Perm "LOOP".toList := by
  have reachable : Sample.solving.Reachable := Sample.opening_reachable.after _
  have typed : Sample.solving.round.candidate = "POOL" := by decide +kernel
  have target : Sample.solving.round.target = "LOOP" := by decide +kernel
  obtain ⟨-, -, -, complete, -, kept⟩ := submission_classified reachable
  rw [typed, target] at complete kept
  have solved : Sample.solving.submit.reply = .complete :=
    complete.mpr ⟨by decide, by decide, by decide +kernel, by decide⟩
  exact ⟨reachable, typed, solved, kept solved⟩

end Game

end WordTrack
