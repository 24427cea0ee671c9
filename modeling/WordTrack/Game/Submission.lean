import WordTrack.Game.Start

/-! Submissions. An accepted word scores once a round and is thrown at the
drifting one; a word of full length solves the round. Every attempt ends with
all letters back in the pool. -/
namespace WordTrack

/-- Credits a word to the round. The hint about repeated words goes away. -/
def Round.credit (r : Round) (word : String) : Round :=
  let points := UInt32.ofNat word.length
  let r := if r.tag = .repeated then { r with tag := .none, hint := "" } else r
  { r with accepted := r.accepted.insert word, points := points, score := r.score + points }

/-- Raises the hint about repeated words, unless another one stands. -/
def Round.hintRepeated (r : Round) : Round :=
  if r.hint.isEmpty then { r with hint := Hint.repeated, tag := .repeated } else r

namespace Game

variable {σ : Type} [LevelSource σ]

/-- Goes on after a solved word and calls the listener. -/
def solve (g : Game σ) : Outcome σ Verdict :=
  let r := g.round
  let next := startNext { g with round := { r with solved := r.word } }
  ⟨next.game, .complete,
    .logged (.wordSolved r.target r.points r.score) :: next.events ++
      next.game.listener.toList.map .called⟩

/-- Judges a word of the lexicon. -/
def accept (g : Game σ) (word : String) : Outcome σ Verdict :=
  if word ∈ g.round.accepted then
    let hinted := decide (LevelSource.index g.levels ≤ g.tuning.repeatHintLevel)
    ⟨if hinted then { g with round := g.round.hintRepeated } else g, .repeated, []⟩
  else
    let complete := word.length == g.round.target.length
    let settled := g.settle { g.round.credit word with shove := g.tuning.shove word.length complete }
    if complete then
      let solved := settled.game.solve
      ⟨solved.game, solved.reply, settled.events ++ solved.events⟩
    else ⟨settled.game, .accepted, settled.events⟩

/-- Judges what is typed. -/
def judge (g : Game σ) : Outcome σ Verdict :=
  if g.round.typed.isEmpty then ⟨g, .wrong, []⟩
  else
    let thrown := { g with round := { g.round with thrown := g.round.typed } }
    if g.lexicon g.round.candidate then thrown.accept g.round.candidate else ⟨thrown, .wrong, []⟩

/-- Submits what is typed and ends the attempt. -/
def submit (g : Game σ) : Outcome σ Verdict :=
  let judged := g.judge
  ⟨{ judged.game with round := judged.game.round.clearAttempt }, judged.reply,
    judged.events ++ [.logged (.submitted g.round.candidate judged.reply)]⟩

end Game

end WordTrack
