import WordTrack.Proofs.Rounding
import WordTrack.Proofs.Moves

/-! The word stays on the track. Velocities, times and given offsets may be any
numbers, infinities and not-a-number among them; settling comes after every sum
and brings the offset back between the floor and zero. -/
namespace WordTrack

namespace Tuning

theorem check_eq_ok_iff {t : Tuning} :
    t.check = .ok () ↔
      (∀ x ∈ t.reals, x.isFinite = true) ∧ ¬t.trackWidth ≤ 0 ∧ ¬t.wordWidth < 0 ∧
        ¬t.trackWidth < t.wordWidth := by
  unfold check flaw?
  constructor
  · intro passed
    split_ifs at passed with infinite empty off
    refine ⟨?_, empty, fun less => off (.inl less), fun less => off (.inr less)⟩
    intro x member
    by_contra bad
    exact infinite (List.any_eq_true.mpr ⟨x, member, by simpa using bad⟩)
  · rintro ⟨finite, track, word, width⟩
    have none : (t.reals.any (!·.isFinite)) = false := by
      rw [List.any_eq_false]
      intro x member
      simp [finite x member]
    rw [none, if_neg Bool.false_ne_true, if_neg track, if_neg (not_or.mpr ⟨word, width⟩)]

/-- The floor of a sound tuning lies on the track. -/
theorem floor_between {t : Tuning} (checked : t.check = .ok ()) :
    t.floor.isFinite = true ∧ -t.trackWidth ≤ t.floor ∧ t.floor ≤ 0 := by
  obtain ⟨finite, -, word, width⟩ := check_eq_ok_iff.mp checked
  have track : t.trackWidth.isFinite = true := finite _ (by simp [reals])
  have block : t.wordWidth.isFinite = true := finite _ (by simp [reals])
  have number {x : Binary32} : x.isFinite = true → x.isNaN = false := Binary32.isNaN_of_isFinite
  have nonneg : 0 ≤ t.wordWidth :=
    Binary32.le_of_not_lt (number block) (number Binary32.isFinite_zero) word
  have fits : t.wordWidth ≤ t.trackWidth := Binary32.le_of_not_lt (number track) (number block) width
  exact Binary32.sub_between block track nonneg fits

/-- A track wider than the word has its floor below zero. -/
theorem floor_neg {t : Tuning} (checked : t.check = .ok ()) (room : t.wordWidth < t.trackWidth) :
    t.floor < 0 := by
  obtain ⟨finite, -, -, -⟩ := check_eq_ok_iff.mp checked
  have track : t.trackWidth.isFinite = true := finite _ (by simp [reals])
  have block : t.wordWidth.isFinite = true := finite _ (by simp [reals])
  exact Binary32.sub_neg block track room

end Tuning

/-- Whatever the offset was, settling leaves it between the floor and zero. A
not-a-number is no less than zero, so it is taken for zero. -/
theorem Round.settle_between {floor : Binary32} (low : floor ≤ 0) (scale : Binary32) (r : Round) :
    floor ≤ (r.settle floor scale).offset ∧ (r.settle floor scale).offset ≤ 0 := by
  have zero : (0 : Binary32).isNaN = false := Binary32.isNaN_of_isFinite Binary32.isFinite_zero
  rw [settle_eq]
  constructor
  · exact Binary32.le_max_right (Binary32.isNaN_of_le low) _
  · exact Binary32.max_le (Binary32.min_le_right zero r.offset) low

namespace Game

variable {σ : Type}

/-- The tuning is sound and the word lies between the floor and zero. -/
structure OnTrack (g : Game σ) : Prop where
  checked : g.tuning.check = .ok ()
  above : g.floor ≤ g.round.offset
  below : g.round.offset ≤ 0

theorem OnTrack.frame {g h : Game σ} (on : g.OnTrack) (tuning : h.tuning = g.tuning)
    (offset : h.round.offset = g.round.offset) : h.OnTrack := by
  constructor
  · rw [tuning]
    exact on.checked
  · rw [floor, tuning, offset]
    exact on.above
  · rw [offset]
    exact on.below

theorem settle_onTrack {g : Game σ} (checked : g.tuning.check = .ok ()) (r : Round) :
    (g.settle r).game.OnTrack := by
  obtain ⟨-, -, low⟩ := Tuning.floor_between checked
  obtain ⟨above, below⟩ := Round.settle_between low g.scale r
  exact ⟨checked, above, below⟩

theorem onTrack_of_zero {g : Game σ} (checked : g.tuning.check = .ok ())
    (start : g.round.offset = 0) : g.OnTrack := by
  obtain ⟨-, -, low⟩ := Tuning.floor_between checked
  refine ⟨checked, ?_, ?_⟩
  · rwa [start]
  · rw [start]
    exact Binary32.le_refl (Binary32.isNaN_of_isFinite Binary32.isFinite_zero)

variable [LevelSource σ]

theorem Move.onTrack {g h : Game σ} (move : Move g h) (on : g.OnTrack) : h.OnTrack := by
  cases move with
  | clock | listener | advance | fitScreen | reshuffle | throwTyped | noteSolved | shoved | forfeit
  | clearAttempt => exact on.frame rfl rfl
  | drift offset => exact settle_onTrack on.checked _
  | rewind => exact onTrack_of_zero on.checked rfl
  | pressOne letter =>
    refine on.frame rfl ?_
    dsimp only [Round.pressOne]
    split <;> rfl
  | backspace =>
    refine on.frame rfl ?_
    dsimp only [Round.backspace]
    split <;> rfl
  | @restart level playable =>
    rw [start_playable g playable]
    exact settle_onTrack (g := { g with generator := (g.deal level).2.2 }) on.checked _
  | hintRepeated =>
    refine on.frame rfl ?_
    dsimp only
    rw [Round.hintRepeated_eq]
  | credit => exact settle_onTrack on.checked _

theorem Reachable.onTrack {g : Game σ} (reachable : g.Reachable) : g.OnTrack :=
  reachable.invariant (fun _ _ _ _ checked => onTrack_of_zero checked rfl) Move.onTrack

theorem Reachable.offset_finite {g : Game σ} (reachable : g.Reachable) :
    g.round.offset.isFinite = true := by
  have on := reachable.onTrack
  obtain ⟨finite, -, -⟩ := Tuning.floor_between on.checked
  exact Binary32.isFinite_of_between finite Binary32.isFinite_zero on.above on.below

/-- The offset is a number between the floor and zero, and the floor is a finite
one between the negated track width and zero. -/
theorem word_stays_on_track {g : Game σ} (reachable : g.Reachable) :
    g.round.offset.isNaN = false ∧ g.floor ≤ g.round.offset ∧ g.round.offset ≤ 0 ∧
      g.floor.isFinite = true ∧ -g.tuning.trackWidth ≤ g.floor ∧ g.floor ≤ 0 := by
  have on := reachable.onTrack
  obtain ⟨finite, lower, upper⟩ := Tuning.floor_between on.checked
  exact ⟨Binary32.isNaN_of_le on.below, on.above, on.below, finite, lower, upper⟩

/-- A round that starts nowhere and drifts without bound for no time at all. -/
def Sample.stormy : Game LevelCycle :=
  opening.after [.start ⟨"LOOP", "HOLD ON", .infinite true, .nan⟩, .tick (.infinite false), .tick 0]

/-- The drift was undefined, yet the word is back at the start of the track. -/
theorem word_stays_on_track_stormy :
    Sample.stormy.Reachable ∧ Sample.stormy.round.velocity = .infinite true ∧
      (0 * Sample.stormy.tuning.trackWidth * Sample.stormy.round.velocity).isNaN = true ∧
      Sample.stormy.round.tag = .gameOver ∧
      Sample.stormy.floor ≤ Sample.stormy.round.offset ∧ Sample.stormy.round.offset ≤ 0 := by
  have reachable : Sample.stormy.Reachable := Sample.opening_reachable.after _
  obtain ⟨-, above, below, -, -, -⟩ := word_stays_on_track reachable
  exact ⟨reachable, by decide +kernel, by decide +kernel, by decide +kernel, above, below⟩

end Game

end WordTrack
