import WordTrack.Proofs.Progress

/-! Stepping through a course in machine words. Steps are signed words and indices
unsigned ones, and every operation that a word cannot hold, every division by zero and
every index past the end is a trap. No trap is met as long as the number of levels is a
signed word, and the index is the sum of the steps counted around the course, although
the sum itself may not be a word. -/
namespace WordTrack

/-- Why a computation in words stops. -/
inductive Trap where
  | overflow
  | zeroDivisor
  | outOfBounds
deriving DecidableEq, Repr

namespace Words

variable {w : Nat}

/-- The sum of two unsigned words. -/
def add (x y : BitVec w) : Except Trap (BitVec w) :=
  if x.toNat + y.toNat < 2 ^ w then .ok (x + y) else .error .overflow

/-- The remainder of two unsigned words. -/
def rem (x y : BitVec w) : Except Trap (BitVec w) :=
  if y = 0#w then .error .zeroDivisor else .ok (x.umod y)

/-- The least remainder of two signed words that is not negative. The one quotient that
is no signed word traps, although its remainder is zero. -/
def remEuclid (x y : BitVec w) : Except Trap (BitVec w) :=
  if y = 0#w then .error .zeroDivisor
  else if x = BitVec.intMin w ∧ y = -1#w then .error .overflow
  else .ok (BitVec.ofInt w (x.toInt % y.toInt))

def fetch (levels : List Level) (index : BitVec w) : Except Trap Level :=
  match levels[index.toNat]? with
  | some level => .ok level
  | none => .error .outOfBounds

/-- The index some steps further on, counted around `size` levels. -/
def nextIndex (size index steps : BitVec w) : Except Trap (BitVec w) := do
  let forward ← remEuclid steps size
  rem (← add index forward) size

/-- Moves an index on by some steps, and gives the level there. -/
def stepOnce (levels : List Level) (index steps : BitVec w) : Except Trap (BitVec w × Level) := do
  let next ← nextIndex (BitVec.ofNat w levels.length) index steps
  return (next, ← fetch levels next)

/-- Moves an index on again and again, and gives the levels it came by. -/
def stepEach (levels : List Level) (index : BitVec w) :
    List (BitVec w) → Except Trap (BitVec w × List Level)
  | [] => .ok (index, [])
  | steps :: rest => do
    let (next, level) ← stepOnce levels index steps
    let (last, more) ← stepEach levels next rest
    return (last, level :: more)

theorem add_ok {x y : BitVec w} (fits : x.toNat + y.toNat < 2 ^ w) : add x y = .ok (x + y) :=
  if_pos fits

theorem rem_ok {x y : BitVec w} (positive : 0 < y.toNat) : rem x y = .ok (x.umod y) := by
  apply if_neg
  rintro rfl
  simp at positive

/-- A positive divisor is neither zero nor the one that overflows. -/
theorem remEuclid_ok {x y : BitVec w} (positive : 0 < y.toInt) :
    remEuclid x y = .ok (BitVec.ofInt w (x.toInt % y.toInt)) := by
  have nonzero : y ≠ 0#w := by
    rintro rfl
    simp at positive
  have safe : ¬(x = BitVec.intMin w ∧ y = -1#w) := by
    rintro ⟨-, rfl⟩
    rw [BitVec.neg_one_eq_allOnes, BitVec.toInt_allOnes] at positive
    split at positive <;> omega
  simp only [remEuclid, if_neg nonzero, if_neg safe]

theorem fetch_ok {levels : List Level} {index : BitVec w} {level : Level}
    (stored : levels[index.toNat]? = some level) : fetch levels index = .ok level := by
  simp only [fetch, stored]

/-- A number below half of the words is a word that reads the same signed and unsigned. -/
def Small (w n : Nat) : Prop := 2 * n < 2 ^ w

theorem small_of_lt {n : Nat} (fits : n < 2 ^ (w - 1)) : Small w n := by
  unfold Small
  cases w with
  | zero => simpa using fits
  | succ v =>
    simp only [Nat.add_sub_cancel] at fits
    omega

theorem Small.of_lt {n k : Nat} (small : Small w n) (less : k < n) : Small w k :=
  Nat.lt_trans (Nat.mul_lt_mul_of_pos_left less Nat.two_pos) small

theorem Small.toNat_eq {n : Nat} (small : Small w n) : (BitVec.ofNat w n).toNat = n := by
  have half : 2 * n < 2 ^ w := small
  rw [BitVec.toNat_ofNat, Nat.mod_eq_of_lt (by omega)]

theorem Small.toInt_eq {n : Nat} (small : Small w n) : (BitVec.ofNat w n).toInt = n := by
  have below : 2 * (BitVec.ofNat w n).toNat < 2 ^ w := small.toNat_eq.symm ▸ small
  rw [BitVec.toInt_eq_toNat_of_lt below, small.toNat_eq]

/-- Counting an index on around some levels meets no trap. Both summands are below the
number of levels, so the sum is a word although it need not be a signed one. -/
theorem nextIndex_ok {size index : Nat} (small : Small w size) (inside : index < size)
    (steps : BitVec w) :
    nextIndex (BitVec.ofNat w size) (BitVec.ofNat w index) steps =
      .ok (BitVec.ofNat w ((index + (steps.toInt % size).toNat) % size)) := by
  have positive : 0 < size := Nat.zero_lt_of_lt inside
  have nonneg : 0 ≤ steps.toInt % size := Int.emod_nonneg _ (by omega)
  have less : (steps.toInt % size).toNat < size := by
    have := Int.emod_lt_of_pos steps.toInt (Int.ofNat_lt.mpr positive)
    omega
  generalize counted : (steps.toInt % size).toNat = forward at less
  have divided : remEuclid steps (BitVec.ofNat w size) = .ok (BitVec.ofNat w forward) := by
    have word := small.toInt_eq
    rw [remEuclid_ok (by omega), word, ← counted, ← BitVec.ofInt_natCast,
      Int.toNat_of_nonneg nonneg]
  have half : 2 * size < 2 ^ w := small
  have first := (small.of_lt inside).toNat_eq
  have second := (small.of_lt less).toNat_eq
  have summed : add (BitVec.ofNat w index) (BitVec.ofNat w forward) =
      .ok (BitVec.ofNat w (index + forward)) := by
    rw [add_ok (by omega), BitVec.ofNat_add]
  have reduced : rem (BitVec.ofNat w (index + forward)) (BitVec.ofNat w size) =
      .ok (BitVec.ofNat w ((index + forward) % size)) := by
    rw [rem_ok (by rw [small.toNat_eq]; exact positive)]
    congr 1
    apply BitVec.eq_of_toNat_eq
    have whole : (index + forward) % 2 ^ w = index + forward := Nat.mod_eq_of_lt (by omega)
    rw [BitVec.umod_eq, BitVec.toNat_umod, small.toNat_eq, BitVec.toNat_ofNat, whole,
      (small.of_lt (Nat.mod_lt _ positive)).toNat_eq]
  simp only [nextIndex, divided, summed, bind, Except.bind]
  exact reduced

/-- A cycle moves as its index does in words. -/
theorem stepOnce_ok {c : LevelCycle} (small : Small w c.size) (steps : BitVec w) :
    stepOnce c.levels (BitVec.ofNat w c.index) steps =
      .ok (BitVec.ofNat w (c.advance steps.toInt).index, (c.advance steps.toInt).current) := by
  have moved : nextIndex (BitVec.ofNat w c.levels.length) (BitVec.ofNat w c.index) steps =
      .ok (BitVec.ofNat w (c.advance steps.toInt).index) := nextIndex_ok small c.index_lt steps
  have inside := (c.advance steps.toInt).index_lt
  have stored : fetch c.levels (BitVec.ofNat w (c.advance steps.toInt).index) =
      .ok (c.advance steps.toInt).current := by
    apply fetch_ok
    rw [(small.of_lt inside).toNat_eq]
    exact List.getElem?_eq_getElem inside
  simp only [stepOnce, moved, stored, bind, Except.bind, pure, Except.pure]

end Words

/-- The levels after some moves one after the other, with the level each of them led
to. -/
def tour {σ : Type} [LevelSource σ] (levels : σ) : List Int → σ × List Level
  | [] => (levels, [])
  | steps :: rest =>
    let (next, level) := LevelSource.advance levels steps
    let (last, more) := tour next rest
    (last, level :: more)

namespace Course

variable {w : Nat}

/-- A step gives the level stored at the new index. -/
theorem advance_spec (course : Course) (steps : Int) :
    let moved := LevelSource.advance course steps
    (LevelSource.index moved.1 : Int) = (course.cycle.index + steps) % course.size ∧
      course.cycle.levels[LevelSource.index moved.1]? = some moved.2 ∧
      LevelSource.current moved.1 = moved.2 ∧ moved.2.check = .ok () := by
  intro moved
  refine ⟨course.cycle.indexAfter_eq steps, ?_, rfl, ?_⟩
  · exact List.getElem?_eq_getElem (course.cycle.indexAfter_lt steps)
  · exact if_pos (course.advance steps).current_playable

/-- A tour in words meets no trap and comes by the same levels. -/
theorem stepEach_eq {course : Course} (small : Words.Small w course.size)
    (steps : List (BitVec w)) :
    Words.stepEach course.cycle.levels (BitVec.ofNat w course.cycle.index) steps =
      .ok (BitVec.ofNat w (tour course (steps.map BitVec.toInt)).1.cycle.index,
        (tour course (steps.map BitVec.toInt)).2) := by
  induction steps generalizing course with
  | nil => rfl
  | cons first rest ih =>
    have moved := Words.stepOnce_ok small first
    have later : Words.stepEach course.cycle.levels
        (BitVec.ofNat w (course.cycle.advance first.toInt).index) rest = _ :=
      @ih (course.advance first.toInt) small
    simp only [Words.stepEach, moved, later, bind, Except.bind]
    rfl

/-- A tour stays on its levels and counts its steps around them. -/
theorem tour_index (course : Course) (steps : List Int) :
    (tour course steps).1.cycle.levels = course.cycle.levels ∧
      ((tour course steps).1.cycle.index : Int) =
        (course.cycle.index + steps.sum) % course.size := by
  induction steps generalizing course with
  | nil =>
    simp only [List.sum_nil, Int.add_zero]
    exact ⟨rfl, course.cycle.index_emod.symm⟩
  | cons first rest ih =>
    obtain ⟨list, index⟩ := ih (course.advance first)
    refine ⟨list, index.trans ?_⟩
    have moved : ((course.advance first).cycle.index : Int) =
        (course.cycle.index + first) % course.size := course.cycle.indexAfter_eq first
    have size : (course.advance first).size = course.size := rfl
    rw [size, moved, Int.emod_add_emod, List.sum_cons, Int.add_assoc]

/-- Courses are made of levels, of plain words or of text. -/
inductive Built : Course → Prop where
  | levels {levels : List Level} {course : Course} : ofLevels levels = .ok course → Built course
  | words {words : List String} {course : Course} : ofWords words = .ok course → Built course
  | text {text : String} {course : Course} : ofJson text = .ok course → Built course

theorem Built.index_eq {course : Course} (built : course.Built) : course.cycle.index = 0 := by
  cases built with
  | levels accepted => exact (ofLevels_eq_ok accepted).2
  | words accepted => exact (ofLevels_eq_ok accepted).2
  | @text text _ accepted =>
    unfold ofJson at accepted
    cases read : (Json.parse (Json.list Level.reader) text).mapError SetupError.unreadable with
    | error fault => simp [read, bind, Except.bind] at accepted
    | ok levels =>
      simp only [read, bind, Except.bind] at accepted
      exact (ofLevels_eq_ok accepted).2

/-- As long as the number of levels is a signed word, stepping by any signed words meets
no trap. The index is the sum of all steps counted around the course, and each step gives
the level stored there, which is the current one and can be played. -/
theorem steps_count_around {course : Course} (built : course.Built)
    (fits : course.size < 2 ^ (w - 1)) (steps : List (BitVec w)) :
    let toured := tour course (steps.map BitVec.toInt)
    (∃ last, Words.stepEach course.cycle.levels 0#w steps = .ok (last, toured.2) ∧
      last.toNat = LevelSource.index toured.1) ∧
    (LevelSource.index toured.1 : Int) = (steps.map BitVec.toInt).sum % course.size ∧
    LevelSource.index toured.1 < course.size ∧
    ∀ done next rest, steps = done ++ next :: rest →
      let moved := LevelSource.advance (tour course (done.map BitVec.toInt)).1 next.toInt
      (LevelSource.index moved.1 : Int) =
        ((done ++ [next]).map BitVec.toInt).sum % course.size ∧
      course.cycle.levels[LevelSource.index moved.1]? = some moved.2 ∧
      LevelSource.current moved.1 = moved.2 ∧ moved.2.check = .ok () := by
  intro toured
  have small := Words.small_of_lt fits
  have zero := built.index_eq
  obtain ⟨list, index⟩ := tour_index course (steps.map BitVec.toInt)
  rw [zero, Int.natCast_zero, Int.zero_add] at index
  have inside : toured.1.cycle.index < course.size := by
    have bound := toured.1.cycle.index_lt
    rwa [list] at bound
  refine ⟨⟨_, ?_, (small.of_lt inside).toNat_eq⟩, index, inside, ?_⟩
  · have walked := stepEach_eq small steps
    rwa [zero] at walked
  · rintro done next rest - moved
    obtain ⟨before, reached⟩ := tour_index course (done.map BitVec.toInt)
    obtain ⟨counted, stored, current, playable⟩ :=
      advance_spec (tour course (done.map BitVec.toInt)).1 next.toInt
    have size : (tour course (done.map BitVec.toInt)).1.size = course.size :=
      congrArg List.length before
    rw [before] at stored
    refine ⟨?_, stored, current, playable⟩
    rw [reached, zero, Int.natCast_zero, Int.zero_add, size, Int.emod_add_emod] at counted
    simpa only [List.map_append, List.map_cons, List.map_nil, List.sum_append,
      List.sum_singleton] using counted

/-- Two steps whose sum is no word, and one that leads back. -/
def Sample.extremes : List (BitVec 64) := [BitVec.intMax 64, BitVec.intMax 64, BitVec.intMin 64]

theorem steps_count_around_extremes :
    Game.Sample.course.Built ∧ Game.Sample.course.size < 2 ^ (64 - 1) ∧
      (Sample.extremes.map BitVec.toInt).sum = 2 ^ 63 - 2 ∧
      LevelSource.index (tour Game.Sample.course (Sample.extremes.map BitVec.toInt)).1 = 0 ∧
      ∃ last, Words.stepEach Game.Sample.course.cycle.levels 0#64 Sample.extremes =
        .ok (last, [.ofText "POOL", .ofText "POLO", .ofText "LOOP"]) := by
  have accepted : ofLevels Game.Sample.course.cycle.levels = .ok Game.Sample.course := rfl
  have fits : Game.Sample.course.size < 2 ^ (64 - 1) := by decide
  obtain ⟨⟨last, walked, -⟩, index, -, -⟩ :=
    steps_count_around (.levels accepted) fits Sample.extremes
  have sum : (Sample.extremes.map BitVec.toInt).sum = 2 ^ 63 - 2 := by decide
  rw [sum] at index
  have came : (tour Game.Sample.course (Sample.extremes.map BitVec.toInt)).2 =
      [.ofText "POOL", .ofText "POLO", .ofText "LOOP"] := by decide +kernel
  rw [came] at walked
  refine ⟨.levels accepted, fits, sum, ?_, last, walked⟩
  have size : ((2 ^ 63 - 2 : Int) % Game.Sample.course.size) = 0 := by decide
  exact Int.ofNat.inj (index.trans size)

end Course

end WordTrack
