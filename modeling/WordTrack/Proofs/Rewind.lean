import WordTrack.Proofs.Attempt
import WordTrack.Proofs.History

/-! Taking everything back. The history of a run says with which pool the attempt
began. Whatever was typed since, taking every letter back brings that pool back in
its order, also if the tiles are shuffled meanwhile. -/
namespace WordTrack

def Action.isBackspace : Action → Bool
  | .backspace => true
  | _ => false

/-- Whether an action neither types nor may end the attempt. -/
def Action.retraces : Action → Bool
  | .press _ | .submit | .start _ | .jump _ => false
  | _ => true

namespace Round

variable {r : Round} {start : List Char}

theorem Attempt.settle (attempt : r.Attempt start) (floor scale : Binary32) :
    (r.settle floor scale).Attempt start := by
  rw [settle_eq]
  exact attempt

theorem Coherent.unmarked (coherent : r.Coherent) (nothing : r.typed = []) :
    ∀ t ∈ r.tiles, t.selected = false := by
  intro t shown
  rw [coherent.marks, nothing, Tile.marked_nil] at shown
  obtain ⟨letter, -, rfl⟩ := List.mem_map.mp shown
  rfl

theorem Coherent.backspace_reply (coherent : r.Coherent) (something : r.typed ≠ []) :
    ∃ index, r.backspace.2 = [index] := by
  rcases List.eq_nil_or_concat' r.typed with empty | ⟨rest, letter, typed⟩
  · contradiction
  · obtain ⟨index, unselect⟩ := coherent.unselect typed
    refine ⟨index, ?_⟩
    rw [backspace_concat typed, unselect]
    rfl

theorem Attempt.origin (attempt : r.Attempt start) (something : r.typed ≠ []) :
    ∃ origin, r.origins.getLast? = some origin ∧ origin ≤ r.pool.length := by
  rcases List.eq_nil_or_concat' r.typed with empty | ⟨rest, letter, typed⟩
  · contradiction
  · obtain ⟨-, before, origin, origins, bound, -, -⟩ := attempt.backspace_eq typed
    refine ⟨origin, ?_, bound⟩
    rw [origins, List.getLast?_concat]

theorem backspace_typed (r : Round) : r.backspace.1.typed = r.typed.dropLast := by
  rcases List.eq_nil_or_concat' r.typed with empty | ⟨rest, letter, typed⟩
  · rw [backspace_nil empty, empty]
    rfl
  · rw [backspace_concat typed, typed, List.dropLast_concat]

end Round

namespace Game

variable {σ : Type} {start : List Char}

theorem hit_letters (g : Game σ) :
    g.hit.game.round.typed = g.round.typed ∧ g.hit.game.round.origins = g.round.origins ∧
      g.hit.game.round.pool = g.round.pool := by
  cases shoves : g.round.mayShove with
  | false =>
    rw [hit_idle shoves]
    exact ⟨rfl, rfl, rfl⟩
  | true =>
    rw [hit_shoves shoves]
    simp only [settle, reshuffle, Round.settle_eq, and_self]

theorem hit_attempt {g : Game σ} (attempt : g.round.Attempt start) :
    g.hit.game.round.Attempt start := by
  obtain ⟨typed, origins, pool⟩ := g.hit_letters
  unfold Round.Attempt
  rw [typed, origins, pool]
  exact attempt

variable [LevelSource σ]

theorem start_fresh {level : Level} (g : Game σ) (playable : level.Playable) :
    (g.start level).game.round.typed = [] ∧ (g.start level).game.round.origins = [] := by
  rw [start_playable g playable]
  simp only [settle, Round.settle_eq]
  exact ⟨rfl, rfl⟩

end Game

namespace Turn

variable {σ : Type} [LevelSource σ]

/-- Whether a turn ends the attempt. -/
def resets (t : Turn σ) : Bool := t.action.isSubmit || t.startsRound

/-- The pool right after the last turn that ended an attempt. -/
def basis (first : List Char) (turns : List (Turn σ)) : List Char :=
  (turns.filter resets).getLast?.elim first fun t => t.outcome.game.round.pool

theorem basis_concat (first : List Char) (turns : List (Turn σ)) (t : Turn σ) :
    basis first (turns ++ [t]) =
      bif t.resets then t.outcome.game.round.pool else basis first turns := by
  unfold basis
  cases reset : t.resets <;> simp [reset]

theorem resets_eq_false {t : Turn σ} (retraces : t.action.retraces = true) : t.resets = false := by
  obtain ⟨g, action⟩ := t
  cases action with
  | press | submit | start | jump => contradiction
  | _ => rfl

theorem resets_fresh {t : Turn σ} (reset : t.resets = true) :
    t.outcome.game.round.typed = [] ∧ t.outcome.game.round.origins = [] := by
  obtain ⟨g, action⟩ := t
  cases action with
  | submit => exact ⟨rfl, rfl⟩
  | start level =>
    have playable : level.Playable := by
      rw [resets, startsRound_start] at reset
      exact of_decide_eq_true reset
    exact g.start_fresh playable
  | jump steps =>
    have playable : (g.levelAt steps).Playable := by
      rw [resets, startsRound_jump] at reset
      exact of_decide_eq_true reset
    rw [outcome, Game.step, Game.jump_playable playable]
    exact Game.start_fresh _ playable
  | _ => contradiction

theorem outcome_attempt {t : Turn σ} {start : List Char} (attempt : t.before.round.Attempt start)
    (goesOn : t.resets = false) : t.outcome.game.round.Attempt start := by
  obtain ⟨g, action⟩ := t
  cases action with
  | tick | tickTo =>
    have moved (offset : Binary32) : { g.round with offset := offset }.Attempt start := attempt
    exact (moved _).settle _ _
  | fitScreen | poll | listen | unlisten => exact attempt
  | press letters => exact attempt.press letters
  | backspace => exact attempt.backspace
  | submit => contradiction
  | hit => exact Game.hit_attempt attempt
  | start level =>
    have refused : ¬level.Playable := by
      rw [resets, startsRound_start] at goesOn
      exact of_decide_eq_false goesOn
    rw [outcome, Game.step, g.start_refused refused]
    exact attempt
  | jump steps =>
    have refused : ¬(g.levelAt steps).Playable := by
      rw [resets, startsRound_jump] at goesOn
      exact of_decide_eq_false goesOn
    rw [outcome, Game.step, Game.jump_refused refused]
    exact attempt

end Turn

namespace Game

variable {σ : Type} [LevelSource σ]

theorem create_fresh {tuning : Tuning} {levels : σ} {lexicon : String → Bool} {seed : UInt64}
    {g : Game σ} {told : List Event}
    (created : create tuning levels lexicon seed = .ok (g, told)) : g.round.Attempt g.round.pool := by
  obtain ⟨-, playable, rfl, -⟩ := create_eq_ok_iff.mp created
  obtain ⟨typed, origins⟩ := start_fresh (idle tuning levels lexicon seed) playable
  exact Round.attempt_fresh typed origins

theorem after_attempt {g : Game σ} {first : List Char} (attempt : g.round.Attempt first)
    (actions : List Action) :
    (g.after actions).round.Attempt (Turn.basis first (g.turns actions)) := by
  induction actions using List.reverseRecOn with
  | nil => exact attempt
  | append_singleton done action ih =>
    rw [after_concat, turns_concat, Turn.basis_concat]
    cases reset : (⟨g.after done, action⟩ : Turn σ).resets with
    | true =>
      obtain ⟨typed, origins⟩ := Turn.resets_fresh reset
      exact Round.attempt_fresh typed origins
    | false => exact Turn.outcome_attempt ih reset

theorem step_typed_retraces (g : Game σ) {action : Action} (retraces : action.retraces = true) :
    (g.step action).game.round.typed =
      bif action.isBackspace then g.round.typed.dropLast else g.round.typed := by
  cases action with
  | tick | tickTo =>
    simp only [step, tick, tickTo, settle, Round.settle_eq]
    rfl
  | fitScreen | poll | listen | unlisten => rfl
  | backspace => exact Round.backspace_typed g.round
  | hit => exact g.hit_letters.1
  | press | submit | start | jump => contradiction

theorem retraces_attempt {g : Game σ} {start : List Char} (attempt : g.round.Attempt start)
    {actions : List Action} (retraces : ∀ action ∈ actions, action.retraces = true) :
    (g.after actions).round.Attempt start := by
  induction actions generalizing g with
  | nil => exact attempt
  | cons action rest ih =>
    have now := retraces action List.mem_cons_self
    have kept : (g.step action).game.round.Attempt start :=
      Turn.outcome_attempt (t := ⟨g, action⟩) attempt (Turn.resets_eq_false now)
    exact ih kept fun a member => retraces a (List.mem_cons_of_mem _ member)

theorem retraces_length (g : Game σ) {actions : List Action}
    (retraces : ∀ action ∈ actions, action.retraces = true) :
    (g.after actions).round.typed.length =
      g.round.typed.length - actions.countP Action.isBackspace := by
  induction actions generalizing g with
  | nil => rfl
  | cons action rest ih =>
    have later := ih (g.step action).game fun a member => retraces a (List.mem_cons_of_mem _ member)
    refine later.trans ?_
    rw [g.step_typed_retraces (retraces action List.mem_cons_self), List.countP_cons]
    cases action.isBackspace with
    | true =>
      simp only [cond_true, List.length_dropLast, if_true]
      omega
    | false => rfl

/-- Taking back as many letters as are typed, with anything in between that neither
types nor may end the attempt, leaves nothing typed and the pool with which the
attempt began. Each letter taken back clears one tile, and its origin is known and
within the pool. -/
theorem rewind_restores_attempt {tuning : Tuning} {levels : σ} {lexicon : String → Bool}
    {seed : UInt64} {g : Game σ} {told : List Event}
    (created : create tuning levels lexicon seed = .ok (g, told)) (actions : List Action)
    {rewind : List Action} (retraces : ∀ action ∈ rewind, action.retraces = true)
    (enough : rewind.countP Action.isBackspace = (g.after actions).round.typed.length) :
    let h := g.after actions
    let r := (h.after rewind).round
    r.typed = [] ∧ r.origins = [] ∧ (∀ t ∈ r.tiles, t.selected = false) ∧
    r.pool = Turn.basis g.round.pool (g.turns actions) ∧
    ∀ done rest, rewind = done ++ .backspace :: rest →
      (∃ index, ((h.after done).step .backspace).reply = .tiles [index]) ∧
      ∃ origin, (h.after done).round.origins.getLast? = some origin ∧
        origin ≤ (h.after done).round.pool.length := by
  intro h r
  have begun : h.round.Attempt (Turn.basis g.round.pool (g.turns actions)) :=
    after_attempt (create_fresh created) actions
  have reachable : h.Reachable := (Reachable.create created).after actions
  have attempt := retraces_attempt begun retraces
  have nothing : r.typed = [] := by
    apply List.eq_nil_of_length_eq_zero
    rw [h.retraces_length retraces, enough]
    exact Nat.sub_self _
  have drawn : Drawn (Turn.basis g.round.pool (g.turns actions)) [] r.origins r.pool := by
    rw [← nothing]
    exact attempt
  have coherent : r.Coherent := (reachable.after rewind).coherent
  refine ⟨nothing, drawn.nothing.1, coherent.unmarked nothing, drawn.nothing.2, ?_⟩
  intro done rest split
  -- The letter this call takes back is still there, for the calls before it were too few.
  have earlier : ∀ action ∈ done, action.retraces = true := by
    intro action member
    apply retraces
    rw [split]
    exact List.mem_append_left _ member
  have still := retraces_attempt begun earlier
  have something : (h.after done).round.typed ≠ [] := by
    have total : rewind.countP Action.isBackspace = h.round.typed.length := enough
    rw [split, List.countP_append, List.countP_cons_of_pos rfl] at total
    apply List.ne_nil_of_length_pos
    rw [h.retraces_length earlier]
    omega
  constructor
  · obtain ⟨index, reply⟩ := (reachable.after done).coherent.backspace_reply something
    exact ⟨index, congrArg Reply.tiles reply⟩
  · exact still.origin something

namespace Sample

/-- A word is accepted and two more letters are typed. -/
def typing : List Action := [.press ['L'], .press ['O'], .submit, .press ['P'], .press ['O', 'P']]

/-- The tiles are shuffled between the letters that are taken back. -/
def retracing : List Action := [.backspace, .tick 1, .hit, .backspace, .tickTo 5000]

end Sample

theorem rewind_restores_attempt_shoved :
    (∃ told, create Tuning.standard Sample.levels Sample.lexicon 7 = .ok (Sample.opening, told)) ∧
      (∀ action ∈ Sample.retracing, action.retraces = true) ∧
      Sample.retracing.countP Action.isBackspace =
        (Sample.opening.after Sample.typing).round.typed.length ∧
      ((Sample.opening.after Sample.typing).after Sample.retracing).round.word ≠
        (Sample.opening.after Sample.typing).round.word ∧
      ((Sample.opening.after Sample.typing).after Sample.retracing).round.typed = [] ∧
      ((Sample.opening.after Sample.typing).after Sample.retracing).round.pool =
        (Sample.opening.after (Sample.typing.take 3)).round.pool := by
  obtain ⟨told, created⟩ := Sample.create_opening
  have retraces : ∀ action ∈ Sample.retracing, action.retraces = true := by decide
  have enough : Sample.retracing.countP Action.isBackspace =
      (Sample.opening.after Sample.typing).round.typed.length := by decide +kernel
  obtain ⟨nothing, -, -, pool, -⟩ :=
    rewind_restores_attempt created Sample.typing retraces enough
  refine ⟨⟨told, created⟩, retraces, enough, by decide +kernel, nothing, pool.trans ?_⟩
  decide +kernel

end Game

end WordTrack
