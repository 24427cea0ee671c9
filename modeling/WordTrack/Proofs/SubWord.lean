import WordTrack.Demo
import WordTrack.Proofs.Solving
import Mathlib.Data.Multiset.Count

/-! Which words can be typed. A key types its letter if the pool still has it and
does nothing otherwise. So a word is typed whole exactly if its letters can be had
from those of the target, copies counted, however long the typist waits between two
keys and whatever hits the word meanwhile. -/
namespace WordTrack

/-- Whether an action lets things happen without typing, taking back or ending the
attempt. -/
def Action.waits : Action → Bool
  | .tick _ | .tickTo _ | .fitScreen _ | .poll _ | .hit | .listen _ | .unlisten => true
  | _ => false

/-- A key hit by the typist, or something that happens between two keys. -/
inductive Beat where
  | key (letter : Char)
  | pause (action : Action)

namespace Beat

def letter? : Beat → Option Char
  | .key letter => some letter
  | .pause _ => none

/-- The keys hit, in order. -/
def letters (beats : List Beat) : List Char := beats.filterMap letter?

def waits : Beat → Bool
  | .key _ => true
  | .pause action => action.waits

end Beat

namespace Round

theorem filterM_pure (p : Char → Bool) (letters : List Char) :
    Id.run (letters.filterM fun c => pure (p c)) = letters.filter p := by
  induction letters using List.reverseRecOn with
  | nil => rfl
  | append_singleton letters letter ih =>
    rw [filterM_concat, List.filter_append, ← ih, List.filter_singleton]
    cases p letter <;> simp

/-- Asking without effects filters the distinct letters of the pool. -/
theorem poll_pure (r : Round) (down : Char → Bool) :
    Id.run (r.poll fun c => pure (down c)) = r.pool.eraseDups.filter down := by
  rw [poll_eq_filterM, filterM_pure]

/-- Pressing what one key offers is typing its letter. -/
theorem press_polled (r : Round) (letter : Char) :
    r.press (Id.run (r.poll fun c => pure (c == letter))) = r.pressOne letter := by
  rw [poll_pure, List.filter_beq]
  cases copies : r.pool.eraseDups.count letter with
  | zero =>
    have absent : letter ∉ r.pool := by
      rwa [List.count_eq_zero, List.mem_eraseDups] at copies
    rw [pressOne_absent absent]
    rfl
  | succ n =>
    have distinct : (List.replicate (n + 1) letter).eraseDups = [letter] := by
      simp [List.replicate_succ, List.eraseDups_cons]
    rw [← press_singleton, press_eq_typeEach, press_eq_typeEach, distinct]
    rfl

end Round

namespace Game

variable {σ : Type}

/-- Asks which letter of the pool a key stands for and presses what is offered. -/
def key (g : Game σ) (letter : Char) : Game σ :=
  (g.press (Id.run (g.round.poll fun c => pure (c == letter)))).game

theorem key_round (g : Game σ) (letter : Char) :
    (g.key letter).round = (g.round.pressOne letter).1 :=
  congrArg Prod.fst (g.round.press_polled letter)

variable [LevelSource σ]

/-- The game after some keys and what happened between them. -/
def keyed (g : Game σ) : List Beat → Game σ
  | [] => g
  | .key letter :: rest => (g.key letter).keyed rest
  | .pause action :: rest => (g.step action).game.keyed rest

theorem step_waits (g : Game σ) {action : Action} (waits : action.waits = true) :
    (g.step action).game.round.typed = g.round.typed ∧
      (g.step action).game.round.pool = g.round.pool := by
  cases action with
  | tick | tickTo =>
    simp only [step, tick, tickTo, settle, Round.settle_eq, and_self]
  | fitScreen | poll | listen | unlisten => exact ⟨rfl, rfl⟩
  | hit => exact ⟨g.hit_letters.1, g.hit_letters.2.2⟩
  | press | backspace | submit | start | jump => contradiction

/-- A key adds at most one letter. -/
theorem keyed_length_le (g : Game σ) {beats : List Beat} (waits : ∀ b ∈ beats, b.waits = true) :
    (g.keyed beats).round.typed.length ≤ g.round.typed.length + (Beat.letters beats).length := by
  induction beats generalizing g with
  | nil => exact Nat.le_refl _
  | cons beat rest ih =>
    have later : ∀ b ∈ rest, b.waits = true := fun b member => waits b (List.mem_cons_of_mem _ member)
    cases beat with
    | pause action =>
      refine (ih (g.step action).game later).trans_eq ?_
      rw [(g.step_waits (waits _ List.mem_cons_self)).1]
      rfl
    | key letter =>
      have typed : (g.key letter).round.typed.length ≤ g.round.typed.length + 1 := by
        rw [key_round]
        by_cases present : letter ∈ g.round.pool
        · rw [(Round.pressOne_present present).1, List.length_append]
          rfl
        · rw [Round.pressOne_absent present]
          exact Nat.le_succ _
      have length : (Beat.letters (.key letter :: rest)).length = (Beat.letters rest).length + 1 := rfl
      have bound := ih (g.key letter) later
      simp only [keyed, length]
      omega

/-- All keys type their letters exactly if the pool holds these letters. -/
theorem keyed_typed_iff (g : Game σ) {beats : List Beat} (waits : ∀ b ∈ beats, b.waits = true) :
    (g.keyed beats).round.typed = g.round.typed ++ Beat.letters beats ↔
      (Beat.letters beats).Subperm g.round.pool := by
  induction beats generalizing g with
  | nil => simp [keyed, Beat.letters]
  | cons beat rest ih =>
    have later : ∀ b ∈ rest, b.waits = true := fun b member => waits b (List.mem_cons_of_mem _ member)
    cases beat with
    | pause action =>
      obtain ⟨typed, pool⟩ := g.step_waits (waits _ List.mem_cons_self)
      have still := ih (g.step action).game later
      rwa [typed, pool] at still
    | key letter =>
      have letters : Beat.letters (.key letter :: rest) = letter :: Beat.letters rest := rfl
      rw [letters, keyed]
      by_cases present : letter ∈ g.round.pool
      · obtain ⟨typed, pool⟩ := Round.pressOne_present present
        have still := ih (g.key letter) later
        rw [key_round, typed, List.append_assoc, List.singleton_append] at still
        rw [still, pool.subperm_left, List.subperm_cons]
      -- A letter that is not there leaves the typed letters one short for good.
      · constructor
        · intro whole
          have unchanged : (g.key letter).round.typed = g.round.typed := by
            rw [key_round, Round.pressOne_absent present]
          have bound := (g.key letter).keyed_length_le later
          rw [whole, unchanged, List.length_append, List.length_cons] at bound
          omega
        · intro enough
          exact absurd (enough.subset List.mem_cons_self) present

end Game

/-- Taking letters one after the other succeeds exactly if the stock holds them all. -/
theorem Demo.takesFrom_iff_subperm (letters stock : List Char) :
    takesFrom letters stock = true ↔ letters.Subperm stock := by
  induction letters generalizing stock with
  | nil => simp [takesFrom, List.nil_subperm]
  | cons c rest ih =>
    rw [takesFrom, Bool.and_eq_true, List.contains_iff_mem, ih]
    constructor
    · rintro ⟨present, enough⟩
      rw [(List.perm_cons_erase present).subperm_left, List.subperm_cons]
      exact enough
    · intro enough
      have present : c ∈ stock := enough.subset List.mem_cons_self
      rw [(List.perm_cons_erase present).subperm_left, List.subperm_cons] at enough
      exact ⟨present, enough⟩

namespace Game

variable {σ : Type} [LevelSource σ]

/-- Hitting the keys of a word with nothing typed before, whatever happens between
them, types the word exactly if no letter occurs in it more often than in the target,
and so exactly if it is a sub-word of the target. -/
theorem typed_iff_subWord {g : Game σ} (reachable : g.Reachable) (nothing : g.round.typed = [])
    {word : String} {beats : List Beat} (keys : Beat.letters beats = word.toList)
    (waits : ∀ b ∈ beats, b.waits = true) :
    ((g.keyed beats).round.candidate = word ↔
      ∀ c, word.toList.count c ≤ g.round.target.toList.count c) ∧
    ((∀ c, word.toList.count c ≤ g.round.target.toList.count c) ↔
      Demo.isSubWord word g.round.target = true) := by
  have coherent := reachable.coherent
  have pool : g.round.pool.Perm g.round.target.toList := by
    have shared := coherent.shared.trans coherent.spelled
    rwa [nothing, List.append_nil] at shared
  have counts : word.toList.Subperm g.round.target.toList ↔
      ∀ c, word.toList.count c ≤ g.round.target.toList.count c := by
    rw [← Multiset.coe_le, Multiset.le_iff_count]
    simp only [Multiset.coe_count]
  have typed := g.keyed_typed_iff waits
  rw [nothing, List.nil_append, keys, pool.subperm_left, counts] at typed
  constructor
  · rw [← typed, Round.candidate, ← String.toList_inj, String.toList_ofList]
  · rw [Demo.isSubWord, Demo.takesFrom_iff_subperm, counts]

namespace Sample

/-- A word was accepted and is about to hit. -/
def thrown : Game LevelCycle := opening.after [.press ['L'], .press ['O'], .submit]

/-- The tiles are shuffled in the middle of the word. -/
def pool : List Beat :=
  [.key 'P', .key 'O', .pause (.tick 1), .pause .hit, .key 'O', .pause (.tickTo 90), .key 'L']

def pop : List Beat := [.key 'P', .pause .hit, .key 'O', .key 'P']

end Sample

theorem typed_iff_subWord_thrown :
    Sample.thrown.Reachable ∧ Sample.thrown.round.typed = [] ∧ Sample.thrown.round.mayShove = true ∧
      Sample.thrown.round.target = "LOOP" ∧
      (Sample.thrown.keyed Sample.pool).round.candidate = "POOL" ∧
      Demo.isSubWord "POOL" "LOOP" = true ∧
      (Sample.thrown.keyed Sample.pop).round.candidate ≠ "POP" ∧
      Demo.isSubWord "POP" "LOOP" = false := by
  have reachable : Sample.thrown.Reachable := Sample.opening_reachable.after _
  have nothing : Sample.thrown.round.typed = [] := by decide +kernel
  have target : Sample.thrown.round.target = "LOOP" := by decide +kernel
  have spelled : Beat.letters Sample.pool = "POOL".toList := by decide
  have misspelled : Beat.letters Sample.pop = "POP".toList := by decide
  obtain ⟨whole, counts⟩ := typed_iff_subWord reachable nothing spelled (by decide)
  obtain ⟨short, lacks⟩ := typed_iff_subWord reachable nothing misspelled (by decide)
  have fits : Demo.isSubWord "POOL" "LOOP" = true := by decide
  have lacking : Demo.isSubWord "POP" "LOOP" = false := by decide
  rw [target] at counts lacks
  refine ⟨reachable, nothing, by decide +kernel, target, ?_, fits, ?_, lacking⟩
  · rw [whole, target]
    exact counts.mpr fits
  · rw [Ne, short, target, lacks, lacking]
    exact Bool.false_ne_true

end Game

end WordTrack
