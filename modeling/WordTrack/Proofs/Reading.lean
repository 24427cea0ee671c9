import WordTrack.Json.Value
import Mathlib.Tactic.Common

/-! Readers step by step: what the parts of a reader do to the text before them. -/
namespace WordTrack.Json

section Steps

variable {α β : Type} {reader : Reader α} {s s' : List Char}

theorem bind_ok {a : α} (read : reader s = .ok (a, s')) (next : α → Reader β) :
    (reader >>= next) s = next a s' := by
  change (reader s >>= fun p => next p.1 p.2) = _
  rw [read]
  rfl

theorem bind_error {fault : Fault} (refused : reader s = .error fault) (next : α → Reader β) :
    (reader >>= next) s = .error fault := by
  change (reader s >>= fun p => next p.1 p.2) = _
  rw [refused]
  rfl

theorem get_bind (next : List Char → Reader β) : (get >>= next : Reader β) s = next s s := rfl

theorem look_bind (c : Char) (next : Option Char → Reader β) :
    (look >>= next) (c :: s) = next (some c) (c :: s) := rfl

theorem drop_bind (c : Char) (next : Unit → Reader β) : (drop >>= next) (c :: s) = next () s := rfl

theorem token_cons {c : Char} (solid : isBlank c = false) : token (c :: s) = .ok (c, c :: s) := by
  have stays : List.dropWhile isBlank (c :: s) = c :: s := by
    rw [List.dropWhile_cons, solid, if_neg Bool.false_ne_true]
  have skipped : skipBlanks (c :: s) = .ok ((), c :: s) := by
    change Except.ok ((), List.dropWhile isBlank (c :: s)) = _
    rw [stays]
  exact bind_ok skipped _

theorem token_bind {c : Char} (solid : isBlank c = false) (next : Char → Reader β) :
    (token >>= next) (c :: s) = next c (c :: s) := bind_ok (token_cons solid) next

theorem mark_cons {c : Char} (solid : isBlank c = false) : mark c (c :: s) = .ok ((), s) := by
  unfold mark
  rw [token_bind solid, if_pos rfl]
  rfl

theorem expect_append (chars : List Char) : expect chars (chars ++ s) = .ok ((), s) := by
  induction chars with
  | nil => rfl
  | cons c rest ih =>
    change (if c = c then drop >>= fun _ => expect rest else throw .malformed) (c :: (rest ++ s)) = _
    rw [if_pos rfl, drop_bind, ih]

theorem takeRun_append {p : Char → Bool} {run : List Char} (inside : ∀ c ∈ run, p c = true)
    (outside : ∀ c ∈ s.head?, p c = false) : takeRun p (run ++ s) = .ok (run, s) := by
  have ends : s.takeWhile p = [] ∧ s.dropWhile p = s := by
    cases s with
    | nil => exact ⟨rfl, rfl⟩
    | cons c rest =>
      have first := outside c rfl
      constructor
      · rw [List.takeWhile_cons, first, if_neg Bool.false_ne_true]
      · rw [List.dropWhile_cons, first, if_neg Bool.false_ne_true]
  change Except.ok ((run ++ s).takeWhile p, (run ++ s).dropWhile p) = _
  rw [List.takeWhile_append_of_pos inside, List.dropWhile_append_of_pos inside, ends.1, ends.2,
    List.append_nil]

end Steps

end WordTrack.Json
