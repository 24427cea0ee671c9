import WordTrack.Round.Typing
import Mathlib.Data.List.Basic
import Mathlib.Data.List.Induction

/-! Each distinct letter once. Polling and pressing go through a list and remember the
letters seen, so that a letter counts where it first occurs. Both are one pass over the
distinct letters in that order. -/
namespace WordTrack

theorem eraseDups_concat (letters : List Char) (letter : Char) :
    (letters ++ [letter]).eraseDups =
      if letter ∈ letters then letters.eraseDups else letters.eraseDups ++ [letter] := by
  rw [List.eraseDups_append]
  split
  · next again => simp [List.removeAll, again]
  · next first => simp [List.removeAll, first, List.eraseDups_cons]

/-- Whether a letter was seen, told from the letters seen. -/
theorem contains_eraseDups (letters : List Char) (letter : Char) :
    letters.eraseDups.contains letter = true ↔ letter ∈ letters := by
  rw [List.contains_iff_mem, List.mem_eraseDups]

/-- Distinct letters come in the order of their first occurrence. -/
theorem eraseDups_ordered (letters : List Char) :
    letters.eraseDups.Pairwise fun a b => letters.idxOf a < letters.idxOf b := by
  induction letters using List.reverseRecOn with
  | nil => exact .nil
  | append_singleton letters letter ih =>
    have same {c : Char} (member : c ∈ letters.eraseDups) :
        (letters ++ [letter]).idxOf c = letters.idxOf c :=
      List.idxOf_append_of_mem (List.mem_eraseDups.mp member)
    have earlier : letters.eraseDups.Pairwise fun a b =>
        (letters ++ [letter]).idxOf a < (letters ++ [letter]).idxOf b := by
      refine ih.imp_of_mem ?_
      intro a b first second less
      rwa [same first, same second]
    rw [eraseDups_concat]
    split
    · exact earlier
    · next new =>
      refine List.pairwise_append.mpr ⟨earlier, List.pairwise_singleton _ _, ?_⟩
      intro c member other last
      obtain rfl := List.mem_singleton.mp last
      have inside := List.idxOf_lt_length_of_mem (List.mem_eraseDups.mp member)
      rw [same member, List.idxOf_append_of_notMem new]
      omega

theorem eraseDups_nodup (letters : List Char) : letters.eraseDups.Nodup := by
  refine (eraseDups_ordered letters).imp ?_
  rintro a b less rfl
  exact Nat.lt_irrefl _ less

namespace Round

/-- Types letters one after the other. -/
def typeEach (letters : List Char) (r : Round) : Round × List Nat :=
  letters.foldl (fun (r, indices) letter =>
    let (r, more) := r.pressOne letter
    (r, indices ++ more)) (r, [])

theorem typeEach_concat (letters : List Char) (letter : Char) (r : Round) :
    r.typeEach (letters ++ [letter]) =
      (((r.typeEach letters).1.pressOne letter).1,
        (r.typeEach letters).2 ++ ((r.typeEach letters).1.pressOne letter).2) := by
  simp only [typeEach, List.foldl_append, List.foldl_cons, List.foldl_nil]

/-- After some letters the distinct ones are seen, and those are typed. -/
theorem foldl_pressStep (letters : List Char) (r : Round) :
    letters.foldl pressStep ([], r, []) = (letters.eraseDups, r.typeEach letters.eraseDups) := by
  induction letters using List.reverseRecOn with
  | nil => rfl
  | append_singleton letters letter ih =>
    rw [List.foldl_append, ih, List.foldl_cons, List.foldl_nil, eraseDups_concat, pressStep]
    simp only [contains_eraseDups]
    split
    · rfl
    · rw [typeEach_concat]

theorem press_eq_typeEach (letters : List Char) (r : Round) :
    r.press letters = r.typeEach letters.eraseDups := by
  rw [press, foldl_pressStep]

section Poll

variable {m : Type → Type} [Monad m] [LawfulMonad m] (ask : Char → m Bool)

theorem filterAuxM_append (xs ys kept : List Char) :
    List.filterAuxM ask (xs ++ ys) kept =
      List.filterAuxM ask xs kept >>= fun kept => List.filterAuxM ask ys kept := by
  induction xs generalizing kept with
  | nil => simp [List.filterAuxM]
  | cons x xs ih => simp [List.filterAuxM, ih]

/-- The last letter is asked about after all others. -/
theorem filterM_concat (letters : List Char) (letter : Char) :
    (letters ++ [letter]).filterM ask = do
      let kept ← letters.filterM ask
      let yes ← ask letter
      return if yes then kept ++ [letter] else kept := by
  simp only [List.filterM, filterAuxM_append, List.filterAuxM, bind_assoc, pure_bind]
  congr 1
  funext kept
  congr 1
  funext yes
  cases yes <;> simp

/-- The loop over the pool and the loop over its distinct letters ask the same questions
in the same order. -/
theorem foldlM_pollStep (letters : List Char) :
    letters.foldlM (pollStep ask) ([], []) =
      (fun kept => (letters.eraseDups, kept)) <$> letters.eraseDups.filterM ask := by
  induction letters using List.reverseRecOn with
  | nil => simp [List.filterM, List.filterAuxM]
  | append_singleton letters letter ih =>
    rw [List.foldlM_append, ih, bind_map_left, eraseDups_concat]
    simp only [List.foldlM_cons, List.foldlM_nil, bind_pure, pollStep, contains_eraseDups]
    split
    · exact bind_pure_comp _ _
    · rw [filterM_concat, map_bind]
      congr 1
      funext kept
      rw [map_bind]
      congr 1
      funext yes
      cases yes <;> simp

theorem poll_eq_filterM (r : Round) : r.poll ask = r.pool.eraseDups.filterM ask := by
  rw [poll, foldlM_pollStep, bind_map_left]
  exact bind_pure _

end Poll

end Round

end WordTrack
