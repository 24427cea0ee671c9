import WordTrack.Random.Shuffle
import Mathlib.Data.List.Perm.Basic

/-! Shuffling only reorders. The positions may be any numbers, so nothing is
assumed of the generator that draws them. -/
namespace WordTrack

open scoped List

namespace Shuffle

variable {α : Type}

theorem place_perm (placed : List α) (x : α) (position : Nat) :
    (place placed x position).Perm (x :: placed) := by
  unfold place
  split
  · next y found =>
    obtain ⟨inside, rfl⟩ := List.getElem?_eq_some_iff.mp found
    calc placed.set position x ++ [placed[position]]
      _ ~ placed[position] :: placed.set position x := List.perm_append_singleton _ _
      _ ~ placed[position] :: x :: placed.eraseIdx position :=
        (List.set_perm_cons_eraseIdx inside x).cons _
      _ ~ x :: placed[position] :: placed.eraseIdx position := List.Perm.swap _ _ _
      _ ~ x :: placed := (List.getElem_cons_eraseIdx_perm inside).cons x
  · exact List.perm_append_singleton x placed

theorem arrange_perm (placed xs : List α) (positions : List Nat) :
    (arrange placed xs positions).Perm (placed ++ xs) := by
  fun_induction arrange placed xs positions with
  | case1 placed x xs p ps ih =>
    have moved := (place_perm placed x p).append_right xs
    exact ih.trans (moved.trans List.perm_middle.symm)
  | case2 => exact .refl _

end Shuffle

theorem Generator.shuffle_perm {α : Type} (g : Generator) (xs : List α) :
    (g.shuffle xs).1.Perm xs :=
  Shuffle.arrange_perm [] xs _

end WordTrack
