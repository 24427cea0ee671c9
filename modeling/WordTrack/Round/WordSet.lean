/-! Sets of words in ascending order. Each set has one representation. -/
namespace WordTrack

structure WordSet where
  toList : List String
  ascending : toList.Pairwise (· < ·)
deriving DecidableEq, Repr

namespace WordSet

def empty : WordSet := ⟨[], .nil⟩

instance : EmptyCollection WordSet := ⟨empty⟩

instance : Inhabited WordSet := ⟨empty⟩

instance : Membership String WordSet := ⟨fun s word => word ∈ s.toList⟩

instance (word : String) (s : WordSet) : Decidable (word ∈ s) :=
  inferInstanceAs (Decidable (word ∈ s.toList))

/-- Inserts a word before the first greater one. -/
def insertSorted (word : String) : List String → List String
  | [] => [word]
  | x :: rest =>
    if word = x then x :: rest
    else if word < x then word :: x :: rest
    else x :: insertSorted word rest

theorem mem_insertSorted {x word : String} {words : List String} :
    x ∈ insertSorted word words ↔ x = word ∨ x ∈ words := by
  induction words with
  | nil => simp [insertSorted]
  | cons y rest ih =>
    simp only [insertSorted]
    split
    · next h => subst h; simp
    · split
      · simp
      · simp only [List.mem_cons, ih]
        exact or_left_comm

theorem lt_of_not_lt {a b : String} (ne : a ≠ b) (h : ¬a < b) : b < a := by
  apply Decidable.byContradiction
  intro h'
  exact ne (String.le_antisymm (String.not_lt.mp h') (String.not_lt.mp h))

theorem ascending_insertSorted {word : String} {words : List String}
    (h : words.Pairwise (· < ·)) : (insertSorted word words).Pairwise (· < ·) := by
  induction words with
  | nil => simp [insertSorted]
  | cons x rest ih =>
    obtain ⟨below, sorted⟩ := List.pairwise_cons.mp h
    simp only [insertSorted]
    split
    · exact h
    · next ne =>
      split
      · next lt =>
        refine List.pairwise_cons.mpr ⟨fun y member => ?_, h⟩
        rcases List.mem_cons.mp member with rfl | later
        · exact lt
        · exact String.lt_trans lt (below y later)
      · next nlt =>
        refine List.pairwise_cons.mpr ⟨fun y member => ?_, ih sorted⟩
        rcases mem_insertSorted.mp member with rfl | later
        · exact lt_of_not_lt ne nlt
        · exact below y later

def insert (s : WordSet) (word : String) : WordSet :=
  ⟨insertSorted word s.toList, ascending_insertSorted s.ascending⟩

theorem mem_insert {s : WordSet} {x word : String} : x ∈ s.insert word ↔ x = word ∨ x ∈ s :=
  mem_insertSorted

def ofList (words : List String) : WordSet := words.foldl insert empty

end WordSet

end WordTrack
