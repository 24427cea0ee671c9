import WordTrack.Json.Record
import WordTrack.Proofs.Writing

/-! Lists and records read back, item by item. A record gives the answer of its
members in turn, up to the first that is refused. -/
namespace WordTrack.Json

section Trees

variable {write : Binary32 → List Char} {rest : List Char}

theorem Opens.ne_nil {text : List Char} (opens : Opens text) : text ≠ [] := by
  obtain ⟨c, more, rfl, -⟩ := opens
  exact List.cons_ne_nil c more

/-- Parts of a list or an object with commas between them. The first part of what is
left of it has a comma before it too. -/
def listed : (first : Bool) → List (List Char) → List Char
  | _, [] => []
  | first, part :: parts => (if first then [] else [',']) ++ (part ++ listed false parts)

theorem itemChars_eq (items : List Tree) :
    Tree.itemChars write items = listed true (items.map (Tree.chars write)) := by
  cases items with
  | nil => rfl
  | cons item items =>
    induction items generalizing item with
    | nil => rw [Tree.itemChars, List.map_singleton, listed, listed, List.append_nil]; rfl
    | cons next items ih => rw [Tree.itemChars, ih]; rfl

def memberText (write : Binary32 → List Char) (m : String × Tree) : List Char :=
  textChars m.1 ++ ':' :: m.2.chars write

theorem memberText_ne_nil (m : String × Tree) : memberText write m ≠ [] := List.cons_ne_nil _ _

theorem memberChars_eq (ms : List (String × Tree)) :
    Tree.memberChars write ms = listed true (ms.map (memberText write)) := by
  cases ms with
  | nil => rfl
  | cons m ms =>
    induction ms generalizing m with
    | nil => rw [Tree.memberChars, List.map_singleton, listed, listed, List.append_nil]; rfl
    | cons next ms ih => rw [Tree.memberChars, ih]; rfl

theorem bounded_listed {close : Char} (closes : close = ']' ∨ close = '}') (parts : List (List Char)) :
    Bounded (listed false parts ++ close :: rest) := by
  cases parts with
  | nil =>
    rintro _ ⟨⟩
    exact .inr (.inr closes)
  | cons part parts =>
    rintro _ ⟨⟩
    exact .inr (.inl rfl)

/-- Parts that are not empty are at most as many as characters. -/
theorem length_le_listed {parts : List (List Char)} (some : ∀ part ∈ parts, part ≠ [])
    (first : Bool) : parts.length ≤ (listed first parts).length := by
  induction parts generalizing first with
  | nil => exact Nat.le_refl 0
  | cons part parts ih =>
    obtain ⟨front, later⟩ := List.forall_mem_cons.mp some
    have one := List.length_pos_iff.mpr front
    have more := ih later false
    simp only [listed, List.length_append, List.length_cons]
    omega

theorem infix_listed {part : List Char} {parts : List (List Char)} (member : part ∈ parts)
    (first : Bool) : part <:+: listed first parts := by
  induction parts generalizing first with
  | nil => exact absurd member List.not_mem_nil
  | cons head parts ih =>
    rw [listed]
    rcases List.mem_cons.mp member with rfl | later
    · exact List.infix_append' _ _ _
    · exact (ih later false).trans ((List.suffix_append _ _).trans (List.suffix_append _ _)).isInfix

section Lists

variable {α : Type} {element : Reader α} {tree : α → Tree}

/-- An array goes on with a value, at its start or after a comma. -/
theorem anotherElement_value (first : Bool) {text : List Char} (value : Opens text) (s : List Char) :
    anotherElement first ((if first then [] else [',']) ++ (text ++ s)) = .ok (true, text ++ s) := by
  obtain ⟨c, more, rfl, solid, opens⟩ := value
  rw [List.cons_append]
  unfold anotherElement
  cases first with
  | true =>
    rw [if_pos rfl, List.nil_append, token_bind solid, if_neg opens]
    rfl
  | false =>
    rw [if_neg Bool.false_ne_true, List.singleton_append, token_bind (by decide),
      if_neg (by decide), if_neg Bool.false_ne_true, if_pos rfl, drop_bind, token_bind solid,
      if_neg opens]
    rfl

theorem elements_listed {items : List α} (reads : ∀ x ∈ items, Reads write element (tree x) (.ok x))
    {fuel : Nat} (enough : items.length < fuel) (first : Bool) :
    elements element fuel first
        (listed first ((items.map tree).map (Tree.chars write)) ++ ']' :: rest) =
      .ok (items, ']' :: rest) := by
  induction items generalizing fuel first with
  | nil =>
    obtain ⟨fuel, rfl⟩ := Nat.exists_eq_add_one_of_ne_zero (Nat.ne_zero_of_lt enough)
    rfl
  | cons x items ih =>
    obtain ⟨fuel, rfl⟩ := Nat.exists_eq_add_one_of_ne_zero (Nat.ne_zero_of_lt enough)
    have later := ih (fun y member => reads y (List.mem_cons_of_mem x member))
      (Nat.lt_of_succ_lt_succ enough) false
    have here := reads x List.mem_cons_self
    rw [List.map_cons, List.map_cons, listed, List.append_assoc, List.append_assoc, elements,
      bind_ok (anotherElement_value first here.opens _), if_pos rfl,
      bind_ok (here.answers _ (bounded_listed (.inl rfl) _)), bind_ok later]
    rfl

theorem list_reads {items : List α} (reads : ∀ x ∈ items, Reads write element (tree x) (.ok x)) :
    Reads write (list element) (.list (items.map tree)) (.ok items) := by
  refine ⟨⟨'[', _, rfl, by decide, by decide⟩, fun rest _ => ?_⟩
  have enough : items.length <
      (listed true ((items.map tree).map (Tree.chars write)) ++ ']' :: rest).length + 1 := by
    have some : ∀ part ∈ (items.map tree).map (Tree.chars write), part ≠ [] := by
      simp only [List.map_map, List.mem_map]
      rintro _ ⟨x, member, rfl⟩
      exact (reads x member).opens.ne_nil
    have long := length_le_listed some true
    rw [List.length_map, List.length_map] at long
    rw [List.length_append]
    omega
  have written : (Tree.list (items.map tree)).chars write ++ rest =
      '[' :: (listed true ((items.map tree).map (Tree.chars write)) ++ ']' :: rest) := by
    rw [Tree.chars, itemChars_eq, List.cons_append, List.cons_append, List.append_assoc]
    rfl
  unfold list
  rw [written, token_bind (by decide), if_pos rfl, drop_bind, get_bind,
    bind_ok (elements_listed reads enough true), bind_ok (mark_cons (by decide))]
  rfl

end Lists

section Records

variable {δ ρ : Type} {fields : List (Field δ)} {d : δ}

/-- The members of an object bring a draft to this answer: to a draft with all their
fields, or to the fault of the first value that is refused. -/
inductive Fills (write : Binary32 → List Char) (fields : List (Field δ)) :
    δ → List (String × Tree) → Except Fault δ → Prop where
  | done (d : δ) : Fills write fields d [] (.ok d)
  | next {d d' : δ} {key : String} {value : Tree} {f : Field δ} {rest : List (String × Tree)}
      {answer : Except Fault δ} :
      fields.find? (·.key == key) = some f → f.present d = false →
      Reads write (f.read d) value (.ok d') → Fills write fields d' rest answer →
      Fills write fields d ((key, value) :: rest) answer
  | stop {d : δ} {key : String} {value : Tree} {f : Field δ} {rest : List (String × Tree)}
      {fault : Fault} :
      fields.find? (·.key == key) = some f → f.present d = false →
      Reads write (f.read d) value (.error fault) →
      Fills write fields d ((key, value) :: rest) (.error fault)

/-- A member after its key's opening quote. -/
theorem member_reads {key : String} {value : Tree} {f : Field δ}
    (found : fields.find? (·.key == key) = some f) (absent : f.present d = false)
    {answer : Except Fault δ} (reads : Reads write (f.read d) value answer) (bounded : Bounded rest) :
    member fields d (key.toList.flatMap textChar ++ '"' :: ':' :: (value.chars write ++ rest)) =
      answer.map (·, rest) := by
  unfold member
  rw [bind_ok (text_flatMap key), found]
  dsimp only
  rw [absent, if_neg Bool.false_ne_true, bind_ok (mark_cons (by decide)),
    reads.answers rest bounded]

/-- An object goes on with a key, at its start or after a comma. -/
theorem anotherKey_member (first : Bool) (key : String) (value : Tree) (s : List Char) :
    anotherKey first ((if first then [] else [',']) ++ (memberText write (key, value) ++ s)) =
      .ok (true, key.toList.flatMap textChar ++ '"' :: ':' :: (value.chars write ++ s)) := by
  have written : memberText write (key, value) ++ s =
      '"' :: (key.toList.flatMap textChar ++ '"' :: ':' :: (value.chars write ++ s)) := by
    rw [memberText, List.append_assoc, textChars_append]
    rfl
  rw [written]
  cases first <;> rfl

theorem Fills.members {ms : List (String × Tree)} {answer : Except Fault δ}
    (fills : Fills write fields d ms answer) {fuel : Nat} (enough : ms.length < fuel) (first : Bool)
    (rest : List Char) :
    members fields fuel first d (listed first (ms.map (memberText write)) ++ '}' :: rest) =
      answer.map (·, '}' :: rest) := by
  obtain ⟨fuel, rfl⟩ := Nat.exists_eq_add_one_of_ne_zero (Nat.ne_zero_of_lt enough)
  -- Each member takes one round; from the second on a comma comes first.
  induction fills generalizing fuel first with
  | done d => rfl
  | next found absent reads _ ih =>
    have later := Nat.lt_of_succ_lt_succ enough
    obtain ⟨fuel, rfl⟩ := Nat.exists_eq_add_one_of_ne_zero (Nat.ne_zero_of_lt later)
    rw [List.map_cons, listed, List.append_assoc, List.append_assoc, Json.members,
      bind_ok (anotherKey_member first _ _ _), if_pos rfl,
      bind_ok (member_reads found absent reads (bounded_listed (.inr rfl) _))]
    exact ih false fuel later
  | stop found absent reads =>
    rw [List.map_cons, listed, List.append_assoc, List.append_assoc, Json.members,
      bind_ok (anotherKey_member first _ _ _), if_pos rfl]
    exact bind_error (member_reads found absent reads (bounded_listed (.inr rfl) _)) _

theorem object_chars (ms : List (String × Tree)) (s : List Char) :
    (Tree.object ms).chars write ++ s = '{' :: (listed true (ms.map (memberText write)) ++ '}' :: s) := by
  rw [Tree.chars, memberChars_eq, List.cons_append, List.cons_append, List.append_assoc]
  rfl

theorem memberText_infix {m : String × Tree} {ms : List (String × Tree)} (member : m ∈ ms) :
    memberText write m <:+: (Tree.object ms).chars write := by
  have inside := infix_listed (List.mem_map_of_mem (f := memberText write) member) true
  have whole := @object_chars write ms []
  rw [List.append_nil] at whole
  rw [whole]
  exact inside.trans ⟨['{'], ['}'], by simp only [List.cons_append, List.nil_append]⟩

/-- A record in braces: the answer of its members, if a record can be made of it. -/
theorem Fills.reads {empty : δ} {ms : List (String × Tree)} {answer : Except Fault δ}
    (fills : Fills write fields empty ms answer) (finish : δ → Option ρ) :
    Reads write (record fields empty finish) (.object ms)
      (answer >>= fun d => (finish d).elim (.error .mismatched) .ok) := by
  refine ⟨⟨'{', _, rfl, by decide, by decide⟩, fun rest _ => ?_⟩
  have enough : ms.length < (listed true (ms.map (memberText write)) ++ '}' :: rest).length + 1 := by
    have some : ∀ part ∈ ms.map (memberText write), part ≠ [] := by
      simp only [List.mem_map]
      rintro _ ⟨m, -, rfl⟩
      exact memberText_ne_nil m
    have long := length_le_listed some true
    rw [List.length_map] at long
    rw [List.length_append]
    omega
  have read := fills.members enough true rest
  unfold record
  rw [object_chars, token_bind (by decide), if_pos rfl, drop_bind, get_bind]
  cases answer with
  | error fault => exact bind_error read _
  | ok d =>
    rw [bind_ok read]
    change _ = ((finish d).elim (.error .mismatched) .ok : Except Fault ρ).map (·, rest)
    dsimp only
    cases finish d <;> rfl

end Records

end Trees

end WordTrack.Json
