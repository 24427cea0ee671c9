import WordTrack.Proofs.Numerals

/-! Reading what was written. Strings are read back whatever characters they hold, and so are
whole numbers of 64 bits. A finite number is read back if it is written as a numeral that
reads back by itself; one that is not finite is written as null and refused. -/
namespace WordTrack.Json

/-- The start of a value: a character of its own. -/
def Opens (text : List Char) : Prop := ∃ c more, text = c :: more ∧ isBlank c = false ∧ c ≠ ']'

/-- Over the text of a tree, a reader gives this answer and stops at its end. -/
structure Reads {α : Type} (write : Binary32 → List Char) (reader : Reader α) (tree : Tree)
    (answer : Except Fault α) : Prop where
  opens : Opens (tree.chars write)
  answers : ∀ rest, Bounded rest → reader (tree.chars write ++ rest) = answer.map (·, rest)

variable {write : Binary32 → List Char} {rest : List Char}

theorem Reads.map {α β : Type} {reader : Reader α} {tree : Tree} {answer : Except Fault α}
    (reads : Reads write reader tree answer) (f : α → β) :
    Reads write (do return f (← reader)) tree (answer.map f) := by
  refine ⟨reads.opens, fun rest bounded => ?_⟩
  have read := reads.answers rest bounded
  cases answer with
  | ok a => exact bind_ok read _
  | error fault => exact bind_error read _

/-- A text that holds nothing but the tree. -/
theorem Reads.parse {α : Type} {reader : Reader α} {tree : Tree} {answer : Except Fault α}
    (reads : Reads write reader tree answer) : parse reader (tree.render write) = answer := by
  have alone : reader (tree.chars write) = answer.map (·, []) := by
    rw [← reads.answers [] (by rintro _ ⟨⟩), List.append_nil]
  unfold Json.parse Tree.render
  rw [String.toList_ofList, alone]
  cases answer <;> rfl

section Text

theorem hexValue_hexDigit {n : Nat} (digit : n < 16) : hexValue (hexDigit n) = some n := by
  decide +revert

/-- A character is written as the grammar has it. -/
theorem glyph_textChar (c : Char) : Glyph (textChar c) c := by
  unfold textChar
  split
  case h_8 quote backslash _ _ _ _ _ =>
    split_ifs with bare
    · exact .bare bare quote backslash
    · have low : c.toNat < 32 := by simpa [isBare] using bare
      have high : c.toNat / 16 < 16 := by omega
      have units : c.toNat % 16 < 16 := Nat.mod_lt _ (by decide)
      have quad : Quad ['0', '0', hexDigit (c.toNat / 16), hexDigit (c.toNat % 16)]
          (((0 * 16 + 0) * 16 + c.toNat / 16) * 16 + c.toNat % 16) :=
        .digits rfl rfl (hexValue_hexDigit high) (hexValue_hexDigit units)
      have number : ((0 * 16 + 0) * 16 + c.toNat / 16) * 16 + c.toNat % 16 = c.toNat := by omega
      rw [number] at quad
      have glyph := Glyph.unit quad
        (by simp only [isHighSurrogate, Bool.and_eq_false_iff, decide_eq_false_iff_not]; omega)
        (by simp only [isLowSurrogate, Bool.and_eq_false_iff, decide_eq_false_iff_not]; omega)
      rwa [Char.ofNat_toNat] at glyph
  all_goals exact .short rfl

theorem spells_flatMap (cs : List Char) : Spells (cs.flatMap textChar) cs := by
  induction cs with
  | nil => exact .nil
  | cons c cs ih => exact .cons (glyph_textChar c) ih

theorem text_flatMap (s : String) :
    text (s.toList.flatMap textChar ++ '"' :: rest) = .ok (s, rest) :=
  text_spells (spells_flatMap s.toList)

theorem textChars_append (s : String) :
    textChars s ++ rest = '"' :: (s.toList.flatMap textChar ++ '"' :: rest) := by
  unfold textChars
  rw [List.cons_append, List.cons_append, List.append_assoc]
  rfl

theorem string_textChars (s : String) : string (textChars s ++ rest) = .ok (s, rest) := by
  unfold string
  rw [textChars_append, token_bind (by decide), if_pos rfl, drop_bind, text_flatMap]

theorem text_opens (s : String) : Opens ((Tree.text s).chars write) :=
  ⟨'"', _, rfl, by decide, by decide⟩

theorem string_reads (s : String) : Reads write string (.text s) (.ok s) :=
  ⟨text_opens s, fun _ _ => string_textChars s⟩

theorem character_reads (c : Char) : Reads write character (.text c.toString) (.ok c) := by
  refine ⟨text_opens _, fun rest bounded => ?_⟩
  unfold character
  rw [bind_ok (string_reads c.toString |>.answers rest bounded), Char.toString,
    String.toList_singleton]
  rfl

theorem named_reads {α : Type} {ofName : String → Option α} {name : String} {a : α}
    (found : ofName name = some a) : Reads write (named ofName) (.text name) (.ok a) := by
  refine ⟨text_opens _, fun rest bounded => ?_⟩
  change named ofName (textChars name ++ rest) = _
  unfold named
  rw [textChars_append, token_bind (by decide), if_pos rfl, ← textChars_append,
    bind_ok (string_textChars name)]
  dsimp only
  rw [found]
  rfl

end Text

theorem boolean_reads (b : Bool) : Reads write boolean (.boolean b) (.ok b) := by
  cases b with
  | false =>
    refine ⟨⟨'f', _, rfl, by decide, by decide⟩, fun rest _ => ?_⟩
    have chars : "false".toList = ['f', 'a', 'l', 's', 'e'] := rfl
    change boolean ("false".toList ++ rest) = _
    unfold boolean
    rw [chars, List.cons_append, token_bind (by decide), if_neg (by decide), if_pos rfl]
    exact bind_ok (expect_append ['f', 'a', 'l', 's', 'e']) _
  | true =>
    refine ⟨⟨'t', _, rfl, by decide, by decide⟩, fun rest _ => ?_⟩
    have chars : "true".toList = ['t', 'r', 'u', 'e'] := rfl
    change boolean ("true".toList ++ rest) = _
    unfold boolean
    rw [chars, List.cons_append, token_bind (by decide), if_pos rfl]
    exact bind_ok (expect_append ['t', 'r', 'u', 'e']) _

section Numbers

theorem Literal.opens (l : Literal) : Opens l.chars := by
  obtain ⟨c, more, chars, first⟩ := l.unsignedChars_cons
  unfold Literal.chars
  cases l.negative with
  | true => exact ⟨'-', _, rfl, by decide, by decide⟩
  | false => exact ⟨c, more, chars, isBlank_of_isDigit first, ne_of_isDigit first rfl⟩

theorem natural_reads {limit n : Nat} (small : n < limit) (fits : n ≤ Numeral.coefficientMax) :
    Reads write (natural limit) (.natural n) (.ok n) := by
  have chars : (Tree.natural n).chars write = (Literal.ofNat n).chars := (Literal.chars_ofNat n).symm
  refine ⟨chars ▸ (Literal.ofNat n).opens, fun rest bounded => ?_⟩
  have read := (Literal.ofNat n).number_append bounded
  rw [Literal.numeral_ofNat fits] at read
  rw [chars]
  unfold natural
  rw [bind_ok read]
  dsimp only
  rw [if_pos small]
  rfl

/-- The number is written as a numeral, and read alone it is the number again. -/
structure ReadsBack (write : Binary32 → List Char) (x : Binary32) : Prop where
  numeral : ∃ l : Literal, write x = l.chars
  same : parse real (String.ofList (write x)) = .ok x

/-- A numeral that reads back alone reads back among other text. -/
theorem ReadsBack.number {x : Binary32} (back : ReadsBack write x) :
    ∃ (l : Literal) (n : Numeral), write x = l.chars ∧ l.numeral = .ok n ∧ n.toBinary32 = x := by
  obtain ⟨l, written⟩ := back.numeral
  have same := back.same
  have ended : Bounded [] := by rintro _ ⟨⟩
  have alone := l.number_append ended
  rw [List.append_nil] at alone
  unfold Json.parse real at same
  rw [String.toList_ofList, written] at same
  cases stands : l.numeral with
  | error fault =>
    rw [stands] at alone
    rw [bind_error alone] at same
    contradiction
  | ok n =>
    rw [stands] at alone
    rw [bind_ok alone] at same
    exact ⟨l, n, written, stands, Except.ok.inj same⟩

theorem real_reads {x : Binary32} (finite : x.isFinite = true) (back : ReadsBack write x) :
    Reads write real (.real x) (.ok x) := by
  obtain ⟨l, n, written, stands, rfl⟩ := back.number
  have chars : (Tree.real n.toBinary32).chars write = l.chars := by
    rw [Tree.chars, if_pos finite, written]
  refine ⟨chars ▸ l.opens, fun rest bounded => ?_⟩
  have read := l.number_append bounded
  rw [stands] at read
  rw [chars]
  exact bind_ok read _

theorem number_null (rest : List Char) : number ("null".toList ++ rest) = .error .mismatched := by
  have chars : "null".toList = ['n', 'u', 'l', 'l'] := rfl
  unfold number refuse
  rw [chars, List.cons_append, token_bind (by decide), if_neg (by decide), token_bind (by decide),
    if_pos rfl]
  exact bind_ok (expect_append ['n', 'u', 'l', 'l']) _

theorem chars_null {x : Binary32} (infinite : x.isFinite = false) :
    (Tree.real x).chars write = "null".toList := by
  rw [Tree.chars, infinite, if_neg Bool.false_ne_true]

/-- A number that is not finite is written as null, which is no number. -/
theorem real_refuses {x : Binary32} (infinite : x.isFinite = false) :
    Reads write real (.real x) (.error .mismatched) := by
  have chars : (Tree.real x).chars write = "null".toList := chars_null infinite
  refine ⟨chars ▸ ⟨'n', _, rfl, by decide, by decide⟩, fun rest _ => ?_⟩
  rw [chars]
  exact bind_error (number_null rest) _

end Numbers

end WordTrack.Json
