import WordTrack.Proofs.Grammar
import WordTrack.Proofs.Reading

/-! Strings and numerals of the grammar are read, or passed over, up to their end. Blanks
before a token make no difference, and a numeral ends where a value may end. -/
namespace WordTrack.Json

section Blanks

variable {α β : Type} {ws s s' : List Char}

theorem isBlank_iff {c : Char} :
    isBlank c = true ↔ c = ' ' ∨ c = '\n' ∨ c = '\t' ∨ c = '\r' := by
  simp [isBlank, or_assoc]

theorem token_append (blanks : Blanks ws) : token (ws ++ s) = token s := by
  have skipped : skipBlanks (ws ++ s) = .ok ((), s.dropWhile isBlank) := by
    change Except.ok ((), (ws ++ s).dropWhile isBlank) = _
    rw [List.dropWhile_append_of_pos blanks]
  have alone : skipBlanks s = .ok ((), s.dropWhile isBlank) := rfl
  unfold token
  rw [bind_ok skipped, bind_ok alone]

theorem bind_same {reader other : Reader α} (same : reader s = other s') (next : α → Reader β) :
    (reader >>= next) s = (other >>= next) s' := by
  change (reader s >>= fun p => next p.1 p.2) = (other s' >>= fun p => next p.1 p.2)
  rw [same]

/-- A reader that starts with a token passes over blanks before it. -/
theorem token_bind_append (blanks : Blanks ws) (next : Char → Reader β) :
    (token >>= next) (ws ++ s) = (token >>= next) s := bind_same (token_append blanks) next

theorem mark_append (blanks : Blanks ws) {c : Char} (solid : isBlank c = false) :
    mark c (ws ++ c :: s) = .ok ((), s) :=
  (token_bind_append blanks _).trans (mark_cons solid)

end Blanks

/-- What may come after a value: blanks, or what goes on around it. -/
def Bounded (rest : List Char) : Prop :=
  ∀ c ∈ rest.head?, isBlank c = true ∨ c = ',' ∨ c = ']' ∨ c = '}'

/-- What may come after a value cannot go on with a numeral. -/
theorem Bounded.outside {rest : List Char} (bounded : Bounded rest) {c : Char}
    (first : c ∈ rest.head?) : c.isDigit = false ∧ c ≠ '.' ∧ c ≠ 'e' ∧ c ≠ 'E' := by
  rcases bounded c first with blank | rfl | rfl | rfl
  · rcases isBlank_iff.mp blank with rfl | rfl | rfl | rfl <;> decide
  all_goals decide

theorem bounded_append {ws rest : List Char} {c : Char} (blanks : Blanks ws)
    (ends : c = ',' ∨ c = ']' ∨ c = '}') : Bounded (ws ++ c :: rest) := by
  cases ws with
  | nil =>
    rintro _ ⟨⟩
    exact .inr ends
  | cons d ws =>
    rintro _ ⟨⟩
    exact .inl (blanks d List.mem_cons_self)

section Text

variable {rest : List Char}

theorem hexQuad_append {q : List Char} {n : Nat} (quad : Quad q n) :
    hexQuad (q ++ rest) = .ok (n, rest) := by
  cases quad with
  | @digits a b c d w x y z first second third fourth =>
    have digits : List.mapM hexValue [a, b, c, d] = some [w, x, y, z] := by
      simp only [List.mapM_cons, List.mapM_nil, first, second, third, fourth,
        Option.bind_eq_bind, Option.bind_some, Option.pure_def]
    have size : ¬List.foldl (fun size c => size + Char.utf8Size c) 0 [a, b, c, d] < 4 := by
      have := a.utf8Size_pos
      have := b.utf8Size_pos
      have := c.utf8Size_pos
      have := d.utf8Size_pos
      simp only [List.foldl_cons, List.foldl_nil]
      omega
    have front : List.take 4 ([a, b, c, d] ++ rest) = [a, b, c, d] := rfl
    have value : List.foldl (fun n d => n * 16 + d) 0 [w, x, y, z] =
        ((w * 16 + x) * 16 + y) * 16 + z := by
      simp only [List.foldl_cons, List.foldl_nil, Nat.zero_mul, Nat.zero_add]
    unfold hexQuad
    rw [get_bind, front]
    dsimp only
    rw [if_neg size, digits, ← value]
    rfl

theorem escaped_numbered (s : List Char) : escaped ('u' :: s) = numberedEscape s := by
  have long : shortEscape 'u' = none := by decide
  unfold escaped
  rw [look_bind]
  dsimp only
  rw [drop_bind, long]
  dsimp only
  rw [if_pos rfl]

theorem textBody_escape {fuel : Nat} {done s : List Char} {c : Char}
    (read : escaped s = .ok (c, rest)) :
    textBody (fuel + 1) done ('\\' :: s) = textBody fuel (c :: done) rest := by
  rw [textBody, look_bind]
  dsimp only
  rw [drop_bind, if_neg (by decide), if_pos rfl]
  exact bind_ok read _

theorem escaped_short {e c : Char} (found : shortEscape e = some c) :
    escaped (e :: rest) = .ok (c, rest) := by
  unfold escaped
  rw [look_bind]
  dsimp only
  rw [drop_bind, found]
  rfl

theorem numberedEscape_unit {q : List Char} {n : Nat} (quad : Quad q n)
    (notHigh : isHighSurrogate n = false) (notLow : isLowSurrogate n = false) :
    numberedEscape (q ++ rest) = .ok (Char.ofNat n, rest) := by
  unfold numberedEscape
  rw [bind_ok (hexQuad_append quad), notLow, notHigh]
  rfl

theorem numberedEscape_pair {q r : List Char} {high low : Nat} (first : Quad q high)
    (second : Quad r low) (isHigh : isHighSurrogate high = true)
    (isLow : isLowSurrogate low = true) :
    numberedEscape (q ++ '\\' :: 'u' :: (r ++ rest)) =
      .ok (Char.ofNat (0x10000 + (high - 0xd800) * 0x400 + (low - 0xdc00)), rest) := by
  have notLow : isLowSurrogate high = false := by
    simp only [isHighSurrogate, isLowSurrogate, Bool.and_eq_true, Bool.and_eq_false_iff,
      decide_eq_true_eq, decide_eq_false_iff_not] at isHigh ⊢
    omega
  unfold numberedEscape
  rw [bind_ok (hexQuad_append first), notLow, isHigh, if_neg Bool.false_ne_true, if_pos rfl]
  refine (bind_ok (expect_append ['\\', 'u']) _).trans ((bind_ok (hexQuad_append second) _).trans ?_)
  rw [isLow]
  rfl

/-- A character is taken however it is written. -/
theorem Glyph.textBody {g : List Char} {c : Char} (glyph : Glyph g c) (fuel : Nat)
    (done : List Char) : textBody (fuel + 1) done (g ++ rest) = textBody fuel (c :: done) rest := by
  cases glyph with
  | bare bare quote backslash =>
    rw [List.singleton_append, Json.textBody, look_bind]
    dsimp only
    rw [drop_bind, if_neg quote, if_neg backslash, if_pos bare]
  | short found => exact textBody_escape (escaped_short found)
  | unit quad notHigh notLow =>
    exact textBody_escape ((escaped_numbered _).trans (numberedEscape_unit quad notHigh notLow))
  | @pair q r high low first second isHigh isLow =>
    have written : '\\' :: 'u' :: (q ++ '\\' :: 'u' :: r) ++ rest =
        '\\' :: 'u' :: (q ++ '\\' :: 'u' :: (r ++ rest)) := by
      simp only [List.cons_append, List.append_assoc]
    rw [written]
    exact textBody_escape
      ((escaped_numbered _).trans (numberedEscape_pair first second isHigh isLow))

theorem Glyph.length_pos {g : List Char} {c : Char} (glyph : Glyph g c) : 0 < g.length := by
  cases glyph <;> exact Nat.succ_pos _

theorem Spells.length_le {s cs : List Char} (spells : Spells s cs) : cs.length ≤ s.length := by
  induction spells with
  | nil => exact Nat.le_refl 0
  | cons glyph _ ih =>
    have := glyph.length_pos
    rw [List.length_append, List.length_cons]
    omega

theorem Spells.textBody {s cs : List Char} (spells : Spells s cs) {fuel : Nat}
    (enough : cs.length < fuel) (done : List Char) :
    textBody fuel done (s ++ '"' :: rest) = .ok (done.reverse ++ cs, rest) := by
  obtain ⟨fuel, rfl⟩ := Nat.exists_eq_add_one_of_ne_zero (Nat.ne_zero_of_lt enough)
  induction spells generalizing done fuel with
  | nil =>
    rw [List.append_nil]
    rfl
  | cons glyph _ ih =>
    have later := Nat.lt_of_succ_lt_succ enough
    obtain ⟨fuel, rfl⟩ := Nat.exists_eq_add_one_of_ne_zero (Nat.ne_zero_of_lt later)
    rw [List.append_assoc, glyph.textBody, ih _ fuel later, List.reverse_cons, List.append_assoc]
    rfl

/-- A string is read as what it spells. -/
theorem text_spells {s : List Char} {key : String} (spells : Spells s key.toList) :
    text (s ++ '"' :: rest) = .ok (key, rest) := by
  have enough : key.toList.length < (s ++ '"' :: rest).length + 1 := by
    have := spells.length_le
    rw [List.length_append]
    omega
  unfold text
  rw [get_bind, bind_ok (spells.textBody enough [])]
  change Except.ok (String.ofList key.toList, rest) = _
  rw [String.ofList_toList]

theorem passEscape_short {e c : Char} (found : shortEscape e = some c) :
    passEscape (e :: rest) = .ok ((), rest) := by
  unfold passEscape
  rw [look_bind]
  dsimp only
  rw [drop_bind, found]
  rfl

theorem passEscape_numbered {q : List Char} {n : Nat} (quad : Quad q n) :
    passEscape ('u' :: (q ++ rest)) = .ok ((), rest) := by
  have long : shortEscape 'u' = none := by decide
  unfold passEscape
  rw [look_bind]
  dsimp only
  rw [drop_bind, long, if_neg (by decide), if_pos rfl]
  change (hexQuad (q ++ rest) >>= fun p => pure ((), p.2)) = _
  rw [hexQuad_append quad]
  rfl

theorem passTextBody_escape {fuel : Nat} {s : List Char} (passed : passEscape s = .ok ((), rest)) :
    passTextBody (fuel + 1) ('\\' :: s) = passTextBody fuel rest := by
  rw [passTextBody, look_bind]
  dsimp only
  rw [drop_bind, if_neg (by decide), if_pos rfl]
  exact bind_ok passed _

theorem Stroke.passTextBody {p : List Char} (stroke : Stroke p) (fuel : Nat) :
    passTextBody (fuel + 1) (p ++ rest) = passTextBody fuel rest := by
  cases stroke with
  | bare bare quote backslash =>
    rw [List.singleton_append, Json.passTextBody, look_bind]
    dsimp only
    rw [drop_bind, if_neg quote, if_neg backslash, if_pos bare]
  | short found => exact passTextBody_escape (passEscape_short found)
  | numbered quad => exact passTextBody_escape (passEscape_numbered quad)

theorem Stroke.length_pos {p : List Char} (stroke : Stroke p) : 0 < p.length := by
  cases stroke <;> exact Nat.succ_pos _

theorem Strokes.passTextBody {s : List Char} (strokes : Strokes s) {fuel : Nat}
    (enough : s.length < fuel) : passTextBody fuel (s ++ '"' :: rest) = .ok ((), rest) := by
  obtain ⟨fuel, rfl⟩ := Nat.exists_eq_add_one_of_ne_zero (Nat.ne_zero_of_lt enough)
  induction strokes generalizing fuel with
  | nil => rfl
  | cons stroke _ ih =>
    have some := stroke.length_pos
    rw [List.length_append] at enough
    obtain ⟨fuel, rfl⟩ := Nat.exists_eq_add_one_of_ne_zero (by omega : fuel ≠ 0)
    rw [List.append_assoc, stroke.passTextBody]
    exact ih fuel (by omega)

theorem passText_strokes {s : List Char} (strokes : Strokes s) :
    passText (s ++ '"' :: rest) = .ok ((), rest) := by
  unfold passText
  rw [get_bind]
  apply strokes.passTextBody
  rw [List.length_append]
  omega

end Text

section Numerals

variable {rest : List Char}

theorem ne_of_isDigit {c d : Char} (digit : c.isDigit = true) (other : d.isDigit = false) : c ≠ d := by
  rintro rfl
  exact absurd digit (Bool.eq_false_iff.mp other)

theorem isBlank_of_isDigit {c : Char} (digit : c.isDigit = true) : isBlank c = false := by
  rw [Bool.eq_false_iff]
  intro blank
  simp only [isBlank, Bool.or_eq_true, beq_iff_eq] at blank
  rcases blank with ((rfl | rfl) | rfl) | rfl <;> exact absurd digit (by decide)

theorem Digits.cons (ds : Digits) : ∃ c more, ds.chars = c :: more ∧ c.isDigit = true := by
  obtain ⟨c, more, chars⟩ := List.exists_cons_of_ne_nil ds.ne_nil
  exact ⟨c, more, chars, ds.isDigit c (chars ▸ List.mem_cons_self)⟩

theorem Digits.head_ne (ds : Digits) {c : Char} (other : c.isDigit = false) :
    (ds.chars ++ rest).head? ≠ some c := by
  obtain ⟨d, more, chars, first⟩ := ds.cons
  rw [chars]
  exact fun same => ne_of_isDigit first other (Option.some.inj same)

theorem digits1_append (ds : Digits) (ends : ∀ c ∈ rest.head?, c.isDigit = false) :
    digits1 (ds.chars ++ rest) = .ok (ds.chars, rest) := by
  have run := takeRun_append ds.isDigit ends
  obtain ⟨c, more, chars, first⟩ := ds.cons
  rw [chars] at run ⊢
  unfold digits1
  rw [List.cons_append, look_bind]
  dsimp only
  rw [if_pos first]
  exact run

theorem fractionDigits_none (ends : rest.head? ≠ some '.') : fractionDigits rest = .ok (none, rest) := by
  change (if rest.head? = some '.' then _ else pure none : Reader (Option (List Char))) rest = _
  rw [if_neg ends]
  rfl

theorem exponentDigits_cons (s : List Char) :
    exponentDigits ('e' :: s) =
      (if s.head? = some '+' ∨ s.head? = some '-' then
        drop >>= fun _ => digits1 >>= fun ds => pure (some (decide (s.head? = some '-'), ds))
      else digits1 >>= fun ds => pure (some (decide (s.head? = some '-'), ds)) : Reader _) s := rfl

theorem exponentDigits_append (p : Power) (bounded : Bounded rest) :
    exponentDigits (p.chars ++ rest) = .ok (some p.parts, rest) := by
  obtain ⟨capital, sign, ds⟩ := p
  have digits := digits1_append ds fun c first => (bounded.outside first).1
  have small (s : List Char) :
      exponentDigits (Power.mark ⟨capital, sign, ds⟩ :: s) = exponentDigits ('e' :: s) := by
    cases capital <;> rfl
  rw [Power.chars, List.cons_append, small, exponentDigits_cons, List.append_assoc]
  match sign with
  | some false => exact (drop_bind '+' _).trans (bind_ok digits _)
  | some true => exact (drop_bind '-' _).trans (bind_ok digits _)
  | none =>
    -- Without a sign the first character is a digit, so nothing is passed over.
    have plus : (ds.chars ++ rest).head? ≠ some '+' := ds.head_ne rfl
    have minus : (ds.chars ++ rest).head? ≠ some '-' := ds.head_ne rfl
    change (if (ds.chars ++ rest).head? = some '+' ∨ (ds.chars ++ rest).head? = some '-' then _
      else digits1 >>= fun chars => pure (some (decide ((ds.chars ++ rest).head? = some '-'), chars)) :
        Reader _) (ds.chars ++ rest) = _
    rw [if_neg (not_or.mpr ⟨plus, minus⟩), decide_eq_false minus]
    exact bind_ok digits _

theorem number_minus (s : List Char) : number ('-' :: s) = unsignedNumeral true s := by
  unfold number numeral
  rw [token_bind (by decide), if_pos (.inl rfl), look_bind, if_pos rfl, drop_bind]

namespace Literal

theorem powerChars_head (l : Literal) (bounded : Bounded rest) :
    ∀ c ∈ (l.powerChars ++ rest).head?, c.isDigit = false ∧ c ≠ '.' := by
  unfold powerChars
  cases l.power with
  | none => exact fun c first => ⟨(bounded.outside first).1, (bounded.outside first).2.1⟩
  | some p =>
    obtain ⟨capital, sign, ds⟩ := p
    rintro _ ⟨⟩
    change (if capital then 'E' else 'e').isDigit = false ∧ (if capital then 'E' else 'e') ≠ '.'
    cases capital <;> decide

theorem fractionChars_head (l : Literal) (bounded : Bounded rest) :
    ∀ c ∈ (l.fractionChars ++ (l.powerChars ++ rest)).head?, c.isDigit = false := by
  unfold fractionChars
  cases l.fraction with
  | none => exact fun c first => (l.powerChars_head bounded c first).1
  | some ds =>
    rintro _ ⟨⟩
    decide

theorem wholeDigits_append (l : Literal) (bounded : Bounded rest) :
    wholeDigits (l.whole.chars ++ (l.fractionChars ++ (l.powerChars ++ rest))) =
      .ok (l.whole.chars, l.fractionChars ++ (l.powerChars ++ rest)) := by
  unfold wholeDigits
  rw [bind_ok (digits1_append l.whole (l.fractionChars_head bounded)), if_neg]
  · rfl
  · rintro ⟨zero, long⟩
    exact absurd (l.lead zero) (Nat.ne_of_gt long)

theorem fractionDigits_append (l : Literal) (bounded : Bounded rest) :
    fractionDigits (l.fractionChars ++ (l.powerChars ++ rest)) =
      .ok (l.fraction.map Digits.chars, l.powerChars ++ rest) := by
  have ends := l.powerChars_head bounded
  unfold fractionChars
  cases l.fraction with
  | none => exact fractionDigits_none fun first => (ends '.' first).2 rfl
  | some ds =>
    have digits := digits1_append ds fun c first => (ends c first).1
    exact bind_ok digits fun ds => pure (some ds)

theorem exponentDigits_append (l : Literal) (bounded : Bounded rest) :
    exponentDigits (l.powerChars ++ rest) = .ok (l.power.map Power.parts, rest) := by
  unfold powerChars
  cases l.power with
  | none =>
    cases rest with
    | nil => rfl
    | cons c more =>
      rcases bounded c rfl with blank | rfl | rfl | rfl
      · rcases isBlank_iff.mp blank with rfl | rfl | rfl | rfl <;> rfl
      all_goals rfl
  | some p => exact Json.exponentDigits_append p bounded

/-- What a numeral is read as. A whole one of 64 bits is kept exactly. Of any other the
digits that fit 64 bits make a double with the power of ten, unless it is too large. -/
def numeral (l : Literal) : Except Fault Numeral :=
  let (coefficient, left) := Numeral.absorb 0 l.whole.chars
  if left.isEmpty ∧ l.fraction.isNone ∧ l.power.isNone then
    .ok (Numeral.ofWhole l.negative coefficient)
  else
    let (coefficient, dropped) := Numeral.absorb coefficient l.places
    let exponent : Int := left.length - (l.places.length - dropped.length : Nat)
    (Numeral.ofParts coefficient exponent (l.power.map Power.parts)).map (.real l.negative)

theorem unsignedNumeral_append (l : Literal) (bounded : Bounded rest) :
    unsignedNumeral l.negative (l.unsignedChars ++ rest) = l.numeral.map (·, rest) := by
  have places : (l.fraction.map Digits.chars).getD [] = l.places := by
    unfold Literal.places
    cases l.fraction <;> rfl
  unfold unsignedNumeral unsignedChars numeral
  rw [List.append_assoc, List.append_assoc, bind_ok (l.wholeDigits_append bounded)]
  obtain ⟨coefficient, left⟩ := Numeral.absorb 0 l.whole.chars
  dsimp only
  rw [bind_ok (l.fractionDigits_append bounded), bind_ok (l.exponentDigits_append bounded),
    Option.isNone_map, Option.isNone_map, places]
  split
  · rfl
  · obtain ⟨coefficient, dropped⟩ := Numeral.absorb coefficient l.places
    dsimp only
    generalize Numeral.ofParts coefficient _ (l.power.map Power.parts) = answer
    cases answer <;> rfl

theorem unsignedChars_cons (l : Literal) :
    ∃ c more, l.unsignedChars = c :: more ∧ c.isDigit = true := by
  obtain ⟨c, more, digits, first⟩ := l.whole.cons
  refine ⟨c, more ++ (l.fractionChars ++ l.powerChars), ?_, first⟩
  rw [unsignedChars, digits, List.cons_append]

theorem number_append (l : Literal) (bounded : Bounded rest) :
    number (l.chars ++ rest) = l.numeral.map (·, rest) := by
  rw [← l.unsignedNumeral_append bounded, chars]
  cases l.negative with
  | true => exact number_minus _
  | false =>
    obtain ⟨c, more, digits, first⟩ := l.unsignedChars_cons
    have unsigned : some c ≠ some '-' := fun same => ne_of_isDigit first rfl (Option.some.inj same)
    rw [if_neg Bool.false_ne_true, List.nil_append, digits, List.cons_append]
    unfold number Json.numeral
    rw [token_bind (isBlank_of_isDigit first), if_pos (.inr first), look_bind, if_neg unsigned]

theorem passDigits_append (ds : Digits) (ends : ∀ c ∈ rest.head?, c.isDigit = false) :
    passDigits (ds.chars ++ rest) = .ok ((), rest) := by
  have some : ds.chars.isEmpty = false := by
    rw [List.isEmpty_eq_false_iff]
    exact ds.ne_nil
  unfold passDigits
  rw [bind_ok (takeRun_append ds.isDigit ends), some]
  rfl

/-- Passes over a power of ten, if there is one. -/
def passPower : Reader Unit := do
  let c ← look
  if c = some 'e' ∨ c = some 'E' then
    drop
    let sign ← look
    if sign = some '+' ∨ sign = some '-' then drop
    passDigits

theorem passPower_none (bounded : Bounded rest) : passPower rest = .ok ((), rest) := by
  have unmarked : ¬(rest.head? = some 'e' ∨ rest.head? = some 'E') := by
    rintro (first | first)
    · exact (bounded.outside first).2.2.1 rfl
    · exact (bounded.outside first).2.2.2 rfl
  change (if rest.head? = some 'e' ∨ rest.head? = some 'E' then _ else pure () : Reader Unit) rest = _
  rw [if_neg unmarked]
  rfl

theorem passPower_some (p : Power) (bounded : Bounded rest) :
    passPower (p.chars ++ rest) = .ok ((), rest) := by
  obtain ⟨capital, sign, ds⟩ := p
  have digits := passDigits_append ds fun c first => (bounded.outside first).1
  have small (s : List Char) : passPower (Power.mark ⟨capital, sign, ds⟩ :: s) =
      (if s.head? = some '+' ∨ s.head? = some '-' then drop >>= fun _ => passDigits
      else passDigits : Reader Unit) s := by
    cases capital <;> rfl
  rw [Power.chars, List.cons_append, small, List.append_assoc]
  match sign with
  | some false => exact digits
  | some true => exact digits
  | none => exact (congrFun (if_neg (not_or.mpr ⟨ds.head_ne rfl, ds.head_ne rfl⟩)) _).trans digits

theorem passNumeral_append (l : Literal) (bounded : Bounded rest) :
    passNumeral (l.unsignedChars ++ rest) = .ok ((), rest) := by
  have run := takeRun_append l.whole.isDigit (l.fractionChars_head bounded)
  have ends := l.powerChars_head bounded
  have power : passPower (l.powerChars ++ rest) = .ok ((), rest) := by
    unfold powerChars
    cases l.power with
    | none => exact passPower_none bounded
    | some p => exact passPower_some p bounded
  unfold passNumeral unsignedChars
  rw [List.append_assoc, List.append_assoc, bind_ok run, if_neg]
  · change (look >>= fun c => if c = some '.' then drop >>= fun _ => passDigits >>= fun _ => passPower
      else passPower) _ = _
    unfold fractionChars
    cases l.fraction with
    | none =>
      have plain : ¬(l.powerChars ++ rest).head? = some '.' := fun first => (ends '.' first).2 rfl
      exact (congrFun (if_neg plain) _).trans power
    | some ds =>
      have digits := passDigits_append ds fun c first => (ends c first).1
      exact (bind_ok digits fun _ => passPower).trans power
  · rintro (empty | ⟨zero, long⟩)
    · exact l.whole.ne_nil (List.isEmpty_iff.mp empty)
    · exact absurd (l.lead zero) (Nat.ne_of_gt long)

end Literal

end Numerals

end WordTrack.Json
