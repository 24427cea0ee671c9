import WordTrack.Proofs.Scanning

/-! Passing over a value of the grammar, however deep it is nested. The reader keeps the
brackets that are still open, so what is proved of a value holds inside any of them: the
reader goes on after it as if it had not been there. -/
namespace WordTrack.Json

/-- Goes on after a value inside the open brackets, or after an opening bracket. -/
def resume (fuel : Nat) (fresh : Bool) (opened : List Bracket) : Reader Unit := do
  let still ← passClosings fresh opened
  match still with
  | [] => return
  | .array :: _ => passRest fuel still
  | .object :: _ =>
    passKey
    passRest fuel still

/-- Goes on to the next value inside a bracket. -/
def enter (fuel : Nat) (b : Bracket) (outer : List Bracket) : Reader Unit :=
  match b with
  | .array => passRest fuel (b :: outer)
  | .object => do
    passKey
    passRest fuel (b :: outer)

section Steps

variable {fuel : Nat} {b : Bracket} {opened outer : List Bracket} {ws s rest : List Char}

theorem passRest_start {start : Option Bracket} (read : passStart s = .ok (start, rest)) :
    passRest (fuel + 1) opened s = resume fuel start.isSome (start.toList ++ opened) rest :=
  bind_ok read _

theorem passRest_append (blanks : Blanks ws) :
    passRest fuel opened (ws ++ s) = passRest fuel opened s := by
  cases fuel with
  | zero => rfl
  | succ fuel =>
    have skipped : passStart (ws ++ s) = passStart s := token_bind_append blanks _
    exact bind_same skipped _

theorem enter_append (blanks : Blanks ws) : enter fuel b outer (ws ++ s) = enter fuel b outer s := by
  cases b with
  | array => exact passRest_append blanks
  | object =>
    have skipped : passKey (ws ++ s) = passKey s := bind_same (token_bind_append blanks _) _
    exact bind_same skipped _

theorem resume_same {fresh fresh' : Bool} {opened' : List Bracket}
    (same : passClosings fresh opened s = passClosings fresh' opened' rest) :
    resume fuel fresh opened s = resume fuel fresh' opened' rest := bind_same same _

theorem resume_enter {fresh : Bool}
    (still : passClosings fresh (b :: outer) s = .ok (b :: outer, rest)) :
    resume fuel fresh (b :: outer) s = enter fuel b outer rest := by
  unfold resume
  rw [bind_ok still]
  cases b <;> rfl

theorem Bracket.isBlank_closing (b : Bracket) : isBlank b.closing = false := by
  cases b <;> decide

theorem Bracket.comma_ne_closing (b : Bracket) : ',' ≠ b.closing := by
  cases b <;> decide

theorem resume_closing (blanks : Blanks ws) (fresh : Bool) :
    resume fuel fresh (b :: outer) (ws ++ b.closing :: rest) = resume fuel false outer rest := by
  apply resume_same
  rw [passClosings, token_bind_append blanks, token_bind b.isBlank_closing, if_pos rfl]
  rfl

theorem resume_comma (blanks : Blanks ws) :
    resume fuel false (b :: outer) (ws ++ ',' :: s) = enter fuel b outer s := by
  apply resume_enter
  rw [passClosings, token_bind_append blanks, token_bind (by decide), if_neg b.comma_ne_closing]
  rfl

/-- After an opening bracket the first value comes without a comma. -/
theorem resume_fresh (blanks : Blanks ws) {c : Char} (solid : isBlank c = false)
    (other : c ≠ b.closing) :
    resume fuel true (b :: outer) (ws ++ c :: s) = enter fuel b outer (ws ++ c :: s) := by
  rw [enter_append blanks]
  apply resume_enter
  rw [passClosings, token_bind_append blanks, token_bind solid, if_neg other]
  rfl

theorem passKey_append {before key after : List Char} (blanks : Blanks before)
    (strokes : Strokes key) (blanks' : Blanks after) :
    passKey (before ++ '"' :: (key ++ '"' :: (after ++ ':' :: rest))) = .ok ((), rest) := by
  unfold passKey
  rw [bind_ok (mark_append blanks (by decide)), bind_ok (passText_strokes strokes),
    mark_append blanks' (by decide)]

theorem enter_lead {lead : List Char} (leads : Lead b lead) :
    enter fuel b outer (lead ++ s) = passRest fuel (b :: outer) s := by
  cases leads with
  | array blanks => exact passRest_append blanks
  | object before strokes after gap =>
    simp only [List.append_assoc, List.cons_append]
    exact (bind_ok (passKey_append before strokes after) _).trans (passRest_append gap)

end Steps

section Values

variable {b : Bracket} {v t lead rest : List Char}

theorem passStart_word (word : v ∈ ["null".toList, "true".toList, "false".toList]) :
    passStart (v ++ rest) = .ok (none, rest) := by
  simp only [List.mem_cons, List.not_mem_nil, or_false] at word
  rcases word with rfl | rfl | rfl
  · exact bind_ok (expect_append ['n', 'u', 'l', 'l']) fun _ => pure none
  · exact bind_ok (expect_append ['t', 'r', 'u', 'e']) fun _ => pure none
  · exact bind_ok (expect_append ['f', 'a', 'l', 's', 'e']) fun _ => pure none

theorem passStart_number (l : Literal) (bounded : Bounded rest) :
    passStart (l.chars ++ rest) = .ok (none, rest) := by
  have passed := l.passNumeral_append bounded
  unfold Literal.chars
  cases l.negative with
  | true => exact bind_ok passed fun _ => pure none
  | false =>
    obtain ⟨c, more, digits, first⟩ := l.unsignedChars_cons
    rw [if_neg Bool.false_ne_true, List.nil_append]
    rw [digits] at passed ⊢
    unfold passStart
    rw [List.cons_append, token_bind (isBlank_of_isDigit first), if_neg (ne_of_isDigit first rfl),
      if_neg (ne_of_isDigit first rfl), if_neg (ne_of_isDigit first rfl),
      if_neg (ne_of_isDigit first rfl), if_pos first]
    exact bind_ok passed _

theorem passStart_text (strokes : Strokes v) :
    passStart ('"' :: (v ++ ['"']) ++ rest) = .ok (none, rest) := by
  rw [List.cons_append, List.append_assoc]
  exact bind_ok (passText_strokes strokes) fun _ => pure none

theorem passStart_opening (b : Bracket) (s : List Char) :
    passStart (b.opening :: s) = .ok (some b, s) := by
  cases b <;> rfl

/-- A value starts with a character of its own. -/
theorem Written.value_cons (written : Written .value v) :
    ∃ c more, v = c :: more ∧ isBlank c = false ∧ c ≠ ']' := by
  cases written with
  | word member =>
    simp only [List.mem_cons, List.not_mem_nil, or_false] at member
    rcases member with rfl | rfl | rfl <;> exact ⟨_, _, rfl, by decide, by decide⟩
  | number l =>
    obtain ⟨c, more, digits, first⟩ := l.unsignedChars_cons
    unfold Literal.chars
    cases l.negative with
    | true => exact ⟨_, _, rfl, by decide, by decide⟩
    | false => exact ⟨c, more, digits, isBlank_of_isDigit first, ne_of_isDigit first rfl⟩
  | text => exact ⟨_, _, rfl, by decide, by decide⟩
  | empty b => exact ⟨_, _, rfl, by cases b <;> decide, by cases b <;> decide⟩
  | @full b => exact ⟨_, _, rfl, by cases b <;> decide, by cases b <;> decide⟩

theorem Written.tail_bounded (written : Written (.tail b) t) : Bounded (t ++ rest) := by
  cases written with
  | close b blanks =>
    rw [List.append_assoc]
    exact bounded_append blanks (by cases b <;> decide)
  | more blanks =>
    rw [List.append_assoc]
    exact bounded_append blanks (.inl rfl)

/-- After an opening bracket comes no closing one if a value follows. -/
theorem resume_lead {fuel : Nat} {outer : List Bracket} (leads : Lead b lead)
    (written : Written .value v) :
    resume fuel true (b :: outer) (lead ++ (v ++ rest)) =
      passRest fuel (b :: outer) (v ++ rest) := by
  rw [← enter_lead leads]
  cases leads with
  | array blanks =>
    obtain ⟨c, more, rfl, solid, other⟩ := written.value_cons
    exact resume_fresh blanks solid other
  | object before =>
    simp only [List.append_assoc, List.cons_append]
    exact resume_fresh before (by decide) (by decide)

/-- What passing over a part of a text does. A value makes no difference to the brackets
around it, and what stands after a value closes the innermost one. -/
def Passes : Part → List Char → Prop
  | .value, v => ∃ rounds ≤ v.length, ∀ fuel opened rest, Bounded rest →
      passRest (fuel + rounds) opened (v ++ rest) = resume fuel false opened rest
  | .tail b, t => ∃ rounds ≤ t.length, ∀ fuel outer rest,
      resume (fuel + rounds) false (b :: outer) (t ++ rest) = resume fuel false outer rest

theorem passes_scalar (start : ∀ rest, Bounded rest → passStart (v ++ rest) = .ok (none, rest))
    (some : v ≠ []) : Passes .value v := by
  refine ⟨1, List.length_pos_iff.mpr some, ?_⟩
  intro fuel opened rest bounded
  exact passRest_start (start rest bounded)

theorem Written.passes {part : Part} {s : List Char} (written : Written part s) : Passes part s := by
  induction written with
  | word member =>
    refine passes_scalar (fun rest _ => passStart_word member) ?_
    rintro rfl
    exact absurd member (by decide)
  | number l =>
    refine passes_scalar (fun rest => passStart_number l) ?_
    obtain ⟨c, more, chars, -⟩ := (Written.number l).value_cons
    rw [chars]
    exact List.cons_ne_nil c more
  | text strokes =>
    exact passes_scalar (fun rest _ => passStart_text strokes) (List.cons_ne_nil _ _)
  | @empty b ws blanks =>
    refine ⟨1, Nat.succ_pos _, ?_⟩
    intro fuel opened rest _
    rw [List.cons_append, List.append_assoc, passRest_start (passStart_opening b _)]
    exact resume_closing blanks true
  | @full b lead v t leads value tail inside after =>
    obtain ⟨rounds, few, inside⟩ := inside
    obtain ⟨rounds', few', after⟩ := after
    refine ⟨rounds' + rounds + 1, ?_, ?_⟩
    · simp only [List.length_cons, List.length_append]
      omega
    · intro fuel opened rest _
      rw [List.cons_append, List.append_assoc, List.append_assoc, ← Nat.add_assoc,
        passRest_start (passStart_opening b _)]
      refine (resume_lead leads value).trans ?_
      rw [← Nat.add_assoc, inside _ _ _ tail.tail_bounded]
      exact after fuel opened rest
  | @close b ws blanks =>
    refine ⟨0, Nat.zero_le _, ?_⟩
    intro fuel outer rest
    rw [List.append_assoc]
    exact resume_closing blanks false
  | @more b ws lead v t blanks leads value tail inside after =>
    obtain ⟨rounds, few, inside⟩ := inside
    obtain ⟨rounds', few', after⟩ := after
    refine ⟨rounds' + rounds, ?_, ?_⟩
    · simp only [List.length_cons, List.length_append]
      omega
    · intro fuel outer rest
      simp only [List.append_assoc, List.cons_append]
      rw [resume_comma blanks, enter_lead leads, ← Nat.add_assoc,
        inside _ _ _ tail.tail_bounded, after]

/-- Any value is passed over. -/
theorem passValue_append {ws : List Char} (blanks : Blanks ws) (written : Written .value v)
    (bounded : Bounded rest) : passValue (ws ++ (v ++ rest)) = .ok ((), rest) := by
  obtain ⟨rounds, few, passes⟩ := written.passes
  obtain ⟨fuel, enough⟩ : ∃ fuel, (ws ++ (v ++ rest)).length + 1 = fuel + rounds := by
    refine ⟨_, (Nat.sub_add_cancel ?_).symm⟩
    simp only [List.length_append]
    omega
  unfold passValue
  rw [get_bind, enough, passRest_append blanks, passes fuel [] rest bounded]
  rfl

end Values

end WordTrack.Json
