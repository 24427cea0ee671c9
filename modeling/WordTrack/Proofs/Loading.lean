import WordTrack.Tuning
import WordTrack.Proofs.Conversion
import WordTrack.Proofs.Passing

/-! Loading a tuning. The members of its object may come in any order and among any
others: a known key sets its value, an unknown one is passed over with all that it holds,
and what was not given is standard. So what is loaded depends on the known keys alone. -/
namespace WordTrack

namespace Json

section Values

variable {α β : Type} {reader : Reader α} {answer : Except Fault α} {v : List Char} {n : Nat}

/-- The reader answers this to a text, blanks before it included, and stops at its end. -/
def Takes (reader : Reader α) (v : List Char) (answer : Except Fault α) : Prop :=
  ∀ ws rest, Blanks ws → Bounded rest → reader (ws ++ (v ++ rest)) = answer.map (·, rest)

theorem Takes.map (takes : Takes reader v answer) (f : α → β) :
    Takes (do return f (← reader)) v (answer.map f) := by
  intro ws rest blanks bounded
  have read := takes ws rest blanks bounded
  cases answer with
  | ok a => exact bind_ok read _
  | error fault => exact bind_error read _

theorem number_takes (l : Literal) : Takes number l.chars l.numeral := by
  intro ws rest blanks bounded
  have skipped : number (ws ++ (l.chars ++ rest)) = number (l.chars ++ rest) :=
    token_bind_append blanks _
  rw [skipped, l.number_append bounded]

theorem real_takes (l : Literal) : Takes real l.chars (l.numeral.map Numeral.toBinary32) :=
  (number_takes l).map Numeral.toBinary32

theorem natural_takes {limit : Nat} (small : n < limit) (fits : n ≤ Numeral.coefficientMax) :
    Takes (natural limit) (naturalChars n) (.ok n) := by
  intro ws rest blanks bounded
  have read := number_takes (Literal.ofNat n) ws rest blanks bounded
  rw [Literal.chars_ofNat, Literal.numeral_ofNat fits] at read
  unfold natural
  rw [bind_ok read]
  dsimp only
  rw [if_pos small]
  rfl

end Values

section Records

variable {δ ρ : Type} {fields : List (Field δ)} {d : δ} {answer : Except Fault δ}
  {ms : List (String × List Char)} {s rest : List Char}

/-- What a member does to a draft: a known key that is not yet there sets its field or is
refused, and an unknown one makes no difference. -/
inductive Sets (fields : List (Field δ)) (d : δ) : String × List Char → Except Fault δ → Prop where
  | known {answer : Except Fault δ} {key : String} {v : List Char} {f : Field δ} :
      fields.find? (·.key == key) = some f → f.present d = false → Takes (f.read d) v answer →
      Sets fields d (key, v) answer
  | unknown {key : String} {v : List Char} :
      fields.find? (·.key == key) = none → Written .value v → Sets fields d (key, v) (.ok d)

/-- The members of an object bring a draft to this answer: to a draft with all that they
set, or to the fault of the first that is refused. -/
inductive Gathers (fields : List (Field δ)) :
    δ → List (String × List Char) → Except Fault δ → Prop where
  | done (d : δ) : Gathers fields d [] (.ok d)
  | next {d d' : δ} {answer : Except Fault δ} {m : String × List Char}
      {ms : List (String × List Char)} :
      Sets fields d m (.ok d') → Gathers fields d' ms answer → Gathers fields d (m :: ms) answer
  | stop {d : δ} {fault : Fault} {m : String × List Char} {ms : List (String × List Char)} :
      Sets fields d m (.error fault) → Gathers fields d (m :: ms) (.error fault)

/-- A member after its key's opening quote. -/
theorem Sets.member {key : String} {v after gap : List Char} (sets : Sets fields d (key, v) answer)
    (spells : Spells s key.toList) (blanks : Blanks after) (blanks' : Blanks gap)
    (bounded : Bounded rest) :
    member fields d (s ++ '"' :: (after ++ ':' :: (gap ++ (v ++ rest)))) = answer.map (·, rest) := by
  have colon := mark_append (s := gap ++ (v ++ rest)) blanks (c := ':') (by decide)
  unfold Json.member
  rw [bind_ok (text_spells spells)]
  cases sets with
  | known found absent takes =>
    rw [found]
    dsimp only
    rw [absent, if_neg Bool.false_ne_true, bind_ok colon, takes gap rest blanks' bounded]
  | unknown missing written =>
    rw [missing]
    dsimp only
    rw [bind_ok colon, bind_ok (passValue_append blanks' written bounded)]
    rfl

theorem Members.bounded (members : Members false ms s) : Bounded (s ++ rest) := by
  cases members with
  | close blanks =>
    rw [List.append_assoc]
    exact bounded_append blanks (.inr (.inr rfl))
  | next separator =>
    cases separator with
    | later blanks =>
      rw [List.append_assoc, List.append_assoc]
      exact bounded_append blanks (.inl rfl)

theorem anotherKey_close {ws : List Char} (blanks : Blanks ws) (first : Bool) :
    anotherKey first (ws ++ '}' :: rest) = .ok (false, '}' :: rest) := by
  unfold anotherKey
  rw [token_bind_append blanks, token_bind (by decide), if_pos rfl]
  rfl

theorem anotherKey_next {first : Bool} {sep before : List Char} (separator : Separator first sep)
    (blanks : Blanks before) : anotherKey first (sep ++ (before ++ '"' :: s)) = .ok (true, s) := by
  unfold anotherKey
  cases separator with
  | first =>
    rw [List.nil_append, token_bind_append blanks, token_bind (by decide), if_neg (by decide),
      if_pos rfl, bind_ok (mark_cons (by decide))]
    rfl
  | later after =>
    rw [List.append_assoc, token_bind_append after, List.singleton_append, token_bind (by decide),
      if_neg (by decide), if_neg Bool.false_ne_true, if_pos rfl, drop_bind,
      bind_ok (mark_append blanks (by decide))]
    rfl

/-- Each member takes one round, and the closing bracket one more. -/
theorem Gathers.members (gathers : Gathers fields d ms answer) {first : Bool}
    (written : Members first ms s) {fuel : Nat} (enough : ms.length < fuel) :
    members fields fuel first d (s ++ rest) = answer.map (·, '}' :: rest) := by
  obtain ⟨fuel, rfl⟩ := Nat.exists_eq_add_one_of_ne_zero (Nat.ne_zero_of_lt enough)
  induction gathers generalizing fuel first s with
  | done d =>
    cases written with
    | close blanks =>
      rw [List.append_assoc, Json.members]
      exact bind_ok (anotherKey_close blanks first) _
  | next sets _ ih =>
    cases written with
    | next separator key tail =>
      cases key with
      | spelled before spells after gap =>
        have later := Nat.lt_of_succ_lt_succ enough
        obtain ⟨fuel, rfl⟩ := Nat.exists_eq_add_one_of_ne_zero (Nat.ne_zero_of_lt later)
        simp only [List.append_assoc, List.cons_append]
        rw [Json.members, bind_ok (anotherKey_next separator before), if_pos rfl,
          bind_ok (sets.member spells after gap tail.bounded)]
        exact ih tail fuel later
  | stop sets =>
    cases written with
    | next separator key tail =>
      cases key with
      | spelled before spells after gap =>
        simp only [List.append_assoc, List.cons_append]
        rw [Json.members, bind_ok (anotherKey_next separator before), if_pos rfl]
        exact bind_error (sets.member spells after gap tail.bounded) _

theorem Members.length_lt {first : Bool} (members : Members first ms s) : ms.length < s.length := by
  induction members with
  | close => simp
  | next _ key _ ih =>
    cases key with
    | spelled =>
      simp only [List.length_append, List.length_cons]
      omega

theorem Gathers.record (gathers : Gathers fields d ms answer) (written : Members true ms s)
    (finish : δ → ρ) {ws : List Char} (blanks : Blanks ws) :
    record fields d (some ∘ finish) (ws ++ '{' :: (s ++ rest)) = (answer.map finish).map (·, rest) := by
  have enough : ms.length < (s ++ rest).length + 1 := by
    have := written.length_lt
    rw [List.length_append]
    omega
  have read : Json.members fields _ true d (s ++ rest) = _ := gathers.members written enough
  unfold Json.record
  rw [token_bind_append blanks, token_bind (by decide), if_pos rfl, drop_bind, get_bind]
  cases answer with
  | error fault => exact bind_error read _
  | ok d' =>
    rw [bind_ok read]
    exact bind_ok (mark_cons (c := '}') (by decide)) fun _ => pure (finish d')

/-- A text that is an object with such members makes a record, or is refused. -/
theorem Gathers.parse {text : String} (gathers : Gathers fields d ms answer)
    (object : ObjectText ms text.toList) (finish : δ → ρ) :
    parse (Json.record fields d (some ∘ finish)) text = answer.map finish := by
  unfold Json.parse
  generalize text.toList = chars at object ⊢
  cases object with
  | between before written after =>
    rw [gathers.record written finish before]
    cases answer with
    | error fault => rfl
    | ok d' => exact if_pos (List.all_eq_true.mpr after)

end Records

end Json

namespace Tuning

open Json

/-- A value of a tuning is measured or counted. -/
inductive Kind where
  | measure
  | count

namespace Kind

abbrev Value : Kind → Type
  | .measure => Binary32
  | .count => Nat

def reader : (k : Kind) → Json.Reader k.Value
  | .measure => Json.real
  | .count => Json.natural countLimit

/-- What is given for a value: any numeral for a measure, and a 64-bit number for a count. -/
abbrev Given : Kind → Type
  | .measure => { l : Literal // l.Short }
  | .count => Fin countLimit

/-- The text of it. A count has no sign. -/
def text : (k : Kind) → k.Given → List Char
  | .measure, l => l.val.chars
  | .count, n => naturalChars n

/-- The value that it stands for. -/
def Gives : (k : Kind) → k.Given → k.Value → Prop
  | .measure, l, x => l.val.Gives x
  | .count, n, value => value = n

/-- A measure may be too large. -/
def Huge : (k : Kind) → k.Given → Prop
  | .measure, l => l.val.Huge
  | .count, _ => False

/-- What is given is read as the value that it stands for, unless it is too large. -/
theorem reader_takes (k : Kind) (given : k.Given) :
    (∃ value, Takes k.reader (k.text given) (.ok value) ∧ k.Gives given value) ∨
      k.Huge given ∧ Takes k.reader (k.text given) (.error .malformed) := by
  cases k with
  | measure =>
    obtain ⟨l, short⟩ := given
    have takes : Takes Kind.measure.reader (Kind.measure.text ⟨l, short⟩) _ := real_takes l
    rcases Literal.numeral_outcome short with ⟨n, stands, gives⟩ | ⟨refused, huge⟩
    · rw [stands] at takes
      exact .inl ⟨n.toBinary32, takes, gives⟩
    · rw [refused] at takes
      exact .inr ⟨huge, takes⟩
  | count => exact .inl ⟨given, natural_takes given.isLt (Nat.le_sub_one_of_lt given.isLt), rfl⟩

end Kind

/-- The values of a tuning. -/
inductive Knob : Kind → Type where
  | trackWidth : Knob .measure
  | wordWidth : Knob .measure
  | letterMax : Knob .count
  | baseSpeed : Knob .measure
  | speedPower : Knob .measure
  | letterShove : Knob .measure
  | solvedFactor : Knob .measure
  | repeatHintLevel : Knob .count

namespace Knob

variable {k k' : Kind}

def name : Knob k → String
  | .trackWidth => "track_width"
  | .wordWidth => "word_width"
  | .letterMax => "letter_max"
  | .baseSpeed => "base_speed"
  | .speedPower => "speed_power"
  | .letterShove => "knockback_per_length"
  | .solvedFactor => "complete_knockback_multiplier"
  | .repeatHintLevel => "repeat_help_max_level"

/-- The value in a tuning. -/
def of : Knob k → Tuning → k.Value
  | .trackWidth, t => t.trackWidth
  | .wordWidth, t => t.wordWidth
  | .letterMax, t => t.letterMax
  | .baseSpeed, t => t.baseSpeed
  | .speedPower, t => t.speedPower
  | .letterShove, t => t.letterShove
  | .solvedFactor, t => t.solvedFactor
  | .repeatHintLevel, t => t.repeatHintLevel

/-- The value in a draft, if it was read. -/
def slot : Knob k → Draft → Option k.Value
  | .trackWidth, d => d.trackWidth
  | .wordWidth, d => d.wordWidth
  | .letterMax, d => d.letterMax
  | .baseSpeed, d => d.baseSpeed
  | .speedPower, d => d.speedPower
  | .letterShove, d => d.letterShove
  | .solvedFactor, d => d.solvedFactor
  | .repeatHintLevel, d => d.repeatHintLevel

def put : Knob k → Draft → k.Value → Draft
  | .trackWidth, d, x => { d with trackWidth := some x }
  | .wordWidth, d, x => { d with wordWidth := some x }
  | .letterMax, d, n => { d with letterMax := some n }
  | .baseSpeed, d, x => { d with baseSpeed := some x }
  | .speedPower, d, x => { d with speedPower := some x }
  | .letterShove, d, x => { d with letterShove := some x }
  | .solvedFactor, d, x => { d with solvedFactor := some x }
  | .repeatHintLevel, d, n => { d with repeatHintLevel := some n }

theorem find_field (knob : Knob k) :
    fields.find? (·.key == knob.name) = some (field knob.name knob.slot knob.put k.reader) := by
  cases knob <;> rfl

theorem slot_put (knob : Knob k) (d : Draft) (value : k.Value) :
    knob.slot (knob.put d value) = some value := by
  cases knob <;> rfl

theorem slot_put_of_ne (knob : Knob k) {other : Knob k'} (apart : other.name ≠ knob.name)
    (d : Draft) (value : k.Value) : other.slot (knob.put d value) = other.slot d := by
  cases knob <;> cases other <;> simp_all [slot, put, name]

theorem of_finish (knob : Knob k) (d : Draft) :
    knob.of d.finish = (knob.slot d).getD (knob.of standard) := by
  cases knob <;> rfl

end Knob

/-- The values make up the tuning. -/
theorem ext_of {t u : Tuning} (same : ∀ {k : Kind} (knob : Knob k), knob.of t = knob.of u) :
    t = u := by
  obtain ⟨_, _, _, _, _, _, _, _⟩ := t
  obtain ⟨_, _, _, _, _, _, _, _⟩ := u
  simp only [mk.injEq]
  exact ⟨same .trackWidth, same .wordWidth, same .letterMax, same .baseSpeed, same .speedPower,
    same .letterShove, same .solvedFactor, same .repeatHintLevel⟩

theorem find_unknown {key : String} (unknown : ∀ {k : Kind} (knob : Knob k), knob.name ≠ key) :
    fields.find? (·.key == key) = none := by
  rw [List.find?_eq_none]
  simp only [fields, List.forall_mem_cons, field, beq_iff_eq]
  exact ⟨unknown .trackWidth, unknown .wordWidth, unknown .letterMax, unknown .baseSpeed,
    unknown .speedPower, unknown .letterShove, unknown .solvedFactor, unknown .repeatHintLevel,
    List.forall_mem_nil _⟩

/-- A member of a tuning's object: a known key with a value of its kind, or any other key
with any value. -/
inductive Entry where
  | known {k : Kind} (knob : Knob k) (given : k.Given)
  | other (key : String) (unknown : ∀ {k : Kind} (knob : Knob k), knob.name ≠ key)
      (text : List Char) (written : Written .value text)

namespace Entry

def key : Entry → String
  | .known knob .. => knob.name
  | .other key .. => key

/-- The key and the text of the value. -/
def member : Entry → String × List Char
  | @Entry.known k knob given => (knob.name, k.text given)
  | .other key _ text _ => (key, text)

/-- A value that is too large. -/
def Huge : Entry → Prop
  | @Entry.known k _ given => k.Huge given
  | .other .. => False

variable {k : Kind} {knob : Knob k} {entries : List Entry} {d d' d'' : Draft} {e : Entry}

/-- What the members make of a draft: the values given are in it, and all others are as they
were. -/
structure Filled (entries : List Entry) (d d' : Draft) : Prop where
  given : ∀ {k : Kind} {knob : Knob k} {given : k.Given}, .known knob given ∈ entries →
    ∃ value, knob.slot d' = some value ∧ k.Gives given value
  others : ∀ {k : Kind} (knob : Knob k), knob.name ∉ entries.map key → knob.slot d' = knob.slot d

/-- One member: a known key must be new. -/
theorem sets (e : Entry)
    (free : ∀ {k : Kind} (knob : Knob k), knob.name = e.key → knob.slot d = none) :
    (∃ d', Sets fields d e.member (.ok d') ∧ Filled [e] d d') ∨
      e.Huge ∧ Sets fields d e.member (.error .malformed) := by
  cases e with
  | @known k knob given =>
    have absent : (knob.slot d).isSome = false := congrArg Option.isSome (free knob rfl)
    rcases k.reader_takes given with ⟨value, takes, gives⟩ | ⟨huge, takes⟩
    · refine .inl ⟨knob.put d value, .known knob.find_field absent (takes.map (knob.put d)), ?_, ?_⟩
      · rintro _ _ _ (_ | later)
        · exact ⟨value, knob.slot_put d value, gives⟩
        · contradiction
      · intro _ other apart
        exact knob.slot_put_of_ne (fun same => apart (List.mem_singleton.mpr same)) d value
    · exact .inr ⟨huge, .known knob.find_field absent (takes.map (knob.put d))⟩
  | other key unknown text written =>
    refine .inl ⟨d, .unknown (find_unknown unknown) written, ?_, fun _ _ => rfl⟩
    rintro _ _ _ (_ | later)
    contradiction

/-- Every known key comes at most once. -/
def Once (entries : List Entry) : Prop :=
  ∀ {k : Kind} (knob : Knob k), (entries.map key).count knob.name ≤ 1

theorem Once.tail (once : Once (e :: entries)) : Once entries := by
  intro k knob
  exact (List.count_le_count_cons).trans (once knob)

theorem Once.head (once : Once (e :: entries)) (same : knob.name = e.key) :
    knob.name ∉ entries.map key := by
  have counted := once knob
  rw [List.map_cons, ← same, List.count_cons_self] at counted
  exact List.count_eq_zero.mp (by omega)

/-- A value that is given stays, as its key does not come again. -/
theorem Filled.cons (first : Filled [e] d d') (rest : Filled entries d' d'')
    (once : Once (e :: entries)) : Filled (e :: entries) d d'' := by
  constructor
  · intro k knob given member
    rcases List.mem_cons.mp member with here | later
    · obtain ⟨value, slot, gives⟩ := first.given (List.mem_singleton.mpr here)
      refine ⟨value, ?_, gives⟩
      rw [rest.others knob (once.head (congrArg key here)), slot]
    · exact rest.given later
  · intro k knob absent
    rw [List.map_cons, List.mem_cons, not_or] at absent
    have apart : knob.name ∉ [e].map key := fun same => absent.1 (List.mem_singleton.mp same)
    rw [rest.others knob absent.2, first.others knob apart]

theorem gathers (once : Once entries)
    (free : ∀ {k : Kind} (knob : Knob k), knob.name ∈ entries.map key → knob.slot d = none) :
    (∃ d', Gathers fields d (entries.map member) (.ok d') ∧ Filled entries d d') ∨
      (∃ e ∈ entries, e.Huge) ∧ Gathers fields d (entries.map member) (.error .malformed) := by
  induction entries generalizing d with
  | nil => exact .inl ⟨d, .done d, fun member => absurd member List.not_mem_nil, fun _ _ => rfl⟩
  | cons e rest ih =>
    have here {k : Kind} (knob : Knob k) (same : knob.name = e.key) : knob.slot d = none :=
      free knob (same ▸ List.mem_cons_self)
    rcases e.sets here with ⟨d', sets, first⟩ | ⟨huge, sets⟩
    · -- A key that is still to come was not this one, so its place is still free.
      have later {k : Kind} (knob : Knob k) (member : knob.name ∈ rest.map key) :
          knob.slot d' = none := by
        have apart : knob.name ∉ [e].map key :=
          fun same => once.head (List.mem_singleton.mp same) member
        rw [first.others knob apart]
        exact free knob (List.mem_cons_of_mem _ member)
      rcases ih once.tail later with ⟨d'', gathers, filled⟩ | ⟨⟨e', member, huge⟩, gathers⟩
      · exact .inl ⟨d'', .next sets gathers, first.cons filled once⟩
      · exact .inr ⟨⟨e', List.mem_cons_of_mem e member, huge⟩, .next sets gathers⟩
    · exact .inr ⟨⟨e, List.mem_cons_self, huge⟩, .stop sets⟩

end Entry

theorem ofJson_parsed {text : String} {t : Tuning} (parsed : Json.parse reader text = .ok t) :
    ofJson text = match t.flaw? with
      | none => .ok t
      | some flaw => .error (.invalidTuning flaw) := by
  unfold ofJson
  rw [parsed]
  change (t.check >>= fun _ => pure t) = _
  unfold check
  cases t.flaw? <;> rfl

theorem ofJson_refused {text : String} {fault : Fault}
    (refused : Json.parse reader text = .error fault) : ofJson text = .error (.unreadable fault) := by
  unfold ofJson
  rw [refused]
  rfl

/-- An object in which every known key comes at most once, with a value of its kind, and
every other key with any value, is loaded as the tuning with the values that those given
stand for and the standard ones for the rest, unless that has a flaw, which is then told.
Only a measure that is too large for a double, or nearly so, may be refused instead. -/
theorem loads_known_keys {entries : List Entry} {text : String}
    (object : ObjectText (entries.map Entry.member) text.toList) (once : Entry.Once entries) :
    (∃ t : Tuning,
      (∀ {k : Kind} (knob : Knob k) {given : k.Given},
        .known knob given ∈ entries → k.Gives given (knob.of t)) ∧
      (∀ {k : Kind} (knob : Knob k),
        knob.name ∉ entries.map Entry.key → knob.of t = knob.of standard) ∧
      ofJson text = match t.flaw? with
        | none => .ok t
        | some flaw => .error (.invalidTuning flaw)) ∨
    (∃ e ∈ entries, e.Huge) ∧ ofJson text = .error (.unreadable .malformed) := by
  have empty {k : Kind} (knob : Knob k) : knob.slot {} = none := by cases knob <;> rfl
  rcases Entry.gathers once fun knob _ => empty knob with ⟨d, gathers, filled⟩ | ⟨huge, gathers⟩
  · refine .inl ⟨d.finish, ?_, ?_, ofJson_parsed (gathers.parse object Draft.finish)⟩
    · intro k knob given member
      obtain ⟨value, slot, gives⟩ := filled.given member
      rwa [knob.of_finish, slot, Option.getD_some]
    · intro k knob absent
      rw [knob.of_finish, filled.others knob absent, empty knob, Option.getD_none]
  · exact .inr ⟨huge, ofJson_refused (gathers.parse object Draft.finish)⟩

namespace Sample

/-- A key written with an escape, numerals of all forms, and a key that is not known, twice,
with nested values, a lone surrogate and a numeral past all doubles. -/
def text : String :=
  "\x7b \"letter_max\" : 12 ,\n\"notes\":[ \x7b\"a\" : null\x7d,\"\\ud800\" ,-1e999]," ++
    "\"track\\u005fwidth\":1e3,\"base_speed\":-0.5,\"notes\":\x7b\x7d," ++
    "\"knockback_per_length\":2.5E-2\x7d "

def digits (c : Char) (more : List Char) (isDigit : (c :: more).all Char.isDigit = true) : Digits :=
  ⟨c :: more, List.cons_ne_nil c more, List.all_eq_true.mp isDigit⟩

def thousand : Literal :=
  ⟨false, digits '1' [] rfl, fun _ => rfl, none, some ⟨false, none, digits '3' [] rfl⟩⟩

def half : Literal := ⟨true, digits '0' [] rfl, fun _ => rfl, some (digits '5' [] rfl), none⟩

def fortieth : Literal :=
  ⟨false, digits '2' [] rfl, fun _ => rfl, some (digits '5' [] rfl),
    some ⟨true, some true, digits '2' [] rfl⟩⟩

def endless : Literal :=
  ⟨true, digits '1' [] rfl, fun _ => rfl, none, some ⟨false, none, digits '9' ['9', '9'] rfl⟩⟩

theorem not_huge {l : Literal} (small : l.size ≤ 2 ^ 100) : ¬l.Huge := by
  have limit : (2 : ℚ) ^ 101 ≤ 2 ^ 1024 := pow_le_pow_right₀ (by norm_num) (by decide)
  refine not_lt.mpr (le_trans ?_ limit)
  linarith

theorem thousand_size : thousand.size ≤ 2 ^ 100 := by
  have decimal : thousand.decimal = ⟨1, 3⟩ := by decide
  norm_num [Literal.size, decimal, Decimal.value]

theorem half_size : half.size ≤ 2 ^ 100 := by
  have decimal : half.decimal = ⟨5, -1⟩ := by decide
  norm_num [Literal.size, decimal, Decimal.value]

theorem fortieth_size : fortieth.size ≤ 2 ^ 100 := by
  have decimal : fortieth.decimal = ⟨25, -3⟩ := by decide
  norm_num [Literal.size, decimal, Decimal.value]

theorem no_blanks : Blanks [] := by decide

theorem one_blank : Blanks [' '] := by decide

def notes : List Char := "[ \x7b\"a\" : null\x7d,\"\\ud800\" ,-1e999]".toList

theorem notes_written : Written .value notes := by
  have quad : Quad ['d', '8', '0', '0'] 0xd800 :=
    .digits (w := 13) (x := 8) (y := 0) (z := 0) rfl rfl rfl rfl
  have strokes : Strokes ['a'] := .cons (.bare (by decide) (by decide) (by decide)) .nil
  have inner : Written .value _ :=
    .full (.object no_blanks strokes one_blank one_blank) (.word List.mem_cons_self)
      (.close .object no_blanks)
  have lone : Written .value _ := .text (.cons (.numbered quad) .nil)
  have tail : Written (.tail .array) _ :=
    .more no_blanks (.array no_blanks) lone
      (.more one_blank (.array no_blanks) (.number endless) (.close .array no_blanks))
  exact .full (.array one_blank) inner tail

theorem unknown_notes {k : Kind} (knob : Knob k) : knob.name ≠ "notes" := by
  cases knob <;> decide

def entries : List Entry := [
  .known .letterMax ⟨12, by decide⟩,
  .other "notes" unknown_notes notes notes_written,
  .known .trackWidth ⟨thousand, by decide⟩,
  .known .baseSpeed ⟨half, by decide⟩,
  .other "notes" unknown_notes ['{', '}'] (.empty .object no_blanks),
  .known .letterShove ⟨fortieth, by decide⟩]

theorem entries_not_huge : ∀ e ∈ entries, ¬e.Huge := by
  simp only [entries, List.forall_mem_cons]
  exact ⟨id, id, not_huge thousand_size, not_huge half_size, id, not_huge fortieth_size,
    List.forall_mem_nil _⟩

/-- Characters that stand for themselves. -/
theorem spells_self {s : List Char}
    (plain : (s.all fun c => isBare c && c != '"' && c != '\\') = true) : Spells s s := by
  induction s with
  | nil => exact .nil
  | cons c s ih =>
    simp only [List.all_cons, Bool.and_eq_true, bne_iff_ne] at plain
    obtain ⟨⟨⟨bare, quote⟩, backslash⟩, later⟩ := plain
    exact .cons (.bare bare quote backslash) (ih later)

theorem spells_append {s t cs ds : List Char} (front : Spells s cs) (back : Spells t ds) :
    Spells (s ++ t) (cs ++ ds) := by
  induction front with
  | nil => exact back
  | cons glyph _ ih =>
    rw [List.append_assoc]
    exact .cons glyph ih

theorem track_spells : Spells "track\\u005fwidth".toList "track_width".toList := by
  have underscore : Glyph ['\\', 'u', '0', '0', '5', 'f'] '_' :=
    .unit (.digits (w := 0) (x := 0) (y := 5) (z := 15) rfl rfl rfl rfl) rfl rfl
  have width : Spells "\\u005fwidth".toList "_width".toList :=
    .cons underscore (spells_self (by decide))
  exact spells_append (spells_self (s := "track".toList) (by decide)) width

theorem text_object : ObjectText (entries.map Entry.member) text.toList := by
  have line : Blanks ['\n'] := by decide
  have unknown : Spells "notes".toList "notes".toList := spells_self (by decide)
  have next {key : String} {v t : List Char} {ms : List (String × List Char)}
      (plain : (key.toList.all fun c => isBare c && c != '"' && c != '\\') = true)
      (later : Members false ms t) : Members false ((key, v) :: ms) _ :=
    .next (.later no_blanks) (.spelled no_blanks (spells_self plain) no_blanks no_blanks) later
  have sixth : Members false (("knockback_per_length", fortieth.chars) :: _) _ :=
    next (by decide) (.close no_blanks)
  have fifth : Members false (("notes", ['{', '}']) :: _) _ := next (by decide) sixth
  have fourth : Members false (("base_speed", half.chars) :: _) _ := next (by decide) fifth
  have third : Members false (("track_width", thousand.chars) :: _) _ :=
    .next (.later no_blanks) (.spelled no_blanks track_spells no_blanks no_blanks) fourth
  have second : Members false (("notes", notes) :: _) _ :=
    .next (.later one_blank) (.spelled line unknown no_blanks no_blanks) third
  have first : Members true (("letter_max", ['1', '2']) :: _) _ :=
    .next .first (.spelled one_blank (spells_self (by decide)) one_blank one_blank) second
  have object := ObjectText.between no_blanks first one_blank
  unfold text
  repeat rw [← String.ofList_append]
  rw [String.toList_ofList]
  exact Eq.mp (congrArg (ObjectText _) (by decide +kernel)) object

/-- With few digits the number is the one that is read. -/
theorem value_of_gives {l : Literal} {x : Binary32} {n : Numeral} (gives : l.Gives x)
    (short : l.Short) (stands : l.numeral = .ok n) (few : l.decimal.coefficient < twoPow 53)
    (small : l.decimal.exponent.natAbs ≤ 22) : x = n.toBinary32 := by
  rcases Literal.numeral_outcome short with ⟨m, same, read⟩ | ⟨refused, -⟩
  · obtain rfl := Except.ok.inj (same.symm.trans stands)
    exact gives.unique read few small
  · exact absurd (refused.symm.trans stands) nofun

/-- The tuning in the text. -/
def loaded : Tuning :=
  { standard with
    trackWidth := 1000
    letterMax := 12
    baseSpeed := Binary32.ofRatio true 1 2
    letterShove := Binary32.ofRatio false 1 40 }

end Sample

theorem loads_known_keys_shuffled :
    ObjectText (Sample.entries.map Entry.member) Sample.text.toList ∧
      ofJson Sample.text = .ok Sample.loaded := by
  refine ⟨Sample.text_object, ?_⟩
  rcases loads_known_keys Sample.text_object fun knob => by cases knob <;> decide with
    ⟨t, given, absent, loaded⟩ | ⟨⟨e, member, huge⟩, -⟩
  · have values : t = Sample.loaded := by
      apply ext_of
      intro k knob
      cases knob with
      | letterMax => exact given .letterMax (.head _)
      | trackWidth =>
        have gives : Sample.thousand.Gives t.trackWidth :=
          given .trackWidth (.tail _ (.tail _ (.head _)))
        refine (Sample.value_of_gives gives (n := .real false (BinaryFormat.double.ofNat 1000))
          ?_ ?_ ?_ ?_).trans ?_ <;> decide +kernel
      | baseSpeed =>
        have gives : Sample.half.Gives t.baseSpeed :=
          given .baseSpeed (.tail _ (.tail _ (.tail _ (.head _))))
        refine (Sample.value_of_gives gives
          (n := .real true (BinaryFormat.double.encode BinaryFormat.double.one 2))
          ?_ ?_ ?_ ?_).trans ?_ <;> decide +kernel
      | letterShove =>
        have gives : Sample.fortieth.Gives t.letterShove :=
          given .letterShove (.tail _ (.tail _ (.tail _ (.tail _ (.tail _ (.head _))))))
        refine (Sample.value_of_gives gives
          (n := .real false (BinaryFormat.double.encode BinaryFormat.double.one 40))
          ?_ ?_ ?_ ?_).trans ?_ <;> decide +kernel
      | wordWidth | speedPower | solvedFactor | repeatHintLevel => exact absent _ (by decide)
    have sound : t.flaw? = none := by
      rw [values]
      decide +kernel
    rw [loaded, sound, values]
  · exact absurd huge (Sample.entries_not_huge e member)

/-- A double that is past every single is infinite, and the check sees it. -/
example : ofJson "\x7b\"track_width\":1e39\x7d" = .error (.invalidTuning .notFinite) := by
  decide +kernel

namespace Sample

/-- One, as a power of ten with so many zeros and the power that takes them away. -/
def unity (n : Nat) : Literal where
  negative := false
  whole := ⟨'1' :: List.replicate n '0', List.cons_ne_nil _ _, by
    intro c member
    rcases List.mem_cons.mp member with rfl | zero
    · rfl
    · rw [List.eq_of_mem_replicate zero]
      rfl⟩
  lead := fun zero => absurd (Option.some.inj zero) (by decide)
  fraction := none
  power := some ⟨false, some true, (Literal.ofNat n).whole⟩

theorem size_unity (n : Nat) : (unity n).size = 1 := by
  have coefficient : (unity n).decimal.coefficient = tenPow n := by
    rw [Literal.coefficient_eq]
    change Nat.ofDigitChars 10 (List.replicate n '0') 1 = _
    rw [Nat.ofDigitChars_replicate_zero, Nat.mul_one]
    rfl
  have exponent : (unity n).decimal.exponent = -n := by
    change -(Nat.ofDigitChars 10 (naturalChars n) 0 : Int) - 0 = _
    rw [ofDigitChars_naturalChars, Int.sub_zero]
  rw [Literal.size, Decimal.value, coefficient, exponent, Decimal.cast_tenPow, zpow_neg,
    mul_inv_cancel₀ (zpow_ne_zero _ (by norm_num))]

theorem numeral_unity {n : Nat} (past : Numeral.exponentMax < n) :
    (unity n).numeral = .ok (.real false 0) := by
  have digits : (Literal.ofNat n).whole.number = n := ofDigitChars_naturalChars n
  have powered : ¬((unity n).fraction = none ∧ (unity n).power = none ∧
      (unity n).decimal.coefficient ≤ Numeral.coefficientMax) := fun plain => nomatch plain.2.1
  rw [Literal.numeral_parts powered, Literal.ofParts_past rfl (past.trans_eq digits.symm),
    if_pos (.inr rfl)]
  rfl

/-- A text with one value. -/
def paced (l : Literal) : String := String.ofList ("\x7b\"base_speed\":".toList ++ (l.chars ++ ['}']))

theorem paced_loads {l : Literal} {n : Numeral} (stands : l.numeral = .ok n) :
    parse reader (paced l) = .ok { standard with baseSpeed := n.toBinary32 } := by
  have takes := (real_takes l).map (Knob.baseSpeed.put {})
  rw [stands] at takes
  have gathers : Gathers fields {} [("base_speed", l.chars)]
      (.ok (Knob.baseSpeed.put {} n.toBinary32)) :=
    .next (.known Knob.baseSpeed.find_field rfl takes) (.done _)
  have key : Key "base_speed" _ :=
    .spelled no_blanks (spells_self (s := "base_speed".toList) (by decide)) no_blanks no_blanks
  have object : ObjectText [("base_speed", l.chars)] (paced l).toList := by
    have between := ObjectText.between no_blanks
      (.next (v := l.chars) .first key (.close no_blanks)) no_blanks
    rw [List.append_nil] at between
    unfold paced
    rw [String.toList_ofList]
    exact between
  exact gathers.parse object Draft.finish

/-- The nearest double to a quotient, rounded to single precision. -/
def throughDouble (num den : Nat) : Binary32 :=
  (Numeral.real false (BinaryFormat.double.encode (num * BinaryFormat.double.one) den)).toBinary32

end Sample

/-- Not every value is its nearest double rounded again. A whole numeral is rounded once,
the product or quotient of rounded numbers need not be the nearest double and may be past
all of them, a count may not have a sign, and a power of too many digits is not set against
the digits before it. -/
theorem value_not_through_double :
    ofJson "\x7b\"track_width\":1152921573326323713\x7d" =
        .ok { standard with trackWidth := 1152921573326323713 } ∧
      (1152921573326323713 : Binary32) ≠ Sample.throughDouble 1152921573326323713 1 ∧
      ofJson "\x7b\"track_width\":917.3038024902343\x7d" =
        .ok { standard with trackWidth := .ofBits 0x44655372 } ∧
      .ofBits 0x44655372 ≠ Sample.throughDouble 9173038024902343 (tenPow 13) ∧
      ofJson "\x7b\"track_width\":1.7976931348623158e308\x7d" = .error (.unreadable .malformed) ∧
      BinaryFormat.double.ofNat (17976931348623158 * tenPow 292) < BinaryFormat.double.top ∧
      ofJson "\x7b\"repeat_help_max_level\":-0\x7d" = .error (.unreadable .mismatched) ∧
      (Sample.unity (twoPow 31)).size = 1 ∧
      ofJson (Sample.paced (Sample.unity (twoPow 31))) = .ok { standard with baseSpeed := 0 } := by
  have long : ofJson (Sample.paced (Sample.unity (twoPow 31))) =
      .ok { standard with baseSpeed := 0 } := by
    have past : Numeral.exponentMax < twoPow 31 := by decide
    have sound : { standard with baseSpeed := (Numeral.real false 0).toBinary32 }.flaw? = none := by
      decide +kernel
    have zero : (Numeral.real false 0).toBinary32 = 0 := by decide +kernel
    rw [ofJson_parsed (Sample.paced_loads (Sample.numeral_unity past)), sound, zero]
  refine ⟨?_, ?_, ?_, ?_, ?_, ?_, ?_, Sample.size_unity _, long⟩ <;> decide +kernel

end Tuning

end WordTrack
