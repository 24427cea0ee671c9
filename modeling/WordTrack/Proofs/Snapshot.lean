import WordTrack.Round.Json
import WordTrack.Proofs.Records
import WordTrack.Proofs.Shortest
import WordTrack.Proofs.Track
import WordTrack.Proofs.Undo

/-! Stored rounds. Every letter typed came from a place in the word and the offset stays
on the track, so both can be stored. What can be refused is one of three numbers that
nothing keeps finite. -/
namespace WordTrack

open Json

namespace WordSet

theorem insertSorted_last {words : List String} {word : String} (last : ∀ x ∈ words, x < word) :
    insertSorted word words = words ++ [word] := by
  induction words with
  | nil => rfl
  | cons x rest ih =>
    have less : x < word := last x List.mem_cons_self
    have differs : word ≠ x := fun same => String.lt_irrefl x (same ▸ less)
    have notLess : ¬word < x := fun greater => String.lt_irrefl x (String.lt_trans less greater)
    rw [insertSorted, if_neg differs, if_neg notLess,
      ih fun y later => last y (List.mem_cons_of_mem x later), List.cons_append]

theorem toList_foldl_insert {words : List String} {s : WordSet}
    (ascending : (s.toList ++ words).Pairwise (· < ·)) :
    (words.foldl insert s).toList = s.toList ++ words := by
  induction words generalizing s with
  | nil => rw [List.foldl_nil, List.append_nil]
  | cons word rest ih =>
    -- The next word is above all that are in the set, so it goes to the end.
    have last : ∀ x ∈ s.toList, x < word := fun x member =>
      (List.pairwise_append.mp ascending).2.2 x member word List.mem_cons_self
    have inserted : (s.insert word).toList = s.toList ++ [word] := insertSorted_last last
    have split : s.toList ++ word :: rest = (s.insert word).toList ++ rest := by
      rw [inserted, List.append_assoc, List.singleton_append]
    rw [split] at ascending ⊢
    exact ih ascending

theorem toList_injective : Function.Injective toList := by
  rintro ⟨words, _⟩ ⟨_, _⟩ rfl
  rfl

/-- Inserted in ascending order, the words of a set make the set again. -/
theorem ofList_toList (s : WordSet) : ofList s.toList = s :=
  toList_injective (toList_foldl_insert s.ascending)

end WordSet

/-- A finite number is written as a numeral in any case, so it is read back if it is read
back alone. -/
theorem Json.readsBack_numberChars {x : Binary32} (finite : x.isFinite = true)
    (same : parse real (String.ofList (numberChars x)) = .ok x) : ReadsBack numberChars x := by
  refine ⟨?_, same⟩
  cases x with
  | nan => contradiction
  | infinite => contradiction
  | finite negative code =>
    obtain ⟨l, written, -⟩ := Binary32.laidOut_numeral layout negative code
    exact ⟨l, written⟩

section Parts

variable {write : Binary32 → List Char}

theorem HintTag.reader_reads (tag : HintTag) : Reads write reader (.text tag.name) (.ok tag) := by
  apply named_reads
  cases tag <;> decide

theorem Tile.reader_reads (t : Tile) : Reads write reader t.toJson (.ok t) := by
  have fills : Fills write fields {}
      [("letter", .text t.letter.toString), ("selected", .boolean t.selected)]
      (.ok ⟨some t.letter, some t.selected⟩) :=
    .next rfl rfl ((character_reads t.letter).map _) <|
    .next rfl rfl ((boolean_reads t.selected).map _) <| .done _
  exact fills.reads Draft.finish

end Parts

namespace Drawn

variable {start typed pool : List Char} {origins : List Nat}

theorem length_eq (drawn : Drawn start typed origins pool) :
    pool.length + typed.length = start.length := by
  induction drawn with
  | none => rfl
  | next _ found ih =>
    obtain ⟨inside, -, -⟩ := List.idxOf?_eq_some_iff.mp found
    rw [List.length_eraseIdx_of_lt inside, List.length_append, List.length_singleton]
    omega

theorem origin_lt (drawn : Drawn start typed origins pool) : ∀ i ∈ origins, i < start.length := by
  induction drawn with
  | none => exact fun _ member => absurd member List.not_mem_nil
  | next earlier found ih =>
    obtain ⟨inside, -, -⟩ := List.idxOf?_eq_some_iff.mp found
    have total := earlier.length_eq
    intro j member
    rcases List.mem_append.mp member with before | last
    · exact ih j before
    · rw [List.mem_singleton.mp last]
      omega

end Drawn

namespace Round

section Fields

variable {write : Binary32 → List Char}

theorem letters_reads (cs : List Char) : Reads write letters (lettersJson cs) (.ok cs) :=
  list_reads fun c _ => character_reads c

theorem words_reads (s : WordSet) : Reads write words (.list (s.toList.map .text)) (.ok s) := by
  have items : Reads write (list string) (.list (s.toList.map .text)) (.ok s.toList) :=
    list_reads fun word _ => string_reads word
  have read : Reads write words _ (.ok (WordSet.ofList s.toList)) := items.map WordSet.ofList
  rwa [WordSet.ofList_toList] at read

theorem amount_reads (n : UInt32) : Reads write amount (.natural n.toNat) (.ok n) := by
  have small : n.toNat < twoPow 32 := n.toNat_lt
  have fits : n.toNat ≤ Numeral.coefficientMax := small.le.trans (by decide)
  have read : Reads write amount _ (.ok (UInt32.ofNat n.toNat)) :=
    (natural_reads small fits).map UInt32.ofNat
  rwa [UInt32.ofNat_toNat] at read

theorem indices_reads {is : List Nat} (small : ∀ i ∈ is, i < twoPow 64) :
    Reads write indices (.list (is.map .natural)) (.ok is) :=
  list_reads fun i member => natural_reads (small i member) (Nat.le_sub_one_of_lt (small i member))

/-- The draft after the members that every round can store. -/
def Draft.upToOffset (r : Round) : Draft where
  target := some r.target
  tiles := some r.tiles
  pool := some r.pool
  typed := some r.typed
  origins := some r.origins
  accepted := some r.accepted
  thrown := some r.thrown
  solved := some r.solved
  points := some r.points
  score := some r.score
  offset := some r.offset

/-- The members after these. -/
def lastMembers (r : Round) : List (String × Tree) := [
  ("word_position_scaled", .real r.screenOffset),
  ("word_width_per_second", .real r.velocity),
  ("output_knockback", .real r.shove),
  ("help", .text r.hint),
  ("help_state", .text r.tag.name)]

/-- The numbers of a round that may have a fraction. -/
def numbers (r : Round) : List Binary32 := [r.offset, r.screenOffset, r.velocity, r.shove]

/-- Every finite number of a round is written so that it reads back. -/
def ReadsBack (write : Binary32 → List Char) (r : Round) : Prop :=
  ∀ x ∈ r.numbers, x.isFinite = true → Json.ReadsBack write x

variable {r : Round}

theorem ReadsBack.real (back : r.ReadsBack write) {x : Binary32} (number : x ∈ r.numbers)
    (finite : x.isFinite = true) : Reads write Json.real (.real x) (.ok x) :=
  real_reads finite (back x number finite)

theorem reads_of_lastMembers (indexed : ∀ i ∈ r.origins, i < twoPow 64)
    (back : r.ReadsBack write) (finite : r.offset.isFinite = true) {answer : Except Fault Draft}
    (remaining : Fills write fields (.upToOffset r) r.lastMembers answer) :
    Reads write reader r.toJson (answer >>= fun d => d.finish.elim (.error .mismatched) .ok) := by
  refine Fills.reads ?_ Draft.finish
  refine .next rfl rfl ((string_reads r.target).map _) ?_
  refine .next rfl rfl ((list_reads fun t _ => t.reader_reads).map _) ?_
  refine .next rfl rfl ((letters_reads r.pool).map _) ?_
  refine .next rfl rfl ((letters_reads r.typed).map _) ?_
  refine .next rfl rfl ((indices_reads indexed).map _) ?_
  refine .next rfl rfl ((words_reads r.accepted).map _) ?_
  refine .next rfl rfl ((letters_reads r.thrown).map _) ?_
  refine .next rfl rfl ((letters_reads r.solved).map _) ?_
  refine .next rfl rfl ((amount_reads r.points).map _) ?_
  refine .next rfl rfl ((amount_reads r.score).map _) ?_
  refine .next rfl rfl ((back.real (.head _) finite).map _) ?_
  exact remaining

/-- The numbers of a round that nothing keeps finite, by their keys. -/
def unbounded (r : Round) : List (String × Binary32) := [
  ("word_position_scaled", r.screenOffset),
  ("word_width_per_second", r.velocity),
  ("output_knockback", r.shove)]

/-- With all numbers finite a round reads back. -/
theorem reader_reads (indexed : ∀ i ∈ r.origins, i < twoPow 64) (back : r.ReadsBack write)
    (finite : r.offset.isFinite = true) (bounded : ∀ m ∈ r.unbounded, m.2.isFinite = true) :
    Reads write reader r.toJson (.ok r) := by
  simp only [unbounded, List.forall_mem_cons] at bounded
  obtain ⟨screen, velocity, shove, -⟩ := bounded
  have filled : Fills write fields (.upToOffset r) r.lastMembers (.ok { Draft.upToOffset r with
      screenOffset := some r.screenOffset
      velocity := some r.velocity
      shove := some r.shove
      hint := some r.hint
      tag := some r.tag }) := by
    refine .next rfl rfl ((back.real (.tail _ (.head _)) screen).map _) ?_
    refine .next rfl rfl ((back.real (.tail _ (.tail _ (.head _))) velocity).map _) ?_
    refine .next rfl rfl ((back.real (.tail _ (.tail _ (.tail _ (.head _)))) shove).map _) ?_
    refine .next rfl rfl ((string_reads r.hint).map _) ?_
    refine .next rfl rfl (r.tag.reader_reads.map _) ?_
    exact .done _
  exact reads_of_lastMembers indexed back finite filled

/-- The first number that is not finite is refused. -/
theorem reader_refuses (indexed : ∀ i ∈ r.origins, i < twoPow 64) (back : r.ReadsBack write)
    (finite : r.offset.isFinite = true) (infinite : ∃ m ∈ r.unbounded, m.2.isFinite = false) :
    Reads write reader r.toJson (.error .mismatched) := by
  -- Members are read in order, so the first such number ends the reading.
  have filled : Fills write fields (.upToOffset r) r.lastMembers (.error .mismatched) := by
    cases screen : r.screenOffset.isFinite with
    | false => exact .stop rfl rfl ((real_refuses screen).map _)
    | true =>
      refine .next rfl rfl ((back.real (.tail _ (.head _)) screen).map _) ?_
      cases velocity : r.velocity.isFinite with
      | false => exact .stop rfl rfl ((real_refuses velocity).map _)
      | true =>
        refine .next rfl rfl ((back.real (.tail _ (.tail _ (.head _))) velocity).map _) ?_
        have shove : r.shove.isFinite = false := by
          simpa [unbounded, screen, velocity] using infinite
        exact .stop rfl rfl ((real_refuses shove).map _)
  exact reads_of_lastMembers indexed back finite filled

/-- A number that is not finite stands as null after its key. -/
theorem render_null {m : String × Binary32} (member : m ∈ r.unbounded)
    (infinite : m.2.isFinite = false) :
    textChars m.1 ++ ":null".toList <:+: (r.renderWith write).toList := by
  have stored : ∃ ms, r.toJson = .object ms ∧ (m.1, .real m.2) ∈ ms := by
    refine ⟨_, rfl, ?_⟩
    simp only [unbounded, List.mem_cons, List.not_mem_nil, or_false] at member
    rcases member with rfl | rfl | rfl <;> simp
  obtain ⟨ms, object, place⟩ := stored
  have text : memberText write (m.1, .real m.2) = textChars m.1 ++ ":null".toList := by
    rw [memberText, chars_null infinite]
    rfl
  rw [← text, renderWith, object, Tree.render, String.toList_ofList]
  exact memberText_infix place

end Fields

end Round

namespace Game

variable {σ : Type} [LevelSource σ]

/-- A letter is typed from a place in the target's letters. -/
theorem Reachable.origin_lt {g : Game σ} (reachable : g.Reachable) :
    ∀ i ∈ g.round.origins, i < g.round.target.length := by
  obtain ⟨start, attempt⟩ := reachable.attempt
  have drawn : Drawn start g.round.typed g.round.origins g.round.pool := attempt
  rw [← reachable.coherent.length_eq, drawn.length_eq]
  exact drawn.origin_lt

/-- A stored round reads back as it was if the screen offset, the velocity and the shove
are finite. One of them that is not stands as null, and the text is refused. The finite
numbers may be written in any way in which they read back. Origins are 64-bit numbers, and
no word in memory has more letters than these can number. -/
theorem stored_round_reloads {g : Game σ} (reachable : g.Reachable)
    (short : g.round.target.length ≤ twoPow 64) {write : Binary32 → List Char}
    (back : g.round.ReadsBack write) :
    ((∀ m ∈ g.round.unbounded, m.2.isFinite = true) →
      Round.ofJson (g.round.renderWith write) = .ok g.round) ∧
    ∀ m ∈ g.round.unbounded, m.2.isFinite = false →
      textChars m.1 ++ ":null".toList <:+: (g.round.renderWith write).toList ∧
        Round.ofJson (g.round.renderWith write) = .error .mismatched := by
  have indexed : ∀ i ∈ g.round.origins, i < twoPow 64 :=
    fun i member => (reachable.origin_lt i member).trans_le short
  have finite := reachable.offset_finite
  constructor
  · intro bounded
    exact (Round.reader_reads indexed back finite bounded).parse
  · intro m member infinite
    exact ⟨Round.render_null member infinite,
      (Round.reader_refuses indexed back finite ⟨m, member, infinite⟩).parse⟩

namespace Sample

/-- A word of a quote, a backslash, control characters with a letter and without one, and a
letter beyond ASCII. -/
def escapes : LevelCycle :=
  ⟨[⟨"\"\\\n\x01É", "SAY \"\\n\"\x07 ☃\n\t\r\x08\x0c", Level.standardVelocity, 0⟩], 0,
    by decide⟩

/-- A game where every word counts. -/
def escaping : Game LevelCycle :=
  ((idle Tuning.standard escapes (fun _ => true) 7).start (LevelSource.current escapes)).game

theorem escaping_reachable : escaping.Reachable :=
  .create (create_eq_ok_iff.mpr ⟨rfl, by decide, rfl, rfl⟩)

/-- After an accepted word, with a letter typed and the word on its way. -/
def quoted : Game LevelCycle :=
  escaping.after [.press ['"', '\\'], .submit, .press ['É'], .fitScreen 300, .tick 1]

def quotedText : String :=
  "\x7b\"text\":\"\\\"\\\\\\n\\u0001É\",\"slots\":[\x7b\"letter\":\"\\\"\",\"selected\":false\x7d," ++
  "\x7b\"letter\":\"\\\\\",\"selected\":false\x7d,\x7b\"letter\":\"\\n\",\"selected\":false\x7d," ++
  "\x7b\"letter\":\"\\u0001\",\"selected\":false\x7d,\x7b\"letter\":\"É\",\"selected\":true\x7d]," ++
  "\"available\":[\"\\\"\",\"\\\\\",\"\\n\",\"\\u0001\"],\"inputs\":[\"É\"],\"input_origins\":[4]," ++
  "\"repeat\":[\"\\\"\\\\\"],\"outputs\":[\"\\\"\",\"\\\\\"],\"completes\":[],\"points\":2," ++
  "\"score\":2,\"word_position\":-7.2,\"word_position_scaled\":-2.9999998," ++
  "\"word_width_per_second\":-0.01,\"output_knockback\":43.2," ++
  "\"help\":\"SAY \\\"\\\\n\\\"\\u0007 ☃\\n\\t\\r\\b\\f\",\"help_state\":\"none\"\x7d"

theorem quoted_back : quoted.round.ReadsBack numberChars := by
  have same : ∀ x ∈ quoted.round.numbers, parse real (String.ofList (numberChars x)) = .ok x := by
    decide +kernel
  exact fun x number finite => readsBack_numberChars finite (same x number)

theorem stormy_back : stormy.round.ReadsBack numberChars := by
  have same : ∀ x ∈ stormy.round.numbers, x.isFinite = true →
      parse real (String.ofList (numberChars x)) = .ok x := by
    decide +kernel
  exact fun x number finite => readsBack_numberChars finite (same x number finite)

end Sample

theorem stored_round_reloads_samples :
    Sample.quoted.Reachable ∧ Sample.quoted.round.render = Sample.quotedText ∧
      Round.ofJson Sample.quotedText = .ok Sample.quoted.round ∧
      Sample.stormy.Reachable ∧ Sample.stormy.round.velocity.isFinite = false ∧
      Round.ofJson Sample.stormy.round.render = .error .mismatched := by
  have quoted : Sample.quoted.Reachable := Sample.escaping_reachable.after _
  have stormy : Sample.stormy.Reachable := Sample.opening_reachable.after _
  have text : Sample.quoted.round.render = Sample.quotedText := by
    unfold Sample.quotedText
    repeat rw [← String.ofList_append]
    refine congrArg String.ofList ?_
    decide +kernel
  have infinite : Sample.stormy.round.velocity.isFinite = false := by decide +kernel
  obtain ⟨reloads, -⟩ := stored_round_reloads quoted (by decide +kernel) Sample.quoted_back
  obtain ⟨-, refuses⟩ := stored_round_reloads stormy (by decide +kernel) Sample.stormy_back
  refine ⟨quoted, text, ?_, stormy, infinite, ?_⟩
  · rw [← text]
    exact reloads (by decide +kernel)
  · exact (refuses _ (.tail _ (.head _)) infinite).2

end Game

end WordTrack
