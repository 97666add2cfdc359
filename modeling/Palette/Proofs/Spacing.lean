import Palette.Proofs.Joins
import Palette.Proofs.Respelling

/-!
# Pieces with blanks between them

Pieces of a text stay separate when blanks stand between any two of them, but for a mark and its
neighbours (`Spacing.Separates`). Where they run together, two words become one
(`Spacing.separates_of_plainCount`).
-/

namespace Palette

namespace Text

variable {text front back one other : List Char}

/-- Word characters only, and at least one. -/
structure Run (text : List Char) : Prop where
  nonempty : text ≠ []
  words : ∀ c ∈ text, isWord c = true

private theorem run_of_uniform {c : Char} (uniform : Uniform text) (member : c ∈ text)
    (word : isWord c = true) : Run text := by
  rcases uniform with words | ⟨d, rfl, notWord⟩
  · exact ⟨List.ne_nil_of_mem member, words⟩
  · rw [List.mem_singleton.mp member, notWord] at word
    cases word

private theorem Run.append (oneRun : Run one) (otherRun : Run other) : Run (one ++ other) where
  nonempty := List.append_ne_nil_of_left_ne_nil oneRun.nonempty other
  words := fun c inside => (List.mem_append.mp inside).elim (oneRun.words c) (otherRun.words c)

theorem lexemes_of_run (run : Run text) : lexemes text = [text] := by
  have cut := segments_of_uniform run.nonempty (.inl run.words)
  simp [lexemes, cut, isLexeme_of_words run.nonempty run.words]

theorem lexemes_of_mem_marks {mark : String} (member : mark ∈ Vocabulary.marks) :
    lexemes mark.toList = [mark.toList] := by
  have marks : ∀ mark ∈ Vocabulary.marks, lexemes mark.toList = [mark.toList] := by
    decide +kernel
  exact marks mark member

theorem lexemes_of_blanks (blank : ∀ c ∈ text, isBlank c = true) : lexemes text = [] := by
  have whole : (segments text).flatten = text := List.flatten_splitBy _ text
  refine List.filter_eq_nil_iff.mpr fun segment member => ?_
  have blanks : ∀ c ∈ segment, isBlank c = true := by
    intro c inside
    exact blank c (whole ▸ List.mem_flatten_of_mem member inside)
  simpa [isLexeme] using blanks

theorem lexemes_append (apart : Apart front back) :
    lexemes (front ++ back) = lexemes front ++ lexemes back := by
  rw [lexemes, segments_append apart, List.filter_append, lexemes, lexemes]

theorem apart_of_last (ends : ∀ c ∈ front.getLast?, isWord c = false) : Apart front back :=
  fun left last _ _ => .inl (ends left last)

theorem apart_of_first (begins : ∀ c ∈ back.head?, isWord c = false) : Apart front back :=
  fun _ _ right first => .inr (begins right first)

private theorem not_isWord_of_isBlank {c : Char} (blank : isBlank c = true) : isWord c = false := by
  cases word : isWord c with
  | false => rfl
  | true => rw [not_isBlank_of_isWord word] at blank; cases blank

private theorem exists_last_run {c : Char} (last : c ∈ text.getLast?) (word : isWord c = true) :
    ∃ earlier run, segments text = earlier ++ [run] ∧ Run run := by
  have whole : (segments text).flatten = text := List.flatten_splitBy _ text
  have continued := continues_segments text
  rcases List.eq_nil_or_concat (segments text) with empty | ⟨earlier, run, split⟩
  · rw [← whole, empty] at last
    simp at last
  · rw [List.concat_eq_append] at split
    have member : run ∈ segments text := by simp [split]
    rw [← whole, split, List.flatten_append, List.flatten_singleton,
      List.getLast?_append_of_ne_nil _ (continued.nonempty run member)] at last
    exact ⟨earlier, run, split,
      run_of_uniform (continued.uniform run member) (List.mem_of_getLast? last) word⟩

private theorem exists_first_run {c : Char} (first : c ∈ text.head?) (word : isWord c = true) :
    ∃ run later, segments text = run :: later ∧ Run run := by
  have whole : (segments text).flatten = text := List.flatten_splitBy _ text
  have continued := continues_segments text
  cases split : segments text with
  | nil =>
    rw [← whole, split] at first
    simp at first
  | cons run later =>
    have member : run ∈ segments text := by simp [split]
    rw [← whole, split, List.flatten_cons,
      List.head?_append_of_ne_nil _ (continued.nonempty run member)] at first
    exact ⟨run, later, rfl,
      run_of_uniform (continued.uniform run member) (List.mem_of_head? first) word⟩

private theorem continues_joined {earlier later : List (List Char)}
    (frontContinued : Continues [] (earlier ++ [one])) (oneRun : Run one)
    (backContinued : Continues [] (other :: later)) (otherRun : Run other) :
    Continues [] (earlier ++ (one ++ other) :: later) where
  nonempty := by
    intro segment member
    rcases List.mem_append.mp member with before | here
    · exact frontContinued.nonempty segment (List.mem_append_left _ before)
    · rcases List.mem_cons.mp here with rfl | behind
      · exact (oneRun.append otherRun).nonempty
      · exact backContinued.nonempty segment (List.mem_cons_of_mem _ behind)
  uniform := by
    intro segment member
    rcases List.mem_append.mp member with before | here
    · exact frontContinued.uniform segment (List.mem_append_left _ before)
    · rcases List.mem_cons.mp here with rfl | behind
      · exact .inl (oneRun.append otherRun).words
      · exact backContinued.uniform segment (List.mem_cons_of_mem _ behind)
  separate := by
    obtain ⟨before, -, joint⟩ := List.isChain_append.mp frontContinued.separate
    obtain ⟨next, behind⟩ := List.isChain_cons.mp backContinued.separate
    refine List.isChain_append.mpr ⟨before, List.isChain_cons.mpr ⟨?_, behind⟩, ?_⟩
    · intro segment first left last right begins
      rw [List.getLast?_append_of_ne_nil _ otherRun.nonempty] at last
      exact next segment first left last right begins
    · intro segment last joined first left ends right begins
      obtain rfl : one ++ other = joined := Option.some.inj first
      rw [List.head?_append_of_ne_nil _ oneRun.nonempty] at begins
      exact joint segment last one rfl left ends right begins
  joint := by simp [Apart]

def isPlain (lexeme : List Char) : Bool := String.ofList lexeme ∉ ["(", ")"]

/-- The number of lexemes of a text that are no parentheses. -/
def plainCount (text : List Char) : Nat := (lexemes text).countP isPlain

private theorem plainCount_of_blanks (blank : ∀ c ∈ text, isBlank c = true) :
    plainCount text = 0 := by
  rw [plainCount, lexemes_of_blanks blank, List.countP_nil]

theorem plainCount_append (apart : Apart front back) :
    plainCount (front ++ back) = plainCount front + plainCount back := by
  rw [plainCount, lexemes_append apart, List.countP_append, plainCount, plainCount]

private theorem isPlain_of_run (run : Run text) : isPlain text = true := by
  have marks : (["(", ")"].all fun mark => mark.toList.all fun c => !isWord c) = true := by
    decide +kernel
  refine decide_eq_true fun parenthesis => ?_
  obtain ⟨c, rest, rfl⟩ := List.exists_cons_of_ne_nil run.nonempty
  have alone := List.all_eq_true.mp marks _ parenthesis
  simp [run.words c List.mem_cons_self] at alone

private theorem countP_around (run : Run text) (before behind : List (List Char)) :
    ((before ++ text :: behind).filter isLexeme).countP isPlain =
      (before.filter isLexeme).countP isPlain + (behind.filter isLexeme).countP isPlain + 1 := by
  rw [List.filter_append, List.filter_cons_of_pos (isLexeme_of_words run.nonempty run.words),
    List.countP_append, List.countP_cons_of_pos (isPlain_of_run run), Nat.add_assoc]

/-- Where two words run together, there is one less. -/
theorem plainCount_joined (joined : ¬ Apart front back) :
    plainCount (front ++ back) + 1 = plainCount front + plainCount back := by
  simp only [Apart, not_forall, not_or, Bool.not_eq_false] at joined
  obtain ⟨left, last, right, first, leftWord, rightWord⟩ := joined
  obtain ⟨earlier, one, frontSplit, oneRun⟩ := exists_last_run last leftWord
  obtain ⟨other, later, backSplit, otherRun⟩ := exists_first_run first rightWord
  have cut := (continues_joined (frontSplit ▸ continues_segments front) oneRun
    (backSplit ▸ continues_segments back) otherRun).segments_flatten
  have whole : (earlier ++ (one ++ other) :: later).flatten = front ++ back := by
    have parts : ∀ text : List Char, (segments text).flatten = text := List.flatten_splitBy _
    rw [← parts front, ← parts back, frontSplit, backSplit]
    simp
  rw [whole] at cut
  have frontCount := countP_around oneRun earlier []
  have backCount := countP_around otherRun [] later
  rw [List.filter_nil, List.countP_nil] at frontCount
  rw [List.nil_append, List.filter_nil, List.countP_nil] at backCount
  rw [plainCount, plainCount, plainCount, lexemes, lexemes, lexemes, cut, frontSplit, backSplit,
    countP_around (oneRun.append otherRun), frontCount, backCount]
  omega

theorem plainCount_append_le (front back : List Char) :
    plainCount (front ++ back) ≤ plainCount front + plainCount back := by
  by_cases apart : Apart front back
  · exact (plainCount_append apart).le
  · have joined := plainCount_joined apart
    omega

/-- A word character stands first, and one stands last. -/
structure Rimmed (text : List Char) : Prop where
  first : ∃ c ∈ text.head?, isWord c = true
  last : ∃ c ∈ text.getLast?, isWord c = true

theorem Run.rimmed (run : Run text) : Rimmed text where
  first := by
    rw [List.head?_eq_some_head run.nonempty]
    exact ⟨_, rfl, run.words _ (List.head_mem run.nonempty)⟩
  last := by
    rw [List.getLast?_eq_some_getLast run.nonempty]
    exact ⟨_, rfl, run.words _ (List.getLast_mem run.nonempty)⟩

theorem Rimmed.around (oneRimmed : Rimmed one) (otherRimmed : Rimmed other) (middle : List Char) :
    Rimmed (one ++ middle ++ other) where
  first := by
    obtain ⟨c, first, word⟩ := oneRimmed.first
    rw [List.append_assoc, List.head?_append, Option.mem_def.mp first]
    exact ⟨c, rfl, word⟩
  last := by
    obtain ⟨c, last, word⟩ := otherRimmed.last
    rw [List.getLast?_append, Option.mem_def.mp last]
    exact ⟨c, rfl, word⟩

private theorem Rimmed.not_apart (frontRimmed : Rimmed front) (backRimmed : Rimmed back)
    (rest : List Char) : ¬ Apart front (back ++ rest) := by
  obtain ⟨left, last, leftWord⟩ := frontRimmed.last
  obtain ⟨right, first, rightWord⟩ := backRimmed.first
  intro apart
  have begins : right ∈ (back ++ rest).head? := by
    rw [List.head?_append, Option.mem_def.mp first]
    rfl
  rcases apart left last right begins with notWord | notWord
  · rw [leftWord] at notWord; cases notWord
  · rw [rightWord] at notWord; cases notWord

end Text

namespace Vocabulary

private theorem not_isWord_of_mem_marks {mark : String} (member : mark ∈ marks) :
    ∀ c ∈ mark.toList, Text.isWord c = false := by
  have alone : (marks.all fun mark => mark.toList.all fun c => !Text.isWord c) = true := by
    decide +kernel
  simpa using List.all_eq_true.mp alone mark member

private theorem toList_ne_nil_of_mem_marks {mark : String} (member : mark ∈ marks) :
    mark.toList ≠ [] := by
  have spelled : ∀ mark ∈ marks, mark.toList ≠ [] := by decide
  exact spelled mark member

end Vocabulary

/-- A text of characters that only separate. -/
structure Blanks where
  text : String
  blank : text.toList.all Text.isBlank = true

/-- Pieces of a text, each with the blanks in front of it. -/
abbrev Spacing := List (Blanks × String)

theorem Blanks.isBlank (blanks : Blanks) : ∀ c ∈ blanks.text.toList, Text.isBlank c = true :=
  List.all_eq_true.mp blanks.blank

private theorem Blanks.not_isWord (blanks : Blanks) {c : Char} (member : c ∈ blanks.text.toList) :
    Text.isWord c = false :=
  Text.not_isWord_of_isBlank (blanks.isBlank c member)

namespace Spacing

/-- The pieces with their blanks, and blanks behind the last of them. -/
def text (spacing : Spacing) (last : Blanks) : String :=
  spacing.foldr (fun entry rest => entry.1.text ++ (entry.2 ++ rest)) last.text

/-- Blanks stand between any two pieces, but for a mark and its neighbours. -/
def Separates (spacing : Spacing) : Prop :=
  spacing.IsChain fun one other =>
    one.2 ∈ Vocabulary.marks ∨ other.2 ∈ Vocabulary.marks ∨ other.1.text ≠ ""

variable {spacing rest : Spacing} {last blanks : Blanks} {piece : String}

@[simp] theorem text_nil (last : Blanks) : text [] last = last.text := rfl

@[simp] theorem text_cons (last : Blanks) :
    text ((blanks, piece) :: rest) last = blanks.text ++ (piece ++ text rest last) := rfl

private theorem apart_text (separates : Separates ((blanks, piece) :: rest)) (last : Blanks) :
    Text.Apart piece.toList (text rest last).toList := by
  cases rest with
  | nil => exact Text.apart_of_first fun c first => last.not_isWord (List.mem_of_head? first)
  | cons next others =>
    obtain ⟨between, other⟩ := next
    have joint := (List.isChain_cons_cons.mp separates).1
    by_cases empty : between.text = ""
    · rcases joint with mark | mark | filled
      · exact Text.apart_of_last fun c ends =>
          Vocabulary.not_isWord_of_mem_marks mark c (List.mem_of_getLast? ends)
      · refine Text.apart_of_first fun c first => ?_
        have nonempty := Vocabulary.toList_ne_nil_of_mem_marks mark
        rw [text_cons, empty, String.empty_append, String.toList_append,
          List.head?_append_of_ne_nil _ nonempty] at first
        exact Vocabulary.not_isWord_of_mem_marks mark c (List.mem_of_head? first)
      · exact absurd empty filled
    · refine Text.apart_of_first fun c first => ?_
      have nonempty : between.text.toList ≠ [] := by simpa using empty
      rw [text_cons, String.toList_append, List.head?_append_of_ne_nil _ nonempty] at first
      exact between.not_isWord (List.mem_of_head? first)

def lexemes (spacing : Spacing) : List (List Char) :=
  spacing.flatMap fun entry => Text.lexemes entry.2.toList

private theorem lexemes_cons (blanks : Blanks) (piece : String) (rest : Spacing) :
    lexemes ((blanks, piece) :: rest) = Text.lexemes piece.toList ++ lexemes rest :=
  List.flatMap_cons

theorem lexemes_text (separates : spacing.Separates) (last : Blanks) :
    Text.lexemes (spacing.text last).toList = spacing.lexemes := by
  induction spacing with
  | nil => exact Text.lexemes_of_blanks last.isBlank
  | cons entry rest ih =>
    obtain ⟨blanks, piece⟩ := entry
    have begins : Text.Apart blanks.text.toList (piece ++ text rest last).toList :=
      Text.apart_of_last fun c ends => blanks.not_isWord (List.mem_of_getLast? ends)
    rw [text_cons, String.toList_append, Text.lexemes_append begins,
      Text.lexemes_of_blanks blanks.isBlank, List.nil_append, String.toList_append,
      Text.lexemes_append (apart_text separates last), ih separates.tail, lexemes_cons]

private theorem plainCount_text_cons_le (blanks : Blanks) (piece : String) (rest : Spacing)
    (last : Blanks) :
    Text.plainCount (text ((blanks, piece) :: rest) last).toList ≤
      Text.plainCount (piece.toList ++ (text rest last).toList) := by
  have begins :=
    Text.plainCount_append_le blanks.text.toList (piece.toList ++ (text rest last).toList)
  rw [Text.plainCount_of_blanks blanks.isBlank, Nat.zero_add] at begins
  simpa only [text_cons, String.toList_append] using begins

theorem plainCount_text_le (spacing : Spacing) (last : Blanks) :
    Text.plainCount (spacing.text last).toList ≤ spacing.lexemes.countP Text.isPlain := by
  induction spacing with
  | nil => exact (Text.plainCount_of_blanks last.isBlank).le
  | cons entry rest ih =>
    obtain ⟨blanks, piece⟩ := entry
    have begins := plainCount_text_cons_le blanks piece rest last
    have further := Text.plainCount_append_le piece.toList (text rest last).toList
    rw [lexemes_cons, List.countP_append]
    exact begins.trans (further.trans (Nat.add_le_add_left ih _))

/-- Pieces of which no word is lost stay separate. -/
theorem separates_of_plainCount
    (proper : ∀ entry ∈ spacing, entry.2 ∈ Vocabulary.marks ∨ Text.Rimmed entry.2.toList)
    (kept : spacing.lexemes.countP Text.isPlain ≤ Text.plainCount (spacing.text last).toList) :
    spacing.Separates := by
  induction spacing with
  | nil => exact .nil
  | cons entry rest ih =>
    obtain ⟨blanks, piece⟩ := entry
    have begins := plainCount_text_cons_le blanks piece rest last
    have further := Text.plainCount_append_le piece.toList (text rest last).toList
    have later := plainCount_text_le rest last
    rw [lexemes_cons, List.countP_append, ← Text.plainCount] at kept
    -- A loss at this joint or behind it would leave too few, so there is none at either.
    have apart : Text.Apart piece.toList (text rest last).toList := by
      by_contra joined
      have lost := Text.plainCount_joined joined
      omega
    refine List.isChain_cons.mpr ⟨?_, ih (fun other member => proper other (.tail _ member))
      (by omega)⟩
    rintro ⟨between, other⟩ next
    by_contra together
    simp only [not_or, not_not] at together
    obtain ⟨notMark, notOther, empty⟩ := together
    obtain ⟨others, rfl⟩ : ∃ others, rest = (between, other) :: others :=
      List.head?_eq_some_iff.mp next
    have rimmed := (proper (blanks, piece) (by simp)).resolve_left notMark
    have otherRimmed := (proper (between, other) (by simp)).resolve_left notOther
    refine rimmed.not_apart otherRimmed (text others last).toList ?_
    simpa [empty] using apart

end Spacing

end Palette
