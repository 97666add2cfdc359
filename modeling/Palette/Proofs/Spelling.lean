import Palette.Proofs.Classification
import Palette.Proofs.Lockstep

/-!
# Texts of known words

The check of a scan passes the texts in which nothing is foreign, and names the first foreign
stretch of the others (`tokenize_accepts_vocabulary`). A text passes the test of no kind but its own
(`kind_well_defined`).
-/

namespace Palette

namespace Vocabulary

/-- The words of the three tables. -/
def words : List String := keywords ++ colors ++ adjectives

theorem isWord_of_mem_words {word : String} (known : word ∈ words) :
    word = ":" ∨ ∀ c ∈ word.toList, Text.isWord c = true := by
  have letters : (words.all fun word => word == ":" || word.toList.all Text.isWord) = true := by
    decide +kernel
  simpa using List.all_eq_true.mp letters word known

end Vocabulary

theorem Kind.ofLexeme_eq_symbol_iff {lexeme : String} :
    ofLexeme lexeme = .symbol ↔
      Text.upper lexeme ∉ Vocabulary.words ∧ Text.isNumeral lexeme.toList = false := by
  simp only [ofLexeme, Vocabulary.isKeyword, Vocabulary.isColor, Vocabulary.isAdjective,
    List.contains_iff_mem, Vocabulary.words, List.mem_append, not_or]
  split_ifs <;> simp_all

namespace Text

/-- A run that a command may hold: by its uppercase a word of the vocabulary, or digits only. -/
def Known (run : List Char) : Prop :=
  upper (String.ofList run) ∈ Vocabulary.words ∨ ∀ c ∈ run, isDigit c = true

def knownMarks : List Char := ['(', ')', ':']

/-- A run of word characters that no command holds, or such a mark. -/
def Stretch.Foreign (text : List Char) (stretch : Stretch) : Prop :=
  stretch.IsRun text ∧ ¬ Known (stretch.cut text) ∨
    stretch.IsMark text ∧ ∀ c ∈ stretch.cut text, c ∉ knownMarks

/-- The kind of a lexeme says that it is a symbol, and it is none of the marks. -/
def Unknown (lexeme : List Char) : Prop :=
  Kind.ofLexeme (String.ofList lexeme) = .symbol ∧
    Vocabulary.isMark (String.ofList lexeme) = false

instance (lexeme : List Char) : Decidable (Unknown lexeme) := inferInstanceAs (Decidable (_ ∧ _))

private theorem isMark_ofList_iff {lexeme : List Char} :
    Vocabulary.isMark (String.ofList lexeme) = true ↔ ∃ c ∈ knownMarks, lexeme = [c] := by
  have marks : Vocabulary.marks = knownMarks.map fun c => String.ofList [c] := by decide
  rw [Vocabulary.isMark, List.contains_iff_mem, marks, List.mem_map]
  simp only [String.ofList_inj, eq_comm (a := lexeme)]

private theorem unknown_iff_of_words {run : List Char} (nonempty : run ≠ [])
    (words : ∀ c ∈ run, isWord c = true) : Unknown run ↔ ¬ Known run := by
  have notMark : Vocabulary.isMark (String.ofList run) = false := by
    rw [← Bool.not_eq_true, isMark_ofList_iff]
    rintro ⟨c, mark, rfl⟩
    have marks : (knownMarks.all fun c => !isWord c) = true := by decide +kernel
    have notWord := List.all_eq_true.mp marks c mark
    simp [words c List.mem_cons_self] at notWord
  have filled : run.isEmpty = false := by simpa using nonempty
  simp [Unknown, Known, notMark, Kind.ofLexeme_eq_symbol_iff, isNumeral, filled]

private theorem upper_of_not_isWord {c : Char} (notWord : isWord c = false) :
    upper (String.ofList [c]) = String.ofList [c] := by
  simp [upper, upperChar_of_not_isWord notWord]

private theorem unknown_iff_of_not_isWord {c : Char} (notWord : isWord c = false) :
    Unknown [c] ↔ c ∉ knownMarks := by
  have notDigit : isDigit c = false := by
    cases digit : isDigit c with
    | false => rfl
    | true => rw [isWord_of_isDigit digit] at notWord; cases notWord
  have numeral : isNumeral [c] = false := by simp [isNumeral, notDigit]
  have spelled : String.ofList [c] ∈ Vocabulary.words ↔ c = ':' := by
    constructor
    · intro known
      rcases Vocabulary.isWord_of_mem_words known with colon | words
      · simpa using congrArg String.toList colon
      · simp [notWord] at words
    · rintro rfl
      decide
  rw [Unknown, Kind.ofLexeme_eq_symbol_iff, upper_of_not_isWord notWord, String.toList_ofList,
    spelled, ← Bool.not_eq_true (Vocabulary.isMark _), isMark_ofList_iff]
  simp only [numeral, and_true, List.cons.injEq, exists_eq_right', knownMarks]
  simp

variable {text : List Char} {stretch : Stretch}

theorem Stretch.Foreign.whole (foreign : stretch.Foreign text) : stretch.Whole text :=
  foreign.imp And.left And.left

private theorem Stretch.IsRun.isWord_of_mem (run : stretch.IsRun text) :
    ∀ c ∈ stretch.cut text, isWord c = true := by
  intro c member
  obtain ⟨index, held, found⟩ := mem_cut_iff.mp member
  obtain ⟨d, again, word⟩ := run.words index held
  rw [again] at found
  cases found
  exact word

private theorem Stretch.Whole.cut_ne_nil (whole : stretch.Whole text) : stretch.cut text ≠ [] := by
  have begun : stretch.Holds stretch.first := ⟨Nat.le_refl _, whole.first_lt_last⟩
  obtain ⟨c, found, _⟩ := whole.exists_visible begun
  exact List.ne_nil_of_mem (mem_cut_iff.mpr ⟨_, begun, found⟩)

private theorem Stretch.IsMark.exists_cut (mark : stretch.IsMark text) :
    ∃ c, stretch.cut text = [c] ∧ isWord c = false := by
  obtain ⟨single, c, found, notWord, _⟩ := mark
  refine ⟨c, ?_, notWord⟩
  obtain ⟨bound, same⟩ := List.getElem?_eq_some_iff.mp found
  rw [cut, single, List.take_succ_eq_append_getElem bound, same,
    List.drop_left' (by rw [List.length_take]; omega)]

private theorem Stretch.IsRun.not_isMark (run : stretch.IsRun text) : ¬ stretch.IsMark text := by
  intro mark
  have begun : stretch.Holds stretch.first := ⟨Nat.le_refl _, run.nonempty⟩
  exact mark.not_wordAt begun (run.words _ begun)

/-- What a stretch holds is unknown by its kind exactly when it is foreign by its characters. -/
theorem Stretch.unknown_iff_foreign (whole : stretch.Whole text) :
    Unknown (stretch.cut text) ↔ stretch.Foreign text := by
  rcases whole with run | mark
  · rw [unknown_iff_of_words (Stretch.Whole.cut_ne_nil (.inl run)) run.isWord_of_mem]
    simp [Foreign, run, run.not_isMark]
  · have notRun : ¬ stretch.IsRun text := fun run => run.not_isMark mark
    obtain ⟨c, cut, notWord⟩ := mark.exists_cut
    simp only [Foreign, notRun, mark, cut, false_and, true_and, false_or, List.forall_mem_singleton]
    exact unknown_iff_of_not_isWord notWord

theorem forall_not_foreign_iff :
    (∀ stretch : Stretch, ¬ stretch.Foreign text) ↔
      (∀ run : Stretch, run.IsRun text → Known (run.cut text)) ∧
        ∀ c ∈ text, isWord c = false → isBlank c = false → c ∈ knownMarks := by
  constructor
  · intro known
    constructor
    · intro stretch run
      by_contra unknown
      exact known stretch (.inl ⟨run, unknown⟩)
    · intro c member notWord visible
      obtain ⟨index, found⟩ := List.mem_iff_getElem?.mp member
      have mark : Stretch.IsMark text ⟨index, index + 1⟩ := ⟨rfl, c, found, notWord, visible⟩
      by_contra foreign
      refine known ⟨index, index + 1⟩ (.inr ⟨mark, fun d within => ?_⟩)
      obtain ⟨other, held, again⟩ := Stretch.mem_cut_iff.mp within
      rw [mark.eq_of_holds held, found] at again
      cases again
      exact foreign
  · rintro ⟨runs, marks⟩ stretch (⟨run, unknown⟩ | ⟨mark, foreign⟩)
    · exact unknown (runs stretch run)
    · obtain ⟨single, c, found, notWord, visible⟩ := mark
      have begun : stretch.Holds stretch.first := ⟨Nat.le_refl _, by omega⟩
      exact foreign c (Stretch.mem_cut_iff.mpr ⟨_, begun, found⟩)
        (marks c (List.mem_of_getElem? found) notWord visible)

end Text

open Text (Decomposition Stretch stretches knownMarks)

private theorem Scan.offender?_ofText (source : String) :
    (Scan.ofText source).offender? =
      ((stretches source.toList).find? fun stretch => Text.Unknown (stretch.cut source.toList)).map
        (Stretch.token source.toList) := by
  rw [Scan.offender?, Scan.symbols, List.find?_filter, Scan.tokens_ofText, List.find?_map]
  refine congrArg (fun fits => ((stretches source.toList).find? fits).map _) ?_
  funext stretch
  rw [Function.comp_apply, decide_eq_decide, decide_eq_true_eq, Bool.not_eq_true']
  exact Iff.rfl

section
variable {source : String}

theorem Scan.offender?_eq_none_iff :
    (Scan.ofText source).offender? = none ↔
      ∀ stretch : Stretch, ¬ stretch.Foreign source.toList := by
  have decomposed := Text.decomposition_stretches source.toList
  rw [Scan.offender?_ofText, Option.map_eq_none_iff, List.find?_eq_none]
  simp only [decide_eq_true_eq]
  constructor
  · intro known stretch foreign
    exact known stretch ((decomposed.mem_iff stretch).mpr foreign.whole)
      ((Stretch.unknown_iff_foreign foreign.whole).mpr foreign)
  · intro known stretch member unknown
    have whole := (decomposed.mem_iff stretch).mp member
    exact known stretch ((Stretch.unknown_iff_foreign whole).mp unknown)

theorem Scan.exists_first_foreign {token : Token}
    (offends : (Scan.ofText source).offender? = some token) :
    ∃ stretch : Stretch, stretch.Foreign source.toList ∧
      (∀ other : Stretch, other.Foreign source.toList → stretch.first ≤ other.first) ∧
      token = stretch.token source.toList := by
  have decomposed := Text.decomposition_stretches source.toList
  rw [Scan.offender?_ofText, Option.map_eq_some_iff] at offends
  obtain ⟨stretch, found, rfl⟩ := offends
  obtain ⟨unknown, before, behind, split, passed⟩ := List.find?_eq_some_iff_append.mp found
  have member : stretch ∈ stretches source.toList := by simp [split]
  have whole := (decomposed.mem_iff stretch).mp member
  refine ⟨stretch, (Stretch.unknown_iff_foreign whole).mp (of_decide_eq_true unknown), ?_, rfl⟩
  intro other foreign
  have ordered := decomposed.ordered
  have listed := (decomposed.mem_iff other).mpr foreign.whole
  rw [split] at ordered listed
  rcases List.mem_append.mp listed with earlier | later
  · -- Whatever was passed over on the way is known.
    have known := passed other earlier
    rw [decide_eq_true ((Stretch.unknown_iff_foreign foreign.whole).mpr foreign)] at known
    cases known
  · rcases List.mem_cons.mp later with rfl | later
    · exact Nat.le_refl _
    · have next := (List.pairwise_cons.mp (List.pairwise_append.mp ordered).2.1).1 other later
      have nonempty := whole.first_lt_last
      omega

theorem Scan.symbols_eq_parentheses (clear : (Scan.ofText source).offender? = none) :
    (Scan.ofText source).symbols =
      (Scan.ofText source).tokens.filter fun token => token.lexeme ∈ ["(", ")"] := by
  refine List.filter_congr fun token member => ?_
  have classified := Scan.classified_of_mem member
  rw [decide_eq_decide]
  constructor
  · intro symbol
    have mark := List.find?_eq_none.mp clear token
      (List.mem_filter.mpr ⟨member, decide_eq_true symbol⟩)
    have mark : Vocabulary.isMark token.lexeme = true := by simpa using mark
    have mark : token.lexeme ∈ ["(", ")", ":"] := List.contains_iff_mem.mp mark
    have colon : Kind.ofLexeme ":" ≠ .symbol := by decide +kernel
    have other : token.lexeme ≠ ":" := by
      intro same
      rw [Token.Classified, symbol, same] at classified
      exact colon classified.symm
    simpa [other] using mark
  · intro parenthesis
    exact classified.trans (Kind.ofLexeme_of_mem_parentheses parenthesis)

end

/-- A text passes the check exactly when its longest runs of word characters are known and its other
    characters are blanks and marks. One pass has then filled the lists of its tokens and symbols.
    Another text is rejected for the first run or character that breaks the rule. -/
theorem tokenize_accepts_vocabulary (source : String) :
    ((∃ scan, tokenize source = .ok scan) ↔
      (∀ run : Stretch, run.IsRun source.toList → Text.Known (run.cut source.toList)) ∧
        ∀ c ∈ source.toList, Text.isWord c = false → Text.isBlank c = false → c ∈ knownMarks) ∧
    (∀ scan, tokenize source = .ok scan →
      scan = Scan.ofText source ∧
        Scan.fill [] [] (Text.foundFrom .start source.toList) = (scan.tokens, scan.symbols) ∧
        scan.symbols = (scan.tokens.filter fun token => token.kind = .symbol) ∧
        scan.symbols = (scan.tokens.filter fun token => token.lexeme ∈ ["(", ")"]) ∧
        ∀ token ∈ scan.tokens, token.kind = Kind.ofLexeme token.lexeme) ∧
    ∀ rejection, tokenize source = .error rejection →
      ∃ stretch : Stretch, stretch.Foreign source.toList ∧
        (∀ other : Stretch, other.Foreign source.toList → stretch.first ≤ other.first) ∧
        rejection.cause = .unknownSymbol (String.ofList (stretch.cut source.toList)) ∧
        rejection.span = stretch.span source.toList ∧
        rejection.help =
          some "only words from the vocabulary, digits, '(', ')' and ':' may appear" := by
  refine ⟨?_, ?_, ?_⟩
  · rw [← Text.forall_not_foreign_iff, ← Scan.offender?_eq_none_iff]
    simp only [tokenize_eq_ok_iff, exists_and_left, exists_eq, and_true]
  · intro scan passed
    obtain ⟨clear, rfl⟩ := tokenize_eq_ok_iff.mp passed
    exact ⟨rfl, Scan.fill_found source, rfl, Scan.symbols_eq_parentheses clear,
      fun _ => Scan.classified_of_mem⟩
  · intro rejection refused
    obtain ⟨token, offends, rfl⟩ := tokenize_eq_error_iff.mp refused
    obtain ⟨stretch, foreign, first, rfl⟩ := Scan.exists_first_foreign offends
    exact ⟨stretch, foreign, first, rfl, rfl, rfl⟩

theorem Vocabulary.not_isNumeral_of_mem_words {text : String} (known : Text.upper text ∈ words) :
    Text.isNumeral text.toList = false := by
  have letters : ∀ word ∈ words, Text.isNumeral word.toList = false := by decide +kernel
  rw [← Text.isNumeral_upper]
  exact letters _ known

namespace Kind

/-- Nothing is asked of symbols, which are what is left over. -/
def passes (text : String) : Kind → Bool
  | .keyword => Vocabulary.isKeyword (Text.upper text)
  | .color => Vocabulary.isColor (Text.upper text)
  | .adjective => Vocabulary.isAdjective (Text.upper text)
  | .number => Text.isNumeral text.toList
  | .symbol => false

def tested : List Kind := [.keyword, .color, .adjective, .number]

/-- The first kind in an order whose test a text passes. A text that passes none is a symbol. -/
def firstPassed (order : List Kind) (text : String) : Kind :=
  (order.find? (passes text)).getD .symbol

variable {text : String} {kind : Kind}

theorem ofLexeme_eq_number_iff : ofLexeme text = .number ↔ Text.isNumeral text.toList = true := by
  constructor
  · intro number
    simp only [ofLexeme] at number
    split_ifs at number with _ _ _ numeral
    exact numeral
  · intro numeral
    by_cases known : Text.upper text ∈ Vocabulary.words
    · rw [Vocabulary.not_isNumeral_of_mem_words known] at numeral
      cases numeral
    · simp only [Vocabulary.words, List.mem_append, not_or] at known
      simp [ofLexeme, Vocabulary.isKeyword, Vocabulary.isColor, Vocabulary.isAdjective, known,
        numeral]

/-- A text passes the test for its own kind and no other. -/
theorem passes_iff (test : kind ∈ tested) : kind.passes text = true ↔ ofLexeme text = kind := by
  cases kind with
  | keyword => rw [passes, Vocabulary.isKeyword, List.contains_iff_mem, ofLexeme_eq_keyword_iff]
  | color => rw [passes, Vocabulary.isColor, List.contains_iff_mem, ofLexeme_eq_color_iff]
  | adjective =>
    rw [passes, Vocabulary.isAdjective, List.contains_iff_mem, ofLexeme_eq_adjective_iff]
  | number => rw [passes, ofLexeme_eq_number_iff]
  | symbol => exact absurd test (by decide)

private theorem ofLexeme_of_passes (passed : kind.passes text = true) : ofLexeme text = kind := by
  apply (passes_iff _).mp passed
  cases kind with
  | symbol => cases passed
  | keyword | color | adjective | number => decide

private theorem firstPassed_eq_ofLexeme {order : List Kind} (complete : tested ⊆ order) :
    firstPassed order text = ofLexeme text := by
  unfold firstPassed
  cases found : order.find? (passes text) with
  | some kind => exact (ofLexeme_of_passes (List.find?_some found)).symm
  | none =>
    rw [Option.getD_none]
    by_contra other
    have test : ofLexeme text ∈ tested := by
      revert other
      cases ofLexeme text <;> decide
    have refused := List.find?_eq_none.mp found _ (complete test)
    exact refused ((passes_iff test).mpr rfl)

end Kind

/-- A text passes one of the tests for kinds at the most, in whatever order. Numbers are the texts
    of decimal digits and nothing else, not even a line feed behind them, and texts with the same
    uppercase have the same kind. -/
theorem kind_well_defined (text : String) :
    (∀ one other : Kind, one.passes text = true → other.passes text = true → one = other) ∧
    (∀ order : List Kind, order.Perm Kind.tested →
      Kind.firstPassed order text = Kind.ofLexeme text) ∧
    (Kind.ofLexeme text = .number ↔
      text ≠ "" ∧ ∀ c ∈ text.toList, Text.isDigit c = true) ∧
    Kind.ofLexeme (text ++ "\n") ≠ .number ∧
    (∀ other : String, Text.upper other = Text.upper text →
      Kind.ofLexeme other = Kind.ofLexeme text) ∧
    Kind.ofLexeme (Text.upper text) = Kind.ofLexeme text := by
  refine ⟨?_, ?_, ?_, ?_, ?_, ?_⟩
  · intro one other passed again
    exact (Kind.ofLexeme_of_passes passed).symm.trans (Kind.ofLexeme_of_passes again)
  · intro order reordered
    exact Kind.firstPassed_eq_ofLexeme reordered.symm.subset
  · rw [Kind.ofLexeme_eq_number_iff]
    simp [Text.isNumeral]
  · intro number
    have digits := Kind.ofLexeme_eq_number_iff.mp number
    have feed : Text.isDigit '\n' = false := by decide
    simp [Text.isNumeral, feed] at digits
  · exact fun other same => Kind.ofLexeme_congr same
  · exact Kind.ofLexeme_congr (Text.upper_upper text)

/-- Digits of another script, and digits with a line feed behind them. -/
example : Kind.ofLexeme "٤٢" = .number ∧ Kind.ofLexeme "42\n" = .symbol := by decide +kernel

end Palette
