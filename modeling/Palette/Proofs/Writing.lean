import Palette.Proofs.Spacing
import Palette.Proofs.Spelling

/-!
# Commands written anew

The words of a command fill the slots of a sentence wherever they stand (`Command.Worded.spelled`).
So with any blanks that keep the words apart what is written with them is the same command
(`parse_rewritten`).
-/

namespace Palette

open Grammar (Slot Part Fills Sentence Says)

namespace Grammar

/-- Every token that is spelled so can fill a slot. -/
def Slot.Takes (spelling : String) (slot : Slot) : Prop :=
  ∀ token : Token, token.lexeme = spelling → slot.Admits token

/-- Tokens that are spelled so fill the parts. -/
def Spelled (parts : List Part) (spellings : List String) : Prop :=
  ∀ tokens : List Token, tokens.map Token.lexeme = spellings → Fills parts tokens

section
variable {slot : Slot} {part : Part} {parts : List Part} {token : Token} {tokens : List Token}
  {spelling : String} {spellings : List String}

private theorem Slot.takes_of_admits (admitted : slot.Admits token) : slot.Takes token.lexeme :=
  fun other same => (slot.admits_congr (by rw [Token.upper, Token.upper, same])).mp admitted

private theorem Slot.parenthesis_of_admits (admitted : slot.Admits token)
    (symbol : slot.kind = .symbol) :
    token.lexeme ∈ ["(", ")"] := by
  cases slot with
  | openParen => exact List.mem_cons.mpr (.inl admitted)
  | closeParen => exact List.mem_cons_of_mem _ (List.mem_singleton.mpr admitted)
  | verb | palette | size | count | fromWord | adjective | color | separator => cases symbol

private theorem spelled_nil : Spelled [] [] := by
  intro tokens same
  rw [List.map_eq_nil_iff.mp same]
  exact .done

theorem Spelled.fill (takes : part.slot.Takes spelling) (further : Spelled parts spellings) :
    Spelled (part :: parts) (spelling :: spellings) := by
  intro tokens same
  obtain ⟨token, rest, rfl, lexeme, later⟩ := List.map_eq_cons_iff.mp same
  exact .fill (takes token lexeme) (further rest later)

theorem Spelled.skip (further : Spelled parts spellings) :
    Spelled (.optional slot :: parts) spellings :=
  fun tokens same => .skip (further tokens same)

theorem Spelled.optional (takes : slot.Takes spelling) (present : Bool)
    (further : Spelled parts spellings) :
    Spelled (.optional slot :: parts) ((if present then [spelling] else []) ++ spellings) := by
  cases present with
  | true => exact .fill takes further
  | false => exact .skip further

/-- The slot of a part that one token must fill. -/
def Part.required? : Part → Option Slot
  | .required slot => some slot
  | .optional _ => none

private theorem takes_of_fills (filled : Fills parts tokens)
    (plain : ∀ part ∈ parts, part.slot.kind = .symbol ↔ part.required? = none) :
    List.Forall₂ Slot.Takes ((unbracketed tokens).map Token.lexeme)
      (parts.filterMap Part.required?) := by
  induction filled with
  | done => exact .nil
  | @fill part parts token tokens admitted filled ih =>
    have later := ih fun other member => plain other (List.mem_cons_of_mem _ member)
    have kind := plain part List.mem_cons_self
    cases part with
    | required slot =>
      rw [unbracketed_cons_of_admits admitted (by simpa [Part.required?] using kind)]
      exact .cons (Slot.takes_of_admits admitted) later
    | optional slot =>
      have parenthesis := Slot.parenthesis_of_admits admitted (kind.mpr rfl)
      have alone : unbracketed [token] = [] :=
        unbracketed_of_parentheses fun other member => List.mem_singleton.mp member ▸ parenthesis
      rw [← List.singleton_append, unbracketed_append, alone, List.nil_append]
      exact later
  | @skip slot parts tokens filled ih =>
    exact ih fun other member => plain other (List.mem_cons_of_mem _ member)

end

end Grammar

private theorem Text.run_of_upper {text : String} (nonempty : text ≠ "")
    (words : ∀ d ∈ (upper text).toList, isWord d = true) : Run text.toList where
  nonempty := by simpa using nonempty
  words := by
    intro c member
    obtain ⟨d, rest, split⟩ := List.exists_cons_of_ne_nil (upperChar_ne_nil c)
    have spelled : d ∈ upperChar c := by simp [split]
    rw [← isWord_of_mem_upperChar spelled]
    exact words d (by simpa [upper] using ⟨c, member, spelled⟩)

private theorem Kind.run_of_ofLexeme {lexeme : String} (known : ofLexeme lexeme ≠ .symbol) :
    lexeme = ":" ∨ Text.Run lexeme.toList := by
  rw [Ne, Kind.ofLexeme_eq_symbol_iff, not_and_or, not_not, Bool.not_eq_false] at known
  rcases known with word | numeral
  · rcases Vocabulary.isWord_of_mem_words word with colon | words
    · have caseless : ([":"].all fun word => word.toList.all Text.isCaseless) = true := by
        decide +kernel
      have same := (Text.upper_mem_iff_of_caseless caseless).mp (List.mem_singleton.mpr colon)
      exact .inl (List.mem_singleton.mp same)
    · refine .inr (Text.run_of_upper ?_ words)
      rintro rfl
      exact absurd word (by decide +kernel)
  · simp only [Text.isNumeral, Bool.and_eq_true, Bool.not_eq_true', List.isEmpty_eq_false_iff,
      List.all_eq_true] at numeral
    exact .inr ⟨numeral.1, fun c member => Text.isWord_of_isDigit (numeral.2 c member)⟩

private theorem Grammar.Slot.Takes.colon_or_run {slot : Slot} {spelling : String}
    (takes : slot.Takes spelling) (word : slot.kind ≠ .symbol) :
    spelling = ":" ∨ Text.Run spelling.toList := by
  have kind := Slot.ofLexeme_of_admits (takes ⟨.symbol, spelling, ⟨.start, 0⟩⟩ rfl)
  exact Kind.run_of_ofLexeme (kind ▸ word)

theorem Grammar.Slot.Takes.run {slot : Slot} {spelling : String} (takes : slot.Takes spelling)
    (word : slot ∉ [.openParen, .closeParen, .separator]) : Text.Run spelling.toList := by
  have plain : slot.kind ≠ .symbol := by
    cases slot <;> first | decide | exact absurd word (by decide)
  refine (takes.colon_or_run plain).resolve_left ?_
  rintro rfl
  have colon : ∀ slot : Slot, slot.Admits ⟨.symbol, ":", ⟨.start, 0⟩⟩ → slot = .separator := by
    intro slot
    cases slot <;> decide +kernel
  rw [colon slot (takes _ rfl)] at word
  exact absurd word (by decide)

private theorem Grammar.Slot.Takes.lexemes_eq {slot : Slot} {spelling : String}
    (takes : slot.Takes spelling) : Text.lexemes spelling.toList = [spelling.toList] := by
  by_cases symbol : slot.kind = .symbol
  · have parenthesis :=
      Slot.parenthesis_of_admits (takes ⟨.symbol, spelling, ⟨.start, 0⟩⟩ rfl) symbol
    have marks : ∀ mark ∈ ["(", ")"], mark ∈ Vocabulary.marks := by decide
    exact Text.lexemes_of_mem_marks (marks spelling parenthesis)
  · rcases takes.colon_or_run symbol with rfl | run
    · exact Text.lexemes_of_mem_marks (by decide)
    · exact Text.lexemes_of_run run

private theorem Grammar.Slot.Takes.not_parenthesis {slot : Slot} {spelling : String}
    (takes : slot.Takes spelling) (word : slot.kind ≠ .symbol) : spelling ∉ ["(", ")"] :=
  Slot.not_parenthesis_of_admits (takes ⟨.symbol, spelling, ⟨.start, 0⟩⟩ rfl) word

private theorem Text.lexemes_of_runs {one other : String} (oneRun : Run one.toList)
    (otherRun : Run other.toList) :
    lexemes (one ++ " " ++ other).toList = [one.toList, other.toList] := by
  have blank : isWord ' ' = false ∧ isBlank ' ' = true := by decide +kernel
  have begins : Apart (one.toList ++ [' ']) other.toList :=
    apart_of_last fun c last => by simpa using Option.some.inj (by simpa using last) ▸ blank.1
  have joint : Apart one.toList [' '] :=
    apart_of_first fun c first => Option.some.inj first ▸ blank.1
  have space : lexemes [' '] = [] := lexemes_of_blanks (by simpa using blank.2)
  have spelled : (one ++ " " ++ other).toList = one.toList ++ [' '] ++ other.toList := by
    simp only [String.toList_append]
    rfl
  rw [spelled, lexemes_append begins, lexemes_append joint, lexemes_of_run oneRun, space,
    lexemes_of_run otherRun]
  rfl

private theorem Text.rimmed_of_words {one other : String} (oneRun : Run one.toList)
    (otherRun : Run other.toList) : Rimmed (one ++ " " ++ other).toList := by
  rw [String.toList_append, String.toList_append]
  exact oneRun.rimmed.around otherRun.rimmed _

/-- The words of an endpoint can fill the slots of one. -/
structure Endpoint.Worded (endpoint : Endpoint) : Prop where
  adjective : Slot.adjective.Takes endpoint.adjective
  color : Slot.color.Takes endpoint.color

theorem Endpoint.Worded.lexemes_text {endpoint : Endpoint} (worded : endpoint.Worded) :
    Text.lexemes endpoint.text.toList = [endpoint.adjective.toList, endpoint.color.toList] :=
  Text.lexemes_of_runs (worded.adjective.run (by decide)) (worded.color.run (by decide))

private theorem Endpoint.Worded.rimmed_text {endpoint : Endpoint} (worded : endpoint.Worded) :
    Text.Rimmed endpoint.text.toList :=
  Text.rimmed_of_words (worded.adjective.run (by decide)) (worded.color.run (by decide))

namespace Command

variable {said : Command} {verb palette count separator : String} {opened closed : Bool}

/-- What a command is written with, in the order of a sentence. -/
def pieces (said : Command) (count separator : String) (opened closed : Bool) : List String :=
  [said.opening, toString said.size, count, "from"] ++ (if opened then ["("] else []) ++
    [said.first.text, separator, said.second.text] ++ (if closed then [")"] else [])

/-- The lexemes that these pieces are made of. -/
def spellings (said : Command) (verb palette count separator : String) (opened closed : Bool) :
    List String :=
  [verb, palette, toString said.size, count, "from"] ++ (if opened then ["("] else []) ++
    [said.first.adjective, said.first.color, separator, said.second.adjective,
      said.second.color] ++ (if closed then [")"] else [])

/-- Each word of a command, the word for the count and the separator can fill its slot. -/
structure Worded (said : Command) (verb palette count separator : String) : Prop where
  opening : said.opening = verb ++ " " ++ palette
  verb : Slot.verb.Takes verb
  palette : Slot.palette.Takes palette
  size : Slot.size.Takes (toString said.size)
  count : Slot.count.Takes count
  first : said.first.Worded
  separator : Slot.separator.Takes separator
  second : said.second.Worded

/-- What a sentence says is in words that can fill their slots again. -/
theorem exists_worded_of_sentence {tokens : List Token} (sentence : Sentence tokens)
    (told : Says tokens said) (counts : Slot.count.Takes count)
    (separates : Slot.separator.Takes separator) :
    ∃ verb palette, said.Worded verb palette count separator := by
  have takes := Grammar.takes_of_fills sentence (by decide)
  obtain ⟨verb, palette, _, _, _, lexemes, opening⟩ := told
  rw [lexemes] at takes
  simp only [Grammar.command, Grammar.Part.required?, List.filterMap_cons, List.filterMap_nil,
    List.forall₂_cons] at takes
  obtain ⟨verbs, palettes, size, -, -, shade, color, -, otherShade, otherColor, -⟩ := takes
  exact ⟨verb, palette, opening, verbs, palettes, size, counts, ⟨shade, color⟩, separates,
    otherShade, otherColor⟩

private theorem takes_from : Slot.fromWord.Takes "from" := by
  intro token same
  rw [Slot.Admits, Token.upper, same]
  decide +kernel

namespace Worded

theorem spelled (worded : said.Worded verb palette count separator) (opened closed : Bool) :
    Grammar.Spelled Grammar.command
      (said.spellings verb palette count separator opened closed) := by
  have openParen : Slot.openParen.Takes "(" := fun _ same => same
  have closeParen : Slot.closeParen.Takes ")" := fun _ same => same
  have closing := Grammar.Spelled.optional closeParen closed Grammar.spelled_nil
  rw [List.append_nil] at closing
  simp only [spellings, List.cons_append, List.nil_append, List.append_assoc]
  exact .fill worded.verb <| .fill worded.palette <| .fill worded.size <| .fill worded.count <|
    .fill takes_from <| .optional openParen opened <| .fill worded.first.adjective <|
    .fill worded.first.color <| .fill worded.separator <| .fill worded.second.adjective <|
    .fill worded.second.color closing

theorem lexemes_pieces (worded : said.Worded verb palette count separator)
    (opened closed : Bool) :
    (said.pieces count separator opened closed).flatMap (fun piece => Text.lexemes piece.toList) =
      (said.spellings verb palette count separator opened closed).map String.toList := by
  have opening :=
    Text.lexemes_of_runs (worded.verb.run (by decide)) (worded.palette.run (by decide))
  have optional : ∀ present : Bool, ∀ mark ∈ Vocabulary.marks,
      (if present then [mark] else []).flatMap (fun piece => Text.lexemes piece.toList) =
        (if present then [mark] else []).map String.toList := by
    intro present mark member
    cases present with
    | true => simp [Text.lexemes_of_mem_marks member]
    | false => rfl
  simp only [pieces, spellings, worded.opening, List.flatMap_append, List.map_append,
    List.flatMap_cons, List.flatMap_nil, List.map_cons, List.map_nil, opening,
    worded.first.lexemes_text, worded.second.lexemes_text, worded.size.lexemes_eq,
    worded.count.lexemes_eq, takes_from.lexemes_eq, worded.separator.lexemes_eq,
    optional opened "(" (by decide), optional closed ")" (by decide), List.cons_append,
    List.nil_append]

private theorem filter_spellings (worded : said.Worded verb palette count separator)
    (opened closed : Bool) :
    ((said.spellings verb palette count separator opened closed).filter fun spelling =>
        spelling ∉ ["(", ")"]) =
      [verb, palette, toString said.size, count, "from", said.first.adjective, said.first.color,
        separator, said.second.adjective, said.second.color] := by
  have optional : ∀ present : Bool, ∀ mark ∈ ["(", ")"],
      ((if present then [mark] else []).filter fun spelling => spelling ∉ ["(", ")"]) = [] := by
    intro present mark member
    cases present with
    | true => rcases List.mem_pair.mp member with rfl | rfl <;> rfl
    | false => rfl
  have plain {slot : Slot} {spelling : String} (takes : slot.Takes spelling)
      (word : slot.kind ≠ .symbol) : decide (spelling ∉ ["(", ")"]) = true :=
    decide_eq_true (takes.not_parenthesis word)
  simp only [spellings, List.filter_append, List.filter_cons, List.filter_nil,
    optional opened "(" (by decide), optional closed ")" (by decide),
    plain worded.verb (by decide), plain worded.palette (by decide),
    plain worded.size (by decide), plain worded.count (by decide), plain takes_from (by decide),
    plain worded.first.adjective (by decide), plain worded.first.color (by decide),
    plain worded.separator (by decide), plain worded.second.adjective (by decide),
    plain worded.second.color (by decide), if_true, List.append_nil, List.cons_append,
    List.nil_append]

theorem rimmed (worded : said.Worded verb palette count separator) {piece : String}
    (member : piece ∈ said.pieces count separator opened closed) :
    piece ∈ Vocabulary.marks ∨ Text.Rimmed piece.toList := by
  have optional : ∀ present : Bool, ∀ mark ∈ Vocabulary.marks,
      piece ∈ (if present then [mark] else []) → piece ∈ Vocabulary.marks := by
    intro present mark known listed
    cases present with
    | true => exact List.mem_singleton.mp listed ▸ known
    | false => cases listed
  simp only [pieces, worded.opening, List.mem_append, List.mem_cons, List.not_mem_nil,
    or_false] at member
  rcases member with ((((rfl | rfl | rfl | rfl) | opens) | rfl | rfl | rfl)) | closes
  · exact .inr (Text.rimmed_of_words (worded.verb.run (by decide)) (worded.palette.run (by decide)))
  · exact .inr (worded.size.run (by decide)).rimmed
  · exact .inr (worded.count.run (by decide)).rimmed
  · exact .inr (takes_from.run (by decide)).rimmed
  · exact .inl (optional opened "(" (by decide) opens)
  · exact .inr worded.first.rimmed_text
  · rcases worded.separator.colon_or_run (by decide) with rfl | run
    · exact .inl (by decide)
    · exact .inr run.rimmed
  · exact .inr worded.second.rimmed_text
  · exact .inl (optional closed ")" (by decide) closes)

end Worded

end Command

private theorem Text.countP_isPlain (spellings : List String) :
    (spellings.map String.toList).countP isPlain =
      (spellings.filter fun spelling => spelling ∉ ["(", ")"]).length := by
  rw [List.countP_map, List.countP_eq_length_filter]
  refine congrArg List.length (List.filter_congr fun spelling _ => ?_)
  rw [Function.comp_apply, isPlain, String.ofList_toList]

private theorem Grammar.map_lexeme_unbracketed (tokens : List Token) :
    (unbracketed tokens).map Token.lexeme =
      (tokens.map Token.lexeme).filter fun lexeme => lexeme ∉ ["(", ")"] := by
  rw [List.filter_map]
  rfl

theorem plainCount_of_parse {source : String} {said : Command}
    (accepted : parse source = .ok said) : Text.plainCount source.toList = 10 := by
  obtain ⟨_, _, _, _, _, lexemes, _⟩ := (sentence_of_parse accepted).2
  have same : Text.lexemes source.toList =
      ((Scan.ofText source).tokens.map Token.lexeme).map String.toList := by
    rw [Scan.map_lexeme_ofText, List.map_map]
    simp
  rw [Text.plainCount, same, Text.countP_isPlain, ← Grammar.map_lexeme_unbracketed, lexemes]
  rfl

/-- A command is read again from what it is written with, when blanks keep its words apart, but for
    the colon and the parentheses. Where words run together, the text is no command at all. -/
theorem parse_rewritten (source : String) (said : Command) (accepted : parse source = .ok said)
    (count separator : String) (counts : Text.upper count ∈ ["COLOR", "COLORS"])
    (separates : separator = ":" ∨ Text.upper separator = "TO") (opened closed : Bool)
    (spacing : Spacing) (last : Blanks)
    (pieces : spacing.map Prod.snd = said.pieces count separator opened closed) :
    (spacing.Separates → parse (spacing.text last) = .ok said) ∧
      ∀ heard, parse (spacing.text last) = .ok heard → spacing.Separates := by
  have countTakes : Slot.count.Takes count := by
    intro token same
    rwa [Slot.Admits, Token.upper, same]
  have separatorTakes : Slot.separator.Takes separator := by
    have colon : Text.upper ":" = ":" := by decide +kernel
    intro token same
    rw [Slot.Admits, Token.upper, same]
    rcases separates with rfl | upper
    · simp [colon]
    · simp [upper]
  obtain ⟨sentence, told⟩ := sentence_of_parse accepted
  obtain ⟨verb, palette, worded⟩ :=
    Command.exists_worded_of_sentence sentence told countTakes separatorTakes
  have lexemes : spacing.lexemes =
      (said.spellings verb palette count separator opened closed).map String.toList := by
    rw [← worded.lexemes_pieces, ← pieces, List.flatMap_map]
    rfl
  constructor
  · intro apart
    have spelled : (Scan.ofText (spacing.text last)).tokens.map Token.lexeme =
        said.spellings verb palette count separator opened closed := by
      rw [Scan.map_lexeme_ofText, Spacing.lexemes_text apart, lexemes, List.map_map]
      simp
    refine parse_eq_ok_of_sentence (worded.spelled opened closed _ spelled)
      ⟨verb, palette, count, "from", separator, ?_, worded.opening⟩
    rw [Grammar.map_lexeme_unbracketed, spelled, worded.filter_spellings]
  · intro heard again
    -- The text is a command, so it still has the ten lexemes that its pieces have.
    have kept : spacing.lexemes.countP Text.isPlain = 10 := by
      rw [lexemes, Text.countP_isPlain, worded.filter_spellings]
      rfl
    rw [← plainCount_of_parse again] at kept
    refine Spacing.separates_of_plainCount (fun entry member => ?_) kept.le
    exact worded.rimmed (pieces ▸ List.mem_map_of_mem member)

theorem parse_without_blanks_at_marks :
    let said : Command := ⟨"gENERATE Palette", 7, ⟨"lıght", "red"⟩, ⟨"dark", "BROWN"⟩⟩
    let spacing : Spacing :=
      [(⟨"\n", by decide⟩, "gENERATE Palette"), (⟨"\u3000", by decide⟩, "7"),
       (⟨"\t ", by decide⟩, "colorſ"), (⟨" ", by decide⟩, "from"), (⟨"", by decide⟩, "("),
       (⟨"", by decide⟩, "lıght red"), (⟨"", by decide⟩, ":"), (⟨"", by decide⟩, "dark BROWN")]
    let last : Blanks := ⟨"\r\n", by decide⟩
    parse "gENERATE Palette 7 color from lıght red to dark BROWN)" = .ok said ∧
      spacing.map Prod.snd = said.pieces "colorſ" ":" true false ∧ spacing.Separates ∧
      parse (spacing.text last) = .ok said := by
  intro said spacing last
  have accepted :
      parse "gENERATE Palette 7 color from lıght red to dark BROWN)" = .ok said := by
    decide +kernel
  have counts : Text.upper "colorſ" ∈ ["COLOR", "COLORS"] := by decide +kernel
  have pieces : spacing.map Prod.snd = said.pieces "colorſ" ":" true false := by decide +kernel
  have separates : spacing.Separates := by
    rw [Spacing.Separates]
    decide +kernel
  clear_value said spacing last
  exact ⟨accepted, pieces, separates,
    (parse_rewritten _ said accepted "colorſ" ":" counts (.inl rfl) true false spacing last
      pieces).1 separates⟩

end Palette
