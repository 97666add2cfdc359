import Palette.Proofs.Lockstep

/-!
# Respelled texts

A spelling puts word characters in the place of word characters and leaves all others as they are
(`Text.Respells`). Uppercase is one (`parse_upper`), and so are the small forms of ASCII letters
(`recasing_changes_echo_alone`).
-/

namespace Palette

namespace Text

variable {spell : Char → List Char} {front back segment : List Char}

/-- What is put for the characters of words are word characters, and other characters stay. -/
structure Respells (spell : Char → List Char) : Prop where
  nonempty : ∀ c, spell c ≠ []
  isWord_eq : ∀ c, ∀ d ∈ spell c, isWord d = isWord c
  kept : ∀ c, isWord c = false → spell c = [c]

theorem isLexeme_of_words (nonempty : segment ≠ []) (words : ∀ c ∈ segment, isWord c = true) :
    isLexeme segment = true := by
  obtain ⟨c, rest, rfl⟩ := List.exists_cons_of_ne_nil nonempty
  simp [isLexeme, not_isBlank_of_isWord (words c List.mem_cons_self)]

namespace Respells

private theorem flatMap_ne_nil (respells : Respells spell) (nonempty : segment ≠ []) :
    segment.flatMap spell ≠ [] := by
  obtain ⟨c, rest, rfl⟩ := List.exists_cons_of_ne_nil nonempty
  simp [respells.nonempty c]

private theorem isWord_of_mem_flatMap (respells : Respells spell)
    (words : ∀ c ∈ segment, isWord c = true) :
    ∀ d ∈ segment.flatMap spell, isWord d = true := by
  intro d member
  obtain ⟨c, inside, spelled⟩ := List.mem_flatMap.mp member
  rw [respells.isWord_eq c d spelled, words c inside]

private theorem uniform_flatMap (respells : Respells spell) (uniform : Uniform segment) :
    Uniform (segment.flatMap spell) := by
  rcases uniform with words | ⟨c, rfl, notWord⟩
  · exact .inl (respells.isWord_of_mem_flatMap words)
  · exact .inr ⟨c, by simp [respells.kept c notWord], notWord⟩

private theorem isLexeme_flatMap (respells : Respells spell) (nonempty : segment ≠ [])
    (uniform : Uniform segment) : isLexeme (segment.flatMap spell) = isLexeme segment := by
  rcases uniform with words | ⟨c, rfl, notWord⟩
  · rw [isLexeme_of_words nonempty words, isLexeme_of_words (respells.flatMap_ne_nil nonempty)
      (respells.isWord_of_mem_flatMap words)]
  · simp [respells.kept c notWord]

private theorem isWord_getLast?_flatMap (respells : Respells spell) {d : Char}
    (last : d ∈ (segment.flatMap spell).getLast?) :
    ∃ c ∈ segment.getLast?, isWord d = isWord c := by
  rcases List.eq_nil_or_concat segment with rfl | ⟨earlier, c, rfl⟩
  · simp at last
  · rw [List.concat_eq_append, List.flatMap_append, List.flatMap_singleton,
      List.getLast?_append_of_ne_nil _ (respells.nonempty c)] at last
    exact ⟨c, by simp, respells.isWord_eq c d (List.mem_of_getLast? last)⟩

private theorem isWord_head?_flatMap (respells : Respells spell) {d : Char}
    (first : d ∈ (segment.flatMap spell).head?) :
    ∃ c ∈ segment.head?, isWord d = isWord c := by
  cases segment with
  | nil => simp at first
  | cons c later =>
    rw [List.flatMap_cons, List.head?_append_of_ne_nil _ (respells.nonempty c)] at first
    exact ⟨c, rfl, respells.isWord_eq c d (List.mem_of_head? first)⟩

private theorem apart_flatMap (respells : Respells spell) (apart : Apart front back) :
    Apart (front.flatMap spell) (back.flatMap spell) := by
  intro left last right first
  obtain ⟨before, ended, leftSame⟩ := respells.isWord_getLast?_flatMap last
  obtain ⟨behind, begun, rightSame⟩ := respells.isWord_head?_flatMap first
  rw [leftSame, rightSame]
  exact apart before ended behind begun

private theorem continues_flatMap (respells : Respells spell) {parts : List (List Char)}
    (continued : Continues [] parts) : Continues [] (parts.map (·.flatMap spell)) where
  nonempty := by
    rw [List.forall_mem_map]
    exact fun segment member => respells.flatMap_ne_nil (continued.nonempty segment member)
  uniform := by
    rw [List.forall_mem_map]
    exact fun segment member => respells.uniform_flatMap (continued.uniform segment member)
  separate := by
    rw [List.isChain_map]
    exact continued.separate.imp fun _ _ => respells.apart_flatMap
  joint := by simp [Apart]

/-- A respelled text is cut where the text is cut. -/
theorem segments_flatMap (respells : Respells spell) (text : List Char) :
    segments (text.flatMap spell) = (segments text).map (·.flatMap spell) := by
  have cut := (respells.continues_flatMap (continues_segments text)).segments_flatten
  have whole : (segments text).flatten = text := List.flatten_splitBy _ text
  rw [← List.flatMap_def, ← List.flatMap_assoc, List.flatMap_id'] at cut
  rwa [whole] at cut

theorem lexemes_flatMap (respells : Respells spell) (text : List Char) :
    lexemes (text.flatMap spell) = (lexemes text).map (·.flatMap spell) := by
  have continued := continues_segments text
  rw [lexemes, respells.segments_flatMap, List.filter_map, lexemes]
  congr 1
  refine List.filter_congr fun segment member => ?_
  exact respells.isLexeme_flatMap (continued.nonempty segment member)
    (continued.uniform segment member)

end Respells

def respell (spell : Char → List Char) (text : String) : String :=
  String.ofList (text.toList.flatMap spell)

theorem respells_upperChar : Respells upperChar where
  nonempty := upperChar_ne_nil
  isWord_eq := fun _ _ => isWord_of_mem_upperChar
  kept := fun _ => upperChar_of_not_isWord

end Text

open Text (Respells respell)

theorem tokensAlike_respell {spell : Char → List Char} (respells : Respells spell)
    (source : String) :
    TokensAlike (fun one other => other = respell spell one) (Scan.ofText source).tokens
      (Scan.ofText (respell spell source)).tokens := by
  have respelled : (Scan.ofText (respell spell source)).tokens.map Token.lexeme =
      ((Scan.ofText source).tokens.map Token.lexeme).map (respell spell) := by
    rw [Scan.map_lexeme_ofText, Scan.map_lexeme_ofText, respell, String.toList_ofList,
      respells.lexemes_flatMap, List.map_map, List.map_map]
    refine List.map_congr_left fun lexeme _ => ?_
    simp [respell]
  rw [List.map_map, map_eq_map_iff_forall₂] at respelled
  exact respelled.flip

/-- A text is a command exactly when its uppercase is one, of the same size and with endpoints that
    agree. When one is rejected, so is the other, for the uppercase of the same lexeme. -/
theorem parse_upper (source : String) :
    match parse source, parse (Text.upper source) with
    | .ok said, .ok capital => capital.size = said.size ∧
        said.first.agrees capital.first = true ∧ said.second.agrees capital.second = true ∧
        capital.opening = Text.upper said.opening
    | .error rejection, .error capital =>
      rejection.cause.Alike (fun word capital => capital = Text.upper word) capital.cause
    | _, _ => False := by
  have keeps : ∀ one other, other = Text.upper one → Text.upper one = Text.upper other := by
    rintro one _ rfl
    exact (Text.upper_upper one).symm
  have alike : TokensAlike (fun one other => other = Text.upper one) (Scan.ofText source).tokens
      (Scan.ofText (Text.upper source)).tokens :=
    tokensAlike_respell Text.respells_upperChar source
  have outcomes := outcomes_in_step keeps alike
  cases run : parse source <;> cases capitalRun : parse (Text.upper source) <;>
    simp only [run, capitalRun] at outcomes ⊢
  · exact outcomes.1
  · obtain ⟨firsts, seconds⟩ := outcomes.agrees keeps
    obtain ⟨_, _, _, _, opening, capitals, rfl, rfl⟩ := outcomes.opening
    have blank : Text.upper " " = " " := by decide +kernel
    refine ⟨outcomes.size.symm, firsts, seconds, ?_⟩
    rw [capitals, opening, Text.upper_append, Text.upper_append, blank]

namespace Text

/-- The ASCII letters that have a small form. -/
def capitals : List Char := (List.range 26).map fun distance => Char.ofNat ('A'.toNat + distance)

private theorem mem_capitals_of_isUpper {c : Char} (capital : c.isUpper = true) : c ∈ capitals := by
  simp only [Char.isUpper, decide_eq_true_iff, ge_iff_le, UInt32.le_iff_toNat_le] at capital
  obtain ⟨begun, ended⟩ : 'A'.toNat ≤ c.toNat ∧ c.toNat ≤ 'Z'.toNat := capital
  have last : 'Z'.toNat = 'A'.toNat + 25 := rfl
  refine List.mem_map.mpr ⟨c.toNat - 'A'.toNat, List.mem_range.mpr (by omega), ?_⟩
  rw [Nat.add_sub_cancel' begun, Char.ofNat_toNat]

private theorem toLower_eq_of_capitals {α : Type} [DecidableEq α] (read : Char → α)
    (same : (capitals.all fun c => read c.toLower = read c) = true) (c : Char) :
    read c.toLower = read c := by
  by_cases capital : c.isUpper = true
  · exact of_decide_eq_true (List.all_eq_true.mp same c (mem_capitals_of_isUpper capital))
  · rw [Char.toLower_eq_of_not_isUpper capital]

theorem isWord_toLower (c : Char) : isWord c.toLower = isWord c :=
  toLower_eq_of_capitals isWord (by decide +kernel) c

theorem isBlank_toLower (c : Char) : isBlank c.toLower = isBlank c :=
  toLower_eq_of_capitals isBlank (by decide +kernel) c

theorem upperChar_toLower (c : Char) : upperChar c.toLower = upperChar c :=
  toLower_eq_of_capitals upperChar (by decide +kernel) c

private theorem toLower_of_not_isWord {c : Char} (notWord : isWord c = false) : c.toLower = c := by
  have words : capitals.all isWord = true := by decide +kernel
  refine Char.toLower_eq_of_not_isUpper fun capital => ?_
  rw [List.all_eq_true.mp words c (mem_capitals_of_isUpper capital)] at notWord
  cases notWord

theorem respells_toLower : Respells fun c => [c.toLower] where
  nonempty := by simp
  isWord_eq := by simp [isWord_toLower]
  kept := by simpa using fun c => toLower_of_not_isWord

/-- A text with its ASCII letters made small. -/
def foldCase (text : String) : String := String.ofList (text.toList.map Char.toLower)

private theorem toList_foldCase (text : String) :
    (foldCase text).toList = text.toList.map Char.toLower := by
  simp [foldCase]

theorem foldCase_append (front back : String) :
    foldCase (front ++ back) = foldCase front ++ foldCase back := by
  rw [← String.toList_inj]
  simp [toList_foldCase]

theorem upper_foldCase (text : String) : upper (foldCase text) = upper text := by
  rw [upper, upper, toList_foldCase, List.flatMap_map]
  simp only [upperChar_toLower]

private theorem upper_eq_of_foldCase {one other : String} (same : foldCase one = foldCase other) :
    upper one = upper other := by
  rw [← upper_foldCase one, same, upper_foldCase]

private theorem segments_map_toLower (text : List Char) :
    segments (text.map Char.toLower) = (segments text).map (·.map Char.toLower) := by
  have cut := respells_toLower.segments_flatMap text
  simpa only [← List.map_eq_flatMap] using cut

private theorem isLexeme_map_toLower (segment : List Char) :
    isLexeme (segment.map Char.toLower) = isLexeme segment := by
  have separators : isSeparator ∘ Char.toLower = isSeparator :=
    funext fun c => by simp [isBlank_toLower]
  rw [isLexeme, List.all_map, separators, isLexeme]

private theorem trimEnd_map_toLower (text : List Char) :
    trimEnd (text.map Char.toLower) = (trimEnd text).map Char.toLower := by
  have blanks : isBlank ∘ Char.toLower = isBlank := funext isBlank_toLower
  rw [trimEnd, ← List.map_reverse, List.dropWhile_map, blanks, ← List.map_reverse, trimEnd]

private theorem trim_map_toLower (text : List Char) :
    trim (text.map Char.toLower) = (trim text).map Char.toLower := by
  have blanks : isBlank ∘ Char.toLower = isBlank := funext isBlank_toLower
  rw [trim, List.dropWhile_map, blanks, trimEnd_map_toLower, trim]

end Text

private theorem Place.next_toLower (place : Place) (c : Char) :
    place.next c.toLower = place.next c := by
  have feeds := Text.toLower_eq_of_capitals (· == '\n') (by decide +kernel) c
  rw [Bool.eq_iff_iff, beq_iff_eq, beq_iff_eq] at feeds
  simp only [next, feeds]

private theorem Place.after_map_toLower (place : Place) (text : List Char) :
    place.after (text.map Char.toLower) = place.after text := by
  induction text generalizing place with
  | nil => rfl
  | cons c rest ih => rw [List.map_cons, after_cons, next_toLower, ih, after_cons]

def Token.foldCase (token : Token) : Token :=
  { token with lexeme := Text.foldCase token.lexeme }

private theorem Token.ofSegment_map_toLower (place : Place) (segment : List Char) :
    ofSegment place (segment.map Char.toLower) = (ofSegment place segment).foldCase := by
  have small : String.ofList (segment.map Char.toLower) =
      Text.foldCase (String.ofList segment) := by
    rw [Text.foldCase, String.toList_ofList]
  have kinds := Kind.ofLexeme_congr (Text.upper_foldCase (String.ofList segment))
  simp only [ofSegment, foldCase, small, kinds, Text.trim_map_toLower, List.length_map]
  split <;> simp [Text.foldCase]

private theorem Scan.tokensFrom_map_toLower (place : Place) (segments : List (List Char)) :
    tokensFrom place (segments.map (·.map Char.toLower)) =
      (tokensFrom place segments).map Token.foldCase := by
  induction segments generalizing place with
  | nil => simp
  | cons segment rest ih =>
    rw [List.map_cons, tokensFrom_cons, tokensFrom_cons, ih, Text.isLexeme_map_toLower,
      Place.after_map_toLower, Token.ofSegment_map_toLower, List.map_append]
    split <;> rfl

/-- A text in small letters has the tokens of the text, in small letters and where they were. -/
theorem Scan.ofText_foldCase (source : String) :
    ofText (Text.foldCase source) =
      ⟨(ofText source).tokens.map Token.foldCase, (ofText source).stop⟩ := by
  rw [ofText, ofText, Span.endOf, Span.endOf, Text.toList_foldCase, Text.segments_map_toLower,
    tokensFrom_map_toLower, Text.trimEnd_map_toLower, Place.after_map_toLower]

/-- An ASCII letter in its other case. All other characters have none, and stay. -/
def Text.otherCase (c : Char) : Char := if c.isUpper then c.toLower else c.toUpper

/-- A text with some of its ASCII letters in their other case. -/
def Text.Recased (text other : List Char) : Prop :=
  List.Forall₂ (fun c d => d = c ∨ d = otherCase c) text other

private theorem Text.toLower_otherCase (c : Char) : (otherCase c).toLower = c.toLower := by
  rw [otherCase]
  split
  · exact c.toLower_toLower_eq_toLower
  · exact c.toLower_toUpper_eq_toLower

theorem Text.foldCase_eq_of_recased {source other : String}
    (recased : Recased source.toList other.toList) : foldCase source = foldCase other := by
  rw [foldCase, foldCase, String.ofList_inj, map_eq_map_iff_forall₂]
  refine recased.imp fun c d same => ?_
  rcases same with rfl | rfl
  · rfl
  · exact (toLower_otherCase c).symm

private theorem Scan.agree_of_foldCase {source other : String}
    (same : Text.foldCase source = Text.foldCase other) :
    List.Forall₂ (fun token otherToken => token.kind = otherToken.kind ∧
        token.span = otherToken.span ∧
        Text.foldCase token.lexeme = Text.foldCase otherToken.lexeme)
      (ofText source).tokens (ofText other).tokens ∧
    (ofText source).stop = (ofText other).stop := by
  have scans : ofText (Text.foldCase source) = ofText (Text.foldCase other) := by rw [same]
  rw [ofText_foldCase, ofText_foldCase, Scan.mk.injEq] at scans
  obtain ⟨tokens, stops⟩ := scans
  rw [map_eq_map_iff_forall₂] at tokens
  refine ⟨tokens.imp fun token otherToken folded => ?_, stops⟩
  simp only [Token.foldCase, Token.mk.injEq] at folded
  exact ⟨folded.1, folded.2.2, folded.2.1⟩

private theorem Cause.Alike.code_eq {Spelled : String → String → Prop} {one other : Cause}
    (alike : one.Alike Spelled other) : one.code = other.code := by
  cases one <;> cases other <;> first | rfl | exact alike.elim

private theorem Rejection.StandsAt.span_eq {one other : Rejection} {scan otherScan : Scan}
    {index : Nat} (stands : one.StandsAt scan index) (otherStands : other.StandsAt otherScan index)
    (spans : scan.tokens.map Token.span = otherScan.tokens.map Token.span)
    (stops : scan.stop = otherScan.stop) : one.span = other.span := by
  have under := congrArg (·[index]?) spans
  simp only [List.getElem?_map] at under
  rw [StandsAt] at stands otherStands
  cases found : scan.tokens[index]? <;> cases otherFound : otherScan.tokens[index]? <;>
    simp only [found, otherFound] at stands otherStands under
  · rw [stands.2.2, otherStands.2.2, stops]
  · cases under
  · cases under
  · rw [stands.2, otherStands.2]
    exact Option.some.inj under

/-- Putting ASCII letters of a text in their other case changes what is echoed of it, and there only
    the case. Kinds, places and outcomes stay. -/
theorem recasing_changes_echo_alone (source other : String)
    (recased : Text.Recased source.toList other.toList) :
    List.Forall₂ (fun token otherToken => token.kind = otherToken.kind ∧
        token.span = otherToken.span ∧
        Text.foldCase token.lexeme = Text.foldCase otherToken.lexeme)
      (Scan.ofText source).tokens (Scan.ofText other).tokens ∧
    (Scan.ofText source).stop = (Scan.ofText other).stop ∧
    match parse source, parse other with
    | .ok said, .ok heard => said.size = heard.size ∧
        said.first.agrees heard.first = true ∧ said.second.agrees heard.second = true ∧
        Text.foldCase said.opening = Text.foldCase heard.opening
    | .error rejection, .error otherRejection =>
      rejection.cause.code = otherRejection.cause.code ∧ rejection.span = otherRejection.span ∧
        rejection.help = otherRejection.help ∧
        rejection.cause.Alike (fun word otherWord => Text.foldCase word = Text.foldCase otherWord)
          otherRejection.cause
    | _, _ => False := by
  obtain ⟨tokens, stops⟩ := Scan.agree_of_foldCase (Text.foldCase_eq_of_recased recased)
  have alike : TokensAlike (fun word otherWord => Text.foldCase word = Text.foldCase otherWord)
      (Scan.ofText source).tokens (Scan.ofText other).tokens :=
    tokens.imp fun _ _ agree => agree.2.2
  have keeps : ∀ one other, Text.foldCase one = Text.foldCase other →
      Text.upper one = Text.upper other := fun _ _ => Text.upper_eq_of_foldCase
  have outcomes := outcomes_in_step keeps alike
  refine ⟨tokens, stops, ?_⟩
  cases run : parse source <;> cases otherRun : parse other <;>
    simp only [run, otherRun] at outcomes ⊢
  · obtain ⟨causes, helps, index, stands, otherStands⟩ := outcomes
    have spans : (Scan.ofText source).tokens.map Token.span =
        (Scan.ofText other).tokens.map Token.span :=
      map_eq_map_iff_forall₂.mpr (tokens.imp fun _ _ agree => agree.2.1)
    exact ⟨causes.code_eq, stands.span_eq otherStands spans stops, helps, causes⟩
  · obtain ⟨firsts, seconds⟩ := outcomes.agrees keeps
    obtain ⟨_, _, _, _, opening, otherOpening, verbs, palettes⟩ := outcomes.opening
    refine ⟨outcomes.size, firsts, seconds, ?_⟩
    simp only [opening, otherOpening, Text.foldCase_append, verbs, palettes]

/-- The sharp s stays, and the ASCII letters around it change. -/
theorem sharp_letter_stays_rejected :
    let source := "Make palette groß"
    let other := "mAkE PALETTE GRoß"
    Text.Recased source.toList other.toList ∧
      ∃ rejection, parse other = .error rejection ∧ rejection.cause.code = "E_LEXICAL" ∧
        rejection.span = ⟨⟨1, 13⟩, 4⟩ := by
  intro source other
  have recased : Text.Recased source.toList other.toList := by
    unfold Text.Recased
    decide +kernel
  have run : parse source = .error (.ofSymbol ⟨.symbol, "groß", ⟨⟨1, 13⟩, 4⟩⟩) := by
    decide +kernel
  clear_value source other
  obtain ⟨_, _, outcome⟩ := recasing_changes_echo_alone source other recased
  rw [run] at outcome
  cases otherRun : parse other with
  | ok heard =>
    rw [otherRun] at outcome
    exact outcome.elim
  | error rejection =>
    rw [otherRun] at outcome
    obtain ⟨codes, spans, _, _⟩ := outcome
    exact ⟨recased, rejection, rfl, codes.symm, spans.symm⟩

end Palette
