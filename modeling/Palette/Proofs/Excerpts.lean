import Palette.Diagnostic
import Palette.Proofs.Exactness
import Palette.Proofs.Places

/-!
# The line that is shown

The line that is shown holds what a text is rejected for where the span says
(`shown_line_holds_subject`). No line feed gets into what is said about it, so a diagnostic has the
rows that it is made of (`rows_render`).
-/

namespace Palette

namespace Text

variable {text row : List Char}

private theorem lineAt_of_row {number : Nat} (found : (rows text)[number - 1]? = some row) :
    lineAt text number = row ∨ lineAt text number = dropReturn row := by
  obtain ⟨begun, last, split⟩ : ∃ begun last, rows text = begun ++ [last] :=
    ⟨_, _, (List.dropLast_append_getLast (List.splitOn_ne_nil '\n' text)).symm⟩
  rw [lineAt, lines, split, List.dropLast_concat, List.getLast?_concat]
  rw [split] at found
  by_cases before : number - 1 < begun.length
  · rw [List.getElem?_append_left before] at found
    rw [List.getElem?_append_left (by simpa using before), List.getElem?_map, found]
    exact .inr rfl
  · rw [List.getElem?_append_right (by omega), List.getElem?_singleton] at found
    split at found
    · next here =>
      cases found
      rw [List.getElem?_append_right (by simpa using before), List.length_map, here]
      cases row <;> exact .inl rfl
    · cases found

private theorem exists_return_after_dropReturn (row : List Char) :
    ∃ ending, row = dropReturn row ++ ending ∧ ∀ c ∈ ending, isBlank c = true := by
  by_cases returned : row.getLast? = some '\r'
  · refine ⟨['\r'], ?_, List.forall_mem_singleton.mpr (by decide)⟩
    rw [dropReturn, if_pos returned]
    exact (List.dropLast_append_getLast? '\r' returned).symm
  · exact ⟨[], by simp [dropReturn, returned], by simp⟩

private theorem exists_rest_of_row (number : Nat) {shown back : List Char}
    (found : (rows text)[number - 1]? = some (shown ++ back))
    (visible : ∀ c ∈ shown.getLast?, isBlank c = false) :
    ∃ rest ending, lineAt text number = shown ++ rest ∧ back = rest ++ ending := by
  obtain ⟨ending, split, blanks⟩ : ∃ ending, shown ++ back = lineAt text number ++ ending ∧
      ∀ c ∈ ending, isBlank c = true := by
    rcases lineAt_of_row found with whole | dropped
    · exact ⟨[], by simp [whole], by simp⟩
    · rw [dropped]
      exact exists_return_after_dropReturn (shown ++ back)
  rcases List.append_eq_append_iff.mp split with ⟨rest, line, left⟩ | ⟨more, cut, left⟩
  · exact ⟨rest, ending, line, left⟩
  · -- The row ends in blanks, and what is shown does not.
    have none : more = [] := by
      by_contra nonempty
      have last := List.getLast?_eq_some_getLast nonempty
      have blank := blanks _ (left ▸ List.mem_append_left back (List.getLast_mem nonempty))
      rw [cut, List.getLast?_append_of_ne_nil _ nonempty] at visible
      rw [visible _ last] at blank
      cases blank
    subst none
    exact ⟨[], ending, by simpa using cut.symm, by simpa using left.symm⟩

private theorem take_drop_lineAt {source : String} {front segment back : List Char}
    (parts : source.toList = front ++ (segment ++ back)) (nonempty : segment ≠ [])
    (visible : ∀ c ∈ segment, isBlank c = false) :
    ((lineAt source.toList (Place.start.after front).line).drop
      (Place.start.after front).column).take segment.length = segment := by
  have row := getElem?_rows_append front (segment ++ back)
  rw [← parts, rowStart_append (not_mem_feed visible), ← List.append_assoc] at row
  have last : ∀ c ∈ (lastRow front ++ segment).getLast?, isBlank c = false := by
    intro c last
    rw [List.getLast?_append_of_ne_nil _ nonempty] at last
    exact visible c (List.mem_of_getLast? last)
  obtain ⟨rest, _, line, _⟩ :=
    exists_rest_of_row (front.count '\n' + 1) (by simpa using row) last
  rw [Place.start_after, line, List.append_assoc, List.drop_left, List.take_left]

private theorem length_trimEnd_lineAt (text : List Char) :
    (trimEnd (lineAt text (Place.start.after (trimEnd text)).line)).length =
      (Place.start.after (trimEnd text)).column := by
  obtain ⟨blanks, split, blank⟩ := exists_blanks_after_trimEnd text
  have row := getElem?_rows_append (trimEnd text) blanks
  rw [← split] at row
  have last : ∀ c ∈ (lastRow (trimEnd text)).getLast?, isBlank c = false := by
    intro c last
    have nonempty : lastRow (trimEnd text) ≠ [] := by
      intro empty
      simp [empty] at last
    obtain ⟨earlier, whole⟩ : lastRow (trimEnd text) <:+ trimEnd text := List.rtakeWhile_suffix ..
    rw [← List.getLast?_append_of_ne_nil earlier nonempty, whole] at last
    exact not_isBlank_of_getLast?_trimEnd last
  obtain ⟨rest, ending, line, left⟩ :=
    exists_rest_of_row ((trimEnd text).count '\n' + 1) (by simpa using row) last
  have restBlank : ∀ c ∈ rest, isBlank c = true := by
    intro c member
    have within : c ∈ rowStart blanks := left ▸ List.mem_append_left ending member
    exact blank c ((List.takeWhile_sublist _).subset within)
  rw [Place.start_after, line, trimEnd_append_of_blanks restBlank, trimEnd_eq_self last]

end Text

/-- What a reason to refuse a command is about. -/
def Cause.subject : Cause → Found
  | .unknownSymbol lexeme => .token lexeme
  | .unexpected _ found => found

/-- A rejection names a token and has its span, or it is about the end of the text. -/
theorem subject_of_parse {source : String} {rejection : Rejection}
    (rejected : parse source = .error rejection) :
    (∃ token ∈ (Scan.ofText source).tokens,
      rejection.cause.subject = .token token.lexeme ∧ rejection.span = token.span) ∨
    rejection.cause.subject = .endOfInput ∧ rejection.span = Span.endOf source := by
  rcases symbol_or_blocked_of_parse rejected with
    ⟨token, scanned, rfl⟩ | ⟨next, _, _, expected, moves, _, _, rfl⟩
  · exact .inl ⟨token, scanned, rfl, rfl⟩
  · cases under : next.peek with
    | some token =>
      have scanned := List.mem_of_getElem? under
      rw [moves.tokens] at scanned
      refine .inl ⟨token, scanned, ?_, ?_⟩
      · simp only [Cursor.refusal, Cursor.rejection, Rejection.ofFound, Cause.subject,
          Cursor.found, under]
      · simp only [Cursor.refusal, Cursor.rejection, Rejection.ofFound, Cursor.span, under]
    | none =>
      refine .inr ⟨?_, ?_⟩
      · simp only [Cursor.refusal, Cursor.rejection, Rejection.ofFound, Cause.subject,
          Cursor.found, under]
      · simp only [Cursor.refusal, Cursor.rejection, Rejection.ofFound, Cursor.span, under,
          moves.stop]
        rfl

/-- The span of a rejection leads in a line to the token that the rejection names, or else to the
    end of what is not blank. -/
def Rejection.PointsInto (rejection : Rejection) (line : List Char) : Prop :=
  match rejection.cause.subject with
  | .token lexeme =>
    lexeme.toList.length = rejection.span.length ∧
      (line.drop rejection.span.column).take rejection.span.length = lexeme.toList
  | .endOfInput =>
    rejection.span.column = (Text.trimEnd line).length ∧ rejection.span.length = 1

theorem pointsInto_of_parse {source : String} {rejection : Rejection}
    (rejected : parse source = .error rejection) :
    1 ≤ rejection.span.line ∧ 1 ≤ rejection.span.length ∧
      rejection.PointsInto (Text.lineAt source.toList rejection.span.line) := by
  rcases subject_of_parse rejected with ⟨token, scanned, subject, span⟩ | ⟨subject, span⟩
  · obtain ⟨front, segment, back, parts, nonempty, visible, rfl⟩ :=
      Scan.exists_parts_of_mem_tokens scanned
    rw [Rejection.PointsInto, subject, span]
    refine ⟨by simp [Place.span, Place.start_after], List.length_pos_iff.mpr nonempty,
      by simp [Place.span], ?_⟩
    simpa [Place.span] using Text.take_drop_lineAt parts nonempty visible
  · rw [Rejection.PointsInto, subject, span]
    exact ⟨by simp [Span.endOf, Place.span, Place.start_after], Nat.le_refl 1,
      (Text.length_trimEnd_lineAt source.toList).symm, rfl⟩

/-- In the line that is shown with a rejection, the characters of its span are the token that it
    names, or its span is the one character behind what is not blank. -/
theorem shown_line_holds_subject (source : String) (rejection : Rejection)
    (rejected : parse source = .error rejection) :
    1 ≤ rejection.span.line ∧ 1 ≤ rejection.span.length ∧
    match rejection.cause.subject with
    | .token lexeme =>
      lexeme.toList.length = rejection.span.length ∧
        ((Text.lineAt source.toList rejection.span.line).drop rejection.span.column).take
          rejection.span.length = lexeme.toList
    | .endOfInput =>
      rejection.span.column =
          (Text.trimEnd (Text.lineAt source.toList rejection.span.line)).length ∧
        rejection.span.length = 1 := by
  obtain ⟨line, length, points⟩ := pointsInto_of_parse rejected
  exact ⟨line, length, points⟩

theorem shown_line_of_unfinished_text :
    let rejection : Rejection :=
      .withHelp (.ofFound .size .endOfInput ⟨⟨2, 7⟩, 1⟩) "palettes hold between 2 and 9 colors"
    parse "make\r\npalette \r\n\r\n" = .error rejection ∧
      Text.lineAt "make\r\npalette \r\n\r\n".toList 2 = "palette ".toList ∧
      rejection.span.column = (Text.trimEnd "palette ".toList).length := by
  intro rejection
  have rejected : parse "make\r\npalette \r\n\r\n" = .error rejection := rfl
  have line : Text.lineAt "make\r\npalette \r\n\r\n".toList 2 = "palette ".toList := by
    decide +kernel
  have held := (shown_line_holds_subject _ rejection rejected).2.2.1
  exact ⟨rejected, line, line ▸ held⟩

namespace Text

private theorem not_mem_feed_of_mem_rows {text row : List Char} (member : row ∈ rows text) :
    '\n' ∉ row := by
  induction text generalizing row with
  | nil => simp_all [rows]
  | cons c rest ih =>
    by_cases feed : c = '\n'
    · rw [feed, rows_feed] at member
      rcases List.mem_cons.mp member with rfl | later
      · exact List.not_mem_nil
      · exact ih later
    · obtain ⟨first, more, split⟩ := List.exists_cons_of_ne_nil (List.splitOn_ne_nil '\n' rest)
      rw [rows_cons feed, rows, split, List.modifyHead_cons] at member
      rcases List.mem_cons.mp member with rfl | later
      · have clear : '\n' ∉ first :=
        ih (show first ∈ rows rest by simp [rows, split])
        simp [Ne.symm feed, clear]
      · exact ih (by simp [rows, split, later])

private theorem not_mem_feed_lineAt (text : List Char) (number : Nat) :
    '\n' ∉ lineAt text number := by
  have shown : ∀ line ∈ lines text, '\n' ∉ line := by
    intro line member
    rcases List.mem_append.mp member with ended | last
    · obtain ⟨row, listed, rfl⟩ := List.mem_map.mp ended
      have clear := not_mem_feed_of_mem_rows (List.mem_of_mem_dropLast listed)
      rw [dropReturn]
      split
      · exact fun feed => clear (List.mem_of_mem_dropLast feed)
      · exact clear
    · have kept := (List.mem_filter.mp last).1
      exact not_mem_feed_of_mem_rows (List.mem_of_getLast? (Option.mem_toList.mp kept))
  rw [lineAt]
  cases found : (lines text)[number - 1]? with
  | none => exact List.not_mem_nil
  | some line => exact shown line (List.mem_of_getElem? found)

private theorem rows_flatMap {parts : List (List Char)} (clear : ∀ part ∈ parts, '\n' ∉ part) :
    rows (parts.flatMap fun part => part ++ ['\n']) = parts ++ [[]] := by
  induction parts with
  | nil => rfl
  | cons part rest ih =>
    have later := ih fun other member => clear other (List.mem_cons_of_mem part member)
    have alone : rows part = [part] := List.splitOn_eq_singleton (clear part List.mem_cons_self)
    have apart : rows (part ++ '\n' :: rest.flatMap fun part => part ++ ['\n']) =
        rows part ++ rows (rest.flatMap fun part => part ++ ['\n']) :=
      List.splitOn_append_cons_self part _
    rw [List.flatMap_cons, List.append_assoc, List.singleton_append, apart, alone, later]
    rfl

end Text

/-- No line feed stands in a text. -/
def Text.OneRow (text : String) : Prop := '\n' ∉ text.toList

instance (text : String) : Decidable (Text.OneRow text) :=
  inferInstanceAs (Decidable ('\n' ∉ text.toList))

@[simp] theorem Text.oneRow_append {front back : String} :
    OneRow (front ++ back) ↔ OneRow front ∧ OneRow back := by
  simp [OneRow]

theorem Text.oneRow_toString (number : Nat) : OneRow (toString number) := by
  intro feed
  rw [Nat.toString_eq_repr, Nat.repr_eq_ofList_toDigits, String.toList_ofList] at feed
  exact absurd (Nat.isDigit_of_mem_toDigits (by decide) (by decide) feed) (by decide)

open Text (OneRow oneRow_append oneRow_toString)

/-- What is said about a text stands on one row, and so does the advice. -/
structure Rejection.OneLine (rejection : Rejection) : Prop where
  message : OneRow rejection.cause.message
  help : ∀ help ∈ rejection.help, OneRow help

private theorem Grammar.Slot.oneRow_expectation (slot : Grammar.Slot) :
    OneRow slot.expectation.text ∧ ∀ help ∈ slot.expectation.advice, OneRow help := by
  cases slot <;> decide

theorem Grammar.Blocked.oneRow {parts : List Grammar.Part} {ahead : List Token}
    {expected : Expectation} (blocked : Grammar.Blocked parts ahead expected) :
    OneRow expected.text ∧ ∀ help ∈ expected.advice, OneRow help := by
  cases blocked with
  | @slot slot _ _ _ => exact slot.oneRow_expectation
  | ending _ => decide

private theorem Cause.oneRow_message_of_symbol {lexeme : String} (lexemeRow : OneRow lexeme) :
    OneRow (Cause.unknownSymbol lexeme).message := by
  simp only [message_unknownSymbol, oneRow_append]
  exact ⟨⟨by decide, lexemeRow⟩, by decide +kernel⟩

private theorem Found.oneRow_text {found : Found} (lexemeRow : ∀ lexeme, found = .token lexeme →
    OneRow lexeme) : OneRow found.text := by
  cases found with
  | token lexeme =>
    simp only [text, oneRow_append]
    exact ⟨⟨by decide, lexemeRow lexeme rfl⟩, by decide +kernel⟩
  | endOfInput => decide

private theorem Cause.oneRow_message_of_found {expected : Expectation} {found : Found}
    (expectedRow : OneRow expected.text) (foundRow : OneRow found.text) :
    OneRow (Cause.unexpected expected found).message := by
  simp only [message_unexpected, oneRow_append]
  exact ⟨⟨⟨by decide, expectedRow⟩, by decide +kernel⟩, foundRow⟩

private theorem Scan.oneRow_lexeme {source : String} {token : Token}
    (member : token ∈ (Scan.ofText source).tokens) : OneRow token.lexeme := by
  obtain ⟨_, segment, _, _, _, visible, rfl⟩ := Scan.exists_parts_of_mem_tokens member
  simpa [OneRow] using Text.not_mem_feed visible

private theorem oneRow_of_subject {source lexeme : String} {rejection : Rejection}
    (rejected : parse source = .error rejection)
    (about : rejection.cause.subject = .token lexeme) : OneRow lexeme := by
  rcases subject_of_parse rejected with ⟨token, scanned, subject, _⟩ | ⟨ending, _⟩
  · obtain rfl : token.lexeme = lexeme := Found.token.inj (subject.symm.trans about)
    exact Scan.oneRow_lexeme scanned
  · rw [ending] at about
    cases about

theorem oneLine_of_parse {source : String} {rejection : Rejection}
    (rejected : parse source = .error rejection) : rejection.OneLine := by
  have subjectRow : ∀ lexeme, rejection.cause.subject = .token lexeme → OneRow lexeme :=
    fun _ => oneRow_of_subject rejected
  rcases symbol_or_blocked_of_parse rejected with
    ⟨token, _, rfl⟩ | ⟨next, _, _, expected, _, _, blocked, rfl⟩
  · refine ⟨Cause.oneRow_message_of_symbol (subjectRow token.lexeme rfl), ?_⟩
    rintro help ⟨⟩
    decide
  · obtain ⟨expectedRow, helpRow⟩ := blocked.oneRow
    exact ⟨Cause.oneRow_message_of_found expectedRow (Found.oneRow_text subjectRow), helpRow⟩

theorem Cause.oneRow_code (cause : Cause) : OneRow cause.code := by
  cases cause with
  | unknownSymbol lexeme => exact (by decide : OneRow "E_LEXICAL")
  | unexpected expected found => exact (by decide : OneRow "E_SYNTAX")

namespace Diagnostic

private theorem oneRow_lineNumber (line : Nat) : OneRow (lineNumber line) := by
  rw [lineNumber]
  split
  · exact oneRow_append.mpr ⟨by decide, oneRow_toString line⟩
  · exact oneRow_toString line

private theorem oneRow_strip {c : Char} (length : Nat) (other : '\n' ≠ c) :
    OneRow (strip length c) := by
  rw [OneRow, strip, String.toList_ofList]
  exact fun feed => other (List.eq_of_mem_replicate feed)

theorem oneRow_rows {origin : String} {rejection : Rejection} (source : String)
    (originRow : OneRow origin) (oneLine : rejection.OneLine) :
    ∀ row ∈ rows origin source rejection, OneRow row := by
  have line : OneRow (String.ofList (Text.lineAt source.toList rejection.span.line)) := by
    rw [OneRow, String.toList_ofList]
    exact Text.not_mem_feed_lineAt source.toList rejection.span.line
  intro row member
  rcases List.mem_append.mp member with fixed | advice
  · simp only [List.mem_cons, List.not_mem_nil, or_false] at fixed
    rcases fixed with rfl | rfl | rfl | rfl | rfl
    · simp only [oneRow_append]
      exact ⟨⟨⟨by decide, rejection.cause.oneRow_code⟩, by decide +kernel⟩,
        oneLine.message⟩
    · simp only [oneRow_append]
      exact ⟨⟨⟨⟨⟨by decide, originRow⟩, by decide +kernel⟩, oneRow_toString _⟩,
        by decide⟩, oneRow_toString _⟩
    · decide
    · simp only [sourceRow, oneRow_append]
      exact ⟨⟨oneRow_lineNumber _, by decide⟩, line⟩
    · simp only [caretRow, oneRow_append]
      exact ⟨⟨by decide, oneRow_strip _ (by decide)⟩, oneRow_strip _ (by decide)⟩
  · obtain ⟨help, given, rfl⟩ := List.mem_map.mp advice
    exact oneRow_append.mpr ⟨by decide, oneLine.help help (Option.mem_toList.mp given)⟩

end Diagnostic

/-- The rows of a diagnostic of one-line wording in a source with a one-line name. -/
theorem rows_render {origin : String} {rejection : Rejection} (source : String)
    (originRow : OneRow origin) (oneLine : rejection.OneLine) :
    Text.rows (rejection.render origin source).toList =
      (Diagnostic.rows origin source rejection).map String.toList ++ [[]] := by
  have clear : ∀ part ∈ (Diagnostic.rows origin source rejection).map String.toList,
      '\n' ∉ part := by
    intro part member
    obtain ⟨row, listed, rfl⟩ := List.mem_map.mp member
    exact Diagnostic.oneRow_rows source originRow oneLine row listed
  rw [← Text.rows_flatMap clear, Rejection.render, String.toList_ofList, List.flatMap_map]

end Palette
