import Palette.Proofs.Excerpts

/-!
# The frame of a diagnostic

The margin of the row of carets is fixed, while that of the row above it grows with the number of
the line (`carets_mark_subject`). No text adds a row to its diagnostic (`diagnostic_keeps_frame`).
-/

namespace Palette

/-- The number of characters that are marked: those of a token, and one at the end. -/
def Found.width : Found → Nat
  | .token lexeme => lexeme.toList.length
  | .endOfInput => 1

namespace Diagnostic

/-- A row ends in the line that a rejection is about, and at an index shows the first character of
    the token that it names, or what is just past the last character that is no blank. -/
def ShowsAt (source : String) (rejection : Rejection) (row : List Char) (index : Nat) : Prop :=
  let line := Text.lineAt source.toList rejection.span.line
  ∃ margin column, row = margin ++ line ∧ index = margin.length + column ∧
    match rejection.cause.subject with
    | .token lexeme => column = rejection.span.column ∧ lexeme.toList <+: line.drop column
    | .endOfInput => column = (Text.trimEnd line).length

/-- The first caret stands at the index where the row above shows what is rejected, and there are as
    many carets as that has characters. -/
def Aligned (origin source : String) (rejection : Rejection) : Prop :=
  ∃ shown carets index,
    (Text.rows (rejection.render origin source).toList)[3]? = some shown ∧
    (Text.rows (rejection.render origin source).toList)[4]? = some carets ∧
    ShowsAt source rejection shown index ∧
    carets.idxOf? '^' = some index ∧ carets.count '^' = rejection.cause.subject.width

variable {origin source : String} {rejection : Rejection}

theorem ShowsAt.unique {row : List Char} {index other : Nat}
    (shows : ShowsAt source rejection row index) (again : ShowsAt source rejection row other) :
    index = other := by
  obtain ⟨margin, column, split, rfl, subject⟩ := shows
  obtain ⟨wide, place, resplit, rfl, same⟩ := again
  have margins : margin.length = wide.length := by
    have lengths := congrArg List.length (split.symm.trans resplit)
    rw [List.length_append, List.length_append] at lengths
    omega
  have columns : column = place := by
    cases about : rejection.cause.subject with
    | token lexeme =>
      simp only [about] at subject same
      rw [subject.1, same.1]
    | endOfInput =>
      simp only [about] at subject same
      rw [subject, same]
  rw [margins, columns]

private theorem showsAt_sourceRow (rejected : parse source = .error rejection) :
    ShowsAt source rejection (sourceRow source rejection.span).toList
      ((lineNumber rejection.span.line).toList.length + 3 + rejection.span.column) := by
  refine ⟨(lineNumber rejection.span.line ++ " | ").toList, rejection.span.column, ?_, ?_, ?_⟩
  · simp [sourceRow]
  · simp
  · have points := (pointsInto_of_parse rejected).2.2
    rw [Rejection.PointsInto] at points
    cases about : rejection.cause.subject with
    | token lexeme =>
      simp only [about] at points
      exact ⟨rfl, points.2 ▸ List.take_prefix _ _⟩
    | endOfInput =>
      simp only [about] at points
      exact points.1

private theorem length_lineNumber (line : Nat) :
    (lineNumber line).toList.length = max 2 (toString line).toList.length := by
  have digit : (toString line).toList.length ≤ 1 ↔ line < 10 ^ 1 :=
    Nat.length_repr_le_iff Nat.one_pos
  have some : 0 < (toString line).toList.length :=
    List.length_pos_iff.mpr fun none => Nat.repr_ne_empty (String.toList_eq_nil_iff.mp none)
  rw [lineNumber]
  split
  · rw [String.toList_append, List.length_append]
    have blank : " ".toList.length = 1 := rfl
    omega
  · omega

private theorem toList_caretRow (span : Span) :
    (caretRow span).toList = ("   | ".toList ++ List.replicate span.column ' ') ++
      List.replicate (max span.length 1) '^' := by
  simp [caretRow, strip]

private theorem not_mem_caret_margin (column : Nat) :
    '^' ∉ "   | ".toList ++ List.replicate column ' ' := by
  intro caret
  rcases List.mem_append.mp caret with margin | blank
  · exact absurd margin (by decide)
  · exact absurd (List.eq_of_mem_replicate blank) (by decide)

private theorem idxOf?_append_cons {front : List Char} {c : Char} (fresh : c ∉ front)
    (back : List Char) : (front ++ c :: back).idxOf? c = some front.length := by
  refine List.idxOf?_eq_some_iff.mpr ⟨by simp, by simp, ?_⟩
  intro index before same
  rw [List.getElem_append_left before] at same
  exact fresh (same ▸ List.getElem_mem before)

private theorem idxOf?_caretRow (span : Span) :
    (caretRow span).toList.idxOf? '^' = some (5 + span.column) := by
  obtain ⟨more, positive⟩ : ∃ more, max span.length 1 = more + 1 :=
    ⟨max span.length 1 - 1, by omega⟩
  rw [toList_caretRow, positive, List.replicate_succ,
    idxOf?_append_cons (not_mem_caret_margin span.column), List.length_append,
    List.length_replicate]
  rfl

private theorem count_caretRow (span : Span) :
    (caretRow span).toList.count '^' = max span.length 1 := by
  rw [toList_caretRow, List.count_append, List.count_eq_zero.mpr (not_mem_caret_margin _),
    List.count_replicate_self, Nat.zero_add]

private theorem rows_of_parse (originRow : '\n' ∉ origin.toList)
    (rejected : parse source = .error rejection) :
    (Text.rows (rejection.render origin source).toList)[3]? =
        some (sourceRow source rejection.span).toList ∧
      (Text.rows (rejection.render origin source).toList)[4]? =
        some (caretRow rejection.span).toList := by
  rw [rows_render source originRow (oneLine_of_parse rejected)]
  exact ⟨rfl, rfl⟩

private theorem width_subject_of_parse (rejected : parse source = .error rejection) :
    max rejection.span.length 1 = rejection.cause.subject.width := by
  obtain ⟨_, positive, points⟩ := pointsInto_of_parse rejected
  rw [Nat.max_eq_left positive]
  rw [Rejection.PointsInto] at points
  cases about : rejection.cause.subject with
  | token lexeme =>
    simp only [about] at points
    exact points.1.symm
  | endOfInput =>
    simp only [about] at points
    exact points.2

theorem render?_of_parse (origin : String) (rejected : parse source = .error rejection)
    (short : source.toList.length ≤ maxStrip) :
    rejection.render? origin source = some (rejection.render origin source) := by
  rw [Rejection.render?_eq_some_iff]
  refine ⟨?_, rfl⟩
  rcases subject_of_parse rejected with ⟨token, scanned, _, span⟩ | ⟨_, span⟩
  · obtain ⟨front, segment, back, parts, _, _, rfl⟩ := Scan.exists_parts_of_mem_tokens scanned
    have column := Place.column_start_after_le front
    rw [parts, List.length_append, List.length_append] at short
    rw [span]
    dsimp only [Place.span]
    omega
  · have column := Place.column_start_after_le (Text.trimEnd source.toList)
    obtain ⟨blanks, split, _⟩ := Text.exists_blanks_after_trimEnd source.toList
    rw [split, List.length_append] at short
    rw [span]
    exact ⟨by dsimp only [Span.endOf, Place.span]; omega, (by decide : 1 ≤ maxStrip)⟩

theorem aligned_iff (originRow : '\n' ∉ origin.toList)
    (rejected : parse source = .error rejection) :
    Aligned origin source rejection ↔
      (toString rejection.span.line).toList.length ≤ 2 := by
  obtain ⟨sourceAt, caretAt⟩ := rows_of_parse originRow rejected
  have shows := showsAt_sourceRow rejected
  have first := idxOf?_caretRow rejection.span
  rw [length_lineNumber] at shows
  constructor
  · rintro ⟨shown, carets, index, shownAt, caretsAt, showsIndex, firstIndex, _⟩
    rw [sourceAt] at shownAt
    rw [caretAt] at caretsAt
    cases shownAt
    cases caretsAt
    have same := shows.unique showsIndex
    rw [first, Option.some.injEq] at firstIndex
    omega
  · intro narrow
    refine ⟨_, _, _, sourceAt, caretAt, shows, ?_, ?_⟩
    · rw [first, Option.some.injEq]
      omega
    · rw [count_caretRow, width_subject_of_parse rejected]

end Diagnostic

open Diagnostic

/-- There are always as many carets as what is rejected has characters, and they stand where the row
    above shows it exactly on the lines before the hundredth. -/
theorem carets_mark_subject (origin source : String) (rejection : Rejection)
    (originRow : '\n' ∉ origin.toList) (rejected : parse source = .error rejection) :
    (source.toList.length ≤ maxStrip →
      rejection.render? origin source = some (rejection.render origin source)) ∧
    (∃ shown carets index first,
      (Text.rows (rejection.render origin source).toList)[3]? = some shown ∧
      (Text.rows (rejection.render origin source).toList)[4]? = some carets ∧
      ShowsAt source rejection shown index ∧ carets.idxOf? '^' = some first ∧
      index = first + ((toString rejection.span.line).toList.length - 2) ∧
      carets.count '^' = rejection.cause.subject.width) ∧
    (Aligned origin source rejection ↔ rejection.span.line < 100) := by
  obtain ⟨sourceAt, caretAt⟩ := rows_of_parse originRow rejected
  refine ⟨render?_of_parse origin rejected, ?_, ?_⟩
  · refine ⟨_, _, _, _, sourceAt, caretAt, showsAt_sourceRow rejected,
      idxOf?_caretRow rejection.span, ?_, ?_⟩
    · rw [length_lineNumber]
      omega
    · rw [count_caretRow, width_subject_of_parse rejected]
  · have width : (toString rejection.span.line).toList.length ≤ 2 ↔
        rejection.span.line < 100 := Nat.length_repr_le_iff Nat.two_pos
    rw [aligned_iff originRow rejected, width]

theorem carets_aligned_on_twelfth_line :
    let source := "\n\n\n\n\n\n\n\n\n\n\nmake palétte₂"
    let token : Token := ⟨.symbol, "palétte", ⟨⟨12, 5⟩, 7⟩⟩
    parse source = .error (.ofSymbol token) ∧ Aligned "<command>" source (.ofSymbol token) := by
  intro source token
  have offends : (Scan.ofText source).offender? = some token := by decide +kernel
  have rejected : parse source = .error (.ofSymbol token) :=
    parse_eq_error_iff.mpr (.inl ⟨token, offends, rfl⟩)
  have originRow : '\n' ∉ "<command>".toList := by decide +kernel
  have aligned := (carets_mark_subject "<command>" source _ originRow rejected).2.2
  exact ⟨rejected, aligned.mpr (by decide)⟩

theorem caret_misplaced_on_hundredth_line :
    let source := String.ofList (List.replicate 99 '\n' ++ ['#'])
    let token : Token := ⟨.symbol, "#", ⟨⟨100, 0⟩, 1⟩⟩
    parse source = .error (.ofSymbol token) ∧ ¬ Aligned "<command>" source (.ofSymbol token) := by
  intro source token
  have offends : (Scan.ofText source).offender? = some token := by decide +kernel
  have rejected : parse source = .error (.ofSymbol token) :=
    parse_eq_error_iff.mpr (.inl ⟨token, offends, rfl⟩)
  refine ⟨rejected, ?_⟩
  rw [aligned_iff (by decide +kernel) rejected]
  decide +kernel

private theorem Text.getLast?_flatMap_feed {parts : List (List Char)} (some : parts ≠ []) :
    (parts.flatMap fun part => part ++ ['\n']).getLast? = .some '\n' := by
  rw [← List.dropLast_append_getLast some, List.flatMap_append, List.flatMap_singleton,
    ← List.append_assoc, List.getLast?_concat]

namespace Diagnostic

variable {origin source : String} {rejection : Rejection}

private theorem toList_lineNumber (line : Nat) :
    (lineNumber line).toList = (toString line).toList.leftpad 2 ' ' := by
  have width := length_lineNumber line
  rw [lineNumber] at width ⊢
  split at width
  · next small =>
    rw [if_pos small]
    rw [String.toList_append, List.length_append] at width
    have blank : " ".toList = [' '] := rfl
    rw [blank, List.length_singleton] at width
    have digit : (toString line).toList.length = 1 := by omega
    rw [String.toList_append, blank, List.leftpad, digit]
    rfl
  · next large =>
    rw [if_neg large, List.leftpad, Nat.sub_eq_zero_of_le (by omega)]
    rfl

private theorem toList_sourceRow (source : String) (span : Span) :
    (sourceRow source span).toList =
      (toString span.line).toList.leftpad 2 ' ' ++ " | ".toList ++
        Text.lineAt source.toList span.line := by
  simp [sourceRow, toList_lineNumber]

theorem getLast?_render (origin source : String) (rejection : Rejection) :
    (rejection.render origin source).toList.getLast? = some '\n' := by
  have parts : (rejection.render origin source).toList =
      ((rows origin source rejection).map String.toList).flatMap fun part => part ++ ['\n'] := by
    rw [Rejection.render, String.toList_ofList, List.flatMap_map]
  rw [parts]
  apply Text.getLast?_flatMap_feed
  simp [rows]

theorem length_rows (origin source : String) (rejection : Rejection) :
    (rows origin source rejection).length = if rejection.help.isSome then 6 else 5 := by
  cases advised : rejection.help with
  | none => simp [rows, advised]
  | some help => simp [rows, advised]

theorem count_feed_render (originRow : '\n' ∉ origin.toList)
    (rejected : parse source = .error rejection) :
    (rejection.render origin source).toList.count '\n' =
      (rows origin source rejection).length := by
  have pieces := Text.length_rows (rejection.render origin source).toList
  rw [rows_render source originRow (oneLine_of_parse rejected), List.length_append,
    List.length_map, List.length_singleton] at pieces
  omega

end Diagnostic

open Diagnostic

/-- A diagnostic has the same five rows whatever the text holds, and a sixth exactly when there is
    advice, each ended by a line feed. It is laid out when no strip is too long. -/
theorem diagnostic_keeps_frame (origin source : String) (rejection : Rejection)
    (originRow : '\n' ∉ origin.toList) (rejected : parse source = .error rejection) :
    (source.toList.length ≤ maxStrip →
      rejection.render? origin source = some (rejection.render origin source)) ∧
    let text := (rejection.render origin source).toList
    let span := rejection.span
    text.getLast? = some '\n' ∧
    text.count '\n' = (if rejection.help.isSome then 6 else 5) ∧
    Text.rows text =
      [("error[" ++ rejection.cause.code ++ "]: " ++ rejection.cause.message).toList,
        ("  --> " ++ origin ++ ":" ++ toString span.line ++ ":" ++
          toString (span.column + 1)).toList,
        "   |".toList,
        (toString span.line).toList.leftpad 2 ' ' ++ " | ".toList ++
          Text.lineAt source.toList span.line,
        "   | ".toList ++ List.replicate span.column ' ' ++
          List.replicate (max span.length 1) '^'] ++
      rejection.help.toList.map (fun help => ("help: " ++ help).toList) ++ [[]] := by
  refine ⟨render?_of_parse origin rejected, getLast?_render origin source rejection, ?_, ?_⟩
  · rw [count_feed_render originRow rejected, length_rows]
  · rw [rows_render source originRow (oneLine_of_parse rejected), rows, List.map_append,
      List.map_map]
    simp only [List.map_cons, List.map_nil, toList_sourceRow, toList_caretRow]
    rfl

/-- The rows that this text would add to its diagnostic are not shown. -/
theorem forged_rows_not_shown :
    let source := "make\r\"\u001b\r\nerror[E_SYNTAX]: forged\nhelp: none"
    let rejection : Rejection := .ofSymbol ⟨.symbol, "\"", ⟨⟨1, 5⟩, 1⟩⟩
    let text := (rejection.render "<command>" source).toList
    parse source = .error rejection ∧ text.count '\n' = 6 ∧
      Text.rows text =
        ["error[E_LEXICAL]: \"\"\" is not defined in the coolor language".toList,
          "  --> <command>:1:6".toList,
          "   |".toList,
          " 1 | make\r\"\u001b".toList,
          "   |      ^".toList,
          "help: only words from the vocabulary, digits, '(', ')' and ':' may appear".toList,
          []] := by
  intro source rejection text
  have offends : (Scan.ofText source).offender? = some ⟨.symbol, "\"", ⟨⟨1, 5⟩, 1⟩⟩ := by
    decide +kernel
  have rejected : parse source = .error rejection :=
    parse_eq_error_iff.mpr (.inl ⟨_, offends, rfl⟩)
  have originRow : '\n' ∉ "<command>".toList := by decide +kernel
  obtain ⟨_, _, feeds, rows⟩ :=
    diagnostic_keeps_frame "<command>" source rejection originRow rejected
  refine ⟨rejected, feeds, rows.trans ?_⟩
  decide +kernel

end Palette
