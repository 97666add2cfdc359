import Mathlib.Data.List.DropRight
import Palette.Proofs.Decomposition
import Palette.Proofs.Offsets
import Palette.Text.Cuts

/-!
# Where tokens stand

A place counts the line feeds before it and the characters behind the last of them
(`Place.start_after`). So the span of every token leads to its lexeme in the rows of the text
(`spans_locate_lexemes`), and the end of a text is just past its last token
(`stop_behind_last_token`).
-/

namespace Palette

namespace Place

/-- An earlier line, or the same line and no later column. -/
instance : LE Place :=
  ⟨fun one other => one.line < other.line ∨ one.line = other.line ∧ one.column ≤ other.column⟩

theorem le_def {one other : Place} :
    one ≤ other ↔ one.line < other.line ∨ one.line = other.line ∧ one.column ≤ other.column :=
  Iff.rfl

theorem le_after (place : Place) (text : List Char) : place ≤ place.after text := by
  induction text generalizing place with
  | nil => exact .inr ⟨rfl, Nat.le_refl _⟩
  | cons c rest ih =>
    have on := le_def.mp (ih (place.next c))
    rw [after_cons, le_def]
    by_cases feed : c = '\n'
    · simp only [next, feed, if_true] at on ⊢
      omega
    · simp only [next, feed, if_false] at on ⊢
      omega

private theorem after_of_not_mem {text : List Char} (place : Place) (noFeed : '\n' ∉ text) :
    place.after text = ⟨place.line, place.column + text.length⟩ := by
  induction text generalizing place with
  | nil => rfl
  | cons c rest ih =>
    obtain ⟨notFeed, noFeed⟩ : ¬ '\n' = c ∧ '\n' ∉ rest := by simpa using noFeed
    rw [after_cons, ih _ noFeed, next, if_neg (Ne.symm notFeed)]
    simp only [List.length_cons, Place.mk.injEq, true_and]
    omega

end Place

namespace Text

/-- What stands on a row before the first line feed of a text. -/
def rowStart (text : List Char) : List Char := text.takeWhile (· ≠ '\n')

/-- What stands on a row behind the last line feed of a text. -/
def lastRow (text : List Char) : List Char := text.rtakeWhile (· ≠ '\n')

theorem rows_feed (text : List Char) : rows ('\n' :: text) = [] :: rows text := by
  simp [rows, List.splitOn_cons_eq_if_modifyHead]

theorem rows_cons {c : Char} (notFeed : c ≠ '\n') (text : List Char) :
    rows (c :: text) = (rows text).modifyHead (c :: ·) := by
  simp [rows, List.splitOn_cons_eq_if_modifyHead, notFeed]

private theorem head?_rows (text : List Char) : (rows text).head? = some (rowStart text) := by
  induction text with
  | nil => rfl
  | cons c rest ih =>
    by_cases feed : c = '\n'
    · simp [feed, rows_feed, rowStart]
    · rw [rows_cons feed, List.head?_modifyHead, ih]
      simp [rowStart, feed]

theorem length_rows (text : List Char) : (rows text).length = text.count '\n' + 1 := by
  induction text with
  | nil => rfl
  | cons c rest ih =>
    by_cases feed : c = '\n'
    · simp [feed, rows_feed, ih]
    · simp [rows_cons feed, feed, ih]

/-- The row on which a text goes on after its front holds what the front has left there. -/
theorem getElem?_rows_append (front back : List Char) :
    (rows (front ++ back))[front.count '\n']? = some (lastRow front ++ rowStart back) := by
  induction front using List.reverseRecOn generalizing back with
  | nil => simpa [lastRow, List.head?_eq_getElem?] using head?_rows back
  | append_singleton front c ih =>
    rw [List.append_assoc, List.singleton_append]
    by_cases feed : c = '\n'
    · have apart : rows (front ++ '\n' :: back) = rows front ++ rows back :=
        List.splitOn_append_cons_self front back
      have behind : (front ++ ['\n']).count '\n' = (rows front).length := by
        simp [length_rows]
      rw [feed, apart, behind, List.getElem?_append_right (Nat.le_refl _), Nat.sub_self,
        ← List.head?_eq_getElem?, head?_rows]
      simp [lastRow]
    · have same : (front ++ [c]).count '\n' = front.count '\n' := by simp [feed]
      rw [same, ih]
      simp [lastRow, rowStart, feed]

theorem rowStart_append {segment : List Char} (noFeed : '\n' ∉ segment) (back : List Char) :
    rowStart (segment ++ back) = segment ++ rowStart back := by
  refine List.takeWhile_append_of_pos fun c member => ?_
  have notFeed : c ≠ '\n' := fun feed => noFeed (feed ▸ member)
  simpa using notFeed

theorem not_mem_feed {segment : List Char} (visible : ∀ c ∈ segment, isBlank c = false) :
    '\n' ∉ segment := by
  intro member
  have blank : isBlank '\n' = true := by decide
  rw [visible _ member] at blank
  cases blank

end Text

/-- The lines and columns of a text are its line feeds and the characters behind the last one. -/
theorem Place.start_after (text : List Char) :
    Place.start.after text = ⟨text.count '\n' + 1, (Text.lastRow text).length⟩ := by
  induction text using List.reverseRecOn with
  | nil => rfl
  | append_singleton front c ih =>
    rw [Place.after_append, Place.after_cons, Place.after_nil, ih, Place.next]
    by_cases feed : c = '\n' <;> simp [feed, Text.lastRow]

theorem Place.column_start_after_le (text : List Char) :
    (Place.start.after text).column ≤ text.length := by
  rw [start_after]
  exact (List.rtakeWhile_suffix _ text).length_le

private theorem exists_row_of_parts (front : List Char) {segment : List Char}
    (noFeed : '\n' ∉ segment) (back : List Char) :
    1 ≤ (Place.start.after front).line ∧
      ∃ row, (Text.rows (front ++ (segment ++ back)))[(Place.start.after front).line - 1]? =
          some row ∧
        (row.drop (Place.start.after front).column).take segment.length = segment := by
  have row := Text.getElem?_rows_append front (segment ++ back)
  rw [Place.start_after]
  refine ⟨Nat.succ_pos _, _, row, ?_⟩
  rw [List.drop_left, Text.rowStart_append noFeed, List.take_left]

open Text (Stretch)

private theorem span_before {text : List Char} {one other : Stretch}
    (whole : one.Whole text) (before : one.last ≤ other.first) :
    (one.span text).line < (other.span text).line ∨
      (one.span text).line = (other.span text).line ∧
        (one.span text).column + (one.span text).length ≤ (other.span text).column := by
  obtain ⟨front, segment, back, parts, _, visible, rfl⟩ := whole.exists_parts
  have begun : text.take front.length = front := by simp [parts]
  obtain ⟨between, reached⟩ : ∃ between, text.take other.first = front ++ segment ++ between := by
    have taken : (text.take other.first).take (front ++ segment).length = front ++ segment := by
      rw [List.length_append, List.take_take, Nat.min_eq_left before, parts, ← List.append_assoc,
        List.take_append_of_le_length (by simp), List.take_of_length_le (by simp)]
    exact ⟨_, (taken ▸ List.take_append_drop (front ++ segment).length _).symm⟩
  have onward := Place.le_def.mp (Place.le_after ((Place.start.after front).after segment) between)
  rw [← Place.after_append, ← Place.after_append, ← reached, Place.after_append,
    Place.after_of_not_mem _ (Text.not_mem_feed visible)] at onward
  simpa [Stretch.span, Place.span, begun] using onward

/-- The row with the line of a token holds its lexeme behind as many characters as its column says,
    which are also those of its bytes. Of two tokens the first ends before the other begins. -/
theorem spans_locate_lexemes (source : String) :
    (∀ token ∈ (Scan.ofText source).tokens,
      1 ≤ token.span.line ∧ 1 ≤ token.span.length ∧
      token.lexeme.toList.length = token.span.length ∧
      (∃ row, (Text.rows source.toList)[token.span.line - 1]? = some row ∧
        (row.drop token.span.column).take token.span.length = token.lexeme.toList) ∧
      ∃ front back, source.toList = front ++ (token.lexeme.toList ++ back) ∧
        Span.ofOffsets? source (Text.bytes front) (Text.bytes (front ++ token.lexeme.toList)) =
          some token.span) ∧
    (Scan.ofText source).tokens.Pairwise fun one other =>
      one.span.line < other.span.line ∨
        one.span.line = other.span.line ∧
          one.span.column + one.span.length ≤ other.span.column := by
  constructor
  · intro token member
    obtain ⟨front, segment, back, parts, nonempty, visible, rfl⟩ :=
      Scan.exists_parts_of_mem_tokens member
    obtain ⟨positive, row⟩ := exists_row_of_parts front (Text.not_mem_feed visible) back
    rw [← parts] at row
    have offsets := Span.ofOffsets?_append parts
    refine ⟨positive, List.length_pos_iff.mpr nonempty, by simp [Place.span], ?_, ?_⟩
    · simpa [Place.span] using row
    · exact ⟨front, back, by simpa using parts, by simpa using offsets⟩
  · have decomposed := Text.decomposition_stretches source.toList
    rw [Scan.tokens_ofText, List.pairwise_map]
    refine decomposed.ordered.imp_of_mem ?_
    intro one other member _ before
    exact span_before (decomposed.whole one member) before

namespace Text

variable {text : List Char}

private theorem Decomposition.isBlank_of_getLast? {stretches : List Stretch} {stretch : Stretch}
    {index : Nat} {c : Char} (decomposed : Decomposition text stretches)
    (last : stretches.getLast? = some stretch) (behind : stretch.last ≤ index)
    (found : text[index]? = some c) : isBlank c = true := by
  by_contra visible
  obtain ⟨covering, member, begun, ended⟩ :=
    decomposed.covering index c found (by simpa using visible)
  obtain ⟨earlier, rfl⟩ := List.getLast?_eq_some_iff.mp last
  rcases List.mem_append.mp member with before | here
  · have ordered := (List.pairwise_append.mp decomposed.ordered).2.2
    have passed := ordered covering before stretch (List.mem_singleton_self stretch)
    have nonempty := (decomposed.whole stretch (by simp)).first_lt_last
    omega
  · rw [List.mem_singleton.mp here] at ended
    omega

private theorem isBlank_of_stretches_eq_nil (none : stretches text = []) :
    ∀ c ∈ text, isBlank c = true := by
  intro c member
  by_contra visible
  obtain ⟨index, found⟩ := List.mem_iff_getElem?.mp member
  obtain ⟨covering, listed, _⟩ :=
    (decomposition_stretches text).covering index c found (by simpa using visible)
  rw [none] at listed
  cases listed

end Text

open Text (stretches)

/-- The last token is cut out of its text in front of blanks alone. -/
theorem Scan.exists_parts_of_getLast? {source : String} {token : Token}
    (last : (Scan.ofText source).tokens.getLast? = some token) :
    ∃ front segment blanks, source.toList = front ++ segment ++ blanks ∧ segment ≠ [] ∧
      (∀ c ∈ segment, Text.isBlank c = false) ∧ (∀ c ∈ blanks, Text.isBlank c = true) ∧
      token.span = (Place.start.after front).span segment.length := by
  rw [Scan.tokens_ofText, List.getLast?_map, Option.map_eq_some_iff] at last
  obtain ⟨stretch, last, rfl⟩ := last
  have decomposed := Text.decomposition_stretches source.toList
  have whole := decomposed.whole stretch (List.mem_of_getLast? last)
  obtain ⟨front, segment, blanks, parts, nonempty, visible, rfl⟩ := whole.exists_parts
  refine ⟨front, segment, blanks, by rw [parts, List.append_assoc], nonempty, visible, ?_, ?_⟩
  · intro c member
    obtain ⟨index, found⟩ := List.mem_iff_getElem?.mp member
    refine decomposed.isBlank_of_getLast? last (Nat.le_add_right _ index) ?_
    rw [parts, ← List.append_assoc, ← List.length_append,
      List.getElem?_append_right (Nat.le_add_right ..), Nat.add_sub_cancel_left, found]
  · simp [Text.Stretch.token, Text.Stretch.span, parts]

theorem Span.ofOffsets?_trimEnd (source : String) :
    let kept := Text.bytes (Text.trimEnd source.toList)
    Span.ofOffsets? source kept kept = some { Span.endOf source with length := 0 } := by
  intro kept
  obtain ⟨blanks, split, _⟩ := Text.exists_blanks_after_trimEnd source.toList
  have parts : source.toList = Text.trimEnd source.toList ++ ([] ++ blanks) := split
  have offsets := Span.ofOffsets?_append parts
  rw [List.append_nil] at offsets
  exact offsets

/-- The end of a text is just past its last token, whatever blanks and blank lines follow, and where
    every text begins when there is no token. -/
theorem stop_behind_last_token (source : String) :
    (Scan.ofText source).stop =
      (match (Scan.ofText source).tokens.getLast? with
        | some token => ⟨⟨token.span.line, token.span.column + token.span.length⟩, 1⟩
        | none => ⟨⟨1, 0⟩, 1⟩) ∧
    let kept := Text.bytes (Text.trimEnd source.toList)
    Span.ofOffsets? source kept kept = some { (Scan.ofText source).stop with length := 0 } := by
  refine ⟨?_, Span.ofOffsets?_trimEnd source⟩
  show Span.endOf source = _
  rw [Span.endOf]
  cases last : (Scan.ofText source).tokens.getLast? with
  | none =>
    rw [List.getLast?_eq_none_iff, Scan.tokens_ofText, List.map_eq_nil_iff] at last
    have cut : Text.trimEnd ([] ++ source.toList) = Text.trimEnd [] :=
      Text.trimEnd_append_of_blanks (Text.isBlank_of_stretches_eq_nil last)
    rw [List.nil_append] at cut
    rw [cut]
    rfl
  | some token =>
    obtain ⟨front, segment, blanks, split, nonempty, visible, blank, span⟩ :=
      Scan.exists_parts_of_getLast? last
    have ends : ∀ c ∈ (front ++ segment).getLast?, Text.isBlank c = false := by
      intro c last
      rw [List.getLast?_append_of_ne_nil _ nonempty] at last
      exact visible c (List.mem_of_getLast? last)
    have kept : Text.trimEnd source.toList = front ++ segment := by
      rw [split, Text.trimEnd_append_of_blanks blank, Text.trimEnd_eq_self ends]
    rw [kept, Place.after_append, Place.after_of_not_mem _ (Text.not_mem_feed visible)]
    simp only [span, Place.span]

/-- Neither a blank of another script nor a line feed moves the end. -/
example : (Scan.ofText "make\n  4\u3000\r\n\n").stop = ⟨⟨2, 3⟩, 1⟩ := by
  decide +kernel

end Palette
