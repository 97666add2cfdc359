import Palette.Proofs.Offsets
import Palette.Proofs.Places

/-!
# Lines and columns as coordinates

The rows before a place, and what stands before it on its own row, are the text up to it
(`Text.flatMap_take_rows_append`). So lines and columns tell all the boundaries of a text apart, in
their order (`places_identify_offsets`).
-/

namespace Palette

open Text (Boundary bytes bytes_append lastRow rowStart rows)

namespace Text

private theorem not_mem_feed_lastRow (front : List Char) : '\n' ∉ lastRow front := by
  intro feed
  have kept := List.mem_rtakeWhile_imp feed
  simp at kept

private theorem rows_eq_take_append (front : List Char) :
    rows front = (rows front).take (front.count '\n') ++ [lastRow front] := by
  have last : (rows front)[front.count '\n']? = some (lastRow front) := by
    simpa [rowStart] using getElem?_rows_append front []
  calc rows front
      = (rows front).take (front.count '\n' + 1) := by
        rw [← length_rows, List.take_length]
    _ = (rows front).take (front.count '\n') ++ [lastRow front] := by
        rw [List.take_add_one, last, Option.toList_some]

theorem flatMap_take_rows_append (front back : List Char) :
    ((rows (front ++ back)).take (front.count '\n')).flatMap (· ++ ['\n']) ++ lastRow front =
      front := by
  induction front using List.reverseRecOn generalizing back with
  | nil => simp [lastRow]
  | append_singleton front c ih =>
    by_cases feed : c = '\n'
    · have filled : (rows (front ++ ['\n'] ++ back)).take ((front ++ ['\n']).count '\n') =
          rows front := by
        have apart : rows (front ++ ['\n'] ++ back) = rows front ++ rows back := by
          rw [List.append_assoc, List.singleton_append]
          exact List.splitOn_append_cons_self front back
        have behind : (front ++ ['\n']).count '\n' = (rows front).length := by
          simp [length_rows]
        rw [apart, behind, List.take_left]
      have whole := ih []
      rw [List.append_nil] at whole
      have onlyFeed : lastRow (front ++ ['\n']) = [] := by simp [lastRow]
      rw [feed, filled, onlyFeed, List.append_nil, rows_eq_take_append, List.flatMap_append,
        List.flatMap_singleton, ← List.append_assoc, whole]
    · have same : (front ++ [c]).count '\n' = front.count '\n' := by simp [feed]
      have longer : lastRow (front ++ [c]) = lastRow front ++ [c] := by simp [lastRow, feed]
      have whole := ih (c :: back)
      rw [same, longer, ← List.append_assoc, List.append_assoc front, List.singleton_append, whole]

end Text

/-- A place says where an offset is: the bytes of the rows before its line, with their line feeds,
    and those of as many characters of its own row as its column says, come to the offset. -/
def Place.LeadsTo (source : String) (offset : Nat) (place : Place) : Prop :=
  1 ≤ place.line ∧ ∃ row, (rows source.toList)[place.line - 1]? = some row ∧
    place.column ≤ row.length ∧ '\n' ∉ row.take place.column ∧
    bytes (((rows source.toList).take (place.line - 1)).flatMap (· ++ ['\n'])) +
      bytes (row.take place.column) = offset

private theorem Place.leadsTo_start_after {source : String} {front back : List Char}
    (parts : source.toList = front ++ back) :
    (start.after front).LeadsTo source (bytes front) := by
  have row := Text.getElem?_rows_append front back
  have taken : (lastRow front ++ rowStart back).take (lastRow front).length = lastRow front :=
    List.take_left
  rw [LeadsTo, start_after, parts]
  refine ⟨Nat.succ_pos _, _, row, by simp, ?_, ?_⟩
  · rw [taken]
    exact Text.not_mem_feed_lastRow front
  · rw [taken, ← bytes_append, Nat.add_sub_cancel, Text.flatMap_take_rows_append]

namespace Place

/-- An earlier line, or an earlier column of the same line. -/
instance : LT Place :=
  ⟨fun one other => one.line < other.line ∨ one.line = other.line ∧ one.column < other.column⟩

private theorem lt_def {one other : Place} :
    one < other ↔ one.line < other.line ∨ one.line = other.line ∧ one.column < other.column :=
  Iff.rfl

private theorem lt_next (place : Place) (c : Char) : place < place.next c := by
  rw [lt_def, next]
  split <;> simp

theorem lt_after (place : Place) {text : List Char} (nonempty : text ≠ []) :
    place < place.after text := by
  obtain ⟨c, rest, rfl⟩ := List.exists_cons_of_ne_nil nonempty
  have further := lt_def.mp (place.lt_next c)
  have onward := le_def.mp (le_after (place.next c) rest)
  rw [after_cons, lt_def]
  omega

end Place

variable {source : String} {first middle last : Nat}

private theorem Span.exists_front_of_ofOffsets? {span : Span}
    (found : ofOffsets? source first last = some span) :
    ∃ front back, source.toList = front ++ back ∧ bytes front = first ∧
      span.toPlace = Place.start.after front := by
  obtain ⟨front, segment, back, parts, begun, _, rfl⟩ := ofOffsets?_eq_some_iff.mp found
  exact ⟨front, segment ++ back, parts, begun, rfl⟩

theorem Span.toPlace_eq_of_ofOffsets? {other : Nat} {one further : Span}
    (found : ofOffsets? source first last = some one)
    (again : ofOffsets? source first other = some further) : further.toPlace = one.toPlace := by
  obtain ⟨front, back, parts, begun, place⟩ := exists_front_of_ofOffsets? found
  obtain ⟨front', back', parts', begun', place'⟩ := exists_front_of_ofOffsets? again
  have same : front' = front :=
    Text.eq_of_bytes_eq (parts'.symm.trans parts) (begun'.trans begun.symm)
  rw [place, place', same]

theorem Span.leadsTo_of_ofOffsets? {span : Span}
    (found : ofOffsets? source first last = some span) : span.toPlace.LeadsTo source first := by
  obtain ⟨front, back, parts, rfl, place⟩ := exists_front_of_ofOffsets? found
  rw [place]
  exact Place.leadsTo_start_after parts

theorem Span.toPlace_lt_of_ofOffsets? {later other : Nat} {one further : Span}
    (found : ofOffsets? source first last = some one)
    (foundLater : ofOffsets? source later other = some further) (before : first < later) :
    one.toPlace < further.toPlace := by
  obtain ⟨front, back, parts, rfl, place⟩ := exists_front_of_ofOffsets? found
  obtain ⟨front', back', parts', rfl, place'⟩ := exists_front_of_ofOffsets? foundLater
  obtain ⟨between, rfl, -⟩ :=
    Text.exists_between_of_bytes_le (parts.symm.trans parts') (Nat.le_of_lt before)
  have nonempty : between ≠ [] := by
    rintro rfl
    simp at before
  rw [place, place', Place.after_append]
  exact Place.lt_after _ nonempty

theorem Span.length_of_ofOffsets? {whole front back : Span}
    (foundFront : ofOffsets? source first middle = some front)
    (foundBack : ofOffsets? source middle last = some back)
    (foundWhole : ofOffsets? source first last = some whole) :
    whole.length = front.length + back.length := by
  obtain ⟨before, one, rest, parts, rfl, rfl, rfl⟩ := ofOffsets?_eq_some_iff.mp foundFront
  obtain ⟨before', other, rest', parts', begun', rfl, rfl⟩ := ofOffsets?_eq_some_iff.mp foundBack
  have same : before' = before ++ one :=
    Text.eq_of_bytes_eq (parts'.symm.trans (parts.trans (List.append_assoc ..).symm)) begun'
  subst same
  have joined : source.toList = before ++ ((one ++ other) ++ rest') := by simpa using parts'
  have found := ofOffsets?_append joined
  rw [← List.append_assoc, foundWhole] at found
  obtain rfl := Option.some.inj found
  simp [Place.span]

/-- The place where a span begins depends on the first of two boundaries alone and leads back to it,
    and places are in the order of boundaries. The lengths of stretches that meet add up. -/
theorem places_identify_offsets (source : String) :
    (∀ first last, Boundary source first → Boundary source last → first ≤ last →
      ∃ span, Span.ofOffsets? source first last = some span ∧
        span.toPlace.LeadsTo source first ∧
        ∀ other further, Span.ofOffsets? source first other = some further →
          further.line = span.line ∧ further.column = span.column) ∧
    (∀ first last later other one further,
      Span.ofOffsets? source first last = some one →
      Span.ofOffsets? source later other = some further → first < later →
        one.line < further.line ∨ one.line = further.line ∧ one.column < further.column) ∧
    ∀ first middle last, Boundary source first → Boundary source middle → Boundary source last →
      first ≤ middle → middle ≤ last →
        ∃ front back whole, Span.ofOffsets? source first middle = some front ∧
          Span.ofOffsets? source middle last = some back ∧
          Span.ofOffsets? source first last = some whole ∧
          whole.length = front.length + back.length := by
  refine ⟨?_, ?_, ?_⟩
  · intro first last begun ended ordered
    obtain ⟨span, found⟩ := Span.exists_ofOffsets?_iff.mpr ⟨begun, ended, ordered⟩
    refine ⟨span, found, Span.leadsTo_of_ofOffsets? found, fun other further again => ?_⟩
    have same := Span.toPlace_eq_of_ofOffsets? found again
    exact ⟨congrArg Place.line same, congrArg Place.column same⟩
  · intro first last later other one further found foundLater before
    exact Place.lt_def.mp (Span.toPlace_lt_of_ofOffsets? found foundLater before)
  · intro first middle last begun between ended earlier later
    obtain ⟨front, foundFront⟩ := Span.exists_ofOffsets?_iff.mpr ⟨begun, between, earlier⟩
    obtain ⟨back, foundBack⟩ := Span.exists_ofOffsets?_iff.mpr ⟨between, ended, later⟩
    obtain ⟨whole, foundWhole⟩ :=
      Span.exists_ofOffsets?_iff.mpr ⟨begun, ended, Nat.le_trans earlier later⟩
    exact ⟨front, back, whole, foundFront, foundBack, foundWhole,
      Span.length_of_ofOffsets? foundFront foundBack foundWhole⟩

theorem places_around_empty_line :
    let source := "é\n\nb"
    (Boundary source 0 ∧ Boundary source 2 ∧ Boundary source 3 ∧ Boundary source 5) ∧
      (∃ span, Span.ofOffsets? source 3 5 = some span ∧ span.toPlace.LeadsTo source 3 ∧
        ∀ other further, Span.ofOffsets? source 3 other = some further →
          further.line = span.line ∧ further.column = span.column) ∧
      (∃ one further, Span.ofOffsets? source 2 3 = some one ∧
        Span.ofOffsets? source 3 5 = some further ∧
        (one.line < further.line ∨ one.line = further.line ∧ one.column < further.column)) ∧
      ∃ front back whole, Span.ofOffsets? source 0 2 = some front ∧
        Span.ofOffsets? source 2 5 = some back ∧ Span.ofOffsets? source 0 5 = some whole ∧
        whole.length = front.length + back.length := by
  intro source
  have begin : Boundary source 0 := by decide +kernel
  have behindLetter : Boundary source 2 := by decide +kernel
  have behindFeed : Boundary source 3 := by decide +kernel
  have finish : Boundary source 5 := by decide +kernel
  have onFirst : Span.ofOffsets? source 2 3 = some ⟨⟨1, 1⟩, 1⟩ := by decide +kernel
  have onSecond : Span.ofOffsets? source 3 5 = some ⟨⟨2, 0⟩, 2⟩ := by decide +kernel
  obtain ⟨leads, ordered, additive⟩ := places_identify_offsets source
  exact ⟨⟨begin, behindLetter, behindFeed, finish⟩, leads 3 5 behindFeed finish (by decide),
    ⟨_, _, onFirst, onSecond, ordered 2 3 3 5 _ _ onFirst onSecond (by decide)⟩,
    additive 0 2 5 begin behindLetter finish (by decide) (by decide)⟩

end Palette
