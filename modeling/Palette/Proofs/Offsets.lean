import Mathlib.Data.List.Basic
import Mathlib.Data.List.Induction
import Palette.Token

/-!
# Offsets into a text

An offset is a boundary exactly when it is neither past the end nor inside a character
(`boundary_iff`). Two boundaries in order cut a text into three parts, and only they have a span,
that of the part between them (`Span.ofOffsets?_eq_some_iff`).
-/

namespace Palette

/-- The number of bytes of a text in UTF-8. -/
def Text.bytes (text : List Char) : Nat := (String.ofList text).utf8ByteSize

namespace Text

@[simp] theorem bytes_append (front back : List Char) :
    bytes (front ++ back) = bytes front + bytes back := by
  simp [bytes, String.ofList_append]

@[simp] theorem bytes_singleton (c : Char) : bytes [c] = c.utf8Size := by
  rw [bytes, ← String.singleton_eq_ofList, String.utf8ByteSize_singleton]

private theorem bytes_pos {text : List Char} (nonempty : text ≠ []) : 0 < bytes text := by
  obtain ⟨c, rest, rfl⟩ := List.exists_cons_of_ne_nil nonempty
  rw [← List.singleton_append, bytes_append, bytes_singleton]
  have := c.utf8Size_pos
  omega

end Text

open Text (bytes bytes_append bytes_singleton bytes_pos)

private theorem foldl_utf8Size (offset : Nat) (text : List Char) :
    text.foldl (fun offset c => offset + c.utf8Size) offset = offset + bytes text := by
  induction text generalizing offset with
  | nil => simp [bytes]
  | cons c rest ih =>
    rw [List.foldl_cons, ih, ← List.singleton_append, bytes_append, bytes_singleton]
    omega

private theorem getElem_boundaries {text : List Char} {index : Nat}
    (inside : index < (boundaries text).length) :
    (boundaries text)[index] = bytes (text.take index) := by
  simp only [boundaries, List.getElem_scanl, foldl_utf8Size, Nat.zero_add]

theorem idxOf?_boundaries (front back : List Char) :
    (boundaries (front ++ back)).idxOf? (bytes front) = some front.length := by
  refine List.idxOf?_eq_some_iff.mpr ⟨?_, ?_, ?_⟩
  · rw [boundaries, List.length_scanl, List.length_append]
    omega
  · rw [getElem_boundaries, List.take_left]
  · intro index shorter
    rw [getElem_boundaries, List.take_append_of_le_length (by omega)]
    have missing : front.drop index ≠ [] := by
      rw [ne_eq, List.drop_eq_nil_iff]
      omega
    have more := bytes_pos missing
    have whole := bytes_append (front.take index) (front.drop index)
    rw [List.take_append_drop] at whole
    omega

theorem Span.ofOffsets?_append {source : String} {front segment back : List Char}
    (parts : source.toList = front ++ (segment ++ back)) :
    Span.ofOffsets? source (bytes front) (bytes (front ++ segment)) =
      some ((Place.start.after front).span segment.length) := by
  have first := idxOf?_boundaries front (segment ++ back)
  have last := idxOf?_boundaries (front ++ segment) back
  rw [List.append_assoc] at last
  simp only [Span.ofOffsets?, parts, first, last]
  simp

namespace Text

/-- An offset between two characters of a text, or at one of its ends. -/
def Boundary (source : String) (offset : Nat) : Prop :=
  (String.Pos.Raw.mk offset).IsValid source

instance (source : String) (offset : Nat) : Decidable (Boundary source offset) :=
  inferInstanceAs (Decidable ((String.Pos.Raw.mk offset).IsValid source))

/-- An offset behind the first byte of a character and not behind its last. -/
def InsideCharacter (source : String) (offset : Nat) : Prop :=
  ∃ front c back, source.toList = front ++ c :: back ∧
    bytes front < offset ∧ offset < bytes (front ++ [c])

variable {source : String} {offset first last : Nat} {front back other rest text : List Char}

private theorem bytes_toList (source : String) : bytes source.toList = source.utf8ByteSize := by
  rw [bytes, String.ofList_toList]

private theorem bytes_le_of_parts (parts : text = front ++ back) : bytes front ≤ bytes text := by
  rw [parts, bytes_append]
  omega

theorem exists_between_of_bytes_le (same : front ++ back = other ++ rest)
    (fewer : bytes front ≤ bytes other) :
    ∃ between, other = front ++ between ∧ back = between ++ rest := by
  rcases List.append_eq_append_iff.mp same with ⟨between, split, later⟩ | ⟨more, split, later⟩
  · exact ⟨between, split, later⟩
  · obtain rfl : more = [] := by
      by_contra nonempty
      have positive := bytes_pos nonempty
      rw [split, bytes_append] at fewer
      omega
    exact ⟨[], by simpa using split.symm, by simpa using later.symm⟩

theorem eq_of_bytes_eq (same : front ++ back = other ++ rest)
    (bytesEq : bytes front = bytes other) :
    front = other := by
  obtain ⟨between, split, _⟩ := exists_between_of_bytes_le same (Nat.le_of_eq bytesEq)
  have none : between = [] := by
    by_contra nonempty
    have positive := bytes_pos nonempty
    rw [split, bytes_append] at bytesEq
    omega
  rw [split, none, List.append_nil]

theorem boundary_iff_exists_front :
    Boundary source offset ↔
      ∃ front back, source.toList = front ++ back ∧ bytes front = offset := by
  rw [Boundary, String.Pos.Raw.isValid_iff_exists_append]
  constructor
  · rintro ⟨front, back, rfl, place⟩
    refine ⟨front.toList, back.toList, String.toList_append, ?_⟩
    rw [bytes_toList]
    exact (congrArg String.Pos.Raw.byteIdx place).symm
  · rintro ⟨front, back, split, rfl⟩
    refine ⟨String.ofList front, String.ofList back, ?_, rfl⟩
    rw [← String.ofList_append, ← split, String.ofList_toList]

private theorem exists_front_or_inside (text : List Char) (within : offset ≤ bytes text) :
    (∃ front back, text = front ++ back ∧ bytes front = offset) ∨
      ∃ front c back, text = front ++ c :: back ∧
        bytes front < offset ∧ offset < bytes (front ++ [c]) := by
  induction text using List.reverseRecOn with
  | nil => exact .inl ⟨[], [], rfl, (Nat.le_zero.mp within).symm⟩
  | append_singleton text c ih =>
    by_cases behind : bytes text < offset
    · by_cases last : offset < bytes (text ++ [c])
      · exact .inr ⟨text, c, [], rfl, behind, last⟩
      · exact .inl ⟨text ++ [c], [], by simp, by omega⟩
    · rcases ih (by omega) with ⟨front, back, rfl, same⟩ | ⟨front, d, back, rfl, inside⟩
      · exact .inl ⟨front, back ++ [c], by simp, same⟩
      · exact .inr ⟨front, d, back ++ [c], by simp, inside⟩

/-- An offset is a boundary unless it is past the end or inside a character. -/
theorem boundary_iff :
    Boundary source offset ↔ ¬ (source.utf8ByteSize < offset ∨ InsideCharacter source offset) := by
  rw [boundary_iff_exists_front, not_or, Nat.not_lt, ← bytes_toList]
  constructor
  · rintro ⟨front, back, split, rfl⟩
    refine ⟨bytes_le_of_parts split, ?_⟩
    rintro ⟨before, c, behind, parts, more, fewer⟩
    have same : before ++ c :: behind = front ++ back := parts.symm.trans split
    obtain ⟨between, rfl, later⟩ := exists_between_of_bytes_le same (by omega)
    -- Behind the character's first byte stands all of the character, or nothing of it.
    cases between with
    | nil => simp at more
    | cons d between =>
      obtain ⟨rfl, -⟩ := List.cons.inj later
      rw [← List.singleton_append, ← List.append_assoc, bytes_append] at fewer
      omega
  · rintro ⟨within, apart⟩
    exact (exists_front_or_inside source.toList within).resolve_right apart

/-- Two boundaries in order cut a text into three parts. -/
theorem exists_parts_of_boundaries (begun : Boundary source first) (ended : Boundary source last)
    (ordered : first ≤ last) :
    ∃ front segment back, source.toList = front ++ (segment ++ back) ∧
      bytes front = first ∧ bytes (front ++ segment) = last := by
  obtain ⟨front, back, split, rfl⟩ := boundary_iff_exists_front.mp begun
  obtain ⟨other, rest, parts, rfl⟩ := boundary_iff_exists_front.mp ended
  obtain ⟨segment, rfl, rfl⟩ := exists_between_of_bytes_le (split.symm.trans parts) ordered
  exact ⟨front, segment, rest, split, rfl, rfl⟩

end Text

open Text (Boundary bytes bytes_append boundary_iff_exists_front exists_parts_of_boundaries)

variable {source : String} {first last : Nat} {span : Span}

private theorem exists_front_of_idxOf? {text : List Char} {offset index : Nat}
    (found : (boundaries text).idxOf? offset = some index) : bytes (text.take index) = offset := by
  obtain ⟨inside, same, _⟩ := List.idxOf?_eq_some_iff.mp found
  rwa [getElem_boundaries] at same

/-- Offsets have a span where they cut a text into three parts, and it is the span of the second. -/
theorem Span.ofOffsets?_eq_some_iff :
    ofOffsets? source first last = some span ↔
      ∃ front segment back, source.toList = front ++ (segment ++ back) ∧ bytes front = first ∧
        bytes (front ++ segment) = last ∧ span = (Place.start.after front).span segment.length := by
  constructor
  · intro found
    simp only [ofOffsets?] at found
    split at found
    · next before through begun ended =>
      split at found
      · next ordered =>
        -- The text is cut at the indices of the two boundaries.
        obtain ⟨short, _, _⟩ := List.idxOf?_eq_some_iff.mp ended
        have long : through ≤ source.toList.length := by
          rw [boundaries, List.length_scanl] at short
          omega
        have split : source.toList.take through =
            source.toList.take before ++ (source.toList.drop before).take (through - before) := by
          rw [← List.take_add, Nat.add_sub_cancel' ordered]
        refine ⟨source.toList.take before, (source.toList.drop before).take (through - before),
          source.toList.drop through, ?_, exists_front_of_idxOf? begun, ?_, ?_⟩
        · rw [← List.append_assoc, ← split, List.take_append_drop]
        · rw [← split]
          exact exists_front_of_idxOf? ended
        · have measured : ((source.toList.drop before).take (through - before)).length =
              through - before := by
            rw [List.length_take, List.length_drop]
            omega
          rw [measured]
          exact (Option.some.inj found).symm
      · cases found
    · cases found
  · rintro ⟨front, segment, back, parts, rfl, rfl, rfl⟩
    exact ofOffsets?_append parts

theorem Span.exists_ofOffsets?_iff :
    (∃ span, ofOffsets? source first last = some span) ↔
      Boundary source first ∧ Boundary source last ∧ first ≤ last := by
  constructor
  · rintro ⟨span, found⟩
    obtain ⟨front, segment, back, parts, rfl, rfl, _⟩ := ofOffsets?_eq_some_iff.mp found
    refine ⟨boundary_iff_exists_front.mpr ⟨front, _, parts, rfl⟩,
      boundary_iff_exists_front.mpr ⟨front ++ segment, back, by simpa using parts, rfl⟩, ?_⟩
    rw [bytes_append]
    exact Nat.le_add_right _ _
  · rintro ⟨begun, ended, ordered⟩
    obtain ⟨front, segment, back, parts, begin, finish⟩ :=
      exists_parts_of_boundaries begun ended ordered
    exact ⟨_, ofOffsets?_eq_some_iff.mpr ⟨front, segment, back, parts, begin, finish, rfl⟩⟩

/-- This letter has two bytes, and between them nothing ends. -/
example : [Span.ofOffsets? "é" 0 1, Span.ofOffsets? "é" 0 2] = [none, some ⟨⟨1, 0⟩, 1⟩] :=
  rfl

end Palette
