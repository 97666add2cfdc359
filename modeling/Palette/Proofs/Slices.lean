import Mathlib.Data.List.DropRight
import Palette.Parse
import Palette.Proofs.Offsets
import Palette.Proofs.Places

/-!
# Slices of a text

A slice fails when it does not begin and end between characters, in this order. Spans can be
measured on slices (`Span.sliced?_eq_ofOffsets?`), and no text makes a reading fail
(`every_reading_returns`).
-/

namespace Palette

open Text (Boundary InsideCharacter bytes bytes_append bytes_singleton)

namespace Text

variable {source : String} {first last : Nat} {front segment back : List Char}

/-- The text between two offsets, if they are boundaries in order. -/
def slice? (source : String) (first last : Nat) : Option String :=
  if fits : Boundary source first ∧ Boundary source last ∧ first ≤ last then
    some (source.extract ⟨⟨first⟩, fits.1⟩ ⟨⟨last⟩, fits.2.1⟩)
  else none

private theorem slice?_eq_none_iff :
    slice? source first last = none ↔
      ¬ (Boundary source first ∧ Boundary source last ∧ first ≤ last) := by
  rw [slice?]
  split <;> simp_all

private theorem toByteArray_size (text : List Char) :
    (String.ofList text).toByteArray.size = bytes text :=
  rfl

private theorem slice?_append (parts : source.toList = front ++ (segment ++ back)) :
    slice? source (bytes front) (bytes (front ++ segment)) = some (String.ofList segment) := by
  have fits : Boundary source (bytes front) ∧ Boundary source (bytes (front ++ segment)) ∧
      bytes front ≤ bytes (front ++ segment) :=
    Span.exists_ofOffsets?_iff.mp ⟨_, Span.ofOffsets?_append parts⟩
  have whole : source.toByteArray = (String.ofList front).toByteArray ++
      ((String.ofList segment).toByteArray ++ (String.ofList back).toByteArray) := by
    rw [← String.toByteArray_append, ← String.toByteArray_append, ← String.ofList_append,
      ← String.ofList_append, ← parts, String.ofList_toList]
  have cut : source.toByteArray.extract (bytes front) (bytes (front ++ segment)) =
      (String.ofList segment).toByteArray := by
    rw [whole, bytes_append, ← toByteArray_size front, ← toByteArray_size segment]
    calc _
      _ = ((String.ofList segment).toByteArray ++ (String.ofList back).toByteArray).extract 0
            (String.ofList segment).toByteArray.size := ByteArray.extract_append_size_add
      _ = (String.ofList segment).toByteArray := ByteArray.extract_append_eq_left rfl
  rw [slice?, dif_pos fits, Option.some.injEq, ← String.toByteArray_inj,
    String.toByteArray_extract, cut]

/-- The offset of the last line feed of a text. -/
def lastFeed? (text : List Char) : Option Nat :=
  if '\n' ∈ text then some (bytes (text.rdropWhile (· ≠ '\n')).dropLast) else none

/-- The offset at which the last row of a text begins. -/
def lineStart (text : List Char) : Nat := ((lastFeed? text).map (· + 1)).getD 0

private theorem lineStart_eq (text : List Char) :
    lineStart text = bytes (text.rdropWhile (· ≠ '\n')) := by
  rw [lineStart, lastFeed?]
  split
  · next feed =>
    have nonempty : text.rdropWhile (· ≠ '\n') ≠ [] := by
      rw [Ne, List.rdropWhile_eq_nil_iff]
      exact fun none => by simpa using none '\n' feed
    have last := List.rdropWhile_last_not (· ≠ '\n') text nonempty
    have split := List.dropLast_append_getLast nonempty
    have feedLast : (text.rdropWhile (· ≠ '\n')).getLast nonempty = '\n' := by simpa using last
    have size : '\n'.utf8Size = 1 := rfl
    rw [← split, feedLast, bytes_append, bytes_singleton, size, List.dropLast_concat]
    rfl
  · next noFeed =>
    have empty : text.rdropWhile (· ≠ '\n') = [] := by
      rw [List.rdropWhile_eq_nil_iff]
      exact fun c member => by simpa using ne_of_mem_of_not_mem member noFeed
    rw [empty]
    rfl

end Text

/-- The span between two offsets, measured on slices: the line on what is before the first of them,
    the column on what is before it on its line, the length on what is between them. -/
def Span.sliced? (source : String) (first last : Nat) : Option Span := do
  let before ← Text.slice? source 0 first
  let line := before.toList.count '\n' + 1
  let beside ← Text.slice? source (Text.lineStart before.toList) first
  let between ← Text.slice? source first last
  return ⟨⟨line, beside.toList.length⟩, between.toList.length⟩

/-- The span just past the last character that is not blank, measured on slices. -/
def Span.slicedEnd? (source : String) : Option Span := do
  let kept := bytes (Text.trimEnd source.toList)
  let span ← Span.sliced? source kept kept
  return { span with length := 1 }

section
variable {source : String} {first last : Nat}

private theorem Span.sliced?_append {front segment back : List Char}
    (parts : source.toList = front ++ (segment ++ back)) :
    sliced? source (bytes front) (bytes (front ++ segment)) =
      some ((Place.start.after front).span segment.length) := by
  have before : Text.slice? source 0 (bytes front) = some (String.ofList front) := by
    have fromStart : source.toList = [] ++ (front ++ (segment ++ back)) := parts
    simpa [bytes] using Text.slice?_append fromStart
  have beside : Text.slice? source (Text.lineStart front) (bytes front) =
      some (String.ofList (Text.lastRow front)) := by
    have split : front.rdropWhile (· ≠ '\n') ++ Text.lastRow front = front :=
      List.rdropWhile_append_rtakeWhile ..
    have rowParts : source.toList =
        front.rdropWhile (· ≠ '\n') ++ (Text.lastRow front ++ (segment ++ back)) := by
      rw [← List.append_assoc, split, parts]
    have row := Text.slice?_append rowParts
    rwa [split, ← Text.lineStart_eq] at row
  have between := Text.slice?_append parts
  simp only [sliced?, before, beside, between, String.toList_ofList, Place.start_after, Place.span,
    Option.bind_eq_bind, Option.bind_some, Option.pure_def]

theorem Span.sliced?_eq_ofOffsets? : sliced? source first last = ofOffsets? source first last := by
  by_cases fits : Boundary source first ∧ Boundary source last ∧ first ≤ last
  · obtain ⟨front, segment, back, parts, rfl, rfl⟩ :=
      Text.exists_parts_of_boundaries fits.1 fits.2.1 fits.2.2
    rw [sliced?_append parts, ofOffsets?_append parts]
  · have unmeasured : ofOffsets? source first last = none :=
      Option.eq_none_iff_forall_ne_some.mpr fun span found =>
        fits (exists_ofOffsets?_iff.mp ⟨span, found⟩)
    have failing := Text.slice?_eq_none_iff.mpr fits
    simp [sliced?, failing, unmeasured]

end

theorem Span.slicedEnd?_eq (source : String) : slicedEnd? source = some (endOf source) := by
  obtain ⟨blanks, split, _⟩ := Text.exists_blanks_after_trimEnd source.toList
  have parts : source.toList = Text.trimEnd source.toList ++ ([] ++ blanks) := split
  have measured := sliced?_append parts
  rw [List.append_nil] at measured
  simp [slicedEnd?, measured, endOf, Place.span]

/-- Each lexeme is sliced out of the text, and so is what its span is measured on. -/
def Scan.slicedFrom? (source : String) (offset : Nat) : List (List Char) → Option (List Token)
  | [] => return []
  | segment :: rest => do
    let behind := offset + bytes segment
    if Text.isLexeme segment then
      let lexeme ← Text.slice? source offset behind
      let span ← Span.sliced? source offset behind
      let later ← slicedFrom? source behind rest
      return { Token.ofSegment span.toPlace lexeme.toList with span } :: later
    else
      slicedFrom? source behind rest

def Scan.sliced? (source : String) : Option Scan := do
  let tokens ← slicedFrom? source 0 (Text.segments source.toList)
  let stop ← Span.slicedEnd? source
  return ⟨tokens, stop⟩

def tokenizeSliced? (source : String) : Option (Except Rejection Scan) := do
  let scan ← Scan.sliced? source
  return scan.checked

def parseSliced? (source : String) : Option (Except Rejection Command) := do
  match ← tokenizeSliced? source with
  | .ok scan => return scan.command
  | .error rejection => return .error rejection

namespace Scan

private theorem slicedFrom?_eq {source : String} {front : List Char} {segments : List (List Char)}
    (parts : source.toList = front ++ segments.flatten) :
    slicedFrom? source (bytes front) segments =
      some (tokensFrom (Place.start.after front) segments) := by
  induction segments generalizing front with
  | nil => rw [tokensFrom_nil, slicedFrom?, Option.pure_def]
  | cons segment rest ih =>
    have cut : source.toList = front ++ (segment ++ rest.flatten) := parts
    have behind : source.toList = (front ++ segment) ++ rest.flatten := by
      rw [cut, List.append_assoc]
    have later := ih behind
    have lexeme := Text.slice?_append cut
    have span := Span.sliced?_append cut
    rw [bytes_append] at later lexeme span
    rw [slicedFrom?, tokensFrom_cons, ← Place.after_append]
    split
    · simp only [lexeme, span, later, String.toList_ofList, Option.bind_eq_bind, Option.bind_some,
        Option.pure_def]
      rfl
    · simpa using later

theorem sliced?_eq (source : String) : sliced? source = some (ofText source) := by
  have whole : source.toList = [] ++ (Text.segments source.toList).flatten := by
    simp [Text.segments]
  have tokens : slicedFrom? source 0 (Text.segments source.toList) =
      some (tokensFrom .start (Text.segments source.toList)) := slicedFrom?_eq whole
  rw [sliced?, tokens, Span.slicedEnd?_eq]
  rfl

end Scan

theorem tokenizeSliced?_eq (source : String) :
    tokenizeSliced? source = some (tokenize source) := by
  rw [tokenizeSliced?, Scan.sliced?_eq]
  rfl

theorem parseSliced?_eq (source : String) : parseSliced? source = some (parse source) := by
  rw [parseSliced?, tokenizeSliced?_eq, parse]
  cases tokenize source <;> rfl

/-- Two offsets have no span exactly when one of them is past the end or inside a character, or when
    they are out of order. None of the slices that a scan takes ever fails, so every text is
    scanned, checked and read. -/
theorem every_reading_returns (source : String) :
    (∀ first last, Span.sliced? source first last = Span.ofOffsets? source first last ∧
      (Span.ofOffsets? source first last = none ↔
        source.utf8ByteSize < first ∨ source.utf8ByteSize < last ∨
          InsideCharacter source first ∨ InsideCharacter source last ∨ last < first)) ∧
    Span.slicedEnd? source = some (Span.endOf source) ∧
    Scan.sliced? source = some (Scan.ofText source) ∧
    tokenizeSliced? source = some (tokenize source) ∧
    parseSliced? source = some (parse source) := by
  refine ⟨fun first last => ⟨Span.sliced?_eq_ofOffsets?, ?_⟩, Span.slicedEnd?_eq source,
    Scan.sliced?_eq source, tokenizeSliced?_eq source, parseSliced?_eq source⟩
  rw [← not_iff_not, ← Ne, Option.ne_none_iff_exists', Span.exists_ofOffsets?_iff,
    Text.boundary_iff, Text.boundary_iff]
  simp only [not_or, Nat.not_lt]
  tauto

end Palette
