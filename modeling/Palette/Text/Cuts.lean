import Palette.Text.Classes

/-!
# Cutting a text

A text falls into segments, the longest runs of word characters and every other character alone. It
falls into rows at its line feeds, and into the lines that are shown: there a carriage return before
a line feed belongs to the line's end, and a last piece is a line only when something stands in it.
-/

namespace Palette.Text

/-- The code points that separate words: those with the White_Space property of Unicode. -/
def separatorRanges : Ranges :=
  [(0x9, 0xd), (0x20, 0x20), (0x85, 0x85), (0xa0, 0xa0), (0x1680, 0x1680), (0x2000, 0x200a),
   (0x2028, 0x2029), (0x202f, 0x202f), (0x205f, 0x205f), (0x3000, 0x3000)]

def isSeparator (c : Char) : Bool := separatorRanges.covers c.toNat

/-- The blanks past ASCII. -/
def wideBlankRanges : Ranges :=
  [(0x85, 0x85), (0xa0, 0xa0), (0x1680, 0x1680), (0x2000, 0x200a), (0x2028, 0x2029),
   (0x202f, 0x202f), (0x205f, 0x205f), (0x3000, 0x3000)]

/-- Whether a character at the end of a text is cut off: the space, the controls from the tab to the
    carriage return, and the blanks past ASCII. -/
def isBlank (c : Char) : Bool :=
  c.toNat = 0x20 || 0x9 ≤ c.toNat && c.toNat ≤ 0xd ||
    0x7f < c.toNat && wideBlankRanges.covers c.toNat

theorem separatorRanges_ascend : separatorRanges.ascendsFrom 0 = true := by decide

theorem wideBlankRanges_ascend : wideBlankRanges.ascendsFrom 0 = true := by decide

/-- What separates words is what is cut off at the end of a text. -/
@[simp] theorem isSeparator_eq_isBlank (c : Char) : isSeparator c = isBlank c := by
  rw [Bool.eq_iff_iff, isSeparator, Ranges.covers_iff separatorRanges_ascend]
  simp only [isBlank, Bool.or_eq_true, Bool.and_eq_true, decide_eq_true_iff,
    Ranges.covers_iff wideBlankRanges_ascend]
  simp only [separatorRanges, wideBlankRanges, List.mem_cons, List.not_mem_nil, or_false,
    exists_eq_or_imp, exists_eq_left]
  omega

/-- A text without the blanks at its end. -/
def trimEnd (text : List Char) : List Char := (text.reverse.dropWhile isBlank).reverse

theorem exists_blanks_after_trimEnd (text : List Char) :
    ∃ blanks, text = trimEnd text ++ blanks ∧ ∀ c ∈ blanks, isBlank c = true := by
  refine ⟨(text.reverse.takeWhile isBlank).reverse, ?_, ?_⟩
  · rw [trimEnd, ← List.reverse_append, List.takeWhile_append_dropWhile, List.reverse_reverse]
  · intro c member
    exact List.all_eq_true.mp List.all_takeWhile c (List.mem_reverse.mp member)

theorem not_isBlank_of_getLast?_trimEnd {text : List Char} {c : Char}
    (last : (trimEnd text).getLast? = some c) : isBlank c = false := by
  rw [trimEnd, List.getLast?_reverse] at last
  simpa [last] using List.head?_dropWhile_not isBlank text.reverse

theorem trimEnd_eq_self {text : List Char} (visible : ∀ c ∈ text.getLast?, isBlank c = false) :
    trimEnd text = text := by
  rw [← List.head?_reverse] at visible
  rw [trimEnd, List.reverse_eq_iff]
  cases reversed : text.reverse with
  | nil => rfl
  | cons c rest => simp [visible c (by simp [reversed])]

theorem trimEnd_append_of_visible {front back : List Char}
    (visible : ∃ c ∈ back, isBlank c = false) :
    trimEnd (front ++ back) = front ++ trimEnd back := by
  obtain ⟨c, member, visible⟩ := visible
  have kept : ¬ (back.reverse.dropWhile isBlank).isEmpty = true := by
    intro empty
    have whole := List.takeWhile_append_dropWhile (p := isBlank) (l := back.reverse)
    rw [List.isEmpty_iff.mp empty, List.append_nil] at whole
    have blanks := List.all_takeWhile (p := isBlank) (l := back.reverse)
    rw [whole] at blanks
    simp [List.all_eq_true.mp blanks c (List.mem_reverse.mpr member)] at visible
  rw [trimEnd, List.reverse_append, List.dropWhile_append, if_neg kept, List.reverse_append,
    List.reverse_reverse, trimEnd]

theorem trimEnd_append_of_blanks {front back : List Char}
    (blanks : ∀ c ∈ back, isBlank c = true) : trimEnd (front ++ back) = trimEnd front := by
  rw [trimEnd, List.reverse_append, List.dropWhile_append_of_pos, trimEnd]
  exact fun c member => blanks c (List.mem_reverse.mp member)

def trim (text : List Char) : List Char := trimEnd (text.dropWhile isBlank)

theorem trim_eq_self {text : List Char} (visible : ∀ c ∈ text, isBlank c = false) :
    trim text = text := by
  have keep : ∀ part : List Char, (∀ c ∈ part, isBlank c = false) →
      part.dropWhile isBlank = part := by
    intro part visible
    cases part with
    | nil => rfl
    | cons c rest => simp [visible c]
  rw [trim, keep text visible, trimEnd, keep text.reverse, List.reverse_reverse]
  intro c member
  exact visible c (List.mem_reverse.mp member)

theorem not_isBlank_of_isWord {c : Char} (word : isWord c = true) : isBlank c = false := by
  rw [← isSeparator_eq_isBlank]
  exact Ranges.not_covers_of_apart wordRanges_ascend separatorRanges_ascend (by decide +kernel) word

/-- The segments of a text, which put together are the text. -/
def segments (text : List Char) : List (List Char) :=
  text.splitBy fun left right => isWord left && isWord right

/-- Whether a segment is more than a separator. -/
def isLexeme (segment : List Char) : Bool := !segment.all isSeparator

/-- The lexemes of a text, from its first to its last. -/
def lexemes (text : List Char) : List (List Char) := (segments text).filter isLexeme

/-- The pieces of a text between its line feeds. -/
def rows (text : List Char) : List (List Char) := text.splitOn '\n'

/-- A row without the carriage return at its end. -/
def dropReturn (row : List Char) : List Char :=
  if row.getLast? = some '\r' then row.dropLast else row

/-- The lines of a text, without what ends them. -/
def lines (text : List Char) : List (List Char) :=
  (rows text).dropLast.map dropReturn ++ (rows text).getLast?.toList.filter (!·.isEmpty)

/-- Lines are counted from 1. Number 0 is the first line too, and none is shown past the last. -/
def lineAt (text : List Char) (number : Nat) : List Char := (lines text)[number - 1]?.getD []

end Palette.Text
