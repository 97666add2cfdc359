import Palette.Text.Cuts
import Palette.Text.Uppercase

/-!
# Tokens

A token is a lexeme at its place in a text, with its kind. Lines are counted from 1 and columns from
0, in characters; offsets count the bytes of the UTF-8 form.
-/

namespace Palette.Vocabulary

/-- The words with a fixed place in a command. The colon stands between the two endpoints. -/
def keywords : List String :=
  ["MAKE", "GENERATE", "PALETTE", "COLOR", "COLORS", "FROM", "TO", ":"]

def colors : List String := ["RED", "GREEN", "BLUE", "YELLOW", "BLACK", "BROWN", "ORANGE"]

/-- The shades, one of which qualifies every color. -/
def adjectives : List String := ["LIGHT", "DARK"]

/-- The marks that may stand alone. -/
def marks : List String := ["(", ")", ":"]

def isKeyword (word : String) : Bool := keywords.contains word

def isColor (word : String) : Bool := colors.contains word

def isAdjective (word : String) : Bool := adjectives.contains word

def isMark (lexeme : String) : Bool := marks.contains lexeme

end Palette.Vocabulary

namespace Palette

/-- A line and a column. -/
structure Place where
  line : Nat
  column : Nat
deriving DecidableEq

namespace Place

def start : Place := ⟨1, 0⟩

/-- The place after one character: a line feed ends its line. -/
def next (place : Place) (c : Char) : Place :=
  if c = '\n' then ⟨place.line + 1, 0⟩ else ⟨place.line, place.column + 1⟩

/-- The place after a text that begins at a place. -/
def after (place : Place) (text : List Char) : Place := text.foldl next place

@[simp] theorem after_nil (place : Place) : place.after [] = place := rfl

@[simp] theorem after_cons (place : Place) (c : Char) (text : List Char) :
    place.after (c :: text) = (place.next c).after text := rfl

@[simp] theorem after_append (place : Place) (front back : List Char) :
    place.after (front ++ back) = (place.after front).after back := by
  simp [after]

end Place

/-- A number of characters from a place on. -/
structure Span extends Place where
  length : Nat
deriving DecidableEq

def Place.span (place : Place) (length : Nat) : Span := { place with length }

/-- The offsets between the characters of a text, with both of its ends. -/
def boundaries (text : List Char) : List Nat :=
  text.scanl (fun offset c => offset + c.utf8Size) 0

/-- There is none when an offset is past the end or inside a character, or when the first offset is
    past the second. -/
def Span.ofOffsets? (source : String) (first last : Nat) : Option Span :=
  let text := source.toList
  match (boundaries text).idxOf? first, (boundaries text).idxOf? last with
  | some before, some through =>
    if before ≤ through then
      some ((Place.start.after (text.take before)).span (through - before))
    else none
  | _, _ => none

/-- The span just past the last character that is not blank, one character long. -/
def Span.endOf (source : String) : Span := (Place.start.after (Text.trimEnd source.toList)).span 1

/-- What a lexeme is to the grammar. -/
inductive Kind where
  | keyword
  | color
  | adjective
  | number
  | symbol
deriving DecidableEq

namespace Kind

def name : Kind → String
  | .keyword => "keyword"
  | .color => "color"
  | .adjective => "adjective"
  | .number => "number"
  | .symbol => "symbol"

/-- The kind of any text: the first that fits, in the order keyword, color, adjective, number. -/
def ofLexeme (lexeme : String) : Kind :=
  let word := Text.upper lexeme
  if Vocabulary.isKeyword word then .keyword
  else if Vocabulary.isColor word then .color
  else if Vocabulary.isAdjective word then .adjective
  else if Text.isNumeral lexeme.toList then .number
  else .symbol

end Kind

/-- A lexeme, its kind and where it stands. -/
structure Token where
  kind : Kind
  lexeme : String
  span : Span
deriving DecidableEq

namespace Token

def upper (token : Token) : String := Text.upper token.lexeme

/-- The token of the characters that begin at a place. A symbol is kept without blanks around it. -/
def ofSegment (place : Place) (segment : List Char) : Token :=
  let kind := Kind.ofLexeme (String.ofList segment)
  let lexeme := if kind = .symbol then Text.trim segment else segment
  ⟨kind, String.ofList lexeme, place.span segment.length⟩

end Token

end Palette
