import Palette.Token

/-!
# Rejections and diagnostics

A rejection is shown with the line it is on, carets under the stretch it is about, and the advice if
there is any. Blanks and carets are laid out in strips of bounded length, so a span of any numbers
has a diagnostic exactly when its strips fit (`Rejection.render?_eq_some_iff`).
-/

namespace Palette

/-- What stands where the grammar wants something else. -/
inductive Found where
  | token (lexeme : String)
  | endOfInput
deriving DecidableEq

def Found.text : Found → String
  | .token lexeme => "'" ++ lexeme ++ "'"
  | .endOfInput => "end of input"

/-- What the grammar wants at a point. -/
inductive Expectation where
  | word (word : String)
  | oneOf (words : List String)
  | size
  | adjective
  | color
  | endOfInput
  | phrase (text : String)
deriving DecidableEq

namespace Expectation

def text : Expectation → String
  | .word w => w
  | .oneOf words => "one of " ++ ", ".intercalate words
  | .size => "a number from 2 to 9"
  | .adjective => "an adjective"
  | .color => "a color"
  | .endOfInput => "end of input"
  | .phrase t => t

end Expectation

/-- The two reasons to refuse a command. -/
inductive Cause where
  | unknownSymbol (lexeme : String)
  | unexpected (expected : Expectation) (found : Found)
deriving DecidableEq

namespace Cause

/-- The code of the reason, which stays the same when the wording changes. -/
def code : Cause → String
  | .unknownSymbol _ => "E_LEXICAL"
  | .unexpected _ _ => "E_SYNTAX"

def message : Cause → String
  | .unknownSymbol lexeme => "\"" ++ lexeme ++ "\" is not defined in the coolor language"
  | .unexpected expected found =>
    "syntax error: expected " ++ expected.text ++ ", found " ++ found.text

theorem message_unknownSymbol (lexeme : String) :
    (unknownSymbol lexeme).message =
      "\"" ++ lexeme ++ "\" is not defined in the coolor language" := rfl

theorem message_unexpected (expected : Expectation) (found : Found) :
    (unexpected expected found).message =
      "syntax error: expected " ++ expected.text ++ ", found " ++ found.text := rfl

end Cause

/-- A reason to refuse a command, the stretch of text it is about, and perhaps advice. -/
structure Rejection where
  cause : Cause
  span : Span
  help : Option String
deriving DecidableEq

namespace Rejection

/-- The rejection of what was found instead of what was expected. -/
def ofFound (expected : Expectation) (found : Found) (span : Span) : Rejection :=
  ⟨.unexpected expected found, span, none⟩

def withHelp (rejection : Rejection) (help : String) : Rejection :=
  { rejection with help := some help }

/-- The rejection of a symbol that no command holds. -/
def ofSymbol (token : Token) : Rejection :=
  withHelp ⟨.unknownSymbol token.lexeme, token.span, none⟩
    "only words from the vocabulary, digits, '(', ')' and ':' may appear"

end Rejection

namespace Diagnostic

/-- The number of a line, padded on the left to two characters. -/
def lineNumber (line : Nat) : String :=
  if line < 10 then " " ++ toString line else toString line

/-- As many of one character as a number says. -/
def strip (length : Nat) (c : Char) : String := String.ofList (List.replicate length c)

/-- The length of the longest strip, one less than the 63rd power of two. -/
def maxStrip : Nat := 0x7fffffffffffffff

/-- Whether the blanks before a span and the carets under it can be laid out. -/
def fits (span : Span) : Bool := span.column ≤ maxStrip && span.length ≤ maxStrip

/-- The line a span is on, after its number. -/
def sourceRow (source : String) (span : Span) : String :=
  lineNumber span.line ++ " | " ++ String.ofList (Text.lineAt source.toList span.line)

/-- Carets for the characters of a span, one of them even when it has none. -/
def caretRow (span : Span) : String :=
  "   | " ++ strip span.column ' ' ++ strip (max span.length 1) '^'

def rows (origin source : String) (rejection : Rejection) : List String :=
  ["error[" ++ rejection.cause.code ++ "]: " ++ rejection.cause.message,
   "  --> " ++ origin ++ ":" ++ toString rejection.span.line ++ ":" ++
     toString (rejection.span.column + 1),
   "   |",
   sourceRow source rejection.span,
   caretRow rejection.span] ++
    rejection.help.toList.map ("help: " ++ ·)

end Diagnostic

namespace Rejection

/-- The rows of the diagnostic of a rejection in one text. The origin is the name of the source. -/
def render (rejection : Rejection) (origin source : String) : String :=
  String.ofList ((Diagnostic.rows origin source rejection).flatMap fun row => row.toList ++ ['\n'])

/-- The diagnostic of a rejection, if its strips fit. -/
def render? (rejection : Rejection) (origin source : String) : Option String :=
  if Diagnostic.fits rejection.span then some (rejection.render origin source) else none

theorem render?_eq_some_iff {rejection : Rejection} {origin source text : String} :
    rejection.render? origin source = some text ↔
      (rejection.span.column ≤ Diagnostic.maxStrip ∧
        rejection.span.length ≤ Diagnostic.maxStrip) ∧
        rejection.render origin source = text := by
  simp [render?, Diagnostic.fits]

end Rejection

end Palette
