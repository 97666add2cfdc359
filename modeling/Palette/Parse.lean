import Palette.Command.Json
import Palette.Diagnostic

/-!
# Scanning and reading

The scan of a text is refused at its first symbol that is not one of the marks. A command is then
read in one pass over the tokens. A reader leaves the cursor where it stopped, whether it rejects or
not.
-/

namespace Palette

/-- The tokens of a text and the span just past its end. -/
structure Scan where
  tokens : List Token
  stop : Span
deriving DecidableEq

namespace Scan

/-- The lexemes among segments that begin at a place and follow each other without a gap. -/
def tokensFrom (place : Place) (segments : List (List Char)) : List Token :=
  (((segments.scanl Place.after place).zip segments).filter fun (_, segment) =>
    Text.isLexeme segment).map fun (begin, segment) => Token.ofSegment begin segment

@[simp] theorem tokensFrom_nil (place : Place) : tokensFrom place [] = [] := by
  simp [tokensFrom]

@[simp] theorem tokensFrom_cons (place : Place) (segment : List Char)
    (rest : List (List Char)) :
    tokensFrom place (segment :: rest) =
      (if Text.isLexeme segment then [Token.ofSegment place segment] else []) ++
        tokensFrom (place.after segment) rest := by
  by_cases lexeme : Text.isLexeme segment <;> simp [tokensFrom, lexeme]

def ofText (source : String) : Scan :=
  ⟨tokensFrom .start (Text.segments source.toList), Span.endOf source⟩

/-- The tokens that are neither words of the vocabulary nor numbers. -/
def symbols (scan : Scan) : List Token := scan.tokens.filter (·.kind = .symbol)

/-- The first symbol that no command holds. -/
def offender? (scan : Scan) : Option Token :=
  scan.symbols.find? fun token => !Vocabulary.isMark token.lexeme

def rejection? (scan : Scan) : Option Rejection := scan.offender?.map Rejection.ofSymbol

/-- A scan whose symbols are all marks. -/
def checked (scan : Scan) : Except Rejection Scan :=
  match scan.rejection? with
  | some rejection => .error rejection
  | none => .ok scan

end Scan

/-- The scan of a text that holds no unknown symbol. -/
def tokenize (source : String) : Except Rejection Scan := (Scan.ofText source).checked

theorem tokenize_eq_ok_iff {source : String} {scan : Scan} :
    tokenize source = .ok scan ↔
      (Scan.ofText source).offender? = none ∧ scan = Scan.ofText source := by
  cases offends : (Scan.ofText source).offender? with
  | some token => simp [tokenize, Scan.checked, Scan.rejection?, offends]
  | none => simp [tokenize, Scan.checked, Scan.rejection?, offends, eq_comm]

theorem tokenize_eq_error_iff {source : String} {rejection : Rejection} :
    tokenize source = .error rejection ↔
      ∃ token, (Scan.ofText source).offender? = some token ∧ rejection = .ofSymbol token := by
  cases offends : (Scan.ofText source).offender? with
  | some token => simp [tokenize, Scan.checked, Scan.rejection?, offends, eq_comm]
  | none => simp [tokenize, Scan.checked, Scan.rejection?, offends]

/-- The tokens of a scan, the number of those behind, and the span just past the last of them. -/
structure Cursor where
  tokens : List Token
  position : Nat
  stop : Span
deriving DecidableEq

namespace Cursor

def ofScan (scan : Scan) : Cursor := ⟨scan.tokens, 0, scan.stop⟩

/-- The token under the cursor. -/
def peek (cursor : Cursor) : Option Token := cursor.tokens[cursor.position]?

/-- Whether no token is ahead. -/
def atEnd (cursor : Cursor) : Bool := cursor.tokens.length ≤ cursor.position

/-- The cursor one token further on, unless it is at the end. -/
def advance (cursor : Cursor) : Cursor :=
  if cursor.position < cursor.tokens.length then { cursor with position := cursor.position + 1 }
  else cursor

/-- The tokens from the cursor on. -/
def ahead (cursor : Cursor) : List Token := cursor.tokens.drop cursor.position

theorem peek_eq_head? (cursor : Cursor) : cursor.peek = cursor.ahead.head? := by
  rw [peek, ahead, List.head?_drop]

theorem atEnd_iff (cursor : Cursor) : cursor.atEnd = true ↔ cursor.ahead = [] := by
  simp [atEnd, ahead]

/-- Whether the token under the cursor is a symbol, spelled as given. -/
def checkSymbol (cursor : Cursor) (symbol : String) : Bool :=
  cursor.peek.any fun token => token.kind = .symbol && token.lexeme = symbol

theorem checkSymbol_iff {cursor : Cursor} {symbol : String} :
    cursor.checkSymbol symbol = true ↔
      ∃ token, cursor.peek = some token ∧ token.kind = .symbol ∧ token.lexeme = symbol := by
  simp [checkSymbol, Option.any_eq_true]

def found (cursor : Cursor) : Found :=
  match cursor.peek with
  | some token => .token token.lexeme
  | none => .endOfInput

def span (cursor : Cursor) : Span :=
  match cursor.peek with
  | some token => token.span
  | none => cursor.stop

/-- The rejection of what is under the cursor. -/
def rejection (cursor : Cursor) (expected : Expectation) : Rejection :=
  .ofFound expected cursor.found cursor.span

end Cursor

/-- A computation that consumes tokens and may reject what it finds. -/
abbrev Reader := EStateM Rejection Cursor

section
variable {ε σ α β : Type} {run : EStateM ε σ α} {further : α → EStateM ε σ β} {before after : σ}

theorem EStateM.bind_of_ok {value : α} (accepted : run before = .ok value after) :
    (run >>= further) before = further value after := by
  show EStateM.bind run further before = _
  simp only [EStateM.bind, accepted]

theorem EStateM.bind_of_error {cause : ε} (failed : run before = .error cause after) :
    (run >>= further) before = .error cause after := by
  show EStateM.bind run further before = _
  simp only [EStateM.bind, failed]

end

namespace Reader

/-- Consumes the token under the cursor. One without a value is rejected, and so is the end. -/
def token {α : Type} (expected : Expectation) (value? : Token → Option α) : Reader α :=
  fun cursor =>
    match cursor.peek.bind value? with
    | some value => .ok value cursor.advance
    | none => .error (cursor.rejection expected) cursor

/-- A token with a given uppercase. -/
def word (word : String) : Reader Token :=
  token (.word word) (Option.guard fun token => token.upper = word)

/-- A token whose uppercase is one of the words. -/
def oneOf (words : List String) : Reader Token :=
  token (.oneOf words) (Option.guard fun token => words.contains token.upper)

def ofKind (kind : Kind) (expected : Expectation) : Reader Token :=
  token expected (Option.guard fun token => token.kind = kind)

/-- The same reader, with advice for whoever wrote what it rejects. -/
def advised {α : Type} (advice : String) (reader : Reader α) : Reader α :=
  EStateM.adaptExcept (·.withHelp advice) reader

section
variable {α : Type} {reader : Reader α} {cursor next : Cursor} {advice : String}

theorem advised_of_ok {value : α} (accepted : reader cursor = .ok value next) :
    reader.advised advice cursor = .ok value next := by
  simp only [advised, EStateM.adaptExcept, accepted]

theorem advised_of_error {rejection : Rejection}
    (rejected : reader cursor = .error rejection next) :
    reader.advised advice cursor = .error (rejection.withHelp advice) next := by
  simp only [advised, EStateM.adaptExcept, rejected]

end

/-- A symbol that may be left out, and whether it was there. -/
def symbol (symbol : String) : Reader Bool := fun cursor =>
  if cursor.checkSymbol symbol then .ok true cursor.advance else .ok false cursor

def finish : Reader Unit := fun cursor =>
  if cursor.atEnd then .ok () cursor else .error (cursor.rejection .endOfInput) cursor

end Reader

/-- The number that a token stands for as the size of a palette: a digit from 2 to 9. -/
def Token.size? (token : Token) : Option Nat :=
  match token.kind, token.lexeme.toList with
  | .number, [digit] =>
    if '2' ≤ digit ∧ digit ≤ '9' then some (digit.toNat - '0'.toNat) else none
  | _, _ => none

namespace Reader

def size : Reader Nat :=
  (token .size Token.size?).advised "palettes hold between 2 and 9 colors"

/-- An adjective and the color it qualifies. -/
def endpoint : Reader Endpoint := do
  let adjective ← (ofKind .adjective .adjective).advised
    ("qualify the color with " ++ " or ".intercalate Vocabulary.adjectives)
  let color ← (ofKind .color .color).advised
    ("known colors: " ++ ", ".intercalate Vocabulary.colors)
  return ⟨adjective.lexeme, color.lexeme⟩

def command : Reader Command := do
  let verb ← oneOf ["GENERATE", "MAKE"]
  let palette ← word "PALETTE"
  let size ← size
  let _ ← oneOf ["COLOR", "COLORS"]
  let _ ← word "FROM"
  let _ ← symbol "("
  let first ← endpoint
  let _ ← oneOf [":", "TO"]
  let second ← endpoint
  let _ ← symbol ")"
  finish
  return ⟨verb.lexeme ++ " " ++ palette.lexeme, size, first, second⟩

end Reader

/-- The command that the tokens of a scan are. -/
def Scan.command (scan : Scan) : Except Rejection Command :=
  match Reader.command (Cursor.ofScan scan) with
  | .ok command _ => .ok command
  | .error rejection _ => .error rejection

/-- The command that a text is. -/
def parse (source : String) : Except Rejection Command := do
  let scan ← tokenize source
  scan.command

end Palette
