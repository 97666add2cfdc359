import Palette.Parse

/-!
# Reading step by step

The moves and questions that a cursor answers, one at a time. After a step that rejects its token
the cursor can go on from where it is.
-/

namespace Palette

/-- A move or a question. -/
inductive Step where
  | advance
  | peek
  | found
  | reject (expected : Expectation)
  | checkSymbol (symbol : String)
  | symbol (symbol : String)
  | word (word : String)
  | oneOf (words : List String)
  | ofKind (kind : Kind) (expected : Expectation)
  | command
deriving DecidableEq

inductive Answer where
  | done
  | peeked (token : Option Token)
  | found (found : Found)
  | rejected (rejection : Rejection)
  | flag (value : Bool)
  | token (token : Token)
  | command (command : Command)
deriving DecidableEq

/-- The outcome of a reader as an answer. -/
def Reader.answer {α : Type} (reader : Reader α) (accepted : α → Answer) (cursor : Cursor) :
    Answer × Cursor :=
  match reader cursor with
  | .ok value next => (accepted value, next)
  | .error rejection next => (.rejected rejection, next)

/-- What a step answers at a cursor, and where it leaves the cursor. -/
def Step.run (cursor : Cursor) : Step → Answer × Cursor
  | .advance => (.done, cursor.advance)
  | .peek => (.peeked cursor.peek, cursor)
  | .found => (.found cursor.found, cursor)
  | .reject expected => (.rejected (cursor.rejection expected), cursor)
  | .checkSymbol s => (.flag (cursor.checkSymbol s), cursor)
  | .symbol s => (Reader.symbol s).answer .flag cursor
  | .word w => (Reader.word w).answer .token cursor
  | .oneOf words => (Reader.oneOf words).answer .token cursor
  | .ofKind kind expected => (Reader.ofKind kind expected).answer .token cursor
  | .command => Reader.command.answer .command cursor

/-- The answers of steps run one after the other, each with the cursor after it. -/
def Step.trace (cursor : Cursor) : List Step → List (Answer × Cursor)
  | [] => []
  | step :: rest => step.run cursor :: trace (step.run cursor).2 rest

end Palette
