import Palette.Parse
import Palette.Text.Quoted

/-!
# The journal

What is noted while a text is read: every token with its kind, the totals of the scan, and how the
reading ended. A text whose tokens are known but not a command ends without a note.
-/

namespace Palette

/-- How detailed an entry of the journal is. -/
inductive Level where
  | trace
  | debug
deriving DecidableEq

def Level.name : Level → String
  | .trace => "TRACE"
  | .debug => "DEBUG"

structure Entry where
  level : Level
  text : String
deriving DecidableEq

/-- The entry on one row, after its level. -/
def Entry.row (entry : Entry) : String := entry.level.name ++ " " ++ entry.text

namespace Journal

open Palette.Text (quoted)

def ofToken (token : Token) : Entry :=
  ⟨.trace, "token " ++ quoted token.lexeme ++ " -> " ++ token.kind.name⟩

def ofScan (source : String) (scan : Scan) : Entry :=
  ⟨.debug, "scanned " ++ toString scan.tokens.length ++ " tokens (" ++
    toString scan.symbols.length ++ " symbols) from " ++ quoted source⟩

def ofOffender (token : Token) : Entry := ⟨.debug, "rejecting symbol " ++ quoted token.lexeme⟩

/-- An endpoint, field by field. -/
def endpoint (endpoint : Endpoint) : String :=
  "ColorEndpoint \x7b adjective: " ++ quoted endpoint.adjective ++ ", color: " ++
    quoted endpoint.color ++ " \x7d"

def ofCommand (command : Command) : Entry :=
  ⟨.debug, "parsed PaletteCommand \x7b cmd: " ++ quoted command.opening ++ ", number: " ++
    toString command.size ++ ", first: " ++ endpoint command.first ++ ", second: " ++
    endpoint command.second ++ " \x7d"⟩

/-- How the reading of a scan ended. -/
def ending (scan : Scan) : List Entry :=
  match scan.offender? with
  | some token => [ofOffender token]
  | none =>
    match scan.command with
    | .ok command => [ofCommand command]
    | .error _ => []

end Journal

/-- The journal of reading a text. -/
def journal (source : String) : List Entry :=
  let scan := Scan.ofText source
  scan.tokens.map Journal.ofToken ++ [Journal.ofScan source scan] ++ Journal.ending scan

end Palette
