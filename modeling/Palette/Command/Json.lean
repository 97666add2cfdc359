import Palette.Text.Uppercase

/-!
# Palette commands

A palette command asks for a number of colors between two endpoints, and keeps the words of its text
as they were typed. It is written in four rows, or as a JSON object with one member to a row.
-/

namespace Palette

/-- One end of a palette: a shade and the color that it qualifies. -/
structure Endpoint where
  adjective : String
  color : String
deriving DecidableEq

namespace Endpoint

/-- Whether two endpoints differ at most in the case of their letters. -/
def agrees (one other : Endpoint) : Bool :=
  Text.upper one.adjective = Text.upper other.adjective &&
    Text.upper one.color = Text.upper other.color

def text (endpoint : Endpoint) : String := endpoint.adjective ++ " " ++ endpoint.color

end Endpoint

/-- A request for a palette: its first two words, the number of colors, and the two endpoints. -/
structure Command where
  opening : String
  size : Nat
  first : Endpoint
  second : Endpoint
deriving DecidableEq

/-- The command in four rows, a field in each. -/
def Command.text (command : Command) : String :=
  "cmd: " ++ command.opening ++ "\nnumber: " ++ toString command.size ++
    "\nfirst color: " ++ command.first.text ++ "\nsecond color: " ++ command.second.text

namespace Json

/-- What stands for a character in a JSON string. -/
def escape (c : Char) : List Char :=
  match c with
  | '"' => ['\\', '"']
  | '\\' => ['\\', '\\']
  | '\x08' => ['\\', 'b']
  | '\x09' => ['\\', 't']
  | '\x0a' => ['\\', 'n']
  | '\x0c' => ['\\', 'f']
  | '\x0d' => ['\\', 'r']
  | c =>
    if c.toNat < 0x20 then
      ['\\', 'u', '0', '0', Nat.digitChar (c.toNat / 16), Nat.digitChar (c.toNat % 16)]
    else [c]

def string (text : String) : List Char := '"' :: text.toList.flatMap escape ++ ['"']

/-- A member of an object, on a row of its own. -/
def member (key : String) (value : List Char) : List Char :=
  "\n  ".toList ++ string key ++ ": ".toList ++ value

end Json

/-- The members of the object, the number without quotes. -/
def Command.members (command : Command) : List (String × List Char) :=
  [("cmd", Json.string command.opening),
   ("number", (toString command.size).toList),
   ("first color", Json.string command.first.text),
   ("second color", Json.string command.second.text)]

def Command.json (command : Command) : String :=
  String.ofList ('\x7b' :: List.intercalate [','] (command.members.map fun (key, value) =>
    Json.member key value) ++ ['\n', '\x7d'])

end Palette
