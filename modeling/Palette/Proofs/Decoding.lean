import Mathlib
import Palette.Command.Json

/-!
# Commands read back from JSON

Reading takes a value off the front of a text and gives what stands behind it. No text can end its
string early (`Json.readUnits_escape`), and the JSON of a command is read back member by member
(`json_stands_for_record`).
-/

namespace Palette

namespace Json

/-- What a JSON text stands for. The members of an object keep their order. -/
inductive Value where
  | null
  | bool (value : Bool)
  | number (value : Rat)
  | string (text : String)
  | array (items : List Value)
  | object (members : List (String × Value))

/-- A text from its first character on that is no blank. -/
def skipBlanks (text : List Char) : List Char :=
  text.dropWhile fun c => c ∈ [' ', '\t', '\n', '\r']

def hexDigit? (c : Char) : Option Nat :=
  if c.isDigit then some (c.toNat - '0'.toNat)
  else if 'a' ≤ c ∧ c ≤ 'f' then some (c.toNat - 'a'.toNat + 10)
  else if 'A' ≤ c ∧ c ≤ 'F' then some (c.toNat - 'A'.toNat + 10)
  else none

def hexNumber? (digits : List Char) : Option Nat :=
  digits.foldlM (fun number digit => (hexDigit? digit).map (16 * number + ·)) 0

/-- The character that a letter behind a backslash stands for. -/
def shortEscape? : Char → Option Char
  | '"' => some '"'
  | '\\' => some '\\'
  | '/' => some '/'
  | 'b' => some '\x08'
  | 'f' => some '\x0c'
  | 'n' => some '\n'
  | 'r' => some '\r'
  | 't' => some '\t'
  | _ => none

/-- The code units up to the closing quote, with what stands behind it. An escape with a number is
    one unit, and so is every character that stands for itself. -/
def readUnits : List Char → Option (List Nat × List Char)
  | [] => none
  | '"' :: rest => some ([], rest)
  | '\\' :: 'u' :: a :: b :: c :: d :: rest => do
    let unit ← hexNumber? [a, b, c, d]
    let (later, rest) ← readUnits rest
    return (unit :: later, rest)
  | '\\' :: letter :: rest => do
    let c ← shortEscape? letter
    let (later, rest) ← readUnits rest
    return (c.toNat :: later, rest)
  | c :: rest => do
    guard (0x20 ≤ c.toNat)
    let (later, rest) ← readUnits rest
    return (c.toNat :: later, rest)

/-- Whether a code unit begins a pair that stands for one character. -/
def isHigh (unit : Nat) : Bool := 0xd800 ≤ unit && unit ≤ 0xdbff

/-- Whether a code unit ends a pair that stands for one character. -/
def isLow (unit : Nat) : Bool := 0xdc00 ≤ unit && unit ≤ 0xdfff

/-- The characters of code units, unless half of a pair is without the other. -/
def ofUnits? : List Nat → Option (List Char)
  | [] => some []
  | unit :: rest =>
    if isHigh unit then
      match rest with
      | low :: rest => do
        guard (isLow low)
        let later ← ofUnits? rest
        return Char.ofNat (0x10000 + (unit - 0xd800) * 0x400 + (low - 0xdc00)) :: later
      | [] => none
    else do
      guard !isLow unit
      let later ← ofUnits? rest
      return Char.ofNat unit :: later

def readString (text : List Char) : Option (String × List Char) := do
  let (units, rest) ← readUnits text
  let chars ← ofUnits? units
  return (String.ofList chars, rest)

/-- One digit or more. -/
def readDigits (text : List Char) : Option (List Char × List Char) := do
  let digits := text.takeWhile Char.isDigit
  guard !digits.isEmpty
  return (digits, text.dropWhile Char.isDigit)

/-- The digits of a whole number, which begin with a zero only when nothing follows it. -/
def readWhole (text : List Char) : Option (List Char × List Char) := do
  let (digits, rest) ← readDigits text
  guard (digits = ['0'] ∨ digits.head? ≠ some '0')
  return (digits, rest)

/-- The digits behind a point, if there is one. -/
def readFraction : List Char → Option (List Char × List Char)
  | '.' :: rest => readDigits rest
  | rest => some ([], rest)

/-- A number behind the letter for a power of ten, if there is one. -/
def readExponent (text : List Char) : Option (Int × List Char) :=
  match text with
  | 'e' :: rest | 'E' :: rest =>
    let (sign, rest) := match rest with
      | '-' :: rest => (-1, rest)
      | '+' :: rest => (1, rest)
      | rest => (1, rest)
    (readDigits rest).map fun (digits, rest) => (sign * Nat.ofDigitChars 10 digits 0, rest)
  | rest => some (0, rest)

def decimal (significand exponent : Int) : Rat :=
  mkRat (significand * Nat.pow 10 exponent.toNat) (Nat.pow 10 (-exponent).toNat)

def readNumber (text : List Char) : Option (Rat × List Char) := do
  let (sign, text) : Int × List Char := match text with
    | '-' :: rest => (-1, rest)
    | rest => (1, rest)
  let (whole, text) ← readWhole text
  let (fraction, text) ← readFraction text
  let (exponent, text) ← readExponent text
  return (decimal (sign * Nat.ofDigitChars 10 (whole ++ fraction) 0) (exponent - fraction.length),
    text)

mutual

/-- The budget is for the values and marks that the value may be made of. -/
def readValue : Nat → List Char → Option (Value × List Char)
  | 0, _ => none
  | budget + 1, text =>
    match text with
    | '"' :: rest => (readString rest).map fun (text, rest) => (.string text, rest)
    | '[' :: rest =>
      match skipBlanks rest with
      | ']' :: rest => some (.array [], rest)
      | rest => (readItems budget rest).map fun (items, rest) => (.array items, rest)
    | '\x7b' :: rest =>
      match skipBlanks rest with
      | '\x7d' :: rest => some (.object [], rest)
      | rest => (readMembers budget rest).map fun (members, rest) => (.object members, rest)
    | 'n' :: 'u' :: 'l' :: 'l' :: rest => some (.null, rest)
    | 't' :: 'r' :: 'u' :: 'e' :: rest => some (.bool true, rest)
    | 'f' :: 'a' :: 'l' :: 's' :: 'e' :: rest => some (.bool false, rest)
    | text => (readNumber text).map fun (number, rest) => (.number number, rest)

def readItems : Nat → List Char → Option (List Value × List Char)
  | 0, _ => none
  | budget + 1, text => do
    let (item, rest) ← readValue budget text
    match skipBlanks rest with
    | ']' :: rest => return ([item], rest)
    | ',' :: rest =>
      let (later, rest) ← readItems budget (skipBlanks rest)
      return (item :: later, rest)
    | _ => none

/-- The members of an object up to its closing brace. -/
def readMembers : Nat → List Char → Option (List (String × Value) × List Char)
  | 0, _ => none
  | budget + 1, text =>
    match text with
    | '"' :: rest => do
      let (key, rest) ← readString rest
      match skipBlanks rest with
      | ':' :: rest =>
        let (value, rest) ← readValue budget (skipBlanks rest)
        match skipBlanks rest with
        | '\x7d' :: rest => return ([(key, value)], rest)
        | ',' :: rest =>
          let (later, rest) ← readMembers budget (skipBlanks rest)
          return ((key, value) :: later, rest)
        | _ => none
      | _ => none
    | _ => none

end

/-- The value of a whole text. Twice its length is budget enough, as one of two steps that spend it
    reads a character at least. -/
def decode (text : String) : Option Value := do
  let (value, rest) ← readValue (2 * text.length) (skipBlanks text.toList)
  guard (skipBlanks rest).isEmpty
  return value

/-- Two escapes may make up one character, and escapes may spell what needs none. -/
example : decode " [\"\\ud83d\\uDE00\\u0041\\/\", -12.50E+1, \x7b\x7d] " =
    some (.array [.string "😀A/", .number (-125), .object []]) := by
  cbv

/-- Neither half of a pair nor a bare line feed in a string nor a needless zero nor a comma behind
    the last item is read. -/
example : [decode "\"\\ud83d\"", decode "\"\n\"", decode "01", decode "[1,]"] =
    [none, none, none, none] := by
  cbv

private theorem hexNumber?_control {code : Nat} (control : code < 0x20) :
    hexNumber? ['0', '0', Nat.digitChar (code / 16), Nat.digitChar (code % 16)] = some code := by
  have every : ∀ code < 0x20,
      hexNumber? ['0', '0', Nat.digitChar (code / 16), Nat.digitChar (code % 16)] = some code := by
    decide
  exact every code control

/-- What stands for a character in a string is read as that character, whatever follows. -/
theorem readUnits_escape (c : Char) (rest : List Char) :
    readUnits (escape c ++ rest) =
      (readUnits rest).map fun (later, rest) => (c.toNat :: later, rest) := by
  rw [Option.map_eq_bind]
  fun_cases escape c with
  | case1 | case2 | case3 | case4 | case5 | case6 | case7 => rfl
  | case8 _ _ _ _ _ _ _ _ control =>
    simp only [List.cons_append, List.nil_append, readUnits, hexNumber?_control control,
      Option.bind_eq_bind, Option.bind_some]
    rfl
  | case9 _ quote backslash _ _ _ _ _ printed =>
    have plain : readUnits (c :: rest) = do
        guard (0x20 ≤ c.toNat)
        let (later, rest) ← readUnits rest
        return (c.toNat :: later, rest) := by
      rw [readUnits]
      all_goals simp_all
    rw [List.singleton_append, plain]
    rw [guard, if_pos (Nat.not_lt.mp printed)]
    rfl

private theorem not_isHigh_toNat (c : Char) : isHigh c.toNat = false ∧ isLow c.toNat = false := by
  have valid : c.toNat.isValidChar := c.valid
  simp only [isHigh, isLow, Nat.isValidChar] at *
  constructor
  all_goals simp
  all_goals omega

theorem ofUnits?_map_toNat (text : List Char) : ofUnits? (text.map Char.toNat) = some text := by
  induction text with
  | nil => rfl
  | cons c rest ih =>
    obtain ⟨notHigh, notLow⟩ := not_isHigh_toNat c
    rw [List.map_cons, ofUnits?.eq_def]
    simp [notHigh, notLow, ih, guard]

private theorem readUnits_flatMap_escape (text rest : List Char) :
    readUnits (text.flatMap escape ++ '"' :: rest) = some (text.map Char.toNat, rest) := by
  induction text with
  | nil => rfl
  | cons c text ih =>
    rw [List.flatMap_cons, List.append_assoc, readUnits_escape, ih]
    rfl

private theorem readString_written (text : String) (rest : List Char) :
    readString (text.toList.flatMap escape ++ '"' :: rest) = some (text, rest) := by
  rw [readString, readUnits_flatMap_escape]
  simp [ofUnits?_map_toNat]

/-- What may stand behind a value in a written object. -/
inductive Ends : List Char → Prop
  | comma (rest : List Char) : Ends (',' :: rest)
  | feed (rest : List Char) : Ends ('\n' :: rest)

private theorem Ends.exists_mark {rest : List Char} (ends : Ends rest) :
    ∃ mark more, rest = mark :: more ∧ mark.isDigit = false := by
  cases ends with
  | comma more => exact ⟨',', more, rfl, rfl⟩
  | feed more => exact ⟨'\n', more, rfl, rfl⟩

private theorem head?_toDigits {number : Nat} (positive : 0 < number) :
    (Nat.toDigits 10 number).head? ≠ some '0' := by
  induction number using Nat.strongRecOn with
  | ind number ih =>
    rw [Nat.toDigits_eq_if (by decide)]
    split
    · next small =>
      have every : ∀ digit < 10, 0 < digit → Nat.digitChar digit ≠ '0' := by decide
      simpa using every number small positive
    · next large =>
      rw [List.head?_append_of_ne_nil _ Nat.toDigits_ne_nil]
      exact ih (number / 10) (by omega) (by omega)

private theorem readDigits_toDigits (number : Nat) {rest : List Char} (ends : Ends rest) :
    readDigits (Nat.toDigits 10 number ++ rest) = some (Nat.toDigits 10 number, rest) := by
  have digits : ∀ c ∈ Nat.toDigits 10 number, c.isDigit = true :=
    fun _ => Nat.isDigit_of_mem_toDigits (by decide) (by decide)
  obtain ⟨mark, more, rfl, foreign⟩ := ends.exists_mark
  have taken : (Nat.toDigits 10 number ++ mark :: more).takeWhile Char.isDigit =
      Nat.toDigits 10 number := by
    rw [List.takeWhile_append_of_pos digits]
    simp [foreign]
  have left : (Nat.toDigits 10 number ++ mark :: more).dropWhile Char.isDigit = mark :: more := by
    rw [List.dropWhile_append_of_pos digits]
    simp [foreign]
  simp [readDigits, taken, left, guard, Nat.toDigits_ne_nil]

private theorem readWhole_toDigits (number : Nat) {rest : List Char} (ends : Ends rest) :
    readWhole (Nat.toDigits 10 number ++ rest) = some (Nat.toDigits 10 number, rest) := by
  have proper : Nat.toDigits 10 number = ['0'] ∨ (Nat.toDigits 10 number).head? ≠ some '0' := by
    rcases Nat.eq_zero_or_pos number with rfl | positive
    · exact .inl rfl
    · exact .inr (head?_toDigits positive)
  rw [readWhole, readDigits_toDigits number ends]
  simp only [Option.bind_eq_bind, Option.bind_some, guard, if_pos proper]
  rfl

private theorem readFraction_of_ends {rest : List Char} (ends : Ends rest) :
    readFraction rest = some ([], rest) ∧ readExponent rest = some (0, rest) := by
  cases ends with
  | comma | feed => exact ⟨rfl, rfl⟩

private theorem decimal_whole (number : Nat) :
    decimal (1 * (number : Int)) (0 - ([] : List Char).length) = (number : Rat) := by
  simp [decimal, Rat.mkRat_one]

private theorem toDigits_append_ne {number : Nat} {mark : Char} {rest more : List Char}
    (foreign : mark.isDigit = false) : Nat.toDigits 10 number ++ rest ≠ mark :: more := by
  intro same
  have first := congrArg List.head? same
  rw [List.head?_append_of_ne_nil _ Nat.toDigits_ne_nil] at first
  have digit := Nat.isDigit_of_mem_toDigits (by decide) (by decide) (List.mem_of_mem_head? first)
  rw [foreign] at digit
  cases digit

theorem readNumber_toString (number : Nat) {rest : List Char} (ends : Ends rest) :
    readNumber ((toString number).toList ++ rest) = some ((number : Rat), rest) := by
  obtain ⟨fraction, exponent⟩ := readFraction_of_ends ends
  have written : (toString number).toList = Nat.toDigits 10 number := by
    rw [Nat.toString_eq_ofList_toDigits, String.toList_ofList]
  have value : Nat.ofDigitChars 10 (Nat.toDigits 10 number) 0 = number :=
    Nat.ofDigitChars_ten_toDigits
  rw [written, readNumber]
  · simp only [readWhole_toDigits number ends, fraction, exponent, Option.bind_eq_bind,
      Option.bind_some, List.append_nil, value, decimal_whole, Option.pure_def]
  · exact fun _ => toDigits_append_ne rfl

/-- A text is read as a value wherever it stands in a written object. -/
structure Spells (written : List Char) (value : Value) : Prop where
  visible : ∀ rest, skipBlanks (written ++ rest) = written ++ rest
  read : ∀ budget rest, Ends rest → readValue (budget + 1) (written ++ rest) = some (value, rest)

theorem spells_string (text : String) : Spells (string text) (.string text) where
  visible := fun _ => rfl
  read := by
    intro budget rest _
    have split : string text ++ rest = '"' :: (text.toList.flatMap escape ++ '"' :: rest) := by
      simp [string]
    rw [split, readValue, readString_written]
    rfl

theorem spells_number (number : Nat) : Spells (toString number).toList (.number number) where
  visible := by
    intro rest
    rw [Nat.toString_eq_ofList_toDigits, String.toList_ofList]
    obtain ⟨c, more, split⟩ := List.exists_cons_of_ne_nil
      (List.append_ne_nil_of_left_ne_nil (Nat.toDigits_ne_nil (n := number) (b := 10)) rest)
    have foreign : ¬ c ∈ [' ', '\t', '\n', '\r'] := by
      intro blank
      simp only [List.mem_cons, List.not_mem_nil, or_false] at blank
      rcases blank with rfl | rfl | rfl | rfl
      all_goals exact toDigits_append_ne rfl split
    rw [split, skipBlanks, List.dropWhile_cons_of_neg (by simpa using foreign)]
  read := by
    intro budget rest ends
    have read := readNumber_toString number ends
    rw [Nat.toString_eq_ofList_toDigits, String.toList_ofList] at *
    rw [readValue]
    · rw [read]
      rfl
    all_goals exact fun _ => toDigits_append_ne rfl

/-- Written members with commas between them. -/
def writtenMembers (entries : List (String × List Char)) : List Char :=
  List.intercalate [','] (entries.map fun (key, value) => member key value)

private theorem writtenMembers_singleton (key : String) (written : List Char) :
    writtenMembers [(key, written)] = member key written := by
  simp [writtenMembers]

private theorem writtenMembers_cons_cons (key : String) (written : List Char)
    (next : String × List Char) (others : List (String × List Char)) :
    writtenMembers ((key, written) :: next :: others) =
      member key written ++ ',' :: writtenMembers (next :: others) := by
  simp [writtenMembers, List.intercalate_cons_cons]

private theorem length_le_writtenMembers (entries : List (String × List Char)) :
    entries.length ≤ (writtenMembers entries).length := by
  induction entries with
  | nil => exact Nat.zero_le _
  | cons entry others ih =>
    obtain ⟨key, written⟩ := entry
    cases others with
    | nil =>
      rw [writtenMembers_singleton]
      simp [member, string]
    | cons next others =>
      rw [writtenMembers_cons_cons]
      simp only [List.length_append, List.length_cons] at ih ⊢
      omega

private theorem skipBlanks_member (key : String) (written rest : List Char) :
    skipBlanks (member key written ++ rest) =
      '"' :: (key.toList.flatMap escape ++ '"' :: (':' :: ' ' :: (written ++ rest))) := by
  have split : member key written ++ rest = '\n' :: ' ' :: ' ' ::
      ('"' :: (key.toList.flatMap escape ++ '"' :: (':' :: ' ' :: (written ++ rest)))) := by
    simp [member, string]
  rw [split]
  rfl

private theorem readMembers_member {key : String} {written rest : List Char} {value : Value}
    (spelled : Spells written value) (ends : Ends rest) (budget : Nat) :
    readMembers (budget + 2) (skipBlanks (member key written ++ rest)) =
      match skipBlanks rest with
      | '\x7d' :: rest => some ([(key, value)], rest)
      | ',' :: rest => do
        let (later, rest) ← readMembers (budget + 1) (skipBlanks rest)
        return ((key, value) :: later, rest)
      | _ => none := by
  have colon : skipBlanks (':' :: ' ' :: (written ++ rest)) = ':' :: ' ' :: (written ++ rest) := rfl
  have blank : skipBlanks (' ' :: (written ++ rest)) = written ++ rest := spelled.visible rest
  rw [skipBlanks_member, readMembers, readString_written]
  simp only [Option.bind_eq_bind, Option.bind_some, colon, blank, spelled.read budget rest ends]
  rfl

/-- What is read off a written object: its members, each with the value that is written for it. -/
def Lists (entries : List (String × List Char)) (members : List (String × Value)) : Prop :=
  List.Forall₂ (fun entry member => entry.1 = member.1 ∧ Spells entry.2 member.2) entries members

theorem readMembers_written {entries : List (String × List Char)} {members : List (String × Value)}
    (lists : Lists entries members) (nonempty : entries ≠ []) (budget : Nat) (rest : List Char) :
    readMembers (budget + entries.length + 1)
        (skipBlanks (writtenMembers entries ++ '\n' :: '\x7d' :: rest)) =
      some (members, rest) := by
  induction lists with
  | nil => exact absurd rfl nonempty
  | @cons entry member entries members same later ih =>
    obtain ⟨key, written⟩ := entry
    obtain ⟨_, value⟩ := member
    obtain ⟨rfl, spells⟩ : key = _ ∧ Spells written value := same
    cases later with
    | nil =>
      rw [writtenMembers_singleton, List.length_singleton, readMembers_member spells (.feed _)]
      rfl
    | @cons next _ others _ _ _ =>
      have further := ih (List.cons_ne_nil _ _)
      have comma : ∀ more, skipBlanks (',' :: more) = ',' :: more := fun _ => rfl
      have spent : budget + ((key, written) :: next :: others).length + 1 =
          budget + (next :: others).length + 2 := rfl
      rw [spent, writtenMembers_cons_cons, List.append_assoc, List.cons_append,
        readMembers_member spells (.comma _), comma]
      simp only [further, Option.bind_eq_bind, Option.bind_some, Option.pure_def]

private theorem readValue_written {entries : List (String × List Char)}
    {members : List (String × Value)} (lists : Lists entries members) (nonempty : entries ≠ [])
    (budget : Nat) (rest : List Char) :
    readValue (budget + entries.length + 2)
        ('\x7b' :: (writtenMembers entries ++ '\n' :: '\x7d' :: rest)) =
      some (.object members, rest) := by
  have read := readMembers_written lists nonempty budget rest
  obtain ⟨⟨key, written⟩, others, rfl⟩ := List.exists_cons_of_ne_nil nonempty
  obtain ⟨behind, split⟩ : ∃ behind,
      writtenMembers ((key, written) :: others) = member key written ++ behind := by
    cases others with
    | nil => exact ⟨[], by rw [writtenMembers_singleton, List.append_nil]⟩
    | cons next others => exact ⟨_, writtenMembers_cons_cons key written next others⟩
  rw [split, List.append_assoc, skipBlanks_member] at read
  rw [split, List.append_assoc, readValue, skipBlanks_member]
  show (readMembers _ ('"' :: _)).map _ = _
  rw [read]
  rfl

/-- A written object is decoded into its members. -/
theorem decode_written {entries : List (String × List Char)} {members : List (String × Value)}
    (lists : Lists entries members) (nonempty : entries ≠ []) :
    decode (String.ofList ('\x7b' :: writtenMembers entries ++ ['\n', '\x7d'])) =
      some (.object members) := by
  have length : (String.ofList ('\x7b' :: writtenMembers entries ++ ['\n', '\x7d'])).length =
      (writtenMembers entries).length + 3 := by
    rw [String.length_ofList, List.cons_append, List.length_cons, List.length_append]
    rfl
  -- A member has a character at least, so there is a step for each and one for the object.
  have within := length_le_writtenMembers entries
  obtain ⟨budget, enough⟩ : ∃ budget,
      2 * ((writtenMembers entries).length + 3) = budget + entries.length + 2 :=
    ⟨2 * ((writtenMembers entries).length + 3) - entries.length - 2, by omega⟩
  have read := readValue_written lists nonempty budget []
  rw [decode, length, enough, String.toList_ofList]
  show (readValue _ ('\x7b' :: (writtenMembers entries ++ ['\n', '\x7d']))).bind _ = _
  rw [read]
  rfl

end Json

def Command.record (command : Command) : Json.Value :=
  .object [("cmd", .string command.opening), ("number", .number command.size),
    ("first color", .string command.first.text), ("second color", .string command.second.text)]

theorem Command.decode_json (command : Command) :
    Json.decode command.json = some command.record := by
  refine Json.decode_written ?_ (List.cons_ne_nil _ _)
  exact .cons ⟨rfl, Json.spells_string _⟩ <| .cons ⟨rfl, Json.spells_number _⟩ <|
    .cons ⟨rfl, Json.spells_string _⟩ <| .cons ⟨rfl, Json.spells_string _⟩ .nil

/-- The JSON of any command is read with nothing left over, as an object with four members in their
    order, character for character. -/
theorem json_stands_for_record (command : Command) :
    ∃ members, Json.decode command.json = some (.object members) ∧
      members.map Prod.fst = ["cmd", "number", "first color", "second color"] ∧
      members.map Prod.snd =
        [.string command.opening, .number command.size,
         .string (command.first.adjective ++ " " ++ command.first.color),
         .string (command.second.adjective ++ " " ++ command.second.color)] :=
  ⟨_, command.decode_json, rfl, rfl⟩

end Palette
