import Palette.Journal
import Palette.Proofs.Exactness
import Palette.Proofs.Quoting

/-!
# Notes taken while reading

The journal of a text is what a reading notes on its way (`Noting.parse_eq`). Its rows tell the
outcome, and no two texts have the same rows (`journal_tells_reading`), since one row quotes the
whole text.
-/

namespace Palette

open Text (quoted Unbroken unbroken_append unbroken_quoted unbroken_toString)

theorem parse_eq_command {source : String} (clear : (Scan.ofText source).offender? = none) :
    parse source = (Scan.ofText source).command := by
  rw [parse, tokenize_eq_ok_iff.mpr ⟨clear, rfl⟩]
  rfl

/-- A reading that takes notes and may reject what it reads. The notes stay in both cases. -/
abbrev Noting := EStateM Rejection (List Entry)

namespace Noting

def note (entry : Entry) : Noting Unit := modify (· ++ [entry])

/-- The note of a lexeme as it stands in the text. -/
def ofLexeme (lexeme : String) : Entry :=
  ⟨.trace, "token " ++ quoted lexeme ++ " -> " ++ (Kind.ofLexeme lexeme).name⟩

/-- The tokens of segments that begin at a place, each noted before it is made. -/
def tokensFrom (place : Place) : List (List Char) → Noting (List Token)
  | [] => return []
  | segment :: rest => do
    if Text.isLexeme segment then
      note (ofLexeme (String.ofList segment))
      let later ← tokensFrom (place.after segment) rest
      return Token.ofSegment place segment :: later
    else
      tokensFrom (place.after segment) rest

def scan (source : String) : Noting Scan := do
  let tokens ← tokensFrom .start (Text.segments source.toList)
  let scan : Scan := ⟨tokens, Span.endOf source⟩
  note (Journal.ofScan source scan)
  return scan

def check (scan : Scan) : Noting Unit :=
  match scan.offender? with
  | some token => do
    note (Journal.ofOffender token)
    throw (.ofSymbol token)
  | none => return ()

/-- The command that the tokens of a scan are. -/
def command (scan : Scan) : Noting Command :=
  match scan.command with
  | .ok said => do
    note (Journal.ofCommand said)
    return said
  | .error rejection => throw rejection

def parse (source : String) : Noting Command := do
  let scan ← scan source
  check scan
  command scan

variable {α : Type} {notes : List Entry}

@[simp] theorem pure_apply (value : α) (notes : List Entry) :
    (pure value : Noting α) notes = .ok value notes := rfl

private theorem note_bind {entry : Entry} {further : Unit → Noting α} :
    (note entry >>= further) notes = further () (notes ++ [entry]) :=
  EStateM.bind_of_ok rfl

private theorem tokensFrom_eq {segments : List (List Char)}
    (uniform : ∀ segment ∈ segments, Text.Uniform segment) (place : Place) (notes : List Entry) :
    tokensFrom place segments notes =
      .ok (Scan.tokensFrom place segments)
        (notes ++ (Scan.tokensFrom place segments).map Journal.ofToken) := by
  induction segments generalizing place notes with
  | nil => simp [tokensFrom]
  | cons segment rest ih =>
    have later := ih fun other member => uniform other (List.mem_cons_of_mem _ member)
    rw [tokensFrom, Scan.tokensFrom_cons]
    split
    · next lexeme =>
      have same := Text.trim_eq_self
        (Text.not_isBlank_of_isLexeme (uniform segment List.mem_cons_self) lexeme)
      have noted : ofLexeme (String.ofList segment) =
          Journal.ofToken (Token.ofSegment place segment) := by
        simp [ofLexeme, Journal.ofToken, Token.ofSegment, same]
      rw [note_bind, EStateM.bind_of_ok (later _ _), noted]
      simp
    · rw [later]
      simp

private theorem scan_eq (source : String) (notes : List Entry) :
    scan source notes =
      .ok (Scan.ofText source) (notes ++ (Scan.ofText source).tokens.map Journal.ofToken ++
        [Journal.ofScan source (Scan.ofText source)]) := by
  have tokens := tokensFrom_eq (Text.continues_segments source.toList).uniform .start notes
  rw [scan, EStateM.bind_of_ok tokens]
  exact note_bind

private theorem check_eq (scan : Scan) (notes : List Entry) :
    check scan notes =
      match scan.offender? with
      | some token => .error (.ofSymbol token) (notes ++ [Journal.ofOffender token])
      | none => .ok () notes := by
  rw [check]
  cases scan.offender? with
  | some token => exact note_bind
  | none => rfl

private theorem command_eq (scan : Scan) (notes : List Entry) :
    command scan notes =
      match scan.command with
      | .ok said => .ok said (notes ++ [Journal.ofCommand said])
      | .error rejection => .error rejection notes := by
  rw [command]
  cases scan.command with
  | ok said => exact note_bind
  | error rejection => rfl

/-- Taking notes changes no outcome, and the notes taken are the journal. -/
theorem parse_eq (source : String) (notes : List Entry) :
    parse source notes =
      match Palette.parse source with
      | .ok said => .ok said (notes ++ journal source)
      | .error rejection => .error rejection (notes ++ journal source) := by
  rw [parse, EStateM.bind_of_ok (scan_eq source notes), journal, Journal.ending]
  cases offends : (Scan.ofText source).offender? with
  | some token =>
    have rejected := parse_eq_error_iff.mpr (.inl ⟨token, offends, rfl⟩)
    rw [rejected, EStateM.bind_of_error (by rw [check_eq, offends])]
    simp
  | none =>
    rw [parse_eq_command offends, EStateM.bind_of_ok (by rw [check_eq, offends]), command_eq]
    cases (Scan.ofText source).command <;> simp

end Noting

private theorem Kind.unbroken_name (kind : Kind) : Unbroken kind.name := by
  cases kind <;> decide

private theorem Entry.unbroken_row {entry : Entry} (text : Unbroken entry.text) :
    Unbroken entry.row := by
  have level : Unbroken entry.level.name := by
    cases entry.level <;> decide
  rw [row, unbroken_append, unbroken_append]
  exact ⟨⟨level, by decide⟩, text⟩

namespace Journal

private theorem unbroken_endpoint (one : Endpoint) : Unbroken (endpoint one) := by
  -- The equation of this definition is slow to make.
  delta endpoint
  simp only [unbroken_append, unbroken_quoted]
  decide

private theorem unbroken_ofToken (token : Token) : Unbroken (ofToken token).text := by
  simp only [ofToken, unbroken_append, unbroken_quoted, token.kind.unbroken_name]
  decide

private theorem unbroken_ofScan (source : String) (scan : Scan) :
    Unbroken (ofScan source scan).text := by
  simp only [ofScan, unbroken_append, unbroken_quoted, unbroken_toString]
  decide

private theorem unbroken_ofOffender (token : Token) : Unbroken (ofOffender token).text := by
  simp only [ofOffender, unbroken_append, unbroken_quoted]
  decide

private theorem unbroken_ofCommand (said : Command) : Unbroken (ofCommand said).text := by
  simp only [ofCommand, unbroken_append, unbroken_quoted, unbroken_toString, unbroken_endpoint]
  decide

theorem unbroken_row {source : String} {entry : Entry} (noted : entry ∈ journal source) :
    Unbroken entry.row := by
  refine Entry.unbroken_row ?_
  simp only [journal, List.mem_append, List.mem_map, List.mem_singleton] at noted
  rcases noted with (⟨token, _, rfl⟩ | rfl) | last
  · exact unbroken_ofToken token
  · exact unbroken_ofScan source _
  · rw [ending] at last
    split at last
    · next token _ => exact List.mem_singleton.mp last ▸ unbroken_ofOffender token
    · split at last
      · next said _ => exact List.mem_singleton.mp last ▸ unbroken_ofCommand said
      · cases last

private theorem row_ofToken (token : Token) :
    (ofToken token).row =
      "TRACE token " ++ quoted token.lexeme ++ " -> " ++ token.kind.name := by
  simp [ofToken, Entry.row, Level.name, ← String.append_assoc]

private theorem row_ofScan (source : String) (scan : Scan) :
    (ofScan source scan).row =
      "DEBUG scanned " ++ toString scan.tokens.length ++ " tokens (" ++
        toString scan.symbols.length ++ " symbols) from " ++ quoted source := by
  simp [ofScan, Entry.row, Level.name, ← String.append_assoc]

private theorem row_ofOffender (token : Token) :
    (ofOffender token).row = "DEBUG rejecting symbol " ++ quoted token.lexeme := by
  simp [ofOffender, Entry.row, Level.name, ← String.append_assoc]

private theorem row_ofCommand (said : Command) :
    (ofCommand said).row =
      "DEBUG parsed PaletteCommand \x7b cmd: " ++ quoted said.opening ++ ", number: " ++
        toString said.size ++ ", first: " ++ endpoint said.first ++ ", second: " ++
        endpoint said.second ++ " \x7d" := by
  simp [ofCommand, Entry.row, Level.name, ← String.append_assoc]

/-- The last row tells the outcome, and there is none for a token that is not wanted. -/
theorem rows_ending (source : String) :
    (ending (Scan.ofText source)).map Entry.row =
      match parse source with
      | .ok said => [(ofCommand said).row]
      | .error rejection =>
        match rejection.cause with
        | .unknownSymbol lexeme => ["DEBUG rejecting symbol " ++ quoted lexeme]
        | .unexpected _ _ => [] := by
  rw [ending]
  cases offends : (Scan.ofText source).offender? with
  | some token =>
    rw [parse_eq_error_iff.mpr (.inl ⟨token, offends, rfl⟩), List.map_singleton, row_ofOffender]
    rfl
  | none =>
    rw [parse_eq_command offends]
    cases run : (Scan.ofText source).command with
    | ok said => rfl
    | error rejection =>
      obtain ⟨next, rejected⟩ := Scan.command_eq_error_iff.mp run
      obtain ⟨_, _, _, _, _, _, rfl⟩ :=
        Reader.viable_of_error (fun _ => Scan.classified_of_mem) rejected
      rfl

private theorem find?_rows (source : String) :
    ((journal source).map Entry.row).find? (fun row => row.toList.head? = some 'D') =
      some (ofScan source (Scan.ofText source)).row := by
  have tokens : ∀ row ∈ (Scan.ofText source).tokens.map (Entry.row ∘ ofToken),
      ¬ decide (row.toList.head? = some 'D') = true := by
    intro row member
    obtain ⟨token, _, rfl⟩ := List.mem_map.mp member
    simp [row_ofToken]
  have scanned : decide ((ofScan source (Scan.ofText source)).row.toList.head? = some 'D') =
      true := by
    simp [row_ofScan]
  rw [journal, List.map_append, List.map_append, List.map_map, List.append_assoc, List.find?_append,
    List.find?_eq_none.mpr tokens, Option.none_or, List.map_singleton, List.singleton_append]
  exact List.find?_cons_of_pos scanned

private theorem dropWhile_row_ofScan (source : String) (scan : Scan) :
    (ofScan source scan).row.toList.dropWhile (· ≠ '"') = (quoted source).toList := by
  have digits : ∀ number : Nat, '"' ∉ (toString number).toList :=
    fun _ member => absurd (Text.isDigit_of_mem_toString member) (by decide)
  rw [row_ofScan]
  refine Text.dropWhile_append_quoted ?_ source
  simp only [String.toList_append, List.mem_append, digits]
  decide

end Journal

theorem eq_of_journal_rows_eq {source other : String}
    (same : (journal source).map Entry.row = (journal other).map Entry.row) : source = other := by
  have rows := congrArg (List.find? fun row : String => row.toList.head? = some 'D') same
  rw [Journal.find?_rows, Journal.find?_rows, Option.some.injEq] at rows
  have quotes := congrArg (fun row : String => row.toList.dropWhile (· ≠ '"')) rows
  simp only [Journal.dropWhile_row_ofScan] at quotes
  exact Text.quoted_injective (String.toList_injective quotes)

/-- A line feed and a double quote are quoted, and the quote is the symbol that is rejected. -/
example : (journal "make\n\"").map Entry.row =
    ["TRACE token \"make\" -> keyword", "TRACE token \"\\\"\" -> symbol",
     "DEBUG scanned 2 tokens (1 symbols) from \"make\\n\\\"\"",
     "DEBUG rejecting symbol \"\\\"\""] := by
  decide +kernel

end Palette
