import Mathlib
import Palette.Proofs.Decoding
import Palette.Proofs.Excerpts

/-!
# Records told apart

No blank gets into a word of a command that was read off a text (`keepsWords_of_parse`), so neither
the text nor the JSON of such a command is that of another one (`outputs_tell_commands_apart`).
-/

namespace Palette

open Text (OneRow oneRow_append oneRow_toString)

/-- No blank stands in a text. -/
def Text.Solid (text : String) : Prop := ∀ c ∈ text.toList, Text.isBlank c = false

open Text (Solid)

theorem Text.Solid.oneRow {text : String} (solid : Solid text) : OneRow text := not_mem_feed solid

private theorem Text.Solid.not_mem_space {text : String} (solid : Solid text) :
    ' ' ∉ text.toList := by
  intro member
  have blank : isBlank ' ' = true := by decide
  rw [solid _ member] at blank
  cases blank

/-- Both words of an endpoint are without blanks. -/
structure Endpoint.KeepsWords (endpoint : Endpoint) : Prop where
  adjective : Solid endpoint.adjective
  color : Solid endpoint.color

/-- A command is made of words without blanks. -/
structure Command.KeepsWords (said : Command) : Prop where
  opening : ∃ verb palette, said.opening = verb ++ " " ++ palette ∧ Solid verb ∧ Solid palette
  first : said.first.KeepsWords
  second : said.second.KeepsWords

private theorem Scan.solid_lexeme {source : String} {token : Token}
    (member : token ∈ (Scan.ofText source).tokens) : Solid token.lexeme := by
  obtain ⟨_, segment, _, _, _, visible, rfl⟩ := Scan.exists_parts_of_mem_tokens member
  simpa [Solid] using visible

/-- The words of a command stand in the text that it was read off. -/
theorem keepsWords_of_parse {source : String} {said : Command}
    (accepted : parse source = .ok said) : said.KeepsWords := by
  obtain ⟨verb, palette, count, fromWord, separator, lexemes, opening⟩ :=
    (sentence_of_parse accepted).2
  have solid : ∀ lexeme ∈ [verb, palette, toString said.size, count, fromWord,
      said.first.adjective, said.first.color, separator, said.second.adjective,
      said.second.color], Solid lexeme := by
    rw [← lexemes]
    intro lexeme member
    obtain ⟨token, kept, rfl⟩ := List.mem_map.mp member
    exact Scan.solid_lexeme (List.mem_filter.mp kept).1
  exact ⟨⟨verb, palette, opening, solid _ (by simp), solid _ (by simp)⟩,
    ⟨solid _ (by simp), solid _ (by simp)⟩, ⟨solid _ (by simp), solid _ (by simp)⟩⟩

theorem Endpoint.KeepsWords.eq_of_text_eq {one other : Endpoint} (oneKeeps : one.KeepsWords)
    (otherKeeps : other.KeepsWords) (same : one.text = other.text) : one = other := by
  have lists : one.adjective.toList ++ ' ' :: one.color.toList =
      other.adjective.toList ++ ' ' :: other.color.toList := by
    simpa [text] using congrArg String.toList same
  obtain ⟨adjective, -, color⟩ := (List.append_cons_inj_of_notMem
    oneKeeps.adjective.not_mem_space oneKeeps.color.not_mem_space).mp lists
  cases one
  cases other
  rw [Endpoint.mk.injEq]
  exact ⟨String.toList_injective adjective, String.toList_injective color⟩

/-- With a blank in a word it is not. -/
example : Endpoint.text ⟨"light sky", "blue"⟩ = Endpoint.text ⟨"light", "sky blue"⟩ := by decide

private theorem Text.length_lines {text : List Char}
    (shown : ∃ last, (rows text).getLast? = some last ∧ last ≠ []) :
    (lines text).length = (rows text).length := by
  obtain ⟨last, found, nonempty⟩ := shown
  obtain ⟨front, split⟩ := List.getLast?_eq_some_iff.mp found
  simp [lines, split, nonempty]

namespace Command

/-- The rows of a command as text, a field in each. -/
def rows (said : Command) : List String :=
  ["cmd: " ++ said.opening, "number: " ++ toString said.size,
   "first color: " ++ said.first.text, "second color: " ++ said.second.text]

private theorem toList_text (said : Command) :
    said.text.toList = ['\n'].intercalate (said.rows.map String.toList) := by
  simp [text, rows, List.intercalate_cons_cons]

private theorem oneRow_endpoint {endpoint : Endpoint} (keeps : endpoint.KeepsWords) :
    OneRow endpoint.text := by
  simp only [Endpoint.text, oneRow_append]
  exact ⟨⟨keeps.adjective.oneRow, by decide⟩, keeps.color.oneRow⟩

theorem KeepsWords.oneRow_rows {said : Command} (keeps : said.KeepsWords) :
    ∀ row ∈ said.rows, OneRow row := by
  obtain ⟨verb, palette, opening, verbSolid, paletteSolid⟩ := keeps.opening
  have space : OneRow " " := by decide
  intro row member
  simp only [rows, List.mem_cons, List.not_mem_nil, or_false] at member
  rcases member with rfl | rfl | rfl | rfl
  · rw [opening]
    simp only [oneRow_append]
    exact ⟨by decide, ⟨verbSolid.oneRow, space⟩, paletteSolid.oneRow⟩
  · exact oneRow_append.mpr ⟨by decide, oneRow_toString _⟩
  · exact oneRow_append.mpr ⟨by decide, oneRow_endpoint keeps.first⟩
  · exact oneRow_append.mpr ⟨by decide, oneRow_endpoint keeps.second⟩

theorem KeepsWords.rows_text {said : Command} (keeps : said.KeepsWords) :
    Text.rows said.text.toList = said.rows.map String.toList := by
  rw [toList_text, Text.rows]
  refine List.splitOn_intercalate '\n' ?_ (by simp [rows])
  intro row member
  obtain ⟨text, listed, rfl⟩ := List.mem_map.mp member
  exact keeps.oneRow_rows text listed

private theorem KeepsWords.length_lines {said : Command} (keeps : said.KeepsWords) :
    (Text.lines said.text.toList).length = 4 := by
  rw [Text.length_lines ⟨("second color: " ++ said.second.text).toList, ?_, ?_⟩]
  · rw [keeps.rows_text]
    rfl
  · rw [keeps.rows_text]
    rfl
  · simp

variable {one other : Command}

theorem KeepsWords.eq_of_fields_eq (oneKeeps : one.KeepsWords) (otherKeeps : other.KeepsWords)
    (opening : one.opening = other.opening) (size : one.size = other.size)
    (first : one.first.text = other.first.text) (second : one.second.text = other.second.text) :
    one = other := by
  have sameFirst := oneKeeps.first.eq_of_text_eq otherKeeps.first first
  have sameSecond := oneKeeps.second.eq_of_text_eq otherKeeps.second second
  cases one
  cases other
  rw [Command.mk.injEq]
  exact ⟨opening, size, sameFirst, sameSecond⟩

theorem KeepsWords.eq_of_text_eq (oneKeeps : one.KeepsWords) (otherKeeps : other.KeepsWords)
    (same : one.text = other.text) : one = other := by
  have rowsEq : one.rows.map String.toList = other.rows.map String.toList := by
    rw [← oneKeeps.rows_text, ← otherKeeps.rows_text, same]
  have fields := List.map_injective_iff.mpr (fun _ _ => String.toList_injective) rowsEq
  simp only [rows, List.cons.injEq, String.append_right_inj, and_true] at fields
  obtain ⟨opening, size, first, second⟩ := fields
  exact oneKeeps.eq_of_fields_eq otherKeeps opening (Nat.repr_injective size) first second

theorem KeepsWords.eq_of_json_eq (oneKeeps : one.KeepsWords) (otherKeeps : other.KeepsWords)
    (same : one.json = other.json) : one = other := by
  have records : one.record = other.record := by
    have decoded := congrArg Json.decode same
    rw [decode_json, decode_json] at decoded
    exact Option.some.inj decoded
  simp only [record, Json.Value.object.injEq, List.cons.injEq, Prod.mk.injEq,
    Json.Value.string.injEq, Json.Value.number.injEq, Nat.cast_inj, true_and, and_true] at records
  obtain ⟨opening, size, first, second⟩ := records
  exact oneKeeps.eq_of_fields_eq otherKeeps opening size first second

end Command

/-- Of commands that were read off texts, those with the same text are the same, and so are those
    with the same JSON. The text has four rows, and they are four lines as well. -/
theorem outputs_tell_commands_apart (source other : String) (one two : Command)
    (accepted : parse source = .ok one) (again : parse other = .ok two) :
    [one.text = two.text, one.json = two.json, one = two].TFAE ∧
      (Text.rows one.text.toList).length = 4 ∧ (Text.lines one.text.toList).length = 4 := by
  have oneKeeps := keepsWords_of_parse accepted
  have twoKeeps := keepsWords_of_parse again
  refine ⟨?_, ?_, oneKeeps.length_lines⟩
  · tfae_have 1 → 3 := oneKeeps.eq_of_text_eq twoKeeps
    tfae_have 2 → 3 := oneKeeps.eq_of_json_eq twoKeeps
    tfae_have 3 → 1 := congrArg Command.text
    tfae_have 3 → 2 := congrArg Command.json
    tfae_finish
  · rw [oneKeeps.rows_text]
    rfl

theorem outputs_differ_with_letter :
    let source := "make palette 3 colors from light red : dark blue"
    let other := "make palette 3 color from (Light red to dark blue)"
    let one : Command := ⟨"make palette", 3, ⟨"light", "red"⟩, ⟨"dark", "blue"⟩⟩
    let two : Command := ⟨"make palette", 3, ⟨"Light", "red"⟩, ⟨"dark", "blue"⟩⟩
    parse source = .ok one ∧ parse other = .ok two ∧ one.text ≠ two.text ∧ one.json ≠ two.json ∧
      (Text.rows one.text.toList).length = 4 ∧ (Text.lines one.text.toList).length = 4 := by
  intro source other one two
  have accepted : parse source = .ok one := by decide +kernel
  have again : parse other = .ok two := by decide +kernel
  have different : one ≠ two := by decide
  clear_value source other one two
  obtain ⟨alike, rows, lines⟩ := outputs_tell_commands_apart source other one two accepted again
  exact ⟨accepted, again, mt (alike.out 0 2).mp different, mt (alike.out 1 2).mp different,
    rows, lines⟩

end Palette
