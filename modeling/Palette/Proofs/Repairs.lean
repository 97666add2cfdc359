import Palette.Proofs.Exactness
import Palette.Proofs.Locality

/-!
# What a rejection asks for

The wording of a rejection, read back from its text (`Expectation.ofText`), asks for some tokens
(`Asks`). It tells the truth about the place where the reading stopped
(`rejection_asks_for_repair`).
-/

namespace Palette

open Grammar (Slot Part misfit)

namespace Expectation

/-- The words of a list with commas between them. -/
def listed (text : List Char) : List String :=
  (text.splitOn ',').map fun word => String.ofList (Text.trim word)

/-- Words that are none of the phrases, and begin no list, ask for themselves. -/
def ofText (text : String) : Expectation :=
  if text = "a number from 2 to 9" then .size
  else if text = "an adjective" then .adjective
  else if text = "a color" then .color
  else if text = "end of input" then .endOfInput
  else if "one of ".toList <+: text.toList then .oneOf (listed (text.toList.drop 7))
  else .word text

/-- Whether a token is what is asked for. Nothing is at the end of the input. -/
def MetBy (token : Token) : Expectation → Prop
  | .word uppercase => token.upper = uppercase
  | .oneOf words => token.upper ∈ words
  | .size => token.lexeme ∈ ["2", "3", "4", "5", "6", "7", "8", "9"]
  | .adjective => token.upper ∈ Vocabulary.adjectives
  | .color => token.upper ∈ Vocabulary.colors
  | .endOfInput | .phrase _ => False

end Expectation

/-- Whether a text that says what is expected asks for a token. -/
def Asks (text : String) (token : Token) : Prop := (Expectation.ofText text).MetBy token

namespace Grammar.Slot

variable {slot : Slot} {token : Token}

private theorem ofText_expectation (member : .required slot ∈ Grammar.command) :
    Expectation.ofText slot.expectation.text = slot.expectation := by
  cases slot with
  | openParen | closeParen => simp [Grammar.command] at member
  | _ => decide +kernel

theorem asks_iff_admits (member : .required slot ∈ Grammar.command) :
    Asks slot.expectation.text token ↔ slot.Admits token := by
  rw [Asks, ofText_expectation member]
  cases slot with
  | openParen | closeParen => simp [Grammar.command] at member
  | _ => rfl

private theorem expectation_words (slot : Slot) :
    slot.expectation.text ≠ "end of input" ∧
      (slot.expectation.advice.isSome = true ↔
        slot.expectation.text ∈ ["a number from 2 to 9", "an adjective", "a color"]) := by
  cases slot <;> decide +kernel

end Grammar.Slot

namespace Reader

variable {cursor next : Cursor} {rejection : Rejection}

theorem misfit_of_error (classified : ∀ token ∈ cursor.tokens, token.Classified)
    (rejected : command cursor = .error rejection next) :
    ∃ expected, misfit Grammar.command cursor.ahead = some ⟨next.ahead, expected⟩ := by
  obtain ⟨read, left, expected, moves, leaves, blocked, _⟩ := blocked_of_error classified rejected
  exact ⟨expected, by rw [moves.ahead, leaves.misfit_append, blocked.misfit_eq]⟩

theorem exists_ok_of_fits (classified : ∀ token ∈ cursor.tokens, token.Classified)
    (fits : misfit Grammar.command cursor.ahead = none) :
    ∃ said last, command cursor = .ok said last := by
  cases run : command cursor with
  | ok said last => exact ⟨said, last, rfl⟩
  | error rejection last =>
    obtain ⟨_, misfits⟩ := misfit_of_error classified run
    rw [fits] at misfits
    cases misfits

/-- A token that is no misfit when the tokens end with it is passed whatever comes after it. -/
private theorem position_lt_of_passed {front rest : List Token} {start : Nat} {stop : Span}
    {good : Token} (inside : start ≤ front.length)
    (classified : ∀ token ∈ front ++ [good], token.Classified)
    (passed : ∀ found, misfit Grammar.command (front.drop start ++ [good]) = some found →
      found.ahead = [])
    (rejected : command ⟨front ++ good :: rest, start, stop⟩ = .error rejection next) :
    front.length < next.position := by
  by_contra behind
  -- Up to the token the tokens are those without the rest, and there it is passed.
  have same : Cursor.SameTo ⟨front ++ good :: rest, start, stop⟩ front.length
      ⟨front ++ [good], start, stop⟩ := by
    refine ⟨rfl, fun index within => ?_⟩
    show (front ++ [good])[index]? = (front ++ good :: rest)[index]?
    have reached : index < (front ++ [good]).length := by
      rw [List.length_append, List.length_singleton]
      omega
    rw [List.append_cons front good rest, List.getElem?_append_left reached]
  have looks := made_command.looks_no_further same
  rw [rejected] at looks
  obtain ⟨_, last, run, sameThere⟩ := looks (Nat.not_lt.mp behind)
  have whole : Cursor.ahead ⟨front ++ [good], start, stop⟩ = front.drop start ++ [good] :=
    List.drop_append_of_le_length inside
  obtain ⟨expected, misfits⟩ := misfit_of_error classified run
  rw [whole] at misfits
  have ended : last.ahead = [] := passed _ misfits
  have goes := made_command.goes ⟨front ++ [good], start, stop⟩
  rw [run] at goes
  obtain ⟨_, moves, _⟩ := goes
  rw [Cursor.ahead, List.drop_eq_nil_iff, moves.tokens, sameThere.position, List.length_append,
    List.length_singleton] at ended
  exact behind ended

end Reader

/-- A rejection does not ask for the token that was found. A token that it asks for is passed in
    that place, whatever follows, and where it asks for the end of input the tokens up to there are
    a command. It gives advice with the words for a size, a shade and a color alone. -/
theorem rejection_asks_for_repair (source : String) (scan : Scan) (start : Nat)
    (scanned : tokenize source = .ok scan ∨ scan = Scan.ofText source)
    (inside : start ≤ scan.tokens.length) (rejection : Rejection) (next : Cursor)
    (rejected : Reader.command ⟨scan.tokens, start, scan.stop⟩ = .error rejection next) :
    ∃ wanted found, rejection.cause = .unexpected wanted found ∧
      (∀ token, scan.tokens[next.position]? = some token → ¬ Asks wanted.text token) ∧
      (wanted.text ≠ "end of input" →
        ∀ good, (∃ text, good ∈ (Scan.ofText text).tokens) → Asks wanted.text good →
          ∀ rest stop further last,
            Reader.command ⟨scan.tokens.take next.position ++ good :: rest, start, stop⟩ =
              .error further last → next.position < last.position) ∧
      (wanted.text = "end of input" → ∀ stop, ∃ said last,
        Reader.command ⟨scan.tokens.take next.position, start, stop⟩ = .ok said last) ∧
      (rejection.help.isSome = true ↔
        wanted.text ∈ ["a number from 2 to 9", "an adjective", "a color"]) := by
  have classified := Scan.classified_of_scanned scanned
  obtain ⟨read, left, expected, moves, leaves, blocked, rfl⟩ :=
    Reader.blocked_of_error classified rejected
  obtain ⟨filled, passed, split, optional, _, _, behind⟩ := leaves.exists_filled
  have position : next.position = start + read.length := moves.position
  have length : (scan.tokens.take next.position).length = next.position :=
    List.length_take_of_le (moves.position_le inside)
  have front : (scan.tokens.take next.position).drop start = read := by
    rw [List.drop_take, ← List.extract_eq_take_drop]
    exact moves.extract
  have frontClassified : ∀ token ∈ scan.tokens.take next.position, token.Classified :=
    fun token member => classified token (List.mem_of_mem_take member)
  refine ⟨expected, next.found, rfl, ?_⟩
  -- The parts that are left begin with the slot that is wanted, or there are none.
  cases blocked with
  | @slot slot parts ahead absent =>
    have member : .required slot ∈ Grammar.command := by
      rw [split]
      simp
    obtain ⟨notEnd, advised⟩ := slot.expectation_words
    refine ⟨?_, ?_, fun ends => absurd ends notEnd, advised⟩
    · intro token under asked
      have ahead : next.ahead.head? = some token := by
        rw [← Cursor.peek_eq_head?, Cursor.peek, moves.tokens, under]
      exact absent token ahead ((Slot.asks_iff_admits member).mp asked)
    · rintro - good ⟨text, scannedGood⟩ asked rest stop further last rejectedOn
      have goodClassified : ∀ token ∈ scan.tokens.take next.position ++ [good],
          token.Classified :=
        List.forall_mem_append.mpr ⟨frontClassified,
          List.forall_mem_singleton.mpr (Scan.classified_of_mem scannedGood)⟩
      rw [← length]
      refine Reader.position_lt_of_passed (by omega) goodClassified ?_ rejectedOn
      intro found misfits
      rw [front, behind] at misfits
      exact Grammar.ahead_eq_nil_of_admits optional ((Slot.asks_iff_admits member).mp asked) misfits
  | ending more =>
    have unadvised : Expectation.endOfInput.advice.isSome = true ↔ Expectation.endOfInput.text ∈
        ["a number from 2 to 9", "an adjective", "a color"] := by decide +kernel
    refine ⟨fun token _ => id, fun notEnd => absurd rfl notEnd, ?_, unadvised⟩
    intro _ stop
    have whole : Cursor.ahead ⟨scan.tokens.take next.position, start, stop⟩ = read ++ [] := by
      rw [List.append_nil]
      exact front
    refine Reader.exists_ok_of_fits frontClassified ?_
    rw [whole, behind, List.append_nil]
    exact Grammar.misfit_optionals_nil optional

/-- With a nine in the place of the ten, the reading from the third word goes on. -/
theorem nine_passed_in_place_of_ten :
    let scan := Scan.ofText "make palette make palette 10 colors"
    let next : Cursor := ⟨scan.tokens, 4, scan.stop⟩
    let nine : Token := ⟨.number, "9", ⟨⟨1, 3⟩, 1⟩⟩
    Reader.command ⟨scan.tokens, 2, scan.stop⟩ = .error (next.refusal .size) next ∧
      nine ∈ (Scan.ofText "of 9").tokens ∧ Asks "a number from 2 to 9" nine ∧
      ∀ rest stop further last,
        Reader.command ⟨scan.tokens.take 4 ++ nine :: rest, 2, stop⟩ = .error further last →
          4 < last.position := by
  intro scan next nine
  have scanned : scan = Scan.ofText "make palette make palette 10 colors" := rfl
  have listed : nine ∈ (Scan.ofText "of 9").tokens := by decide +kernel
  have asked : Asks "a number from 2 to 9" nine := by
    show "9" ∈ ["2", "3", "4", "5", "6", "7", "8", "9"]
    decide
  clear_value scan nine
  have rejected : Reader.command ⟨scan.tokens, 2, scan.stop⟩ =
      .error (next.refusal .size) next := by
    subst scanned
    rfl
  have inside : 2 ≤ scan.tokens.length := by
    rw [scanned]
    decide +kernel
  obtain ⟨wanted, found, cause, _, repaired, _⟩ :=
    rejection_asks_for_repair _ scan 2 (.inr scanned) inside _ next rejected
  cases cause
  exact ⟨rejected, listed, asked, repaired (by decide) nine ⟨_, listed⟩ asked⟩

end Palette
