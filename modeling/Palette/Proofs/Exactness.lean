import Mathlib
import Palette.Proofs.Recognition

/-!
# Accepted and rejected texts

A text is accepted exactly when all its tokens together are a sentence of the grammar
(`parse_accepts_sentences`). A reading that is rejected stops at the first token with which no
sentence goes on (`rejected_at_first_misfit`).
-/

namespace Palette

open Grammar (Sentence Says Viable Leaves Blocked misfit)

namespace Reader

variable {cursor next : Cursor} {said : Command} {rejection : Rejection}

/-- The tokens of a command leave no part of it. -/
theorem leaves_of_ok (classified : ∀ token ∈ cursor.tokens, token.Classified)
    (accepted : command cursor = .ok said next) :
    Leaves Grammar.command cursor.ahead [] [] ∧ Says cursor.ahead said := by
  have outcome := follows_command cursor classified
  rw [accepted] at outcome
  obtain ⟨read, moves, leaves, told, ended⟩ := outcome
  rw [ended] at leaves
  rw [moves.ahead, ended, List.append_nil]
  exact ⟨leaves, told⟩

theorem sentence_of_ok (classified : ∀ token ∈ cursor.tokens, token.Classified)
    (accepted : command cursor = .ok said next) :
    Sentence cursor.ahead ∧ Says cursor.ahead said := by
  obtain ⟨leaves, told⟩ := leaves_of_ok classified accepted
  have sentence := leaves.fills .done
  rw [List.append_nil] at sentence
  exact ⟨sentence, told⟩

theorem blocked_of_error (classified : ∀ token ∈ cursor.tokens, token.Classified)
    (rejected : command cursor = .error rejection next) :
    ∃ read left expected, cursor.Moves read next ∧
      Leaves Grammar.command read next.ahead left ∧ Blocked left next.ahead expected ∧
      rejection = next.refusal expected := by
  have outcome := follows_command cursor classified
  rwa [rejected] at outcome

/-- What has been read can be completed, but not with the next token, and not by stopping there. -/
theorem viable_of_error (classified : ∀ token ∈ cursor.tokens, token.Classified)
    (rejected : command cursor = .error rejection next) :
    ∃ read expected, cursor.Moves read next ∧ Viable read ∧
      (∀ token, next.peek = some token → ¬ Viable (read ++ [token])) ∧
      ¬ Sentence cursor.ahead ∧ rejection = next.refusal expected := by
  obtain ⟨read, left, expected, moves, leaves, blocked, same⟩ :=
    blocked_of_error classified rejected
  have stuck : ∀ rest, rest.head? = next.ahead.head? → ¬ Sentence (read ++ rest) := by
    intro rest head sentence
    exact Grammar.not_fills_of_blocked blocked head
      (leaves.fills_left unambiguous_command head sentence)
  refine ⟨read, expected, moves, ?_, ?_, ?_, same⟩
  · obtain ⟨rest, filled⟩ := Grammar.exists_fills left
    exact ⟨rest, leaves.fills filled⟩
  · rintro token under ⟨rest, sentence⟩
    rw [List.append_assoc] at sentence
    refine stuck ([token] ++ rest) ?_ sentence
    rw [← Cursor.peek_eq_head?, under]
    rfl
  · rw [moves.ahead]
    exact stuck next.ahead rfl

theorem exists_error_iff (classified : ∀ token ∈ cursor.tokens, token.Classified) :
    (∃ rejection next, command cursor = .error rejection next) ↔ ¬ Sentence cursor.ahead := by
  constructor
  · rintro ⟨rejection, next, rejected⟩
    obtain ⟨_, _, _, _, _, unfinished, _⟩ := viable_of_error classified rejected
    exact unfinished
  · intro unfinished
    cases run : command cursor with
    | ok said next => exact absurd (sentence_of_ok classified run).1 unfinished
    | error rejection next => exact ⟨rejection, next, rfl⟩

theorem exists_ok_of_sentence (classified : ∀ token ∈ cursor.tokens, token.Classified)
    (sentence : Sentence cursor.ahead) : ∃ said next, command cursor = .ok said next := by
  cases run : command cursor with
  | ok said next => exact ⟨said, next, rfl⟩
  | error rejection next =>
    exact absurd sentence ((exists_error_iff classified).mp ⟨rejection, next, run⟩)

/-- A reading is accepted when the tokens ahead have no misfit, and else rejected for it. -/
theorem outcome_of_command (classified : ∀ token ∈ cursor.tokens, token.Classified) :
    match command cursor with
    | .ok _ _ => misfit Grammar.command cursor.ahead = none
    | .error rejection _ => ∃ found, misfit Grammar.command cursor.ahead = some found ∧
        rejection = found.rejection cursor.stop := by
  cases run : command cursor with
  | ok said next =>
    have fits := (leaves_of_ok classified run).1.misfit_append
    rw [List.append_nil] at fits
    exact fits
  | error rejection next =>
    obtain ⟨read, left, expected, moves, leaves, blocked, same⟩ := blocked_of_error classified run
    rw [Grammar.refusal_eq, moves.stop] at same
    exact ⟨_, by rw [moves.ahead, leaves.misfit_append, blocked.misfit_eq], same⟩

end Reader

theorem parse_eq_ok_iff {source : String} {said : Command} :
    parse source = .ok said ↔ (Scan.ofText source).offender? = none ∧
      ∃ next, Reader.command (Cursor.ofScan (Scan.ofText source)) = .ok said next := by
  cases offends : (Scan.ofText source).offender? with
  | some token =>
    simp [parse, tokenize, Scan.checked, Scan.rejection?, offends, bind, Except.bind]
  | none =>
    cases run : Reader.command (Cursor.ofScan (Scan.ofText source)) <;>
      simp [parse, tokenize, Scan.checked, Scan.rejection?, offends, bind, Except.bind,
        Scan.command, run]

theorem parse_eq_error_iff {source : String} {rejection : Rejection} :
    parse source = .error rejection ↔
      (∃ token, (Scan.ofText source).offender? = some token ∧ rejection = .ofSymbol token) ∨
      (Scan.ofText source).offender? = none ∧
        ∃ next, Reader.command (Cursor.ofScan (Scan.ofText source)) = .error rejection next := by
  cases offends : (Scan.ofText source).offender? with
  | some token =>
    simp [parse, tokenize, Scan.checked, Scan.rejection?, offends, bind, Except.bind, eq_comm]
  | none =>
    cases run : Reader.command (Cursor.ofScan (Scan.ofText source)) <;>
      simp [parse, tokenize, Scan.checked, Scan.rejection?, offends, bind, Except.bind,
        Scan.command, run]

/-- A text is rejected for its first unknown symbol, or else for the misfit of its tokens. -/
theorem parse_eq_error_iff_misfit {source : String} {rejection : Rejection} :
    parse source = .error rejection ↔
      (∃ token, (Scan.ofText source).offender? = some token ∧ rejection = .ofSymbol token) ∨
      (Scan.ofText source).offender? = none ∧
        ∃ found, misfit Grammar.command (Scan.ofText source).tokens = some found ∧
          rejection = found.rejection (Scan.ofText source).stop := by
  have classified : ∀ token ∈ (Cursor.ofScan (Scan.ofText source)).tokens, token.Classified :=
    fun _ => Scan.classified_of_mem
  have outcome := Reader.outcome_of_command classified
  rw [parse_eq_error_iff]
  refine or_congr_right (and_congr_right fun _ => ?_)
  cases run : Reader.command (Cursor.ofScan (Scan.ofText source)) with
  | ok said next =>
    rw [run] at outcome
    have fits : misfit Grammar.command (Scan.ofText source).tokens = none := outcome
    simp [fits]
  | error other next =>
    rw [run] at outcome
    obtain ⟨found, misfits, rejected⟩ := outcome
    have misfits : misfit Grammar.command (Scan.ofText source).tokens = some found := misfits
    simp only [EStateM.Result.error.injEq, misfits, Option.some.injEq, exists_eq_left']
    rw [rejected]
    simp [Cursor.ofScan, eq_comm]

theorem symbol_or_blocked_of_parse {source : String} {rejection : Rejection}
    (rejected : parse source = .error rejection) :
    (∃ token ∈ (Scan.ofText source).tokens, rejection = .ofSymbol token) ∨
      ∃ next read left expected, (Cursor.ofScan (Scan.ofText source)).Moves read next ∧
        Leaves Grammar.command read next.ahead left ∧ Blocked left next.ahead expected ∧
        rejection = next.refusal expected := by
  rcases parse_eq_error_iff.mp rejected with ⟨token, offends, same⟩ | ⟨_, next, run⟩
  · exact .inl ⟨token, (List.mem_filter.mp (List.mem_of_find?_eq_some offends)).1, same⟩
  · exact .inr ⟨next, Reader.blocked_of_error (fun _ => Scan.classified_of_mem) run⟩

theorem offender?_eq_none_of_sentence {source : String}
    (sentence : Sentence (Scan.ofText source).tokens) :
    (Scan.ofText source).offender? = none := by
  refine List.find?_eq_none.mpr fun token member => ?_
  obtain ⟨scanned, symbol⟩ := List.mem_filter.mp member
  obtain ⟨slot, admitted⟩ := Grammar.Fills.exists_slot sentence token scanned
  have mark := Grammar.Slot.isMark_of_admits (Scan.classified_of_mem scanned) admitted
    (of_decide_eq_true symbol)
  simp [mark]

theorem Grammar.Says.unique {tokens : List Token} {one other : Command} (told : Says tokens one)
    (again : Says tokens other) : one = other := by
  obtain ⟨verb, palette, count, fromWord, separator, lexemes, opening⟩ := told
  obtain ⟨_, _, _, _, _, same, openingAgain⟩ := again
  rw [lexemes] at same
  simp only [List.cons.injEq] at same
  obtain ⟨rfl, rfl, size, -, -, shade, color, -, otherShade, otherColor, -⟩ := same
  obtain ⟨_, _, ⟨_, _⟩, ⟨_, _⟩⟩ := one
  obtain ⟨_, _, ⟨_, _⟩, ⟨_, _⟩⟩ := other
  simp only [Command.mk.injEq, Endpoint.mk.injEq]
  exact ⟨opening.trans openingAgain.symm, Nat.repr_injective size, ⟨shade, color⟩, otherShade,
    otherColor⟩

theorem sentence_of_parse {source : String} {said : Command} (accepted : parse source = .ok said) :
    Sentence (Scan.ofText source).tokens ∧ Says (Scan.ofText source).tokens said := by
  obtain ⟨_, next, run⟩ := parse_eq_ok_iff.mp accepted
  exact Reader.sentence_of_ok (fun _ => Scan.classified_of_mem) run

theorem parse_eq_ok_of_sentence {source : String} {said : Command}
    (sentence : Sentence (Scan.ofText source).tokens)
    (told : Says (Scan.ofText source).tokens said) : parse source = .ok said := by
  have classified : ∀ token ∈ (Cursor.ofScan (Scan.ofText source)).tokens, token.Classified :=
    fun _ member => Scan.classified_of_mem member
  obtain ⟨heard, next, run⟩ := Reader.exists_ok_of_sentence classified sentence
  have accepted : parse source = .ok heard :=
    parse_eq_ok_iff.mpr ⟨offender?_eq_none_of_sentence sentence, next, run⟩
  rwa [told.unique (sentence_of_parse accepted).2]

/-- A text is a command exactly when its tokens, with none left over, are a sentence of the grammar.
    The command is then the one that the sentence says. -/
theorem parse_accepts_sentences (source : String) :
    ((∃ said, parse source = .ok said) ↔ Sentence (Scan.ofText source).tokens) ∧
      ∀ said, parse source = .ok said ↔
        Sentence (Scan.ofText source).tokens ∧ Says (Scan.ofText source).tokens said := by
  have classified : ∀ token ∈ (Cursor.ofScan (Scan.ofText source)).tokens, token.Classified :=
    fun _ member => Scan.classified_of_mem member
  have complete : Sentence (Scan.ofText source).tokens → ∃ said, parse source = .ok said := by
    intro sentence
    obtain ⟨said, next, run⟩ := Reader.exists_ok_of_sentence classified sentence
    exact ⟨said, parse_eq_ok_iff.mpr ⟨offender?_eq_none_of_sentence sentence, next, run⟩⟩
  constructor
  · constructor
    · rintro ⟨said, accepted⟩
      exact (sentence_of_parse accepted).1
    · exact complete
  · intro said
    constructor
    · exact sentence_of_parse
    · rintro ⟨sentence, told⟩
      obtain ⟨other, accepted⟩ := complete sentence
      obtain ⟨_, otherTold⟩ := sentence_of_parse accepted
      rwa [told.unique otherTold]

/-- One parenthesis does without the other. -/
example : Sentence (Scan.ofText "make palette 2 color from (dark red : light green").tokens := by
  decide +kernel

/-- A digit two of another script is a number, but no size. -/
example : ¬ Sentence (Scan.ofText "make palette ２ color from dark red : light green").tokens := by
  decide +kernel

/-- A symbol that is none of the marks. -/
def Token.Offends (token : Token) : Prop :=
  token.kind = .symbol ∧ token.lexeme ∉ Vocabulary.marks

instance (token : Token) : Decidable token.Offends := inferInstanceAs (Decidable (_ ∧ _))

private theorem Scan.offender?_eq_find? (scan : Scan) :
    scan.offender? = scan.tokens.find? fun token => token.Offends := by
  rw [offender?, symbols, List.find?_filter]
  refine congrArg (fun fits => scan.tokens.find? fits) (funext fun token => ?_)
  rw [Bool.eq_iff_iff, decide_eq_true_iff (p := token.Offends)]
  simp [Token.Offends, Vocabulary.isMark]

theorem Scan.command_eq_ok_iff {scan : Scan} {said : Command} :
    scan.command = .ok said ↔ ∃ next, Reader.command (Cursor.ofScan scan) = .ok said next := by
  cases run : Reader.command (Cursor.ofScan scan) <;> simp [Scan.command, run]

theorem Scan.command_eq_error_iff {scan : Scan} {rejection : Rejection} :
    scan.command = .error rejection ↔
      ∃ next, Reader.command (Cursor.ofScan scan) = .error rejection next := by
  cases run : Reader.command (Cursor.ofScan scan) <;> simp [Scan.command, run]

/-- The check keeps no command out. When a text is no command with or without it, the text is
    rejected for its first token that offends, wherever it stands, or else as without the check. -/
theorem check_changes_rejection_alone (source : String) :
    match (Scan.ofText source).command, parse source with
    | .ok said, .ok heard => said = heard
    | .error unchecked, .error rejection =>
      (∃ before token behind, (Scan.ofText source).tokens = before ++ token :: behind ∧
        token.Offends ∧ (∀ earlier ∈ before, ¬ earlier.Offends) ∧ rejection = .ofSymbol token) ∨
      (∀ token ∈ (Scan.ofText source).tokens, ¬ token.Offends) ∧ rejection = unchecked
    | _, _ => False := by
  cases unchecked : (Scan.ofText source).command with
  | ok said =>
    obtain ⟨next, run⟩ := Scan.command_eq_ok_iff.mp unchecked
    have sentence := (Reader.sentence_of_ok (fun _ => Scan.classified_of_mem) run).1
    have accepted := parse_eq_ok_iff.mpr ⟨offender?_eq_none_of_sentence sentence, next, run⟩
    rw [accepted]
  | error other =>
    obtain ⟨next, run⟩ := Scan.command_eq_error_iff.mp unchecked
    cases offends : (Scan.ofText source).offender? with
    | none =>
      have rejected := parse_eq_error_iff.mpr (.inr ⟨offends, next, run⟩)
      rw [Scan.offender?_eq_find?, List.find?_eq_none] at offends
      rw [rejected]
      exact .inr ⟨by simpa using offends, rfl⟩
    | some token =>
      have rejected := parse_eq_error_iff.mpr (.inl ⟨token, offends, rfl⟩)
      rw [Scan.offender?_eq_find?, List.find?_eq_some_iff_append] at offends
      obtain ⟨offending, before, behind, split, earlier⟩ := offends
      rw [rejected]
      exact .inl ⟨before, token, behind, split, by simpa using offending, by simpa using earlier,
        rfl⟩

/-- An unknown symbol is what counts, though the second word is already one too many. -/
example : parse "make make #" = .error (.ofSymbol ⟨.symbol, "#", ⟨⟨1, 10⟩, 1⟩⟩) := by
  decide +kernel

/-- A reading from anywhere in a scan is rejected unless the tokens from there on are a sentence. It
    has then read tokens with which a sentence can begin, and rejects the first with which none goes
    on, or the end when they are not yet a sentence. -/
theorem rejected_at_first_misfit (source : String) (scan : Scan) (start : Nat)
    (scanned : tokenize source = .ok scan ∨ scan = Scan.ofText source)
    (inside : start ≤ scan.tokens.length) :
    ((∃ rejection next,
        Reader.command ⟨scan.tokens, start, scan.stop⟩ = .error rejection next) ↔
      ¬ Sentence (scan.tokens.drop start)) ∧
    ∀ rejection next, Reader.command ⟨scan.tokens, start, scan.stop⟩ = .error rejection next →
      start ≤ next.position ∧ next.position ≤ scan.tokens.length ∧
        Viable (scan.tokens.extract start next.position) ∧
        match scan.tokens[next.position]? with
        | some token =>
          ¬ Viable (scan.tokens.extract start (next.position + 1)) ∧
            (∃ expected, rejection.cause = .unexpected expected (.token token.lexeme)) ∧
            rejection.span = token.span
        | none =>
          ¬ Sentence (scan.tokens.drop start) ∧
            (∃ expected, rejection.cause = .unexpected expected .endOfInput) ∧
            rejection.span = scan.stop := by
  have classified := Scan.classified_of_scanned scanned
  refine ⟨Reader.exists_error_iff classified, ?_⟩
  intro rejection next rejected
  obtain ⟨read, expected, moves, viable, misfit, unfinished, rfl⟩ :=
    Reader.viable_of_error classified rejected
  have position : next.position = start + read.length := moves.position
  have under : next.peek = scan.tokens[next.position]? := by rw [Cursor.peek, moves.tokens]
  refine ⟨by omega, moves.position_le inside, moves.extract.symm ▸ viable, ?_⟩
  cases fetched : scan.tokens[next.position]? with
  | some token =>
    rw [fetched] at under
    refine ⟨?_, ⟨expected, ?_⟩, ?_⟩
    · rw [moves.extract_succ under]
      exact misfit token under
    · simp only [Cursor.refusal, Cursor.rejection, Rejection.ofFound, Cursor.found, under]
    · simp only [Cursor.refusal, Cursor.rejection, Rejection.ofFound, Cursor.span, under]
  | none =>
    rw [fetched] at under
    refine ⟨unfinished, ⟨expected, ?_⟩, ?_⟩
    · simp only [Cursor.refusal, Cursor.rejection, Rejection.ofFound, Cursor.found, under]
    · simp only [Cursor.refusal, Cursor.rejection, Rejection.ofFound, Cursor.span, under,
        moves.stop]

theorem second_parenthesis_rejected :
    let scan := Scan.ofText "# make palette 4 colors from ( ( light"
    let next : Cursor := ⟨scan.tokens, 7, scan.stop⟩
    Reader.command ⟨scan.tokens, 1, scan.stop⟩ = .error (next.refusal .adjective) next ∧
      Viable (scan.tokens.extract 1 7) ∧ ¬ Viable (scan.tokens.extract 1 8) := by
  intro scan next
  have scanned : scan = Scan.ofText "# make palette 4 colors from ( ( light" := rfl
  clear_value scan
  have rejected : Reader.command ⟨scan.tokens, 1, scan.stop⟩ =
      .error (next.refusal .adjective) next := by
    subst scanned
    rfl
  have inside : 1 ≤ scan.tokens.length := by
    rw [scanned]
    decide +kernel
  have parenthesis : scan.tokens[7]? = some ⟨.symbol, "(", ⟨⟨1, 31⟩, 1⟩⟩ := by
    rw [scanned]
    decide +kernel
  obtain ⟨_, stops⟩ := rejected_at_first_misfit _ scan 1 (.inr scanned) inside
  obtain ⟨_, _, viable, misfit⟩ := stops _ next rejected
  rw [parenthesis] at misfit
  exact ⟨rejected, viable, misfit.1⟩

end Palette
