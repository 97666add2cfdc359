import Palette.Proofs.Spelling
import Palette.Proofs.Strides

/-!
# Ways to ask for one token

A token of a scan has the kind of its lexeme, so on every cursor that steps lead to
(`Cursor.Reached`) it does not matter whether a token is asked for by its kind, its uppercase or its
spelling (`checks_agree`).
-/

namespace Palette

/-- A cursor that steps lead to from the first token of a scan. -/
inductive Cursor.Reached (scan : Scan) : Cursor → Prop
  | start : Reached scan (ofScan scan)
  | next {cursor : Cursor} (step : Step) : Reached scan cursor → Reached scan (step.run cursor).2

theorem Cursor.Reached.inside {scan : Scan} {cursor : Cursor} (reached : cursor.Reached scan) :
    cursor.tokens = scan.tokens ∧ cursor.position ≤ cursor.tokens.length := by
  induction reached with
  | start => exact ⟨rfl, Nat.zero_le _⟩
  | next step _ ih =>
    obtain ⟨tokens, inside⟩ := ih
    have kept := Step.keeps_run inside step
    exact ⟨kept.tokens.trans tokens, kept.inside⟩

/-- The kinds that have a table, each with its words. -/
def Kind.tables : List (Kind × List String) :=
  [(.keyword, Vocabulary.keywords), (.color, Vocabulary.colors),
   (.adjective, Vocabulary.adjectives)]

namespace Token

variable {token : Token}

private theorem kind_eq_iff_of_mem_tables {kind : Kind} {words : List String}
    (classified : token.Classified) (table : (kind, words) ∈ Kind.tables) :
    token.kind = kind ↔ token.upper ∈ words := by
  rw [classified]
  simp only [Kind.tables, List.mem_cons, Prod.mk.injEq, List.not_mem_nil, or_false] at table
  rcases table with ⟨rfl, rfl⟩ | ⟨rfl, rfl⟩ | ⟨rfl, rfl⟩
  · exact Kind.ofLexeme_eq_keyword_iff
  · exact Kind.ofLexeme_eq_color_iff
  · exact Kind.ofLexeme_eq_adjective_iff

private theorem symbol_iff_upper_eq {spelling : String} (classified : token.Classified)
    (parenthesis : spelling ∈ ["(", ")"]) :
    token.kind = .symbol ∧ token.lexeme = spelling ↔ token.upper = spelling := by
  have marks : (["(", ")"].all fun word => word.toList.all Text.isCaseless) = true := by
    decide +kernel
  have caseless : ∀ c ∈ spelling.toList, Text.isCaseless c = true :=
    List.all_eq_true.mp (List.all_eq_true.mp marks spelling parenthesis)
  have spelled : token.upper = spelling ↔ token.lexeme = spelling :=
    Text.upper_eq_iff_of_caseless caseless
  rw [spelled]
  constructor
  · exact And.right
  · intro same
    refine ⟨?_, same⟩
    rw [classified, same]
    exact Kind.ofLexeme_of_mem_parentheses parenthesis

end Token

namespace Step

/-- What a step that asks for one token expects it to be. -/
def expected? : Step → Option Expectation
  | .word uppercase => some (.word uppercase)
  | .oneOf words => some (.oneOf words)
  | .ofKind _ expected => some expected
  | _ => none

variable {cursor next : Cursor} {step one other : Step} {token : Token}
  {expected otherExpected : Expectation}

theorem run_of_fits (asks : step.expected? = some expected) (under : cursor.peek = some token)
    (fits : step.Fits token) : step.run cursor = (.token token, cursor.advance) := by
  cases step with
  | word uppercase | oneOf words | ofKind kind wanted =>
    simp only [Fits] at fits
    simp [run, Reader.answer, Reader.word, Reader.oneOf, Reader.ofKind, Reader.token, under,
      Option.guard, fits]
  | advance | peek | found | reject _ | checkSymbol _ | symbol _ | command => cases asks

theorem run_of_unfit (asks : step.expected? = some expected)
    (unfit : ∀ token, cursor.peek = some token → ¬ step.Fits token) :
    step.run cursor = (.rejected (cursor.rejection expected), cursor) := by
  cases step with
  | word uppercase | oneOf words | ofKind kind wanted =>
    cases asks
    cases under : cursor.peek with
    | none =>
      simp [run, Reader.answer, Reader.word, Reader.oneOf, Reader.ofKind, Reader.token, under]
    | some token =>
      have refused := unfit token under
      simp only [Fits] at refused
      simp [run, Reader.answer, Reader.word, Reader.oneOf, Reader.ofKind, Reader.token, under,
        Option.guard, refused]
  | advance | peek | found | reject _ | checkSymbol _ | symbol _ | command => cases asks

private theorem run_eq_token_iff (asks : step.expected? = some expected) :
    step.run cursor = (.token token, next) ↔
      cursor.peek = some token ∧ step.Fits token ∧ next = cursor.advance := by
  constructor
  · intro taken
    by_cases fit : ∃ found, cursor.peek = some found ∧ step.Fits found
    · obtain ⟨found, under, fits⟩ := fit
      rw [run_of_fits asks under fits] at taken
      cases taken
      exact ⟨under, fits, rfl⟩
    · push Not at fit
      rw [run_of_unfit asks fit] at taken
      cases taken
  · rintro ⟨under, fits, rfl⟩
    exact run_of_fits asks under fits

/-- Two outcomes that leave the same cursor, and either take the same token or reject what is found
    at the same place. A symbol that is left out counts as a token that is rejected. -/
def Agree (outcome otherOutcome : Answer × Cursor) : Prop :=
  outcome.2 = otherOutcome.2 ∧
    match outcome.1, otherOutcome.1 with
    | .token token, .token otherToken => token = otherToken
    | .rejected rejection, .rejected otherRejection =>
      rejection.cause.subject = otherRejection.cause.subject ∧
        rejection.span = otherRejection.span
    | .flag true, .token _ | .flag false, .rejected _ => True
    | _, _ => False

private theorem agree_of_fits_iff (asks : one.expected? = some expected)
    (otherAsks : other.expected? = some otherExpected)
    (same : ∀ token, cursor.peek = some token → (one.Fits token ↔ other.Fits token)) :
    Agree (one.run cursor) (other.run cursor) := by
  by_cases fit : ∃ token, cursor.peek = some token ∧ one.Fits token
  · obtain ⟨token, under, fits⟩ := fit
    rw [run_of_fits asks under fits, run_of_fits otherAsks under ((same token under).mp fits)]
    exact ⟨rfl, rfl⟩
  · push Not at fit
    have unfit : ∀ token, cursor.peek = some token → ¬ other.Fits token :=
      fun token under => mt (same token under).mpr (fit token under)
    rw [run_of_unfit asks fit, run_of_unfit otherAsks unfit]
    exact ⟨rfl, rfl, rfl⟩

private theorem agree_symbol_word {spelling : String}
    (same : ∀ token, cursor.peek = some token →
      ((Step.symbol spelling).Fits token ↔ (Step.word spelling).Fits token)) :
    Agree ((Step.symbol spelling).run cursor) ((Step.word spelling).run cursor) := by
  by_cases there : cursor.checkSymbol spelling = true
  · obtain ⟨token, under, fits⟩ := Cursor.checkSymbol_iff.mp there
    rw [run_of_fits rfl under ((same token under).mp fits)]
    simp [run, Reader.answer, Reader.symbol, there, Agree]
  · have unfit : ∀ token, cursor.peek = some token → ¬ (Step.word spelling).Fits token := by
      intro token under fits
      exact there (Cursor.checkSymbol_iff.mpr ⟨token, under, (same token under).mpr fits⟩)
    rw [run_of_unfit rfl unfit]
    simp [run, Reader.answer, Reader.symbol, there, Agree]

private theorem agree_of_rejected {rejection otherRejection : Rejection}
    (asks : one.expected? = some expected) (otherAsks : other.expected? = some otherExpected)
    (rejected : (one.run cursor).1 = .rejected rejection)
    (otherRejected : (other.run cursor).1 = .rejected otherRejection) :
    Agree (one.run cursor) (other.run cursor) := by
  have unfit {step : Step} {wanted : Expectation} {refusal : Rejection}
      (asks : step.expected? = some wanted) (refused : (step.run cursor).1 = .rejected refusal) :
      ∀ token, cursor.peek = some token → ¬ step.Fits token := by
    intro token under fits
    rw [run_of_fits asks under fits] at refused
    cases refused
  rw [run_of_unfit asks (unfit asks rejected),
    run_of_unfit otherAsks (unfit otherAsks otherRejected)]
  exact ⟨rfl, rfl, rfl⟩

end Step

/-- On every cursor that steps have led to, a kind and the words of its table ask for the same, and
    so do a parenthesis and the word for it, and a list of words and one of them. Two steps that
    both reject a token have found the same at the same place. -/
theorem checks_agree (source : String) (scan : Scan) (cursor : Cursor)
    (scanned : tokenize source = .ok scan ∨ scan = Scan.ofText source)
    (reached : cursor.Reached scan) :
    (∀ kind words, (kind, words) ∈ Kind.tables → ∀ expected,
      Step.Agree ((Step.ofKind kind expected).run cursor) ((Step.oneOf words).run cursor)) ∧
    (∀ spelling ∈ ["(", ")"],
      Step.Agree ((Step.symbol spelling).run cursor) ((Step.word spelling).run cursor)) ∧
    (∀ words token next, (Step.oneOf words).run cursor = (.token token, next) ↔
      ∃ word ∈ words, (Step.word word).run cursor = (.token token, next)) ∧
    ∀ one other : Step, one.expected?.isSome = true → other.expected?.isSome = true →
      ∀ rejection otherRejection, (one.run cursor).1 = .rejected rejection →
        (other.run cursor).1 = .rejected otherRejection →
          Step.Agree (one.run cursor) (other.run cursor) := by
  have classified : ∀ token, cursor.peek = some token → token.Classified := by
    intro token under
    have member := List.mem_of_getElem? under
    rw [reached.inside.1] at member
    exact Scan.classified_of_scanned scanned token member
  refine ⟨?_, ?_, ?_, ?_⟩
  · intro kind words table expected
    refine Step.agree_of_fits_iff rfl rfl fun token under => ?_
    exact Token.kind_eq_iff_of_mem_tables (classified token under) table
  · intro spelling parenthesis
    refine Step.agree_symbol_word fun token under => ?_
    exact Token.symbol_iff_upper_eq (classified token under) parenthesis
  · intro words token next
    rw [Step.run_eq_token_iff rfl]
    constructor
    · rintro ⟨under, fits, rfl⟩
      exact ⟨token.upper, fits, (Step.run_eq_token_iff rfl).mpr ⟨under, rfl, rfl⟩⟩
    · rintro ⟨word, member, taken⟩
      obtain ⟨under, fits, rfl⟩ := (Step.run_eq_token_iff rfl).mp taken
      have listed : token.upper ∈ words := by
        rw [show token.upper = word from fits]
        exact member
      exact ⟨under, listed, rfl⟩
  · intro one other asks otherAsks rejection otherRejection rejected otherRejected
    obtain ⟨expected, asks⟩ := Option.isSome_iff_exists.mp asks
    obtain ⟨otherExpected, otherAsks⟩ := Option.isSome_iff_exists.mp otherAsks
    exact Step.agree_of_rejected asks otherAsks rejected otherRejected

/-- A keyword with a long s, two tokens behind an unknown symbol that no step takes. -/
theorem keyword_taken_with_long_letter :
    let scan := Scan.ofText "# make colorſ ("
    let token : Token := ⟨.keyword, "colorſ", ⟨⟨1, 7⟩, 6⟩⟩
    let cursor : Cursor := ⟨scan.tokens, 2, scan.stop⟩
    cursor.Reached scan ∧
      (Step.oneOf Vocabulary.keywords).run cursor = (.token token, cursor.advance) ∧
      Step.Agree ((Step.ofKind .keyword .size).run cursor)
        ((Step.oneOf Vocabulary.keywords).run cursor) ∧
      Step.Agree ((Step.symbol "(").run cursor) ((Step.word "(").run cursor) ∧
      ∃ word ∈ Vocabulary.keywords,
        (Step.word word).run cursor = (.token token, cursor.advance) := by
  intro scan token cursor
  have reached : cursor.Reached scan := by
    have moved : ((Step.advance.run (Step.advance.run (Step.command.run
        (Cursor.ofScan scan)).2).2).2) = cursor := by decide +kernel
    exact moved ▸ .next .advance (.next .advance (.next .command .start))
  have taken : (Step.oneOf Vocabulary.keywords).run cursor = (.token token, cursor.advance) := by
    decide +kernel
  obtain ⟨kinds, parentheses, listed, _⟩ :=
    checks_agree "# make colorſ (" scan cursor (.inr rfl) reached
  exact ⟨reached, taken, kinds .keyword _ (by decide) .size, parentheses "(" (by decide),
    (listed _ _ _).mp taken⟩

end Palette
