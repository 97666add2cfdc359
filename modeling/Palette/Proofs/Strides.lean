import Palette.Proofs.Recognition
import Palette.Steps

/-!
# How far steps go

A reader that is put together from readers of single tokens (`Reader.Made`) passes no more tokens
than its parts take at the most (`Reader.Made.goes`). So each step passes as many tokens as its
answer says (`trace_orderly`).
-/

namespace Palette

namespace Reader

variable {α β : Type} {reader : Reader α} {cursor next : Cursor} {least most : Nat}

/-- A reader made of readers of single tokens, with the numbers of tokens it takes at the least and
    at the most. -/
inductive Made : {α : Type} → Nat → Nat → Reader α → Prop
  | pure {α : Type} (value : α) : Made 0 0 (pure value)
  | token {α : Type} (expected : Expectation) (value? : Token → Option α) :
      Made 1 1 (Reader.token expected value?)
  | advised {α : Type} {reader : Reader α} {least most : Nat} (advice : String) :
      Made least most reader → Made least most (reader.advised advice)
  | symbol (spelling : String) : Made 0 1 (Reader.symbol spelling)
  | finish : Made 0 0 Reader.finish
  | bind {α β : Type} {reader : Reader α} {further : α → Reader β} {least most more limit : Nat} :
      Made least most reader → (∀ value, Made more limit (further value)) →
        Made (least + more) (most + limit) (reader >>= further)

private theorem made_endpoint : Made 2 2 endpoint :=
  .bind (.advised _ (.token ..)) fun _ => .bind (.advised _ (.token ..)) fun _ => .pure _

theorem made_command : Made 10 12 command :=
  .bind (.token ..) fun _ => .bind (.token ..) fun _ => .bind (.advised _ (.token ..)) fun _ =>
    .bind (.token ..) fun _ => .bind (.token ..) fun _ => .bind (.symbol _) fun _ =>
    .bind made_endpoint fun _ => .bind (.token ..) fun _ => .bind made_endpoint fun _ =>
    .bind (.symbol _) fun _ => .bind .finish fun _ => .pure _

/-- Whether it accepts or not, a reader passes no more tokens than it may. -/
def Goes (reader : Reader α) (least most : Nat) : Prop :=
  ∀ cursor : Cursor,
    match reader cursor with
    | .ok _ next => ∃ read, cursor.Moves read next ∧ least ≤ read.length ∧ read.length ≤ most
    | .error _ next => ∃ read, cursor.Moves read next ∧ read.length ≤ most

theorem Goes.position_le (goes : reader.Goes least most) (cursor : Cursor) :
    match reader cursor with
    | .ok _ next | .error _ next => cursor.position ≤ next.position := by
  have outcome := goes cursor
  cases run : reader cursor with
  | ok value next | error rejection next =>
    rw [run] at outcome
    obtain ⟨read, moves, _⟩ := outcome
    dsimp only
    rw [moves.position]
    exact Nat.le_add_right _ _

theorem goes_bind {further : α → Reader β} {more limit : Nat} (first : reader.Goes least most)
    (second : ∀ value, (further value).Goes more limit) :
    (reader >>= further).Goes (least + more) (most + limit) := by
  intro cursor
  have begun := first cursor
  cases run : reader cursor with
  | error rejection next =>
    rw [run] at begun
    obtain ⟨read, moves, short⟩ := begun
    rw [EStateM.bind_of_error run]
    exact ⟨read, moves, by omega⟩
  | ok value middle =>
    rw [run] at begun
    obtain ⟨front, moves, long, short⟩ := begun
    have ended := second value middle
    rw [EStateM.bind_of_ok run]
    cases rest : further value middle with
    | ok result next =>
      rw [rest] at ended
      obtain ⟨back, movesOn, longOn, shortOn⟩ := ended
      refine ⟨front ++ back, moves.trans movesOn, ?_, ?_⟩ <;> rw [List.length_append] <;> omega
    | error rejection next =>
      rw [rest] at ended
      obtain ⟨back, movesOn, shortOn⟩ := ended
      refine ⟨front ++ back, moves.trans movesOn, ?_⟩
      rw [List.length_append]
      omega

theorem Made.goes (made : Made least most reader) : reader.Goes least most := by
  induction made with
  | pure value => exact fun cursor => ⟨[], cursor.moves_refl, by simp⟩
  | token expected value? =>
    intro cursor
    cases found : cursor.peek.bind value? with
    | none =>
      simp only [Reader.token, found]
      exact ⟨[], cursor.moves_refl, by simp⟩
    | some value =>
      obtain ⟨under, same, _⟩ := Option.bind_eq_some_iff.mp found
      simp only [Reader.token, found]
      exact ⟨[under], Cursor.moves_advance same, by simp⟩
  | @advised α reader least most advice _ ih =>
    intro cursor
    have outcome := ih cursor
    cases run : reader cursor with
    | ok value next =>
      rw [run] at outcome
      rw [advised_of_ok run]
      exact outcome
    | error rejection next =>
      rw [run] at outcome
      rw [advised_of_error run]
      exact outcome
  | symbol spelling =>
    intro cursor
    by_cases there : cursor.checkSymbol spelling = true
    · obtain ⟨under, same, _⟩ := Cursor.checkSymbol_iff.mp there
      simp only [Reader.symbol, there, if_true]
      exact ⟨[under], Cursor.moves_advance same, by simp⟩
    · simp only [Reader.symbol, there]
      exact ⟨[], cursor.moves_refl, by simp⟩
  | finish =>
    intro cursor
    by_cases ended : cursor.atEnd = true
    · simp only [Reader.finish, ended, if_true]
      exact ⟨[], cursor.moves_refl, by simp⟩
    · simp only [Reader.finish, ended]
      exact ⟨[], cursor.moves_refl, by simp⟩
  | bind _ _ first second => exact goes_bind first second

/-- A reader that leaves no token behind what it accepts. -/
def Closes (reader : Reader α) : Prop :=
  ∀ cursor value next, reader cursor = .ok value next → next.ahead = []

theorem closes_bind {further : α → Reader β} (closes : ∀ value, (further value).Closes) :
    (reader >>= further).Closes := by
  intro cursor result next run
  cases first : reader cursor with
  | error rejection middle =>
    rw [EStateM.bind_of_error first] at run
    cases run
  | ok value middle =>
    rw [EStateM.bind_of_ok first] at run
    exact closes value middle result next run

private theorem closes_finish (value : α) : Closes (do finish; return value) := by
  intro cursor result next run
  by_cases ended : cursor.atEnd = true
  · have finished : finish cursor = .ok () cursor := by simp only [finish, ended, if_true]
    rw [EStateM.bind_of_ok finished] at run
    cases run
    exact cursor.atEnd_iff.mp ended
  · have refused : finish cursor = .error (cursor.rejection .endOfInput) cursor := by
      simp only [finish, ended]
      rfl
    rw [EStateM.bind_of_error refused] at run
    cases run

theorem closes_command : command.Closes :=
  closes_bind fun _ => closes_bind fun _ => closes_bind fun _ => closes_bind fun _ =>
    closes_bind fun _ => closes_bind fun _ => closes_bind fun _ => closes_bind fun _ =>
    closes_bind fun _ => closes_bind fun _ => closes_finish _

end Reader

namespace Step

/-- Whether a token is one that a step takes. -/
def Fits (token : Token) : Step → Prop
  | .symbol spelling => token.kind = .symbol ∧ token.lexeme = spelling
  | .word uppercase => token.upper = uppercase
  | .oneOf words => token.upper ∈ words
  | .ofKind kind _ => token.kind = kind
  | _ => False

/-- What a step may answer at a cursor if it passes a number of tokens. -/
def Allows (cursor : Cursor) : Step → Answer → Nat → Prop
  | .advance, .done, passed => passed = if cursor.atEnd then 0 else 1
  | .peek, .peeked _, passed | .found, .found _, passed | .reject _, .rejected _, passed
  | .checkSymbol _, .flag _, passed => passed = 0
  | step@(.symbol _), .flag true, passed =>
    passed = 1 ∧ ∃ token, cursor.peek = some token ∧ step.Fits token
  | step@(.word _), .token token, passed | step@(.oneOf _), .token token, passed
  | step@(.ofKind _ _), .token token, passed =>
    passed = 1 ∧ cursor.peek = some token ∧ step.Fits token
  | step@(.symbol _), .flag false, passed | step@(.word _), .rejected _, passed
  | step@(.oneOf _), .rejected _, passed | step@(.ofKind _ _), .rejected _, passed =>
    passed = 0 ∧ ∀ token, cursor.peek = some token → ¬ step.Fits token
  | .command, .command _, passed =>
    10 ≤ passed ∧ passed ≤ 12 ∧ cursor.position + passed = cursor.tokens.length
  | .command, .rejected _, passed => passed ≤ 12
  | _, _, _ => False

/-- A step leaves the cursor among the same tokens, no further on than the end, and further on by as
    many tokens as the answer allows. -/
structure Keeps (step : Step) (cursor : Cursor) (answer : Answer) (next : Cursor) : Prop where
  tokens : next.tokens = cursor.tokens
  stop : next.stop = cursor.stop
  forward : cursor.position ≤ next.position
  inside : next.position ≤ next.tokens.length
  atEnd_iff : next.atEnd = true ↔ next.position = next.tokens.length
  allowed : step.Allows cursor answer (next.position - cursor.position)

/-- Outcomes of steps that all leave the cursor in order, each from where the one before left it. -/
inductive Orderly : Cursor → List Step → List (Answer × Cursor) → Prop
  | nil {cursor : Cursor} : Orderly cursor [] []
  | cons {cursor next : Cursor} {step : Step} {steps : List Step} {answer : Answer}
      {outcomes : List (Answer × Cursor)} :
      step.Keeps cursor answer next → Orderly next steps outcomes →
        Orderly cursor (step :: steps) ((answer, next) :: outcomes)

variable {cursor next : Cursor} {step : Step} {answer : Answer}

private theorem keeps_of_moves {read : List Token} (inside : cursor.position ≤ cursor.tokens.length)
    (moves : cursor.Moves read next) (allowed : step.Allows cursor answer read.length) :
    step.Keeps cursor answer next := by
  have within := moves.position_le inside
  rw [← moves.tokens] at within
  refine ⟨moves.tokens, moves.stop, ?_, within, ?_, ?_⟩
  · rw [moves.position]
    omega
  · simp only [Cursor.atEnd, decide_eq_true_iff]
    omega
  · rwa [moves.position, Nat.add_sub_cancel_left]

private theorem exists_moves_guard {fits : Token → Bool} {expected : Expectation}
    (runs : step.run cursor = (Reader.token expected (Option.guard fits)).answer .token cursor)
    (agrees : ∀ token, fits token = true ↔ step.Fits token)
    (taken : ∀ token, cursor.peek = some token → step.Fits token →
      step.Allows cursor (.token token) 1)
    (refused : ∀ rejection, (∀ token, cursor.peek = some token → ¬ step.Fits token) →
      step.Allows cursor (.rejected rejection) 0) :
    ∃ read, cursor.Moves read (step.run cursor).2 ∧
      step.Allows cursor (step.run cursor).1 read.length := by
  cases found : cursor.peek.bind (Option.guard fits) with
  | none =>
    simp only [runs, Reader.answer, Reader.token, found]
    refine ⟨[], cursor.moves_refl, refused _ ?_⟩
    intro token under fit
    simp [under, Option.guard, (agrees token).mpr fit] at found
  | some token =>
    obtain ⟨other, under, guarded⟩ := Option.bind_eq_some_iff.mp found
    obtain ⟨rfl, fit⟩ := Option.guard_eq_some_iff.mp guarded
    simp only [runs, Reader.answer, Reader.token, found]
    exact ⟨[other], Cursor.moves_advance under, taken other under ((agrees other).mp fit)⟩

/-- Every step moves the cursor over the tokens that it passes, as many as its answer allows. -/
private theorem exists_moves_run (inside : cursor.position ≤ cursor.tokens.length) (step : Step) :
    ∃ read, cursor.Moves read (step.run cursor).2 ∧
      step.Allows cursor (step.run cursor).1 read.length := by
  cases step with
  -- Questions leave the cursor where it is.
  | peek | found | reject expected | checkSymbol spelling => exact ⟨[], cursor.moves_refl, rfl⟩
  | advance =>
    cases under : cursor.peek with
    | none =>
      have ended : cursor.tokens.length ≤ cursor.position := List.getElem?_eq_none_iff.mp under
      have stays : cursor.advance = cursor := by simp [Cursor.advance, ended]
      refine ⟨[], ?_, ?_⟩
      · rw [run, stays]
        exact cursor.moves_refl
      · simp [run, Allows, Cursor.atEnd, ended]
    | some token =>
      have ahead : cursor.position < cursor.tokens.length := (List.getElem?_eq_some_iff.mp under).1
      refine ⟨[token], Cursor.moves_advance under, ?_⟩
      simp [run, Allows, Cursor.atEnd, ahead]
  | symbol spelling =>
    by_cases there : cursor.checkSymbol spelling = true
    · obtain ⟨token, under, fits⟩ := Cursor.checkSymbol_iff.mp there
      simp only [run, Reader.answer, Reader.symbol, there, if_true]
      exact ⟨[token], Cursor.moves_advance under, rfl, token, under, fits⟩
    · simp only [run, Reader.answer, Reader.symbol, there]
      refine ⟨[], cursor.moves_refl, rfl, ?_⟩
      intro token under fits
      exact there (Cursor.checkSymbol_iff.mpr ⟨token, under, fits⟩)
  | word uppercase =>
    exact exists_moves_guard rfl (fun _ => decide_eq_true_iff)
      (fun _ under fits => ⟨rfl, under, fits⟩) fun _ unfit => ⟨rfl, unfit⟩
  | oneOf words =>
    exact exists_moves_guard rfl (fun _ => List.contains_iff_mem)
      (fun _ under fits => ⟨rfl, under, fits⟩) fun _ unfit => ⟨rfl, unfit⟩
  | ofKind kind expected =>
    exact exists_moves_guard rfl (fun _ => decide_eq_true_iff)
      (fun _ under fits => ⟨rfl, under, fits⟩) fun _ unfit => ⟨rfl, unfit⟩
  | command =>
    have goes := Reader.made_command.goes cursor
    cases read : Reader.command cursor with
    | error rejection next =>
      rw [read] at goes
      obtain ⟨passed, moves, short⟩ := goes
      simp only [run, Reader.answer, read]
      exact ⟨passed, moves, short⟩
    | ok said next =>
      rw [read] at goes
      obtain ⟨passed, moves, long, short⟩ := goes
      simp only [run, Reader.answer, read]
      refine ⟨passed, moves, long, short, ?_⟩
      have lengths := congrArg List.length moves.ahead
      rw [Reader.closes_command cursor said next read, Cursor.ahead, List.length_drop,
        List.append_nil] at lengths
      omega

theorem keeps_run (inside : cursor.position ≤ cursor.tokens.length) (step : Step) :
    step.Keeps cursor (step.run cursor).1 (step.run cursor).2 := by
  obtain ⟨read, moves, allowed⟩ := exists_moves_run inside step
  exact keeps_of_moves inside moves allowed

theorem orderly_trace (inside : cursor.position ≤ cursor.tokens.length) (steps : List Step) :
    Orderly cursor steps (trace cursor steps) := by
  induction steps generalizing cursor with
  | nil => exact .nil
  | cons step rest ih =>
    have kept := keeps_run inside step
    exact .cons kept (ih kept.inside)

end Step

/-- Whatever steps are taken on a scan from its first token on, each leaves the cursor in order. -/
theorem trace_orderly (scan : Scan) (steps : List Step) :
    Step.Orderly (Cursor.ofScan scan) steps (Step.trace (Cursor.ofScan scan) steps) :=
  Step.orderly_trace (Nat.zero_le _) steps

/-- A command that is rejected at its fifth token, and steps past the end. -/
example :
    (Step.trace (Cursor.ofScan (Scan.ofText "make palette 6 color (")) [.command, .symbol "(",
      .advance, .peek]).map (·.2.position) = [4, 5, 5, 5] := by
  decide +kernel

end Palette
