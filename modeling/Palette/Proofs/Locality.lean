import Mathlib.Data.List.Forall2
import Palette.Proofs.Strides

/-!
# What readers know

What a cursor has left behind does not matter to a reader (`trace_forgets_consumed`), nor do the
tokens behind the one where it stops (`Reader.Made.looks_no_further`).
-/

namespace Palette

/-- One cursor has the same ahead as another, and some tokens more behind it. -/
structure Cursor.Beyond (cursor : Cursor) (distance : Nat) (other : Cursor) : Prop where
  ahead : cursor.ahead = other.ahead
  stop : cursor.stop = other.stop
  position : cursor.position = distance + other.position

namespace Cursor.Beyond

variable {cursor other : Cursor} {distance : Nat}

theorem peek_eq (beyond : cursor.Beyond distance other) : cursor.peek = other.peek := by
  rw [peek_eq_head?, peek_eq_head?, beyond.ahead]

theorem found_eq (beyond : cursor.Beyond distance other) : cursor.found = other.found := by
  rw [found, found, beyond.peek_eq]

theorem rejection_eq (beyond : cursor.Beyond distance other) (expected : Expectation) :
    cursor.rejection expected = other.rejection expected := by
  rw [rejection, rejection, beyond.found_eq, span, span, beyond.peek_eq, beyond.stop]

theorem checkSymbol_eq (beyond : cursor.Beyond distance other) (spelling : String) :
    cursor.checkSymbol spelling = other.checkSymbol spelling := by
  rw [checkSymbol, checkSymbol, beyond.peek_eq]

theorem atEnd_eq (beyond : cursor.Beyond distance other) : cursor.atEnd = other.atEnd := by
  rw [Bool.eq_iff_iff, atEnd_iff, atEnd_iff, beyond.ahead]

theorem advance (beyond : cursor.Beyond distance other) :
    cursor.advance.Beyond distance other.advance := by
  cases under : other.peek with
  | none =>
    have stays : ∀ place : Cursor, place.peek = none → place.advance = place := by
      intro place nothing
      simp [Cursor.advance, List.getElem?_eq_none_iff.mp nothing]
    rw [stays other under, stays cursor (beyond.peek_eq.trans under)]
    exact beyond
  | some token =>
    have moves := moves_advance (beyond.peek_eq.trans under)
    have otherMoves := moves_advance under
    have same := beyond.ahead
    rw [moves.ahead, otherMoves.ahead] at same
    refine ⟨List.append_cancel_left same, ?_, ?_⟩
    · rw [moves.stop, otherMoves.stop, beyond.stop]
    · rw [moves.position, otherMoves.position, beyond.position, Nat.add_assoc]

end Cursor.Beyond

namespace Reader

variable {α β : Type} {reader : Reader α} {least most distance : Nat} {cursor other : Cursor}

/-- Two outcomes that differ at most in what the cursor has left behind. -/
def Alike (distance : Nat) (one two : EStateM.Result Rejection Cursor α) : Prop :=
  match one, two with
  | .ok value next, .ok otherValue otherNext =>
    value = otherValue ∧ next.Beyond distance otherNext
  | .error rejection next, .error otherRejection otherNext =>
    rejection = otherRejection ∧ next.Beyond distance otherNext
  | _, _ => False

/-- A reader that has the same outcome wherever it has the same ahead. -/
def Forgets (reader : Reader α) : Prop :=
  ∀ {distance : Nat} {cursor other : Cursor}, cursor.Beyond distance other →
    Alike distance (reader cursor) (reader other)

theorem forgets_bind {further : α → Reader β} (first : reader.Forgets)
    (second : ∀ value, (further value).Forgets) : (reader >>= further).Forgets := by
  intro distance cursor other beyond
  have begun := first beyond
  cases run : reader cursor with
  | error rejection next =>
    cases otherRun : reader other with
    | error otherRejection otherNext =>
      rw [run, otherRun] at begun
      rw [EStateM.bind_of_error run, EStateM.bind_of_error otherRun]
      exact begun
    | ok value otherNext =>
      rw [run, otherRun] at begun
      exact begun.elim
  | ok value middle =>
    cases otherRun : reader other with
    | error otherRejection otherNext =>
      rw [run, otherRun] at begun
      exact begun.elim
    | ok otherValue otherMiddle =>
      rw [run, otherRun] at begun
      obtain ⟨rfl, beyondOn⟩ := begun
      rw [EStateM.bind_of_ok run, EStateM.bind_of_ok otherRun]
      exact second value beyondOn

theorem Made.forgets (made : Made least most reader) : reader.Forgets := by
  induction made with
  | pure value => exact fun beyond => ⟨rfl, beyond⟩
  | token expected value? =>
    intro distance cursor other beyond
    simp only [Reader.token, beyond.peek_eq]
    cases other.peek.bind value? with
    | none => exact ⟨beyond.rejection_eq expected, beyond⟩
    | some value => exact ⟨rfl, beyond.advance⟩
  | @advised α reader least most advice _ ih =>
    intro distance cursor other beyond
    have outcomes := ih beyond
    cases run : reader cursor <;> cases otherRun : reader other <;>
      simp only [run, otherRun, Alike] at outcomes
    · rw [advised_of_ok run, advised_of_ok otherRun]
      exact outcomes
    · rw [advised_of_error run, advised_of_error otherRun]
      exact ⟨congrArg (Rejection.withHelp · advice) outcomes.1, outcomes.2⟩
  | symbol spelling =>
    intro distance cursor other beyond
    simp only [Reader.symbol, beyond.checkSymbol_eq]
    by_cases there : other.checkSymbol spelling = true
    · simp only [there, if_true]
      exact ⟨rfl, beyond.advance⟩
    · simp only [there]
      exact ⟨rfl, beyond⟩
  | finish =>
    intro distance cursor other beyond
    simp only [Reader.finish, beyond.atEnd_eq]
    by_cases ended : other.atEnd = true
    · simp only [ended, if_true]
      exact ⟨rfl, beyond⟩
    · simp only [ended]
      exact ⟨beyond.rejection_eq .endOfInput, beyond⟩
  | bind _ _ first second => exact forgets_bind first second

end Reader

namespace Step

variable {α : Type} {reader : Reader α} {distance : Nat} {cursor other : Cursor}

/-- Two outcomes with the same answer, after which the cursors have the same ahead. -/
def InStep (distance : Nat) (outcome otherOutcome : Answer × Cursor) : Prop :=
  outcome.1 = otherOutcome.1 ∧ outcome.2.Beyond distance otherOutcome.2

private theorem answer_in_step (forgets : reader.Forgets) (accepted : α → Answer)
    (beyond : cursor.Beyond distance other) :
    InStep distance (reader.answer accepted cursor) (reader.answer accepted other) := by
  have outcomes := forgets beyond
  simp only [Reader.answer]
  cases run : reader cursor <;> cases otherRun : reader other <;>
    simp only [run, otherRun, Reader.Alike] at outcomes
  · exact ⟨congrArg accepted outcomes.1, outcomes.2⟩
  · exact ⟨congrArg Answer.rejected outcomes.1, outcomes.2⟩

theorem run_in_step (beyond : cursor.Beyond distance other) (step : Step) :
    InStep distance (step.run cursor) (step.run other) := by
  cases step with
  | advance => exact ⟨rfl, beyond.advance⟩
  | peek => exact ⟨congrArg Answer.peeked beyond.peek_eq, beyond⟩
  | found => exact ⟨congrArg Answer.found beyond.found_eq, beyond⟩
  | reject expected => exact ⟨congrArg Answer.rejected (beyond.rejection_eq expected), beyond⟩
  | checkSymbol spelling => exact ⟨congrArg Answer.flag (beyond.checkSymbol_eq spelling), beyond⟩
  | symbol spelling => exact answer_in_step (Reader.Made.symbol spelling).forgets _ beyond
  | word uppercase => exact answer_in_step (Reader.Made.token ..).forgets _ beyond
  | oneOf words => exact answer_in_step (Reader.Made.token ..).forgets _ beyond
  | ofKind kind expected => exact answer_in_step (Reader.Made.token ..).forgets _ beyond
  | command => exact answer_in_step Reader.made_command.forgets _ beyond

theorem trace_in_step (beyond : cursor.Beyond distance other) (steps : List Step) :
    List.Forall₂ (InStep distance) (trace cursor steps) (trace other steps) := by
  induction steps generalizing cursor other with
  | nil => exact .nil
  | cons step rest ih =>
    have outcomes := run_in_step beyond step
    exact .cons outcomes (ih outcomes.2)

end Step

/-- Steps taken from any token on are answered as on the tokens from there on alone. So a command
    that is read there does not depend on what stands in front. -/
theorem trace_forgets_consumed (tokens : List Token) (stop : Span) (start : Nat)
    (steps : List Step) :
    List.Forall₂ (Step.InStep start) (Step.trace ⟨tokens, start, stop⟩ steps)
        (Step.trace ⟨tokens.drop start, 0, stop⟩ steps) ∧
      ∀ front : List Token, (Step.command.run ⟨front ++ tokens.drop start, front.length, stop⟩).1 =
        (Step.command.run ⟨tokens, start, stop⟩).1 := by
  have alone : Cursor.Beyond ⟨tokens, start, stop⟩ start ⟨tokens.drop start, 0, stop⟩ :=
    ⟨rfl, rfl, rfl⟩
  refine ⟨Step.trace_in_step alone steps, fun front => ?_⟩
  have behind : Cursor.Beyond ⟨front ++ tokens.drop start, front.length, stop⟩ front.length
      ⟨tokens.drop start, 0, stop⟩ := ⟨List.drop_left, rfl, rfl⟩
  exact (Step.run_in_step behind .command).1.trans (Step.run_in_step alone .command).1.symm

/-- Two cursors at one position with the same tokens up to a limit. -/
structure Cursor.SameTo (cursor : Cursor) (limit : Nat) (other : Cursor) : Prop where
  position : other.position = cursor.position
  tokens : ∀ index ≤ limit, other.tokens[index]? = cursor.tokens[index]?

private theorem Cursor.position_le_advance (cursor : Cursor) :
    cursor.position ≤ cursor.advance.position := by
  rw [advance]
  split
  · exact Nat.le_succ _
  · exact Nat.le_refl _

namespace Cursor.SameTo

variable {cursor other : Cursor} {limit : Nat}

theorem peek_eq (same : cursor.SameTo limit other) (within : cursor.position ≤ limit) :
    other.peek = cursor.peek := by
  rw [peek, peek, same.position, same.tokens _ within]

theorem checkSymbol_eq (same : cursor.SameTo limit other) (within : cursor.position ≤ limit)
    (spelling : String) : other.checkSymbol spelling = cursor.checkSymbol spelling := by
  rw [checkSymbol, checkSymbol, same.peek_eq within]

theorem atEnd_eq (same : cursor.SameTo limit other) (within : cursor.position ≤ limit) :
    other.atEnd = cursor.atEnd := by
  have peeked := same.peek_eq within
  rw [peek_eq_head?, peek_eq_head?] at peeked
  rw [Bool.eq_iff_iff, atEnd_iff, atEnd_iff, ← List.head?_eq_none_iff, peeked,
    List.head?_eq_none_iff]

theorem advance (same : cursor.SameTo limit other) {token : Token}
    (under : cursor.peek = some token) (within : cursor.position ≤ limit) :
    cursor.advance.SameTo limit other.advance := by
  have moves := moves_advance under
  have otherMoves := moves_advance ((same.peek_eq within).trans under)
  refine ⟨?_, ?_⟩
  · rw [moves.position, otherMoves.position, same.position]
  · rw [moves.tokens, otherMoves.tokens]
    exact same.tokens

end Cursor.SameTo

namespace Reader

variable {α β : Type} {reader : Reader α} {least most more last : Nat}

/-- A reader that stops within a limit comes to the same on the same tokens up to there. -/
def LooksNoFurther (reader : Reader α) : Prop :=
  ∀ {limit : Nat} {cursor other : Cursor}, cursor.SameTo limit other →
    match reader cursor with
    | .ok value next => next.position ≤ limit →
        ∃ otherNext, reader other = .ok value otherNext ∧ next.SameTo limit otherNext
    | .error _ next => next.position ≤ limit →
        ∃ rejection otherNext, reader other = .error rejection otherNext ∧
          next.SameTo limit otherNext

theorem looks_no_further_bind {further : α → Reader β} (first : reader.LooksNoFurther)
    (second : ∀ value, (further value).LooksNoFurther)
    (goes : ∀ value, (further value).Goes more last) : (reader >>= further).LooksNoFurther := by
  intro limit cursor other same
  have begun := first same
  cases run : reader cursor with
  | error rejection next =>
    rw [run] at begun
    rw [EStateM.bind_of_error run]
    intro within
    obtain ⟨otherRejection, otherNext, otherRun, sameOn⟩ := begun within
    exact ⟨otherRejection, otherNext, EStateM.bind_of_error otherRun, sameOn⟩
  | ok value middle =>
    rw [run] at begun
    -- The second reader only moves on, so the first has stopped within the limit as well.
    have onward := (goes value).position_le middle
    rw [EStateM.bind_of_ok run]
    cases rest : further value middle with
    | ok result next | error rejection next =>
      rw [rest] at onward
      intro within
      obtain ⟨otherMiddle, otherRun, sameMiddle⟩ := begun (onward.trans within)
      have ended := second value sameMiddle
      rw [rest] at ended
      rw [EStateM.bind_of_ok otherRun]
      exact ended within

theorem Made.looks_no_further (made : Made least most reader) : reader.LooksNoFurther := by
  induction made with
  | pure value => exact fun same _ => ⟨_, rfl, same⟩
  | token expected value? =>
    intro limit cursor other same
    cases found : cursor.peek.bind value? with
    | none =>
      simp only [Reader.token, found]
      intro within
      rw [same.peek_eq within, found]
      exact ⟨_, other, rfl, same⟩
    | some value =>
      obtain ⟨token, under, _⟩ := Option.bind_eq_some_iff.mp found
      simp only [Reader.token, found]
      intro within
      have behind := cursor.position_le_advance.trans within
      rw [same.peek_eq behind, found]
      exact ⟨other.advance, rfl, same.advance under behind⟩
  | @advised α reader least most advice _ ih =>
    intro limit cursor other same
    have outcome := ih same
    cases run : reader cursor with
    | ok value next =>
      rw [run] at outcome
      rw [advised_of_ok run]
      intro within
      obtain ⟨otherNext, otherRun, sameOn⟩ := outcome within
      exact ⟨otherNext, advised_of_ok otherRun, sameOn⟩
    | error rejection next =>
      rw [run] at outcome
      rw [advised_of_error run]
      intro within
      obtain ⟨otherRejection, otherNext, otherRun, sameOn⟩ := outcome within
      exact ⟨otherRejection.withHelp advice, otherNext, advised_of_error otherRun, sameOn⟩
  | symbol spelling =>
    intro limit cursor other same
    by_cases there : cursor.checkSymbol spelling = true
    · obtain ⟨token, under, _⟩ := Cursor.checkSymbol_iff.mp there
      simp only [Reader.symbol, there, if_true]
      intro within
      have behind := cursor.position_le_advance.trans within
      rw [same.checkSymbol_eq behind, if_pos there]
      exact ⟨other.advance, rfl, same.advance under behind⟩
    · simp only [Reader.symbol, there]
      intro within
      rw [same.checkSymbol_eq within, if_neg there]
      exact ⟨other, rfl, same⟩
  | finish =>
    intro limit cursor other same
    by_cases ended : cursor.atEnd = true
    · simp only [Reader.finish, ended, if_true]
      intro within
      rw [same.atEnd_eq within, if_pos ended]
      exact ⟨other, rfl, same⟩
    · simp only [Reader.finish, ended]
      intro within
      rw [same.atEnd_eq within, if_neg ended]
      exact ⟨_, other, rfl, same⟩
  | bind _ second looks looksOn =>
    exact looks_no_further_bind looks looksOn fun value => (second value).goes

end Reader

end Palette
