import Palette.Proofs.Classification
import Palette.Proofs.Misfits

/-!
# Reading by the grammar

A reader follows the grammar when it reads off tokens that go through parts from the front, and
rejects what does not fit those that are left (`Reader.Follows`). Readers that do can be put
together (`Reader.follows_bind`), up to the reader of a whole command (`Reader.follows_command`).
-/

namespace Palette

open Grammar (Slot Part Leaves Blocked)

/-- One cursor is behind the other by the tokens that have been read. -/
structure Cursor.Moves (cursor : Cursor) (read : List Token) (next : Cursor) : Prop where
  tokens : next.tokens = cursor.tokens
  stop : next.stop = cursor.stop
  position : next.position = cursor.position + read.length
  ahead : cursor.ahead = read ++ next.ahead

namespace Cursor

variable {cursor middle next : Cursor} {front back : List Token} {token : Token}

theorem moves_refl (cursor : Cursor) : cursor.Moves [] cursor := ⟨rfl, rfl, rfl, rfl⟩

theorem Moves.trans (first : cursor.Moves front middle) (second : middle.Moves back next) :
    cursor.Moves (front ++ back) next where
  tokens := second.tokens.trans first.tokens
  stop := second.stop.trans first.stop
  position := by
    rw [second.position, first.position, List.length_append, Nat.add_assoc]
  ahead := by
    rw [first.ahead, second.ahead, List.append_assoc]

theorem Moves.position_le (moves : cursor.Moves front next)
    (inside : cursor.position ≤ cursor.tokens.length) :
    next.position ≤ cursor.tokens.length := by
  have lengths := congrArg List.length moves.ahead
  rw [Cursor.ahead, List.length_drop, List.length_append] at lengths
  rw [moves.position]
  omega

theorem Moves.extract (moves : cursor.Moves front next) :
    cursor.tokens.extract cursor.position next.position = front := by
  rw [List.extract_eq_take_drop, moves.position, Nat.add_sub_cancel_left]
  have ahead := moves.ahead
  rw [Cursor.ahead] at ahead
  rw [ahead, List.take_left]

theorem moves_advance (under : cursor.peek = some token) : cursor.Moves [token] cursor.advance := by
  obtain ⟨inside, same⟩ := List.getElem?_eq_some_iff.mp under
  rw [advance, if_pos inside]
  refine ⟨rfl, rfl, rfl, ?_⟩
  rw [ahead, List.drop_eq_getElem_cons inside, same]
  rfl

theorem Moves.extract_succ (moves : cursor.Moves front next) (under : next.peek = some token) :
    cursor.tokens.extract cursor.position (next.position + 1) = front ++ [token] := by
  have further := moves_advance under
  have between := (moves.trans further).extract
  rwa [further.position] at between

end Cursor

namespace Reader

variable {α β : Type} {reader : Reader α} {before between after : List Part}
  {Yields Gives : α → List Token → List Token → Prop}

/-- A reader takes tokens that go through parts from the front of some and leave others. Where it
    rejects, the next token does not fit what is left, and that token is what it rejects. -/
def Follows (reader : Reader α) (before after : List Part)
    (Yields : α → List Token → List Token → Prop) : Prop :=
  ∀ cursor : Cursor, (∀ token ∈ cursor.tokens, token.Classified) →
    match reader cursor with
    | .ok value next => ∃ read, cursor.Moves read next ∧ Leaves before read next.ahead after ∧
        Yields value read next.ahead
    | .error rejection next => ∃ read left expected, cursor.Moves read next ∧
        Leaves before read next.ahead left ∧ Blocked left next.ahead expected ∧
        rejection = next.refusal expected

theorem follows_mono (follows : reader.Follows before after Yields)
    (implied : ∀ value read ahead, Yields value read ahead → Gives value read ahead) :
    reader.Follows before after Gives := by
  intro cursor classified
  have outcome := follows cursor classified
  cases run : reader cursor with
  | ok value next =>
    rw [run] at outcome
    obtain ⟨read, moves, leaves, yields⟩ := outcome
    exact ⟨read, moves, leaves, implied _ _ _ yields⟩
  | error rejection next => simpa only [run] using outcome

theorem follows_pure (value : α) :
    Follows (pure value) before before fun result read _ => result = value ∧ read = [] :=
  fun cursor _ => ⟨[], cursor.moves_refl, .stop, rfl, rfl⟩

/-- The second of two readers goes on with the parts that the first has left. -/
theorem follows_bind {further : α → Reader β} {Ends : α → β → List Token → List Token → Prop}
    (first : reader.Follows before between Yields)
    (second : ∀ value, (further value).Follows between after (Ends value)) :
    (reader >>= further).Follows before after fun result read ahead =>
      ∃ value front back, read = front ++ back ∧ Yields value front (back ++ ahead) ∧
        Ends value result back ahead := by
  intro cursor classified
  have begun := first cursor classified
  cases run : reader cursor with
  | error rejection next =>
    rw [run] at begun
    rw [EStateM.bind_of_error run]
    exact begun
  | ok value middle =>
    -- What is ahead of the first reader's end is what the second reads and what it leaves ahead.
    rw [run] at begun
    obtain ⟨front, moves, leaves, yields⟩ := begun
    have ended := second value middle (moves.tokens ▸ classified)
    rw [EStateM.bind_of_ok run]
    cases rest : further value middle with
    | ok result next =>
      rw [rest] at ended
      obtain ⟨back, movesOn, leavesOn, ends⟩ := ended
      rw [movesOn.ahead] at leaves yields
      exact ⟨front ++ back, moves.trans movesOn, leaves.trans leavesOn, value, front, back, rfl,
        yields, ends⟩
    | error rejection next =>
      rw [rest] at ended
      obtain ⟨back, left, expected, movesOn, leavesOn, blocked, rejected⟩ := ended
      rw [movesOn.ahead] at leaves
      exact ⟨front ++ back, left, expected, moves.trans movesOn, leaves.trans leavesOn, blocked,
        rejected⟩

section
variable {slot : Slot} {parts : List Part} {expected : Expectation} {value? : Token → Option α}

/-- A token with a value, or a rejection with the advice that goes with what is wanted. -/
private def wanting (expected : Expectation) (value? : Token → Option α) : Reader α := fun cursor =>
  match cursor.peek.bind value? with
  | some value => .ok value cursor.advance
  | none => .error (cursor.refusal expected) cursor

private theorem token_eq_wanting (plain : expected.advice = none) :
    token expected value? = wanting expected value? := by
  funext cursor
  have same : cursor.refusal expected = cursor.rejection expected := by
    rw [Cursor.refusal, plain]
    rfl
  cases found : cursor.peek.bind value? <;> simp only [token, wanting, found, same]

private theorem advised_eq_wanting {advice : String} (given : expected.advice = some advice) :
    (token expected value?).advised advice = wanting expected value? := by
  funext cursor
  have same : cursor.refusal expected = (cursor.rejection expected).withHelp advice := by
    rw [Cursor.refusal, given]
    rfl
  cases found : cursor.peek.bind value? with
  | none =>
    have rejected : token expected value? cursor = .error (cursor.rejection expected) cursor := by
      simp only [token, found]
    rw [advised_of_error rejected]
    simp only [wanting, found, same]
  | some value =>
    have accepted : token expected value? cursor = .ok value cursor.advance := by
      simp only [token, found]
    rw [advised_of_ok accepted]
    simp only [wanting, found]

private theorem follows_wanting (wanted : slot.expectation = expected)
    (agrees : ∀ token : Token, token.Classified →
      ((value? token).isSome = true ↔ slot.Admits token)) :
    (wanting expected value?).Follows (.required slot :: parts) parts fun value read _ =>
      ∃ token, read = [token] ∧ slot.Admits token ∧ value? token = some value := by
  intro cursor classified
  cases found : cursor.peek.bind value? with
  | none =>
    simp only [wanting, found]
    refine ⟨[], _, slot.expectation, cursor.moves_refl, .stop, .slot ?_, by rw [wanted]⟩
    intro under same
    rw [← Cursor.peek_eq_head?] at same
    have known := classified under (List.mem_of_getElem? same)
    rw [same, Option.bind_some] at found
    rw [← agrees under known, found]
    simp
  | some value =>
    simp only [wanting, found]
    obtain ⟨under, same, valued⟩ := Option.bind_eq_some_iff.mp found
    have known := classified under (List.mem_of_getElem? same)
    have admitted := (agrees under known).mp (by rw [valued, Option.isSome_some])
    exact ⟨[under], Cursor.moves_advance same, .fill admitted .stop, under, rfl, admitted, valued⟩

private theorem follows_guard {fits : Token → Bool} (wanted : slot.expectation = expected)
    (agrees : ∀ token : Token, token.Classified → (fits token = true ↔ slot.Admits token)) :
    (wanting expected (Option.guard fits)).Follows (.required slot :: parts) parts
      fun found read _ => read = [found] ∧ slot.Admits found := by
  refine follows_mono (follows_wanting wanted fun token known => ?_) ?_
  · rw [Option.isSome_guard, agrees token known]
  · rintro found _ _ ⟨token, rfl, admitted, guarded⟩
    obtain rfl : token = found := (Option.guard_eq_some_iff.mp guarded).1
    exact ⟨rfl, admitted⟩

theorem follows_word {word : String} (wanted : slot.expectation = .word word)
    (agrees : ∀ token : Token, token.upper = word ↔ slot.Admits token) :
    (Reader.word word).Follows (.required slot :: parts) parts
      fun found read _ => read = [found] ∧ slot.Admits found := by
  rw [Reader.word, token_eq_wanting rfl]
  exact follows_guard wanted fun token _ => by rw [decide_eq_true_iff, agrees]

theorem follows_oneOf {words : List String} (wanted : slot.expectation = .oneOf words)
    (agrees : ∀ token : Token, token.upper ∈ words ↔ slot.Admits token) :
    (oneOf words).Follows (.required slot :: parts) parts
      fun found read _ => read = [found] ∧ slot.Admits found := by
  rw [oneOf, token_eq_wanting rfl]
  exact follows_guard wanted fun token _ => by rw [List.contains_iff_mem, agrees]

theorem follows_ofKind {kind : Kind} {advice : String} (wanted : slot.expectation = expected)
    (given : expected.advice = some advice)
    (agrees : ∀ token : Token, token.Classified → (token.kind = kind ↔ slot.Admits token)) :
    ((ofKind kind expected).advised advice).Follows (.required slot :: parts) parts
      fun found read _ => read = [found] ∧ slot.Admits found := by
  rw [ofKind, advised_eq_wanting given]
  exact follows_guard wanted fun token known => by rw [decide_eq_true_iff, agrees token known]

theorem follows_size :
    size.Follows (.required .size :: parts) parts fun size read _ =>
      ∃ token, read = [token] ∧ Slot.size.Admits token ∧ token.lexeme = toString size := by
  rw [size, advised_eq_wanting rfl]
  refine follows_mono (follows_wanting rfl fun token known => Token.isSome_size?_iff known) ?_
  rintro size _ _ ⟨token, rfl, admitted, found⟩
  exact ⟨token, rfl, admitted, (Token.lexeme_of_size? found).2⟩

theorem follows_symbol {spelling : String}
    (agrees : ∀ token, slot.Admits token ↔ token.lexeme = spelling)
    (symbol : Kind.ofLexeme spelling = .symbol) :
    (Reader.symbol spelling).Follows (.optional slot :: parts) parts fun _ read _ =>
      ∀ token ∈ read, slot.Admits token := by
  intro cursor classified
  cases there : cursor.checkSymbol spelling with
  | true =>
    simp only [Reader.symbol, there, if_true]
    obtain ⟨token, under, _, spelled⟩ := Cursor.checkSymbol_iff.mp there
    have admitted := (agrees token).mpr spelled
    refine ⟨[token], Cursor.moves_advance under, .fill admitted .stop, ?_⟩
    intro other member
    rwa [List.mem_singleton.mp member]
  | false =>
    simp only [Reader.symbol, there, Bool.false_eq_true, if_false]
    refine ⟨[], cursor.moves_refl, .pass ?_ .stop, by simp⟩
    intro token same admitted
    rw [List.nil_append, ← Cursor.peek_eq_head?] at same
    have known := classified token (List.mem_of_getElem? same)
    have spelled := (agrees token).mp admitted
    have kind : token.kind = .symbol := by rw [known, spelled, symbol]
    rw [Cursor.checkSymbol_iff.mpr ⟨token, same, kind, spelled⟩] at there
    cases there

end

theorem follows_finish :
    finish.Follows [] [] fun _ read ahead => read = [] ∧ ahead = [] := by
  intro cursor _
  cases ended : cursor.atEnd with
  | true =>
    simp only [finish, ended, if_true]
    exact ⟨[], cursor.moves_refl, .stop, rfl, cursor.atEnd_iff.mp ended⟩
  | false =>
    simp only [finish, ended, Bool.false_eq_true, if_false]
    have more : cursor.ahead ≠ [] := fun empty => by simp [cursor.atEnd_iff.mpr empty] at ended
    exact ⟨[], [], _, cursor.moves_refl, .stop, .ending more, rfl⟩

theorem follows_endpoint {parts : List Part} :
    endpoint.Follows (.required .adjective :: .required .color :: parts) parts
      fun endpoint read _ => ∃ shade color, read = [shade, color] ∧
        Slot.adjective.Admits shade ∧ Slot.color.Admits color ∧
        endpoint = ⟨shade.lexeme, color.lexeme⟩ := by
  refine follows_mono
    (follows_bind (follows_ofKind rfl rfl fun _ => Slot.kind_eq_adjective_iff) fun shade =>
      follows_bind (follows_ofKind rfl rfl fun _ => Slot.kind_eq_color_iff) fun color =>
      follows_pure _) ?_
  rintro endpoint _ _ ⟨shade, _, _, rfl, ⟨rfl, shadeFits⟩,
    color, _, _, rfl, ⟨rfl, colorFits⟩, rfl, rfl⟩
  exact ⟨shade, color, rfl, shadeFits, colorFits, rfl⟩

private theorem follows_closing (command : Command) :
    Follows (do
      let _ ← Reader.symbol ")"
      finish
      return command) [.optional .closeParen] [] fun said read ahead =>
        Grammar.unbracketed read = [] ∧ ahead = [] ∧ said = command := by
  refine follows_mono
    (follows_bind (@follows_symbol .closeParen _ _ (fun _ => Iff.rfl)
        (Kind.ofLexeme_of_mem_parentheses (by simp))) fun closed =>
      follows_bind follows_finish fun _ => follows_pure _) ?_
  rintro said _ ahead ⟨_, closed, _, rfl, fits, _, _, _, rfl, ⟨rfl, ended⟩, rfl, rfl⟩
  refine ⟨?_, by simpa using ended, rfl⟩
  have parentheses := Grammar.unbracketed_of_parentheses fun token member =>
    List.mem_cons_of_mem _ (List.mem_singleton.mpr (fits token member))
  simpa using parentheses

private theorem follows_endpoints (command : Endpoint → Endpoint → Command) :
    Follows (do
      let _ ← Reader.symbol "("
      let first ← endpoint
      let _ ← oneOf [":", "TO"]
      let second ← endpoint
      let _ ← Reader.symbol ")"
      finish
      return command first second)
      [.optional .openParen, .required .adjective, .required .color, .required .separator,
        .required .adjective, .required .color, .optional .closeParen] [] fun said read ahead =>
        ahead = [] ∧ ∃ first separator second, said = command first second ∧
          (Grammar.unbracketed read).map Token.lexeme =
            [first.adjective, first.color, separator, second.adjective, second.color] := by
  refine follows_mono
    (follows_bind (@follows_symbol .openParen _ _ (fun _ => Iff.rfl)
        (Kind.ofLexeme_of_mem_parentheses (by simp))) fun opened =>
      follows_bind follows_endpoint fun first =>
      follows_bind (@follows_oneOf .separator _ _ rfl fun _ => Iff.rfl) fun separator =>
      follows_bind follows_endpoint fun second => follows_closing _) ?_
  rintro said _ ahead ⟨_, opened, _, rfl, opens, first, _, _, rfl,
    ⟨shade, color, rfl, shadeFits, colorFits, rfl⟩, separator, _, _, rfl, ⟨rfl, separates⟩,
    second, _, closed, rfl, ⟨other, hue, rfl, otherFits, hueFits, rfl⟩, closes, ended, rfl⟩
  refine ⟨ended, _, separator.lexeme, _, rfl, ?_⟩
  have parentheses := Grammar.unbracketed_of_parentheses fun token member =>
    List.mem_cons.mpr (.inl (opens token member))
  have keep {slot : Slot} {token : Token} := @Grammar.unbracketed_cons_of_admits slot token
  simp only [List.cons_append, List.nil_append, Grammar.unbracketed_append, parentheses,
    keep shadeFits (by decide), keep colorFits (by decide), keep separates (by decide),
    keep otherFits (by decide), keep hueFits (by decide), closes, List.map_cons, List.map_nil]

/-- No shade begins with a parenthesis. -/
theorem unambiguous_command : Grammar.Unambiguous Grammar.command := by
  refine ⟨fun token rest opens filled => ?_, fun _ _ _ => by simp, trivial⟩
  have shade := (Grammar.fills_required_cons_iff.mp filled).1
  cases (Slot.ofLexeme_of_admits opens).symm.trans (Slot.ofLexeme_of_admits shade)

/-- The command that is read is what the sentence says. -/
theorem follows_command :
    command.Follows Grammar.command [] fun command read ahead =>
      Grammar.Says read command ∧ ahead = [] := by
  refine follows_mono
    (follows_bind (@follows_oneOf .verb _ _ rfl fun _ => Iff.rfl) fun verb =>
      follows_bind (@follows_word .palette _ _ rfl fun _ => Iff.rfl) fun palette =>
      follows_bind follows_size fun size =>
      follows_bind (@follows_oneOf .count _ _ rfl fun _ => Iff.rfl) fun count =>
      follows_bind (@follows_word .fromWord _ _ rfl fun _ => Iff.rfl) fun fromWord =>
      follows_endpoints fun first second =>
        ⟨verb.lexeme ++ " " ++ palette.lexeme, size, first, second⟩) ?_
  rintro said _ ahead ⟨verb, _, _, rfl, ⟨rfl, verbFits⟩, palette, _, _, rfl, ⟨rfl, paletteFits⟩,
    size, _, _, rfl, ⟨digit, rfl, digitFits, written⟩, count, _, _, rfl, ⟨rfl, countFits⟩,
    fromWord, _, ending, rfl, ⟨rfl, fromFits⟩, ended, first, separator, second, rfl, endpoints⟩
  refine ⟨⟨verb.lexeme, palette.lexeme, count.lexeme, fromWord.lexeme, separator, ?_, rfl⟩, ended⟩
  have keep {slot : Slot} {token : Token} := @Grammar.unbracketed_cons_of_admits slot token
  simp only [List.cons_append, List.nil_append, keep verbFits (by decide),
    keep paletteFits (by decide), keep digitFits (by decide), keep countFits (by decide),
    keep fromFits (by decide), List.map_cons, endpoints, written]

end Reader

end Palette
