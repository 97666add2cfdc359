import Palette.Proofs.Exactness
import Palette.Proofs.Places

/-!
# Texts put together

Where no word runs across the joint, the scan of two texts put together is made of their scans
(`scan_append`). A rejection stays (`rejection_stable_under_append`), and a command takes one
parenthesis more at the most (`parse_append_of_accepted`).
-/

namespace Palette

/-- A place in a text, counted from the start of a front that the text stands behind. -/
def Place.behind (front : List Char) (place : Place) : Place where
  line := place.line + front.count '\n'
  column := if place.line = 1 then place.column + (Text.lastRow front).length else place.column

def Span.behind (front : List Char) (span : Span) : Span :=
  (span.toPlace.behind front).span span.length

def Token.behind (front : List Char) (token : Token) : Token :=
  { token with span := token.span.behind front }

private theorem Place.behind_next (front : List Char) {place : Place} (c : Char)
    (positive : 1 ≤ place.line) : (place.next c).behind front = (place.behind front).next c := by
  by_cases feed : c = '\n'
  · have moved : place.line ≠ 0 := by omega
    simp only [behind, next, feed, if_true, Nat.add_eq_right, moved, if_false, Place.mk.injEq,
      and_true]
    omega
  · by_cases first : place.line = 1
    · simp only [behind, next, feed, first, if_false, if_true, Place.mk.injEq, true_and]
      omega
    · simp [behind, next, feed, first]

theorem Place.start_after_append (front back : List Char) :
    Place.start.after (front ++ back) = (Place.start.after back).behind front := by
  induction back using List.reverseRecOn with
  | nil =>
    rw [List.append_nil, after_nil, start_after]
    simp [behind, start, Nat.add_comm]
  | append_singleton back c ih =>
    have positive : 1 ≤ (Place.start.after back).line := by simp [start_after]
    rw [← List.append_assoc, after_append, ih, after_append, after_cons, after_nil, after_cons,
      after_nil, behind_next front c positive]

namespace Scan

private theorem tokensFrom_append (place : Place) (front back : List (List Char)) :
    tokensFrom place (front ++ back) =
      tokensFrom place front ++ tokensFrom (place.after front.flatten) back := by
  induction front generalizing place with
  | nil => simp
  | cons segment rest ih => simp [ih, List.append_assoc]

private theorem tokensFrom_behind (front passed : List Char) (segments : List (List Char)) :
    tokensFrom (Place.start.after (front ++ passed)) segments =
      (tokensFrom (Place.start.after passed) segments).map (Token.behind front) := by
  induction segments generalizing passed with
  | nil => simp
  | cons segment rest ih =>
    have later := ih (passed ++ segment)
    have here : Token.ofSegment (Place.start.after (front ++ passed)) segment =
        (Token.ofSegment (Place.start.after passed) segment).behind front := by
      rw [Place.start_after_append]
      rfl
    rw [← List.append_assoc, Place.after_append .start (front ++ passed) segment,
      Place.after_append .start passed segment] at later
    rw [tokensFrom_cons, tokensFrom_cons, List.map_append, later, here]
    congr 1
    split <;> rfl

end Scan

section
variable {front back : String}

theorem Scan.tokens_append (apart : Text.Apart front.toList back.toList) :
    (ofText (front ++ back)).tokens =
      (ofText front).tokens ++ (ofText back).tokens.map (Token.behind front.toList) := by
  have moved := tokensFrom_behind front.toList [] (Text.segments back.toList)
  rw [List.append_nil, Place.after_nil] at moved
  have whole : (Text.segments front.toList).flatten = front.toList :=
    List.flatten_splitBy _ front.toList
  simp only [ofText, String.toList_append]
  rw [Text.segments_append apart, tokensFrom_append, whole, moved]

theorem Scan.symbols_append (apart : Text.Apart front.toList back.toList) :
    (ofText (front ++ back)).symbols =
      (ofText front).symbols ++ (ofText back).symbols.map (Token.behind front.toList) := by
  rw [symbols, tokens_append apart, List.filter_append, List.filter_map]
  rfl

theorem Scan.offender?_append (apart : Text.Apart front.toList back.toList) :
    (ofText (front ++ back)).offender? =
      (ofText front).offender?.or
        ((ofText back).offender?.map (Token.behind front.toList)) := by
  rw [offender?, symbols_append apart, List.find?_append, List.find?_map]
  rfl

end

/-- Where no word runs across the joint, the tokens of two texts put together are those of the first
    and, behind them, those of the second. So are their symbols, and the end is that of the second
    unless it is blank. -/
theorem scan_append (front back : String) (apart : Text.Apart front.toList back.toList) :
    (Scan.ofText (front ++ back)).tokens =
      (Scan.ofText front).tokens ++ (Scan.ofText back).tokens.map (Token.behind front.toList) ∧
    (Scan.ofText (front ++ back)).symbols =
      (Scan.ofText front).symbols ++ (Scan.ofText back).symbols.map (Token.behind front.toList) ∧
    (Scan.ofText (front ++ back)).stop =
      if back.toList.any fun c => !Text.isBlank c then
        (Scan.ofText back).stop.behind front.toList
      else (Scan.ofText front).stop := by
  refine ⟨Scan.tokens_append apart, Scan.symbols_append apart, ?_⟩
  simp only [Scan.ofText, Span.endOf, String.toList_append]
  split
  · next visible =>
    have visible : ∃ c ∈ back.toList, Text.isBlank c = false := by simpa using visible
    rw [Text.trimEnd_append_of_visible visible, Place.start_after_append]
    rfl
  · next blank =>
    have blanks : ∀ c ∈ back.toList, Text.isBlank c = true := by simpa using blank
    rw [Text.trimEnd_append_of_blanks blanks]

theorem tokens_behind_second_line :
    Text.Apart "make\r\n(dark".toList " red\n:\n".toList ∧
    (Scan.ofText ("make\r\n(dark" ++ " red\n:\n")).tokens =
      (Scan.ofText "make\r\n(dark").tokens ++
        [⟨.color, "red", ⟨⟨2, 6⟩, 3⟩⟩, ⟨.keyword, ":", ⟨⟨3, 0⟩, 1⟩⟩] ∧
    (Scan.ofText ("make\r\n(dark" ++ " red\n:\n")).stop = ⟨⟨3, 1⟩, 1⟩ := by
  have apart : Text.Apart "make\r\n(dark".toList " red\n:\n".toList := by
    intro left _ right first
    obtain rfl : ' ' = right := Option.some.inj first
    exact .inr (by decide)
  obtain ⟨tokens, -, stop⟩ := scan_append "make\r\n(dark" " red\n:\n" apart
  refine ⟨apart, ?_, ?_⟩
  · rw [tokens]
    decide +kernel
  · rw [stop]
    decide +kernel

open Grammar (Part Leaves misfit)

def Rejection.behind (front : List Char) (rejection : Rejection) : Rejection :=
  { rejection with span := rejection.span.behind front }

namespace Grammar

variable {parts : List Part} {tokens rest : List Token} {token : Token} {expected : Expectation}

theorem misfit_append
    (misfits : misfit parts tokens = some ⟨token :: rest, expected⟩) (more : List Token) :
    misfit parts (tokens ++ more) = some ⟨token :: (rest ++ more), expected⟩ := by
  fun_induction misfit parts tokens with
  | case1 => cases misfits
  | case2 =>
    cases misfits
    rfl
  | case3 => cases misfits
  | case4 slot parts next tokens admitted ih =>
    rw [List.cons_append, misfit, if_pos admitted, ih misfits]
  | case5 slot parts next tokens refused =>
    cases misfits
    rw [List.cons_append, misfit, if_neg refused]
  | case6 slot parts ih =>
    -- No token is ahead where none are left.
    have none := ahead_suffix_of_misfit misfits
    simp at none
  | case7 slot parts next tokens admitted ih =>
    rw [List.cons_append, misfit, if_pos admitted, ih misfits]
  | case8 slot parts next tokens passed ih =>
    rw [List.cons_append, misfit, if_neg passed, ← List.cons_append, ih misfits]

end Grammar

/-- Unless a word runs across the joint, a text that is rejected for an unknown symbol stays so
    whatever follows, and one that is rejected for a token stays so unless an unknown symbol
    follows. -/
theorem rejection_stable_under_append (front back : String)
    (apart : Text.Apart front.toList back.toList) :
    (∀ rejection lexeme, parse front = .error rejection →
      rejection.cause = .unknownSymbol lexeme → parse (front ++ back) = .error rejection) ∧
    ∀ rejection expected lexeme, parse front = .error rejection →
      rejection.cause = .unexpected expected (.token lexeme) →
      parse (front ++ back) = .error (match tokenize back with
        | .ok _ => rejection
        | .error foreign => foreign.behind front.toList) := by
  have offends := Scan.offender?_append apart
  have tokens := Scan.tokens_append apart
  constructor
  · intro rejection lexeme rejected unknown
    rcases parse_eq_error_iff_misfit.mp rejected with ⟨token, offending, rfl⟩ | ⟨_, found, _, rfl⟩
    · rw [offending, Option.some_or] at offends
      exact parse_eq_error_iff_misfit.mpr (.inl ⟨token, offends, rfl⟩)
    · obtain ⟨_ | ⟨token, rest⟩, wanted⟩ := found <;> cases unknown
  · intro rejection expected lexeme rejected named
    rcases parse_eq_error_iff_misfit.mp rejected with
      ⟨token, _, rfl⟩ | ⟨clear, found, misfits, rfl⟩
    · cases named
    · rw [clear, Option.none_or] at offends
      cases checked : tokenize back with
      | error foreign =>
        obtain ⟨token, offending, rfl⟩ := tokenize_eq_error_iff.mp checked
        rw [offending] at offends
        exact parse_eq_error_iff_misfit.mpr (.inl ⟨_, offends, rfl⟩)
      | ok scan =>
        rw [(tokenize_eq_ok_iff.mp checked).1] at offends
        obtain ⟨_ | ⟨token, rest⟩, wanted⟩ := found
        · cases named
        · have further := Grammar.misfit_append misfits
            ((Scan.ofText back).tokens.map (Token.behind front.toList))
          rw [← tokens] at further
          exact parse_eq_error_iff_misfit.mpr (.inr ⟨offends, _, further, rfl⟩)

theorem symbol_rejected_before_number :
    let rejection : Rejection :=
      .withHelp (.ofFound .size (.token "12") ⟨⟨2, 8⟩, 2⟩) "palettes hold between 2 and 9 colors"
    Text.Apart "make\npalette 12".toList " colors\n& red".toList ∧
    parse "make\npalette 12" = .error rejection ∧
    parse ("make\npalette 12" ++ " colors\n& red") =
      .error (.ofSymbol ⟨.symbol, "&", ⟨⟨3, 0⟩, 1⟩⟩) := by
  intro rejection
  have apart : Text.Apart "make\npalette 12".toList " colors\n& red".toList := by
    intro left _ right first
    obtain rfl : ' ' = right := Option.some.inj first
    exact .inr (by decide)
  have rejected : parse "make\npalette 12" = .error rejection := rfl
  have foreign : tokenize " colors\n& red" =
      .error (.ofSymbol ⟨.symbol, "&", ⟨⟨2, 0⟩, 1⟩⟩) := rfl
  have later := (rejection_stable_under_append _ _ apart).2 _ .size "12" rejected rfl
  rw [foreign] at later
  exact ⟨apart, rejected, later⟩

namespace Grammar

variable {tokens more : List Token}

/-- The last of some tokens is a closing parenthesis. -/
def Closed (tokens : List Token) : Prop :=
  ∃ token ∈ tokens.getLast?, token.lexeme = ")"

instance (tokens : List Token) : Decidable (Closed tokens) :=
  inferInstanceAs (Decidable (∃ token ∈ tokens.getLast?, token.lexeme = ")"))

/-- The tokens behind a command that cannot belong to it, as a first closing parenthesis can. -/
def surplus (command : List Token) : List Token → List Token
  | [] => []
  | token :: rest => if token.lexeme = ")" ∧ ¬ Closed command then rest else token :: rest

private theorem left_of_suffix {filled left : List Part} (split : command = filled ++ left)
    (fits : misfit left [] = none) :
    left = [] ∧ filled.getLast? = some (.optional .closeParen) ∨
      left = [.optional .closeParen] ∧ filled.getLast? = some (.required .color) := by
  have cuts : ∀ count ≤ command.length, (misfit (command.drop count) []).isNone = true →
      command.drop count = [] ∧
          (command.take count).getLast? = some (.optional .closeParen) ∨
        command.drop count = [.optional .closeParen] ∧
          (command.take count).getLast? = some (.required .color) := by
    decide
  have found := cuts filled.length (by simp [split])
  rw [split, List.drop_left, List.take_left, fits] at found
  exact found rfl

/-- What follows tokens that are a command is rejected at the first token that is too many. -/
theorem misfit_append_of_leaves (leaves : Leaves command tokens [] []) (more : List Token) :
    misfit command (tokens ++ more) =
      match surplus tokens more with
      | [] => none
      | token :: rest => some ⟨token :: rest, .endOfInput⟩ := by
  obtain ⟨filled, passed, split, optional, begins, last, behind⟩ := leaves.exists_filled
  rw [List.append_nil] at split
  rw [behind, List.append_nil]
  -- The last token tells which of the two parts has been filled last.
  rcases left_of_suffix split (misfit_optionals_nil optional) with ⟨rfl, fills⟩ | ⟨rfl, fills⟩
  · have closed : Closed tokens := by
      cases final : tokens.getLast? with
      | none =>
        rw [begins (List.getLast?_eq_none_iff.mp final)] at fills
        cases fills
      | some token =>
        obtain ⟨part, same, admits⟩ := last token final
        obtain rfl : Part.optional .closeParen = part := Option.some.inj (fills.symm.trans same)
        exact ⟨token, final, admits⟩
    cases more <;> simp [misfit, surplus, closed]
  · have unclosed : ¬ Closed tokens := by
      rintro ⟨token, final, closes⟩
      obtain ⟨part, same, admits⟩ := last token final
      obtain rfl : Part.required .color = part := Option.some.inj (fills.symm.trans same)
      exact Slot.not_parenthesis_of_admits admits (by decide) (by simp [closes])
    cases more with
    | nil => rfl
    | cons token rest =>
      by_cases closes : token.lexeme = ")"
      · cases rest <;> simp [misfit, surplus, unclosed, closes, Slot.Admits]
      · simp [misfit, surplus, closes, Slot.Admits]

private theorem surplus_map_behind (front : List Char) (command more : List Token) :
    surplus command (more.map (Token.behind front)) =
      (surplus command more).map (Token.behind front) := by
  cases more with
  | nil => rfl
  | cons token rest =>
    have same : (token.behind front).lexeme = token.lexeme := rfl
    rw [List.map_cons, surplus, surplus, same, apply_ite (List.map (Token.behind front))]
    rfl

private theorem mem_parentheses_of_surplus_eq_nil (belongs : surplus tokens more = []) :
    ∀ token ∈ more, token.lexeme ∈ ["(", ")"] := by
  cases more with
  | nil => simp
  | cons token rest =>
    rw [surplus] at belongs
    split_ifs at belongs with closes
    intro other member
    rw [belongs] at member
    rw [List.mem_singleton.mp member, closes.1]
    decide

end Grammar

open Grammar (surplus)

private theorem leaves_of_parse {source : String} {said : Command}
    (accepted : parse source = .ok said) :
    Leaves Grammar.command (Scan.ofText source).tokens [] [] := by
  obtain ⟨_, next, run⟩ := parse_eq_ok_iff.mp accepted
  exact (Reader.leaves_of_ok (fun _ => Scan.classified_of_mem) run).1

private theorem parse_eq_ok_of_fits {source : String} {said : Command}
    (clear : (Scan.ofText source).offender? = none)
    (fits : misfit Grammar.command (Scan.ofText source).tokens = none)
    (told : Grammar.Says (Scan.ofText source).tokens said) : parse source = .ok said := by
  cases run : parse source with
  | ok heard => rw [(sentence_of_parse run).2.unique told]
  | error rejection =>
    rcases parse_eq_error_iff_misfit.mp run with ⟨token, offends, _⟩ | ⟨_, found, misfits, _⟩
    · rw [clear] at offends
      cases offends
    · rw [fits] at misfits
      cases misfits

/-- Of the known tokens behind a command, a closing parenthesis still belongs to it if it is the
    first and the command does not end in one. The first token more is rejected. -/
theorem parse_append_of_accepted (front back : String) (said : Command) (scan : Scan)
    (accepted : parse front = .ok said) (known : tokenize back = .ok scan)
    (apart : Text.Apart front.toList back.toList) :
    parse (front ++ back) =
      match surplus (Scan.ofText front).tokens scan.tokens with
      | [] => .ok said
      | token :: _ => .error
          ⟨.unexpected .endOfInput (.token token.lexeme), token.span.behind front.toList,
            none⟩ := by
  obtain ⟨backClear, rfl⟩ := tokenize_eq_ok_iff.mp known
  have clear : (Scan.ofText (front ++ back)).offender? = none := by
    rw [Scan.offender?_append apart, (parse_eq_ok_iff.mp accepted).1, backClear]
    rfl
  have tokens := Scan.tokens_append apart
  have misfits := Grammar.misfit_append_of_leaves (leaves_of_parse accepted)
    ((Scan.ofText back).tokens.map (Token.behind front.toList))
  rw [← tokens, Grammar.surplus_map_behind] at misfits
  cases left : surplus (Scan.ofText front).tokens (Scan.ofText back).tokens with
  | cons token rest =>
    rw [left] at misfits
    exact parse_eq_error_iff_misfit.mpr (.inr ⟨clear, _, misfits, rfl⟩)
  | nil =>
    rw [left] at misfits
    have parentheses : Grammar.unbracketed
        ((Scan.ofText back).tokens.map (Token.behind front.toList)) = [] := by
      refine Grammar.unbracketed_of_parentheses fun token member => ?_
      obtain ⟨original, listed, rfl⟩ := List.mem_map.mp member
      exact Grammar.mem_parentheses_of_surplus_eq_nil left original listed
    have told : Grammar.Says (Scan.ofText (front ++ back)).tokens said := by
      rw [Grammar.Says, tokens, Grammar.unbracketed_append, parentheses, List.append_nil]
      exact (sentence_of_parse accepted).2
    exact parse_eq_ok_of_fits clear misfits told

theorem colon_rejected_behind_parenthesis :
    let front := "make palette 2 color\nfrom (dark red to light green"
    let back := ")\n : 3"
    let said : Command := ⟨"make palette", 2, ⟨"dark", "red"⟩, ⟨"light", "green"⟩⟩
    parse front = .ok said ∧ Text.Apart front.toList back.toList ∧
      parse (front ++ back) =
        .error ⟨.unexpected .endOfInput (.token ":"), ⟨⟨3, 1⟩, 1⟩, none⟩ := by
  intro front back said
  have accepted : parse front = .ok said := by decide +kernel
  have known : tokenize back = .ok (Scan.ofText back) :=
    tokenize_eq_ok_iff.mpr ⟨by decide +kernel, rfl⟩
  have begins : back.toList.head? = some ')' := by decide +kernel
  have apart : Text.Apart front.toList back.toList := by
    intro left _ right first
    rw [begins] at first
    obtain rfl : ')' = right := Option.some.inj first
    exact .inr (by decide)
  have left : surplus (Scan.ofText front).tokens (Scan.ofText back).tokens =
      [⟨.keyword, ":", ⟨⟨2, 1⟩, 1⟩⟩, ⟨.number, "3", ⟨⟨2, 3⟩, 1⟩⟩] := by
    decide +kernel
  have place : Span.behind front.toList ⟨⟨2, 1⟩, 1⟩ = ⟨⟨3, 1⟩, 1⟩ := by decide +kernel
  clear_value front back said
  have rejected := parse_append_of_accepted front back said _ accepted known apart
  rw [left] at rejected
  exact ⟨accepted, apart, place ▸ rejected⟩

end Palette
