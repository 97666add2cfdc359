import Palette.Proofs.Excerpts
import Palette.Proofs.Letters

/-!
# Texts read in lockstep

All that is asked of a token is answered by its uppercase. So two texts whose tokens agree in
uppercase one by one have the same outcome (`outcomes_in_step`, for any relation of words that keeps
the uppercase).
-/

namespace Palette

open Grammar (Slot Part Misfit misfit Says)

section
variable {one other : String}

theorem Text.upper_mem_iff_of_caseless {words : List String}
    (caseless : (words.all fun word => word.toList.all isCaseless) = true) :
    upper one ∈ words ↔ one ∈ words := by
  have letters : ∀ word ∈ words, ∀ c ∈ word.toList, isCaseless c = true := by
    intro word member
    exact List.all_eq_true.mp (List.all_eq_true.mp caseless word member)
  constructor
  · intro member
    rwa [← (upper_eq_iff_of_caseless (letters _ member)).mp rfl] at member
  · intro member
    rwa [(upper_eq_iff_of_caseless (letters _ member)).mpr rfl]

private theorem Text.upper_toString (number : Nat) : upper (toString number) = toString number := by
  refine (upper_eq_iff_of_caseless ?_).mpr rfl
  intro c member
  rw [Nat.toString_eq_repr, Nat.repr_eq_ofList_toDigits, String.toList_ofList] at member
  have digit := Nat.isDigit_of_mem_toDigits (by decide) (by decide) member
  simp only [Char.isDigit, Bool.and_eq_true, decide_eq_true_iff] at digit
  have ascii : isDigit c = true := isDigit_iff.mpr ⟨(0x30, 0x39), by decide, digit⟩
  simp [isCaseless, ascii]

theorem Kind.ofLexeme_congr (same : Text.upper one = Text.upper other) :
    ofLexeme one = ofLexeme other := by
  have numerals : Text.isNumeral one.toList = Text.isNumeral other.toList := by
    rw [← Text.isNumeral_upper one, same, Text.isNumeral_upper]
  simp only [ofLexeme, same, numerals]

theorem Vocabulary.isMark_congr (same : Text.upper one = Text.upper other) :
    isMark one = isMark other := by
  have caseless : (marks.all fun word => word.toList.all Text.isCaseless) = true := by
    decide +kernel
  rw [Bool.eq_iff_iff, isMark, isMark, List.contains_iff_mem, List.contains_iff_mem,
    ← Text.upper_mem_iff_of_caseless caseless, same, Text.upper_mem_iff_of_caseless caseless]

theorem Grammar.Slot.admits_congr {one other : Token} (same : one.upper = other.upper)
    (slot : Slot) : slot.Admits one ↔ slot.Admits other := by
  have spelled : ∀ words : List String,
      (words.all fun word => word.toList.all Text.isCaseless) = true →
        (one.lexeme ∈ words ↔ other.lexeme ∈ words) := by
    intro words caseless
    have uppercase : Text.upper one.lexeme = Text.upper other.lexeme := same
    rw [← Text.upper_mem_iff_of_caseless caseless, uppercase,
      Text.upper_mem_iff_of_caseless caseless]
  cases slot with
  | verb | palette | count | fromWord | adjective | color | separator => simp only [Admits, same]
  | size => exact spelled _ (by decide +kernel)
  | openParen => simpa [Admits] using spelled ["("] (by decide +kernel)
  | closeParen => simpa [Admits] using spelled [")"] (by decide +kernel)

end

section
variable (Spelled : String → String → Prop)

/-- Both are the end, or words that are spelled alike. -/
def Found.Alike : Found → Found → Prop
  | .token one, .token other => Spelled one other
  | .endOfInput, .endOfInput => True
  | _, _ => False

/-- The same reason, and the same expectation, for words that are spelled alike. -/
def Cause.Alike : Cause → Cause → Prop
  | .unknownSymbol one, .unknownSymbol other => Spelled one other
  | .unexpected wanted found, .unexpected otherWanted otherFound =>
    wanted = otherWanted ∧ found.Alike Spelled otherFound
  | _, _ => False

/-- Commands for the same number of colors, in words that are spelled alike. -/
structure Command.Alike (one other : Command) : Prop where
  size : one.size = other.size
  opening : ∃ verb palette otherVerb otherPalette,
    one.opening = verb ++ " " ++ palette ∧ other.opening = otherVerb ++ " " ++ otherPalette ∧
      Spelled verb otherVerb ∧ Spelled palette otherPalette
  first : Spelled one.first.adjective other.first.adjective ∧
    Spelled one.first.color other.first.color
  second : Spelled one.second.adjective other.second.adjective ∧
    Spelled one.second.color other.second.color

variable {Spelled}

theorem Command.Alike.agrees {said heard : Command}
    (keeps : ∀ one other, Spelled one other → Text.upper one = Text.upper other)
    (alike : said.Alike Spelled heard) :
    said.first.agrees heard.first = true ∧ said.second.agrees heard.second = true := by
  obtain ⟨-, -, ⟨shade, color⟩, otherShade, otherColor⟩ := alike
  constructor
  · simp [Endpoint.agrees, keeps _ _ shade, keeps _ _ color]
  · simp [Endpoint.agrees, keeps _ _ otherShade, keeps _ _ otherColor]

end

theorem map_eq_map_iff_forall₂ {α β γ : Type} {f : α → γ} {g : β → γ} {front : List α}
    {back : List β} :
    front.map f = back.map g ↔ List.Forall₂ (fun one other => f one = g other) front back := by
  rw [← List.forall₂_eq_eq_eq, List.forall₂_map_left_iff, List.forall₂_map_right_iff]

/-- A rejection is about the token with an index, or about the end behind as many tokens. -/
def Rejection.StandsAt (rejection : Rejection) (scan : Scan) (index : Nat) : Prop :=
  match scan.tokens[index]? with
  | some token => rejection.cause.subject = .token token.lexeme ∧ rejection.span = token.span
  | none => index = scan.tokens.length ∧ rejection.cause.subject = .endOfInput ∧
      rejection.span = scan.stop

private theorem Grammar.Misfit.standsAt_rejection {scan : Scan} {index : Nat}
    (inside : index ≤ scan.tokens.length) (expected : Expectation) :
    ((Misfit.mk (scan.tokens.drop index) expected).rejection scan.stop).StandsAt scan index := by
  rw [Rejection.StandsAt]
  cases under : scan.tokens[index]? with
  | some token =>
    obtain ⟨bound, rfl⟩ := List.getElem?_eq_some_iff.mp under
    rw [List.drop_eq_getElem_cons bound]
    exact ⟨rfl, rfl⟩
  | none =>
    have beyond := List.getElem?_eq_none_iff.mp under
    rw [List.drop_eq_nil_of_le beyond]
    exact ⟨by omega, rfl, rfl⟩

section
variable {tokens others : List Token} {Spelled : String → String → Prop}

/-- Tokens that are spelled alike, one by one. -/
def TokensAlike (Spelled : String → String → Prop) (tokens others : List Token) : Prop :=
  List.Forall₂ (fun one other => Spelled one.lexeme other.lexeme) tokens others

private theorem find?_in_step {Related : Token → Token → Prop} {test : Token → Bool}
    (agree : ∀ one ∈ tokens, ∀ other ∈ others, Related one other → test one = test other)
    (related : List.Forall₂ Related tokens others) :
    match tokens.find? test, others.find? test with
    | some one, some other => Related one other ∧
        ∃ index : Nat, tokens[index]? = some one ∧ others[index]? = some other
    | none, none => True
    | _, _ => False := by
  induction related with
  | nil => trivial
  | @cons one other tokens others same related ih =>
    have heads := agree one (by simp) other (by simp) same
    have later := ih fun one member other otherMember =>
      agree one (List.mem_cons_of_mem _ member) other (List.mem_cons_of_mem _ otherMember)
    by_cases passed : test one = true
    · have otherPassed : test other = true := by rwa [← heads]
      rw [List.find?_cons_of_pos passed, List.find?_cons_of_pos otherPassed]
      exact ⟨same, 0, rfl, rfl⟩
    · have otherPassed : ¬ test other = true := by rwa [← heads]
      rw [List.find?_cons_of_neg passed, List.find?_cons_of_neg otherPassed]
      cases found : tokens.find? test <;> cases otherFound : others.find? test <;>
        simp only [found, otherFound] at later ⊢
      obtain ⟨same, index, under, otherUnder⟩ := later
      exact ⟨same, index + 1, under, otherUnder⟩

/-- Tokens that agree in uppercase have their first misfit at the same index. -/
theorem Grammar.misfit_in_step {parts : List Part} {found : Misfit}
    (same : List.Forall₂ (fun one other => one.upper = other.upper) tokens others)
    (misfits : misfit parts tokens = some found) :
    ∃ index ≤ tokens.length, found.ahead = tokens.drop index ∧
      misfit parts others = some ⟨others.drop index, found.expected⟩ := by
  -- Both lists go the same way, since each slot admits both tokens or neither.
  fun_induction misfit parts tokens generalizing others with
  | case1 => cases misfits
  | case2 | case3 =>
    cases misfits
    cases same
    exact ⟨0, by simp, rfl, by simp [misfit]⟩
  | case5 slot parts token tokens refused =>
    cases misfits
    obtain _ | ⟨heads, same⟩ := same
    refine ⟨0, by simp, rfl, ?_⟩
    rw [misfit, if_neg (mt (slot.admits_congr heads).mpr refused), List.drop_zero]
  | case4 slot parts token tokens admitted ih | case7 slot parts token tokens admitted ih =>
    obtain _ | ⟨heads, same⟩ := same
    obtain ⟨index, inside, ahead, otherMisfits⟩ := ih same misfits
    refine ⟨index + 1, by simpa using inside, ahead, ?_⟩
    rw [misfit, if_pos ((slot.admits_congr heads).mp admitted), otherMisfits, List.drop_succ_cons]
  | case6 slot parts ih =>
    cases same
    exact ih .nil misfits
  | case8 slot parts token tokens passed ih =>
    obtain _ | ⟨heads, same⟩ := same
    rw [misfit, if_neg (mt (slot.admits_congr heads).mpr passed)]
    exact ih (.cons heads same) misfits

private theorem Grammar.Misfit.alike_rejection (alike : TokensAlike Spelled tokens others)
    (expected : Expectation) (stop otherStop : Span) :
    ((Misfit.mk tokens expected).rejection stop).cause.Alike Spelled
        ((Misfit.mk others expected).rejection otherStop).cause ∧
      ((Misfit.mk tokens expected).rejection stop).help =
        ((Misfit.mk others expected).rejection otherStop).help := by
  cases alike with
  | nil => exact ⟨⟨rfl, trivial⟩, rfl⟩
  | cons same => exact ⟨⟨rfl, same⟩, rfl⟩

theorem Grammar.Says.alike {said heard : Command}
    (keeps : ∀ one other, Spelled one other → Text.upper one = Text.upper other)
    (alike : TokensAlike Spelled tokens others) (told : Says tokens said)
    (otherTold : Says others heard) : said.Alike Spelled heard := by
  have marks : (["(", ")"].all fun word => word.toList.all Text.isCaseless) = true := by
    decide +kernel
  have bare : TokensAlike Spelled (unbracketed tokens) (unbracketed others) := by
    refine List.rel_filter (fun one other same => ?_) alike
    simp only [decide_eq_true_iff]
    rw [← Text.upper_mem_iff_of_caseless marks, keeps _ _ same,
      Text.upper_mem_iff_of_caseless marks]
  obtain ⟨verb, palette, count, fromWord, separator, lexemes, opening⟩ := told
  obtain ⟨otherVerb, otherPalette, _, _, _, otherLexemes, otherOpening⟩ := otherTold
  rw [TokensAlike, ← List.forall₂_map_right_iff, ← List.forall₂_map_left_iff, lexemes,
    otherLexemes] at bare
  simp only [List.forall₂_cons] at bare
  obtain ⟨verbs, palettes, sizes, -, -, shade, color, -, otherShade, otherColor, -⟩ := bare
  have numbers := keeps _ _ sizes
  rw [Text.upper_toString, Text.upper_toString] at numbers
  exact ⟨Nat.repr_injective numbers, ⟨_, _, _, _, opening, otherOpening, verbs, palettes⟩,
    ⟨shade, color⟩, otherShade, otherColor⟩

end

section
variable {source other : String} {Spelled : String → String → Prop}

private theorem Scan.offender?_in_step
    (keeps : ∀ one other, Spelled one other → Text.upper one = Text.upper other)
    (alike : TokensAlike Spelled (ofText source).tokens (ofText other).tokens) :
    match (ofText source).offender?, (ofText other).offender? with
    | some token, some otherToken => Spelled token.lexeme otherToken.lexeme ∧ ∃ index : Nat,
        (ofText source).tokens[index]? = some token ∧
          (ofText other).tokens[index]? = some otherToken
    | none, none => True
    | _, _ => False := by
  simp only [offender?, symbols, List.find?_filter]
  refine find?_in_step (fun token member otherToken otherMember same => ?_) alike
  have uppercase := keeps _ _ same
  have kinds : token.kind = otherToken.kind := by
    rw [classified_of_mem member, classified_of_mem otherMember, Kind.ofLexeme_congr uppercase]
  simp only [kinds, Vocabulary.isMark_congr uppercase]

private theorem exists_error_in_step {rejection : Rejection}
    (keeps : ∀ one other, Spelled one other → Text.upper one = Text.upper other)
    (alike : TokensAlike Spelled (Scan.ofText source).tokens (Scan.ofText other).tokens)
    (rejected : parse source = .error rejection) :
    ∃ otherRejection, parse other = .error otherRejection ∧
      rejection.cause.Alike Spelled otherRejection.cause ∧
      rejection.help = otherRejection.help ∧
      ∃ index, rejection.StandsAt (Scan.ofText source) index ∧
        otherRejection.StandsAt (Scan.ofText other) index := by
  have offenders := Scan.offender?_in_step keeps alike
  rcases parse_eq_error_iff_misfit.mp rejected with
    ⟨token, offends, rfl⟩ | ⟨clear, ⟨_, expected⟩, misfits, rfl⟩
  · cases otherOffends : (Scan.ofText other).offender? with
    | none => simp [offends, otherOffends] at offenders
    | some otherToken =>
      simp only [offends, otherOffends] at offenders
      obtain ⟨same, index, under, otherUnder⟩ := offenders
      refine ⟨_, parse_eq_error_iff_misfit.mpr (.inl ⟨_, otherOffends, rfl⟩), same, rfl, index, ?_⟩
      rw [Rejection.StandsAt, Rejection.StandsAt, under, otherUnder]
      exact ⟨⟨rfl, rfl⟩, rfl, rfl⟩
  · have otherClear : (Scan.ofText other).offender? = none := by
      cases otherOffends : (Scan.ofText other).offender? with
      | none => rfl
      | some otherToken => simp [clear, otherOffends] at offenders
    have uppercase := alike.imp fun one other same => keeps one.lexeme other.lexeme same
    obtain ⟨index, inside, rfl, otherMisfits⟩ := Grammar.misfit_in_step uppercase misfits
    have otherInside : index ≤ (Scan.ofText other).tokens.length := alike.length_eq ▸ inside
    obtain ⟨causes, helps⟩ := Grammar.Misfit.alike_rejection (List.forall₂_drop index alike)
      expected (Scan.ofText source).stop (Scan.ofText other).stop
    exact ⟨_, parse_eq_error_iff_misfit.mpr (.inr ⟨otherClear, _, otherMisfits, rfl⟩), causes,
      helps, index, Grammar.Misfit.standsAt_rejection inside expected,
      Grammar.Misfit.standsAt_rejection otherInside expected⟩

/-- Texts whose tokens are spelled alike are commands alike, or rejected alike at the same index. -/
theorem outcomes_in_step
    (keeps : ∀ one other, Spelled one other → Text.upper one = Text.upper other)
    (alike : TokensAlike Spelled (Scan.ofText source).tokens (Scan.ofText other).tokens) :
    match parse source, parse other with
    | .ok said, .ok heard => said.Alike Spelled heard
    | .error rejection, .error otherRejection =>
      rejection.cause.Alike Spelled otherRejection.cause ∧
        rejection.help = otherRejection.help ∧
        ∃ index, rejection.StandsAt (Scan.ofText source) index ∧
          otherRejection.StandsAt (Scan.ofText other) index
    | _, _ => False := by
  cases run : parse source with
  | error rejection =>
    obtain ⟨otherRejection, otherRun, rejected⟩ := exists_error_in_step keeps alike run
    rw [otherRun]
    exact rejected
  | ok said =>
    cases otherRun : parse other with
    | ok heard =>
      exact Says.alike keeps alike (sentence_of_parse run).2 (sentence_of_parse otherRun).2
    | error otherRejection =>
      -- Seen from the other text, this one is rejected too.
      have turned : TokensAlike (flip Spelled) (Scan.ofText other).tokens
          (Scan.ofText source).tokens := List.Forall₂.flip alike
      obtain ⟨rejection, rejected, _⟩ := exists_error_in_step
        (fun one other same => (keeps other one same).symm) turned otherRun
      rw [run] at rejected
      cases rejected

end

/-- Texts whose tokens have the same uppercase one by one have the same outcome: commands that agree
    in size and endpoints, or rejections at the same index that want the same there. -/
theorem parse_determined_by_uppercase (source other : String)
    (same : (Scan.ofText source).tokens.map Token.upper =
      (Scan.ofText other).tokens.map Token.upper) :
    match parse source, parse other with
    | .ok said, .ok heard => said.size = heard.size ∧
        said.first.agrees heard.first = true ∧ said.second.agrees heard.second = true ∧
        Text.upper said.opening = Text.upper heard.opening
    | .error rejection, .error otherRejection =>
      rejection.cause.Alike (fun word otherWord => Text.upper word = Text.upper otherWord)
          otherRejection.cause ∧
        rejection.help = otherRejection.help ∧
        ∃ index, rejection.StandsAt (Scan.ofText source) index ∧
          otherRejection.StandsAt (Scan.ofText other) index
    | _, _ => False := by
  have alike : TokensAlike (fun word otherWord => Text.upper word = Text.upper otherWord)
      (Scan.ofText source).tokens (Scan.ofText other).tokens :=
    map_eq_map_iff_forall₂.mp same
  have outcomes := outcomes_in_step (fun _ _ => id) alike
  cases run : parse source <;> cases otherRun : parse other <;>
    simp only [run, otherRun] at outcomes ⊢
  · exact outcomes
  · obtain ⟨firsts, seconds⟩ := outcomes.agrees fun _ _ => id
    obtain ⟨_, _, _, _, opening, otherOpening, verbs, palettes⟩ := outcomes.opening
    refine ⟨outcomes.size, firsts, seconds, ?_⟩
    simp only [opening, otherOpening, Text.upper_append, verbs, palettes]

/-- The i without a dot and the long s have plain capitals, so both texts are the same command. -/
theorem long_letters_read_as_plain :
    let source := "make palette 2\tcolorſ\n from dark red : lıght blue"
    let other := "Make Palette 2 Colors from Dark Red : Light Blue"
    (Scan.ofText source).tokens.map Token.upper = (Scan.ofText other).tokens.map Token.upper ∧
      ∃ heard, parse other = .ok heard ∧ heard.size = 2 ∧
        Endpoint.agrees ⟨"lıght", "blue"⟩ heard.second = true := by
  intro source other
  have same : (Scan.ofText source).tokens.map Token.upper =
      (Scan.ofText other).tokens.map Token.upper := by
    decide +kernel
  have run : parse source = .ok ⟨"make palette", 2, ⟨"dark", "red"⟩, ⟨"lıght", "blue"⟩⟩ := by
    decide +kernel
  clear_value source other
  have outcome := parse_determined_by_uppercase source other same
  rw [run] at outcome
  cases otherRun : parse other with
  | error rejection =>
    rw [otherRun] at outcome
    exact outcome.elim
  | ok heard =>
    rw [otherRun] at outcome
    obtain ⟨sizes, _, seconds, _⟩ := outcome
    exact ⟨same, heard, rfl, sizes.symm, seconds⟩

end Palette
