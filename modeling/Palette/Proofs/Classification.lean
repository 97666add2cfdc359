import Palette.Grammar
import Palette.Parse
import Palette.Proofs.Decomposition

/-!
# The kinds of tokens

A token of a scan has the kind of its lexeme (`Scan.classified_of_mem`). No word is in two tables,
so every slot of the grammar admits tokens of one kind only (`Slot.kind_of_admits`).
-/

namespace Palette

namespace Vocabulary

private theorem not_mem_keywords_of_mem_colors {word : String} (color : word ∈ colors) :
    word ∉ keywords := by
  have disjoint : ∀ word ∈ colors, word ∉ keywords := by decide
  exact disjoint word color

private theorem not_mem_of_mem_adjectives {word : String} (adjective : word ∈ adjectives) :
    word ∉ keywords ∧ word ∉ colors := by
  have disjoint : ∀ word ∈ adjectives, word ∉ keywords ∧ word ∉ colors := by decide
  exact disjoint word adjective

end Vocabulary

namespace Kind

variable {lexeme : String}

private theorem ofLexeme_of_mem_keywords (keyword : Text.upper lexeme ∈ Vocabulary.keywords) :
    ofLexeme lexeme = .keyword := by
  simp [ofLexeme, Vocabulary.isKeyword, keyword]

theorem ofLexeme_eq_keyword_iff :
    ofLexeme lexeme = .keyword ↔ Text.upper lexeme ∈ Vocabulary.keywords := by
  constructor
  · intro kind
    simp only [ofLexeme] at kind
    split_ifs at kind with keyword
    exact List.contains_iff_mem.mp keyword
  · exact ofLexeme_of_mem_keywords

theorem ofLexeme_eq_color_iff :
    ofLexeme lexeme = .color ↔ Text.upper lexeme ∈ Vocabulary.colors := by
  constructor
  · intro kind
    simp only [ofLexeme] at kind
    split_ifs at kind with keyword color
    exact List.contains_iff_mem.mp color
  · intro color
    have notKeyword := Vocabulary.not_mem_keywords_of_mem_colors color
    simp [ofLexeme, Vocabulary.isKeyword, Vocabulary.isColor, notKeyword, color]

theorem ofLexeme_eq_adjective_iff :
    ofLexeme lexeme = .adjective ↔ Text.upper lexeme ∈ Vocabulary.adjectives := by
  constructor
  · intro kind
    simp only [ofLexeme] at kind
    split_ifs at kind with keyword color adjective
    exact List.contains_iff_mem.mp adjective
  · intro adjective
    obtain ⟨notKeyword, notColor⟩ := Vocabulary.not_mem_of_mem_adjectives adjective
    simp [ofLexeme, Vocabulary.isKeyword, Vocabulary.isColor, Vocabulary.isAdjective, notKeyword,
      notColor, adjective]

theorem ofLexeme_of_mem_parentheses (parenthesis : lexeme ∈ ["(", ")"]) :
    ofLexeme lexeme = .symbol := by
  have symbols : ∀ lexeme ∈ ["(", ")"], ofLexeme lexeme = .symbol := by decide +kernel
  exact symbols lexeme parenthesis

end Kind

/-- The token has the kind of its lexeme. -/
def Token.Classified (token : Token) : Prop := token.kind = Kind.ofLexeme token.lexeme

theorem Scan.classified_of_mem {source : String} {token : Token}
    (member : token ∈ (Scan.ofText source).tokens) : token.Classified := by
  obtain ⟨front, segment, back, _, _, _, rfl⟩ := Scan.exists_parts_of_mem_tokens member
  simp only [Token.Classified]

theorem Scan.classified_of_scanned {source : String} {scan : Scan}
    (scanned : tokenize source = .ok scan ∨ scan = ofText source) :
    ∀ token ∈ scan.tokens, token.Classified := by
  obtain rfl : scan = ofText source :=
    scanned.elim (fun passed => (tokenize_eq_ok_iff.mp passed).2) id
  exact fun _ => classified_of_mem

namespace Grammar

/-- The kind of the tokens that a slot admits. -/
def Slot.kind : Slot → Kind
  | .verb | .palette | .count | .fromWord | .separator => .keyword
  | .size => .number
  | .openParen | .closeParen => .symbol
  | .adjective => .adjective
  | .color => .color

private theorem ofLexeme_of_mem {words : List String} {lexeme : String}
    (known : ∀ word ∈ words, word ∈ Vocabulary.keywords) (member : Text.upper lexeme ∈ words) :
    Kind.ofLexeme lexeme = .keyword :=
  Kind.ofLexeme_of_mem_keywords (known _ member)

variable {slot : Slot} {token : Token}

theorem Slot.ofLexeme_of_admits (admitted : slot.Admits token) :
    Kind.ofLexeme token.lexeme = slot.kind := by
  cases slot with
  | verb => exact ofLexeme_of_mem (by decide) admitted
  | palette => exact ofLexeme_of_mem (by decide) (List.mem_singleton.mpr admitted)
  | size =>
    have numbers : ∀ lexeme ∈ ["2", "3", "4", "5", "6", "7", "8", "9"],
        Kind.ofLexeme lexeme = .number := by decide +kernel
    exact numbers _ admitted
  | count => exact ofLexeme_of_mem (by decide) admitted
  | fromWord => exact ofLexeme_of_mem (by decide) (List.mem_singleton.mpr admitted)
  | openParen | closeParen =>
    rw [admitted]
    exact Kind.ofLexeme_of_mem_parentheses (by simp)
  | adjective => exact Kind.ofLexeme_eq_adjective_iff.mpr admitted
  | color => exact Kind.ofLexeme_eq_color_iff.mpr admitted
  | separator => exact ofLexeme_of_mem (by decide) admitted

theorem Slot.kind_of_admits (classified : token.Classified) (admitted : slot.Admits token) :
    token.kind = slot.kind :=
  classified.trans (Slot.ofLexeme_of_admits admitted)

theorem Slot.kind_eq_adjective_iff (classified : token.Classified) :
    token.kind = .adjective ↔ Slot.adjective.Admits token := by
  rw [classified, Kind.ofLexeme_eq_adjective_iff]
  rfl

theorem Slot.kind_eq_color_iff (classified : token.Classified) :
    token.kind = .color ↔ Slot.color.Admits token := by
  rw [classified, Kind.ofLexeme_eq_color_iff]
  rfl

theorem Slot.isMark_of_admits (classified : token.Classified) (admitted : slot.Admits token)
    (symbol : token.kind = .symbol) : Vocabulary.isMark token.lexeme = true := by
  have kind := Slot.kind_of_admits classified admitted
  rw [symbol] at kind
  cases slot with
  | openParen =>
    rw [admitted]
    decide
  | closeParen =>
    rw [admitted]
    decide
  | verb | palette | size | count | fromWord | adjective | color | separator => cases kind

theorem Slot.not_parenthesis_of_admits (admitted : slot.Admits token)
    (other : slot.kind ≠ .symbol) : token.lexeme ∉ ["(", ")"] := by
  intro parenthesis
  have symbol := Kind.ofLexeme_of_mem_parentheses parenthesis
  exact other ((Slot.ofLexeme_of_admits admitted).symm.trans symbol)

@[simp] theorem unbracketed_nil : unbracketed [] = [] := rfl

@[simp] theorem unbracketed_append (front back : List Token) :
    unbracketed (front ++ back) = unbracketed front ++ unbracketed back :=
  List.filter_append ..

theorem unbracketed_cons_of_admits (admitted : slot.Admits token) (other : slot.kind ≠ .symbol)
    (rest : List Token) : unbracketed (token :: rest) = token :: unbracketed rest := by
  have plain := Slot.not_parenthesis_of_admits admitted other
  rw [unbracketed, List.filter_cons_of_pos (by simpa using plain), unbracketed]

theorem unbracketed_of_parentheses {tokens : List Token}
    (parentheses : ∀ token ∈ tokens, token.lexeme ∈ ["(", ")"]) : unbracketed tokens = [] := by
  refine List.filter_eq_nil_iff.mpr fun token member kept => ?_
  exact (of_decide_eq_true kept) (parentheses token member)

end Grammar

private def sizeDigits : List Char := ['2', '3', '4', '5', '6', '7', '8', '9']

private theorem mem_sizeDigits_iff {digit : Char} :
    digit ∈ sizeDigits ↔ '2' ≤ digit ∧ digit ≤ '9' := by
  constructor
  · intro member
    have bounded : sizeDigits.all fun digit => 50 ≤ digit.toNat ∧ digit.toNat ≤ 57 := by decide
    have code := List.all_eq_true.mp bounded digit member
    exact of_decide_eq_true code
  · rintro ⟨lower, upper⟩
    have code : 50 ≤ digit.toNat ∧ digit.toNat ≤ 57 := ⟨lower, upper⟩
    have every : ∀ code < 58, 50 ≤ code → Char.ofNat code ∈ sizeDigits := by decide +kernel
    have member := every digit.toNat (by omega) code.1
    rwa [Char.ofNat_toNat] at member

private theorem sizes_eq_map :
    ["2", "3", "4", "5", "6", "7", "8", "9"] =
      sizeDigits.map fun digit => String.ofList [digit] := by
  decide

theorem Token.lexeme_of_size? {token : Token} {size : Nat} (found : token.size? = some size) :
    Grammar.Slot.size.Admits token ∧ token.lexeme = toString size := by
  simp only [Token.size?] at found
  split at found
  · next digit _ single =>
    split_ifs at found with inside
    have member := mem_sizeDigits_iff.mpr inside
    have lexeme : token.lexeme = String.ofList [digit] := by
      rw [← single, String.ofList_toList]
    have written : sizeDigits.map (fun digit => String.ofList [digit]) =
        sizeDigits.map fun digit => toString (digit.toNat - '0'.toNat) := by decide
    refine ⟨?_, ?_⟩
    · rw [Grammar.Slot.Admits, lexeme, sizes_eq_map]
      exact List.mem_map_of_mem member
    · rw [lexeme, List.map_inj_left.mp written digit member, Option.some.inj found]
  · cases found

theorem Token.isSome_size?_iff {token : Token} (classified : token.Classified) :
    token.size?.isSome = true ↔ Grammar.Slot.size.Admits token := by
  constructor
  · intro found
    obtain ⟨size, found⟩ := Option.isSome_iff_exists.mp found
    exact (Token.lexeme_of_size? found).1
  · intro admitted
    have kind := Grammar.Slot.kind_of_admits classified admitted
    rw [Grammar.Slot.Admits, sizes_eq_map] at admitted
    obtain ⟨digit, member, lexeme⟩ := List.mem_map.mp admitted
    have inside := mem_sizeDigits_iff.mp member
    simp [Token.size?, kind, Grammar.Slot.kind, ← lexeme, inside]

end Palette
