import Palette.Command.Json
import Palette.Token

/-!
# The grammar

The tokens of a palette command, said part by part and without a cursor. The slots of the two
parentheses may be left empty, each by itself.
-/

namespace Palette.Grammar

/-- A place in a command that one token fills. -/
inductive Slot where
  | verb
  | palette
  | size
  | count
  | fromWord
  | openParen
  | adjective
  | color
  | separator
  | closeParen
deriving DecidableEq

/-- Words go by their uppercase, the size and the parentheses by their spelling. -/
def Slot.Admits (token : Token) : Slot → Prop
  | .verb => token.upper ∈ ["GENERATE", "MAKE"]
  | .palette => token.upper = "PALETTE"
  | .size => token.lexeme ∈ ["2", "3", "4", "5", "6", "7", "8", "9"]
  | .count => token.upper ∈ ["COLOR", "COLORS"]
  | .fromWord => token.upper = "FROM"
  | .openParen => token.lexeme = "("
  | .adjective => token.upper ∈ Vocabulary.adjectives
  | .color => token.upper ∈ Vocabulary.colors
  | .separator => token.upper ∈ [":", "TO"]
  | .closeParen => token.lexeme = ")"

instance (token : Token) : (slot : Slot) → Decidable (slot.Admits token)
  | .verb | .size | .count | .adjective | .color | .separator => inferInstanceAs (Decidable (_ ∈ _))
  | .palette | .fromWord | .openParen | .closeParen => inferInstanceAs (Decidable (_ = _))

/-- A slot that one token fills, or one that may be left empty. -/
inductive Part where
  | required (slot : Slot)
  | optional (slot : Slot)
deriving DecidableEq

def Part.slot : Part → Slot
  | .required slot => slot
  | .optional slot => slot

/-- The parts of a command. -/
def command : List Part :=
  [.required .verb, .required .palette, .required .size, .required .count, .required .fromWord,
   .optional .openParen, .required .adjective, .required .color, .required .separator,
   .required .adjective, .required .color, .optional .closeParen]

/-- Tokens fill the parts in order, but for some of those that may be left empty. -/
inductive Fills : List Part → List Token → Prop
  | done : Fills [] []
  | fill {part : Part} {parts : List Part} {token : Token} {tokens : List Token} :
      part.slot.Admits token → Fills parts tokens → Fills (part :: parts) (token :: tokens)
  | skip {slot : Slot} {parts : List Part} {tokens : List Token} :
      Fills parts tokens → Fills (.optional slot :: parts) tokens

section
variable {slot : Slot} {parts : List Part} {token : Token} {tokens : List Token}

@[simp] theorem fills_nil_iff : Fills [] tokens ↔ tokens = [] := by
  constructor
  · rintro ⟨⟩
    rfl
  · rintro rfl
    exact .done

@[simp] theorem not_fills_required_nil : ¬ Fills (.required slot :: parts) [] := by
  rintro ⟨⟩

@[simp] theorem fills_required_cons_iff :
    Fills (.required slot :: parts) (token :: tokens) ↔ slot.Admits token ∧ Fills parts tokens := by
  constructor
  · rintro ⟨⟩
    exact ⟨‹_›, ‹_›⟩
  · exact fun ⟨admitted, filled⟩ => .fill admitted filled

@[simp] theorem fills_optional_nil_iff : Fills (.optional slot :: parts) [] ↔ Fills parts [] := by
  constructor
  · rintro ⟨⟩
    exact ‹_›
  · exact .skip

theorem fills_optional_cons_iff :
    Fills (.optional slot :: parts) (token :: tokens) ↔
      slot.Admits token ∧ Fills parts tokens ∨ Fills parts (token :: tokens) := by
  constructor
  · intro filled
    cases filled with
    | fill admitted filled => exact .inl ⟨admitted, filled⟩
    | skip filled => exact .inr filled
  · rintro (⟨admitted, filled⟩ | filled)
    · exact .fill admitted filled
    · exact .skip filled

end

/-- Whether tokens fill parts is found out part by part. -/
instance decidableFills :
    (parts : List Part) → (tokens : List Token) → Decidable (Fills parts tokens)
  | [], _ => decidable_of_iff _ fills_nil_iff.symm
  | .required _ :: _, [] => isFalse not_fills_required_nil
  | .required _ :: parts, _ :: tokens =>
    have := decidableFills parts tokens
    decidable_of_iff _ fills_required_cons_iff.symm
  | .optional _ :: parts, [] =>
    have := decidableFills parts []
    decidable_of_iff _ fills_optional_nil_iff.symm
  | .optional _ :: parts, token :: tokens =>
    have := decidableFills parts tokens
    have := decidableFills parts (token :: tokens)
    decidable_of_iff _ fills_optional_cons_iff.symm

/-- Tokens that are a whole command. -/
def Sentence (tokens : List Token) : Prop := Fills command tokens

instance (tokens : List Token) : Decidable (Sentence tokens) :=
  inferInstanceAs (Decidable (Fills command tokens))

/-- Tokens with which a sentence can begin. -/
def Viable (tokens : List Token) : Prop := ∃ rest, Sentence (tokens ++ rest)

/-- Tokens without the parentheses among them. -/
def unbracketed (tokens : List Token) : List Token :=
  tokens.filter fun token => token.lexeme ∉ ["(", ")"]

/-- What a sentence says: its first two lexemes with one blank between them, the number that its
    third lexeme writes, and the lexemes of its endpoints. -/
def Says (tokens : List Token) (command : Command) : Prop :=
  ∃ verb palette count fromWord separator,
    (unbracketed tokens).map Token.lexeme =
      [verb, palette, toString command.size, count, fromWord, command.first.adjective,
       command.first.color, separator, command.second.adjective, command.second.color] ∧
    command.opening = verb ++ " " ++ palette

end Palette.Grammar
