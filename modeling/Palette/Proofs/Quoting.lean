import Mathlib.Data.String.Basic
import Palette.Text.Quoted

/-!
# Quoted text read back

The escape at the front of quoted text says by itself where it ends (`unquoteFirst_quotedChar`), so
no two texts are quoted alike (`quoted_injective`), and none of them breaks (`unbroken_quoted`).
-/

namespace Palette.Text

def hexDigits : List Char := "0123456789abcdef".toList

def ofHex (digits : List Char) : Nat :=
  digits.foldl (fun number digit => 16 * number + hexDigits.idxOf digit) 0

private theorem idxOf_digitChar {digit : Nat} (small : digit < 16) :
    hexDigits.idxOf (Nat.digitChar digit) = digit := by
  have every : ∀ digit < 16, hexDigits.idxOf (Nat.digitChar digit) = digit := by decide
  exact every digit small

private theorem digitChar_mem {digit : Nat} (small : digit < 16) :
    Nat.digitChar digit ∈ hexDigits := by
  have every : ∀ digit < 16, Nat.digitChar digit ∈ hexDigits := by decide
  exact every digit small

private theorem ofHex_toDigits (number : Nat) : ofHex (Nat.toDigits 16 number) = number := by
  induction number using Nat.strongRecOn with
  | ind number ih =>
    rw [Nat.toDigits_eq_if (by decide)]
    split
    · next small => simp [ofHex, idxOf_digitChar small]
    · next large =>
      have front := ih (number / 16) (by omega)
      rw [ofHex] at front
      rw [ofHex, List.foldl_append, front, List.foldl_cons, List.foldl_nil,
        idxOf_digitChar (Nat.mod_lt _ (by decide)), Nat.div_add_mod]

private theorem mem_hexDigits_of_mem_toDigits {number : Nat} {c : Char}
    (member : c ∈ Nat.toDigits 16 number) : c ∈ hexDigits := by
  induction number using Nat.strongRecOn with
  | ind number ih =>
    rw [Nat.toDigits_eq_if (by decide)] at member
    split at member
    · next small =>
      rw [List.mem_singleton.mp member]
      exact digitChar_mem small
    · next large =>
      rcases List.mem_append.mp member with front | last
      · exact ih (number / 16) (by omega) front
      · rw [List.mem_singleton.mp last]
        exact digitChar_mem (Nat.mod_lt _ (by decide))

/-- The characters with short escapes, each behind the letter for it. -/
def shortEscapes : List (Char × Char) :=
  [('"', '"'), ('\\', '\\'), ('t', '\t'), ('n', '\n'), ('r', '\r'), ('0', '\x00')]

/-- The first character of a text that has been quoted, and what stands behind its escape. -/
def unquoteFirst : List Char → Option (Char × List Char)
  | '\\' :: 'u' :: rest =>
    let digits := (rest.drop 1).takeWhile (· ≠ '\x7d')
    some (Char.ofNat (ofHex digits), rest.drop (digits.length + 2))
  | '\\' :: letter :: rest => (shortEscapes.lookup letter).map fun c => (c, rest)
  | c :: rest => some (c, rest)
  | [] => none

private theorem quotedChar_cases (c : Char) :
    (∃ letter, quotedChar c = ['\\', letter] ∧ (letter, c) ∈ shortEscapes) ∨
      quotedChar c = numberEscape c ∨
      quotedChar c = [c] ∧ c ∉ ['\\', '\n', '\r'] := by
  fun_cases quotedChar c with
  | case1 | case2 | case3 | case4 | case5 | case6 => exact .inl ⟨_, rfl, by decide⟩
  | case7 => exact .inr (.inl rfl)
  | case8 => exact .inr (.inr ⟨rfl, by simp_all⟩)

private theorem unquoteFirst_of_digits {digits : List Char}
    (inside : ∀ digit ∈ digits, digit ∈ hexDigits) (rest : List Char) :
    unquoteFirst ('\\' :: 'u' :: '\x7b' :: (digits ++ '\x7d' :: rest)) =
      some (Char.ofNat (ofHex digits), rest) := by
  have within : ∀ digit ∈ digits, decide (digit ≠ '\x7d') = true := by
    intro digit member
    have foreign : '\x7d' ∉ hexDigits := by decide
    simpa using ne_of_mem_of_not_mem (inside digit member) foreign
  have taken : (digits ++ '\x7d' :: rest).takeWhile (· ≠ '\x7d') = digits := by
    rw [List.takeWhile_append_of_pos within, List.takeWhile_cons]
    simp
  simp only [unquoteFirst, List.drop_one, List.tail_cons, taken]
  simp [List.drop_append]

theorem unquoteFirst_quotedChar (c : Char) (rest : List Char) :
    unquoteFirst (quotedChar c ++ rest) = some (c, rest) := by
  rcases quotedChar_cases c with ⟨letter, quoted, listed⟩ | quoted | ⟨quoted, plain⟩
  · rw [quoted]
    simp only [shortEscapes, List.mem_cons, Prod.mk.injEq, List.not_mem_nil, or_false] at listed
    rcases listed with ⟨rfl, rfl⟩ | ⟨rfl, rfl⟩ | ⟨rfl, rfl⟩ | ⟨rfl, rfl⟩ | ⟨rfl, rfl⟩ | ⟨rfl, rfl⟩
    all_goals rfl
  · have inside : ∀ digit ∈ Nat.toDigits 16 c.toNat, digit ∈ hexDigits :=
      fun _ => mem_hexDigits_of_mem_toDigits
    have split : numberEscape c ++ rest =
        '\\' :: 'u' :: '\x7b' :: (Nat.toDigits 16 c.toNat ++ '\x7d' :: rest) := by
      simp [numberEscape]
    rw [quoted, split, unquoteFirst_of_digits inside, ofHex_toDigits, Char.ofNat_toNat]
  · have unescaped : c ≠ '\\' := fun same => plain (by simp [same])
    rw [quoted]
    simp [unquoteFirst, unescaped]

private theorem flatMap_quotedChar_injective {one other : List Char}
    (same : one.flatMap quotedChar = other.flatMap quotedChar) : one = other := by
  induction one generalizing other with
  | nil =>
    cases other with
    | nil => rfl
    | cons d more =>
      have first := congrArg unquoteFirst same
      rw [List.flatMap_cons, unquoteFirst_quotedChar] at first
      cases first
  | cons c rest ih =>
    have first := congrArg unquoteFirst same
    rw [List.flatMap_cons, unquoteFirst_quotedChar] at first
    cases other with
    | nil => cases first
    | cons d more =>
      rw [List.flatMap_cons, unquoteFirst_quotedChar] at first
      obtain ⟨rfl, later⟩ := Prod.mk.inj (Option.some.inj first)
      rw [ih later]

private theorem toList_quoted (text : String) :
    (quoted text).toList = '"' :: (text.toList.flatMap quotedChar ++ ['"']) := by
  simp [quoted]

theorem quoted_injective : Function.Injective quoted := by
  intro one other same
  have lists := congrArg String.toList same
  rw [toList_quoted, toList_quoted, List.cons.injEq, List.append_cancel_right_eq] at lists
  exact String.toList_injective (flatMap_quotedChar_injective lists.2)

/-- Quoted text begins with the first double quote of a text that it ends. -/
theorem dropWhile_append_quoted {front : String} (unquoted : '"' ∉ front.toList) (text : String) :
    (front ++ quoted text).toList.dropWhile (· ≠ '"') = (quoted text).toList := by
  have passed : ∀ c ∈ front.toList, decide (c ≠ '"') = true :=
    fun c member => decide_eq_true (ne_of_mem_of_not_mem member unquoted)
  rw [String.toList_append, List.dropWhile_append_of_pos passed, toList_quoted]
  rfl

/-- A text without line feeds and carriage returns. -/
def Unbroken (text : String) : Prop := '\n' ∉ text.toList ∧ '\r' ∉ text.toList

instance (text : String) : Decidable (Unbroken text) := inferInstanceAs (Decidable (_ ∧ _))

@[simp] theorem unbroken_append {front back : String} :
    Unbroken (front ++ back) ↔ Unbroken front ∧ Unbroken back := by
  simp only [Unbroken, String.toList_append, List.mem_append]
  tauto

theorem isDigit_of_mem_toString {number : Nat} {c : Char}
    (member : c ∈ (toString number).toList) : c.isDigit = true := by
  rw [Nat.toString_eq_repr, Nat.repr_eq_ofList_toDigits, String.toList_ofList] at member
  exact Nat.isDigit_of_mem_toDigits (by decide) (by decide) member

theorem unbroken_toString (number : Nat) : Unbroken (toString number) :=
  ⟨fun feed => absurd (isDigit_of_mem_toString feed) (by decide),
    fun back => absurd (isDigit_of_mem_toString back) (by decide)⟩

private theorem not_mem_quotedChar (c : Char) :
    '\n' ∉ quotedChar c ∧ '\r' ∉ quotedChar c := by
  rcases quotedChar_cases c with ⟨letter, quoted, listed⟩ | quoted | ⟨quoted, plain⟩
  · have every : ∀ entry ∈ shortEscapes, '\n' ∉ ['\\', entry.1] ∧ '\r' ∉ ['\\', entry.1] := by
      decide
    rw [quoted]
    exact every _ listed
  · have inside : ∀ digit ∈ Nat.toDigits 16 c.toNat, digit ∈ hexDigits :=
      fun _ => mem_hexDigits_of_mem_toDigits
    have foreign : '\n' ∉ hexDigits ∧ '\r' ∉ hexDigits := by decide
    have apart : '\n' ∉ Nat.toDigits 16 c.toNat ∧ '\r' ∉ Nat.toDigits 16 c.toNat :=
      ⟨fun feed => foreign.1 (inside _ feed), fun back => foreign.2 (inside _ back)⟩
    rw [quoted]
    simp [numberEscape, apart]
  · rw [quoted]
    simp only [List.mem_cons, List.not_mem_nil, or_false, not_or] at plain ⊢
    exact ⟨Ne.symm plain.2.1, Ne.symm plain.2.2⟩

theorem unbroken_quoted (text : String) : Unbroken (quoted text) := by
  simp [Unbroken, toList_quoted, not_mem_quotedChar]

end Palette.Text
