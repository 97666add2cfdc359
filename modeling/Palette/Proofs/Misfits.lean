import Palette.Grammar
import Palette.Parse

/-!
# The first misfit

The first token that gets no further through the parts of a command, or the end that comes too
early, is the misfit (`misfit`). Tokens that have been read leave some of the parts (`Leaves`), and
what follows completes a command exactly when it fills them (`Leaves.fills`, `Leaves.fills_left`).
-/

namespace Palette

open Grammar (Slot)

/-- What a slot asks for. A parenthesis is never asked for. -/
def Grammar.Slot.expectation : Slot → Expectation
  | .verb => .oneOf ["GENERATE", "MAKE"]
  | .palette => .word "PALETTE"
  | .size => .size
  | .count => .oneOf ["COLOR", "COLORS"]
  | .fromWord => .word "FROM"
  | .openParen => .phrase "("
  | .adjective => .adjective
  | .color => .color
  | .separator => .oneOf [":", "TO"]
  | .closeParen => .phrase ")"

/-- Advice for whoever wrote something else. -/
def Expectation.advice : Expectation → Option String
  | .size => some "palettes hold between 2 and 9 colors"
  | .adjective => some ("qualify the color with " ++ " or ".intercalate Vocabulary.adjectives)
  | .color => some ("known colors: " ++ ", ".intercalate Vocabulary.colors)
  | _ => none

/-- The rejection of what is under the cursor, with the advice that goes with what is wanted. -/
def Cursor.refusal (cursor : Cursor) (expected : Expectation) : Rejection :=
  { cursor.rejection expected with help := expected.advice }

namespace Grammar

variable {slot : Slot} {part : Part} {parts between left : List Part} {token : Token}
  {tokens read ahead : List Token} {expected : Expectation}

/-- The tokens from the one that gets no further, none at the end, and what was wanted there. -/
structure Misfit where
  ahead : List Token
  expected : Expectation

/-- The rejection of a misfit in tokens that stop at a span. -/
def Misfit.rejection (misfit : Misfit) (stop : Span) : Rejection :=
  let rejected := match misfit.ahead with
    | token :: _ => Rejection.ofFound misfit.expected (.token token.lexeme) token.span
    | [] => Rejection.ofFound misfit.expected .endOfInput stop
  { rejected with help := misfit.expected.advice }

theorem refusal_eq (cursor : Cursor) (expected : Expectation) :
    cursor.refusal expected = (Misfit.mk cursor.ahead expected).rejection cursor.stop := by
  rw [Cursor.refusal, Cursor.rejection, Cursor.found, Cursor.span, Cursor.peek_eq_head?]
  cases cursor.ahead <;> rfl

/-- The first misfit of tokens that go through parts, if there is one. -/
def misfit : List Part → List Token → Option Misfit
  | [], [] => none
  | [], token :: tokens => some ⟨token :: tokens, .endOfInput⟩
  | .required slot :: _, [] => some ⟨[], slot.expectation⟩
  | .required slot :: parts, token :: tokens =>
    if slot.Admits token then misfit parts tokens else some ⟨token :: tokens, slot.expectation⟩
  | .optional _ :: parts, [] => misfit parts []
  | .optional slot :: parts, token :: tokens =>
    if slot.Admits token then misfit parts tokens else misfit parts (token :: tokens)

theorem ahead_suffix_of_misfit {found : Misfit} (misfits : misfit parts tokens = some found) :
    found.ahead <:+ tokens := by
  fun_induction misfit parts tokens with
  | case1 => cases misfits
  | case2 | case3 | case5 =>
    cases misfits
    exact List.suffix_rfl
  | case4 slot parts token tokens admitted ih | case7 slot parts token tokens admitted ih =>
    exact (ih misfits).trans (List.suffix_cons token tokens)
  | case6 slot parts ih => exact ih misfits
  | case8 slot parts token tokens passed ih => exact ih misfits

private theorem ahead_eq_nil_of_misfit {found : Misfit} (misfits : misfit parts [] = some found) :
    found.ahead = [] :=
  List.suffix_nil.mp (ahead_suffix_of_misfit misfits)

private theorem misfit_cons_of_admits (admitted : part.slot.Admits token) :
    misfit (part :: parts) (token :: tokens) = misfit parts tokens := by
  cases part with
  | required slot => exact if_pos admitted
  | optional slot => exact if_pos admitted

private theorem misfit_optional_of_refused (refused : ∀ token ∈ tokens.head?, ¬ slot.Admits token) :
    misfit (.optional slot :: parts) tokens = misfit parts tokens := by
  cases tokens with
  | nil => rw [misfit]
  | cons token tokens => rw [misfit, if_neg (refused token rfl)]

/-- Tokens that have been read go through parts one by one and leave others. A part that may be left
    empty is passed over when the next token, be it read or ahead, does not fit it. -/
inductive Leaves : List Part → List Token → List Token → List Part → Prop
  | stop {parts : List Part} {ahead : List Token} : Leaves parts [] ahead parts
  | fill {part : Part} {parts left : List Part} {token : Token} {read ahead : List Token} :
      part.slot.Admits token → Leaves parts read ahead left →
        Leaves (part :: parts) (token :: read) ahead left
  | pass {slot : Slot} {parts left : List Part} {read ahead : List Token} :
      (∀ token ∈ (read ++ ahead).head?, ¬ slot.Admits token) → Leaves parts read ahead left →
        Leaves (.optional slot :: parts) read ahead left

theorem Leaves.trans {front back : List Token}
    (first : Leaves parts front (back ++ ahead) between) (second : Leaves between back ahead left) :
    Leaves parts (front ++ back) ahead left := by
  generalize onward : back ++ ahead = rest at first
  induction first with
  | stop => exact second
  | fill admitted _ ih => exact .fill admitted (ih second onward)
  | pass refused _ ih =>
    refine .pass ?_ (ih second onward)
    rwa [List.append_assoc, onward]

theorem Leaves.misfit_append (leaves : Leaves parts read ahead left) :
    misfit parts (read ++ ahead) = misfit left ahead := by
  induction leaves with
  | stop => rfl
  | fill admitted _ ih => rw [List.cons_append, misfit_cons_of_admits admitted, ih]
  | pass refused _ ih => rw [misfit_optional_of_refused refused, ih]

theorem Leaves.fills {rest : List Token} (leaves : Leaves parts read ahead left)
    (filled : Fills left rest) : Fills parts (read ++ rest) := by
  induction leaves with
  | stop => exact filled
  | fill admitted _ ih => exact .fill admitted (ih filled)
  | pass _ _ ih => exact .skip (ih filled)

/-- No token that fits a part that may be left empty can stand for what comes behind that part. -/
def Unambiguous : List Part → Prop
  | [] => True
  | .required _ :: parts => Unambiguous parts
  | .optional slot :: parts =>
    (∀ token rest, slot.Admits token → ¬ Fills parts (token :: rest)) ∧ Unambiguous parts

/-- Nothing else completes the tokens that have been read, of what begins with the token ahead. -/
theorem Leaves.fills_left {rest : List Token} (leaves : Leaves parts read ahead left)
    (unambiguous : Unambiguous parts) (same : rest.head? = ahead.head?)
    (filled : Fills parts (read ++ rest)) : Fills left rest := by
  induction leaves with
  | stop => exact filled
  | @fill part parts left token read ahead admitted _ ih =>
    cases part with
    | required slot => exact ih unambiguous same (fills_required_cons_iff.mp filled).2
    | optional slot =>
      rcases fills_optional_cons_iff.mp filled with ⟨_, filled⟩ | filled
      · exact ih unambiguous.2 same filled
      · exact absurd filled (unambiguous.1 token _ admitted)
  | @pass slot parts left read ahead refused _ ih =>
    -- The part was passed over for the token that comes next, with either end.
    have heads : (read ++ rest).head? = (read ++ ahead).head? := by
      rw [List.head?_append, List.head?_append, same]
    refine ih unambiguous.2 same ?_
    cases tokens : read ++ rest with
    | nil =>
      rw [tokens] at filled
      exact fills_optional_nil_iff.mp filled
    | cons token more =>
      rw [tokens] at filled heads
      rcases fills_optional_cons_iff.mp filled with ⟨admitted, _⟩ | filled
      · exact absurd admitted (refused token heads.symm)
      · exact filled

/-- The parts that were passed over behind the last token are still open for what follows. -/
theorem Leaves.exists_filled (leaves : Leaves parts read ahead left) :
    ∃ filled passed, parts = filled ++ (passed ++ left) ∧
      (∀ part ∈ passed, ∃ slot, part = .optional slot) ∧ (read = [] → filled = []) ∧
      (∀ token, read.getLast? = some token →
        ∃ part, filled.getLast? = some part ∧ part.slot.Admits token) ∧
      ∀ more, misfit parts (read ++ more) = misfit (passed ++ left) more := by
  induction leaves with
  | stop => exact ⟨[], [], rfl, by simp, fun _ => rfl, by simp, fun _ => rfl⟩
  | @fill part parts left token read ahead admitted _ ih =>
    obtain ⟨filled, passed, rfl, optional, begins, last, behind⟩ := ih
    refine ⟨part :: filled, passed, rfl, optional, by simp, ?_, ?_⟩
    · intro final ends
      cases read with
      | nil =>
        obtain rfl : token = final := Option.some.inj ends
        exact ⟨part, by rw [begins rfl]; rfl, admitted⟩
      | cons next rest =>
        obtain ⟨other, fills, admits⟩ := last final (by rwa [List.getLast?_cons_cons] at ends)
        exact ⟨other, by rw [List.getLast?_cons, fills]; rfl, admits⟩
    · intro more
      rw [List.cons_append, misfit_cons_of_admits admitted, behind]
  | @pass slot parts left read ahead refused _ ih =>
    obtain ⟨filled, passed, rfl, optional, begins, last, behind⟩ := ih
    cases read with
    | nil =>
      -- No token has been read, so this part stands behind the last of them as well.
      obtain rfl := begins rfl
      refine ⟨[], .optional slot :: passed, rfl, ?_, fun _ => rfl, by simp, fun _ => rfl⟩
      exact List.forall_mem_cons.mpr ⟨⟨slot, rfl⟩, optional⟩
    | cons token rest =>
      refine ⟨.optional slot :: filled, passed, rfl, optional, by simp, ?_, ?_⟩
      · intro final ends
        obtain ⟨other, fills, admits⟩ := last final ends
        exact ⟨other, by rw [List.getLast?_cons, fills]; rfl, admits⟩
      · intro more
        have head : ∀ first ∈ (token :: rest ++ more).head?, ¬ slot.Admits first := refused
        rw [misfit_optional_of_refused head, behind]

theorem misfit_optionals_nil (optional : ∀ part ∈ parts, ∃ slot, part = Part.optional slot) :
    misfit parts [] = none := by
  induction parts with
  | nil => rfl
  | cons part parts ih =>
    obtain ⟨⟨slot, rfl⟩, later⟩ := List.forall_mem_cons.mp optional
    exact ih later

theorem ahead_eq_nil_of_admits {passed : List Part} {found : Misfit}
    (optional : ∀ part ∈ passed, ∃ slot, part = Part.optional slot) (admitted : slot.Admits token)
    (misfits : misfit (passed ++ .required slot :: parts) [token] = some found) :
    found.ahead = [] := by
  induction passed with
  | nil =>
    rw [List.nil_append, misfit, if_pos admitted] at misfits
    exact ahead_eq_nil_of_misfit misfits
  | cons part passed ih =>
    obtain ⟨⟨other, rfl⟩, later⟩ := List.forall_mem_cons.mp optional
    rw [List.cons_append, misfit] at misfits
    split at misfits
    · exact ahead_eq_nil_of_misfit misfits
    · exact ih later misfits

/-- The next token does not fit what is left: a slot that must be filled, or the end. -/
inductive Blocked : List Part → List Token → Expectation → Prop
  | slot {slot : Slot} {parts : List Part} {ahead : List Token} :
      (∀ token ∈ ahead.head?, ¬ slot.Admits token) →
        Blocked (.required slot :: parts) ahead slot.expectation
  | ending {ahead : List Token} : ahead ≠ [] → Blocked [] ahead .endOfInput

theorem Blocked.misfit_eq (blocked : Blocked parts ahead expected) :
    misfit parts ahead = some ⟨ahead, expected⟩ := by
  cases blocked with
  | slot absent =>
    cases ahead with
    | nil => rfl
    | cons token rest => exact if_neg (absent token rfl)
  | ending more =>
    cases ahead with
    | nil => exact absurd rfl more
    | cons token rest => rfl

theorem not_fills_of_blocked {rest : List Token} (blocked : Blocked parts ahead expected)
    (same : rest.head? = ahead.head?) : ¬ Fills parts rest := by
  intro filled
  cases blocked with
  | slot absent =>
    cases rest with
    | nil => exact not_fills_required_nil filled
    | cons token rest => exact absent token same.symm (fills_required_cons_iff.mp filled).1
  | ending more =>
    rw [fills_nil_iff.mp filled] at same
    exact more (List.head?_eq_none_iff.mp same.symm)

private def sample : Slot → String
  | .verb => "MAKE"
  | .palette => "PALETTE"
  | .size => "2"
  | .count => "COLORS"
  | .fromWord => "FROM"
  | .openParen => "("
  | .adjective => "DARK"
  | .color => "RED"
  | .separator => "TO"
  | .closeParen => ")"

private theorem admits_sample (slot : Slot) :
    slot.Admits ⟨Kind.ofLexeme (sample slot), sample slot, Place.start.span 1⟩ := by
  cases slot <;> decide +kernel

theorem exists_fills (parts : List Part) : ∃ tokens, Fills parts tokens := by
  induction parts with
  | nil => exact ⟨[], .done⟩
  | cons part rest ih =>
    obtain ⟨tokens, filled⟩ := ih
    exact ⟨_, .fill (admits_sample part.slot) filled⟩

theorem Fills.exists_slot (filled : Fills parts tokens) :
    ∀ token ∈ tokens, ∃ slot : Slot, slot.Admits token := by
  induction filled with
  | done => simp
  | @fill part parts token tokens admitted _ ih =>
    intro other member
    rcases List.mem_cons.mp member with rfl | later
    · exact ⟨part.slot, admitted⟩
    · exact ih other later
  | skip _ ih => exact ih

end Grammar

end Palette
