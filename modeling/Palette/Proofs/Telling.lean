import Palette.Proofs.Excerpts
import Palette.Proofs.Quoting

/-!
# What a diagnostic tells

Each part of a diagnostic ends at a mark that does not occur in it (`Rejection.toList_render`). So
two rejections are told apart, but for lengths of zero and one (`diagnostic_tells_rejection`).
-/

namespace Palette

open Text (OneRow)

/-- A mark ends what is put before it, when it does not occur there. Behind it, other than in
    `List.append_cons_inj_of_notMem`, there may be more such marks. -/
private theorem Text.append_cons_inj_of_fresh {mark : Char} {front other back rest : List Char}
    (fresh : mark ∉ front) (otherFresh : mark ∉ other) :
    front ++ mark :: back = other ++ mark :: rest ↔ front = other ∧ back = rest := by
  constructor
  · intro same
    induction front generalizing other with
    | nil =>
      cases other with
      | nil => exact ⟨rfl, List.tail_eq_of_cons_eq same⟩
      | cons c more =>
        have first : mark = c := List.head_eq_of_cons_eq same
        exact absurd (first ▸ List.mem_cons_self) otherFresh
    | cons c front ih =>
      cases other with
      | nil =>
        have first : c = mark := List.head_eq_of_cons_eq same
        exact absurd (first ▸ List.mem_cons_self) fresh
      | cons d more =>
        rw [List.cons_append, List.cons_append, List.cons.injEq] at same
        obtain ⟨rfl, tails⟩ := same
        obtain ⟨rfl, behind⟩ := ih (List.not_mem_of_not_mem_cons fresh)
          (List.not_mem_of_not_mem_cons otherFresh) tails
        exact ⟨rfl, behind⟩
  · rintro ⟨rfl, rfl⟩
    rfl

private theorem Text.toString_append_cons_inj {mark : Char} {one other : Nat}
    {back rest : List Char} (noDigit : mark.isDigit = false) :
    (toString one).toList ++ mark :: back = (toString other).toList ++ mark :: rest ↔
      one = other ∧ back = rest := by
  have fresh : ∀ number : Nat, mark ∉ (toString number).toList := by
    intro number member
    rw [isDigit_of_mem_toString member] at noDigit
    cases noDigit
  rw [append_cons_inj_of_fresh (fresh one) (fresh other), String.toList_inj]
  exact and_congr_left fun _ => ⟨fun same => Nat.repr_injective same, congrArg toString⟩

namespace Diagnostic

def header (cause : Cause) : List Char := ("error[" ++ cause.code ++ "]: " ++ cause.message).toList

/-- What leads from the place of a rejection to the blanks before its carets. -/
def excerpt (source : String) (line : Nat) : String :=
  "   |\n" ++ lineNumber line ++ " | " ++ String.ofList (Text.lineAt source.toList line) ++
    "\n   | "

/-- The last row of a diagnostic with its line feed, if there is any advice. -/
def advice (help : Option String) : List Char :=
  help.toList.flatMap fun help => ("help: " ++ help).toList ++ ['\n']

private theorem header_inj {one other : Cause} :
    header one = header other ↔ one.code = other.code ∧ one.message = other.message := by
  have fresh : ∀ cause : Cause, ']' ∉ cause.code.toList := by
    intro cause
    cases cause with
    | unknownSymbol lexeme => exact (by decide : ']' ∉ "E_LEXICAL".toList)
    | unexpected expected found => exact (by decide : ']' ∉ "E_SYNTAX".toList)
  have parts : ∀ cause : Cause, header cause =
      "error[".toList ++ (cause.code.toList ++ ']' :: (": ".toList ++ cause.message.toList)) := by
    intro cause
    simp [header]
  rw [parts, parts, List.append_cancel_left_eq,
    Text.append_cons_inj_of_fresh (fresh one) (fresh other), List.append_cancel_left_eq,
    String.toList_inj, String.toList_inj]

private theorem advice_inj {one other : Option String} :
    advice one = advice other ↔ one = other := by
  constructor
  · intro same
    cases one with
    | none =>
      cases other with
      | none => rfl
      | some given => simp [advice] at same
    | some help =>
      cases other with
      | none => simp [advice] at same
      | some given => simpa [advice, String.toList_inj] using same
  · rintro rfl
    rfl

private theorem not_mem_header {cause : Cause} (messageRow : OneRow cause.message) :
    '\n' ∉ header cause := by
  have row : OneRow ("error[" ++ cause.code ++ "]: " ++ cause.message) := by
    simp only [Text.oneRow_append]
    exact ⟨⟨⟨by decide, cause.oneRow_code⟩, by decide +kernel⟩, messageRow⟩
  exact row

end Diagnostic

open Diagnostic

namespace Rejection

theorem toList_render (rejection : Rejection) (origin source : String) :
    (rejection.render origin source).toList =
      header rejection.cause ++ '\n' :: (("  --> " ++ origin ++ ":").toList ++
        ((toString rejection.span.line).toList ++ ':' ::
          ((toString (rejection.span.column + 1)).toList ++ '\n' ::
            ((excerpt source rejection.span.line).toList ++
              (List.replicate rejection.span.column ' ' ++
                (List.replicate (max rejection.span.length 1) '^' ++ '\n' ::
                  advice rejection.help)))))) := by
  simp [render, rows, header, excerpt, advice, sourceRow, caretRow, strip, List.flatMap_map]

/-- The same is said of both, where no length is told from a length of one. -/
structure ToldAs (one other : Rejection) : Prop where
  code : one.cause.code = other.cause.code
  message : one.cause.message = other.cause.message
  line : one.span.line = other.span.line
  column : one.span.column = other.span.column
  length : max one.span.length 1 = max other.span.length 1
  help : one.help = other.help

variable {one other : Rejection}

theorem toldAs_of_render_eq {origin source : String} (oneRow : OneRow one.cause.message)
    (otherRow : OneRow other.cause.message)
    (same : one.render origin source = other.render origin source) : one.ToldAs other := by
  -- The text is cut at each mark in turn, and what is left of both is the same.
  have texts := congrArg String.toList same
  rw [toList_render, toList_render] at texts
  obtain ⟨headers, behind⟩ := (Text.append_cons_inj_of_fresh (not_mem_header oneRow)
    (not_mem_header otherRow)).mp texts
  obtain ⟨code, message⟩ := header_inj.mp headers
  obtain ⟨line, behind⟩ := (Text.toString_append_cons_inj (by decide)).mp
    (List.append_cancel_left behind)
  obtain ⟨column, behind⟩ := (Text.toString_append_cons_inj (by decide)).mp behind
  have column : one.span.column = other.span.column := Nat.succ.inj column
  rw [line, column] at behind
  have fresh : ∀ length, '\n' ∉ List.replicate length '^' := by
    intro length feed
    exact absurd (List.eq_of_mem_replicate feed) (by decide)
  obtain ⟨carets, helps⟩ := (Text.append_cons_inj_of_fresh (fresh _) (fresh _)).mp
    (List.append_cancel_left (List.append_cancel_left behind))
  have length : max one.span.length 1 = max other.span.length 1 := by
    simpa using congrArg List.length carets
  exact ⟨code, message, line, column, length, advice_inj.mp helps⟩

theorem ToldAs.render_eq (alike : one.ToldAs other) (origin source : String) :
    one.render origin source = other.render origin source := by
  apply String.toList_injective
  rw [toList_render, toList_render, header_inj.mpr ⟨alike.code, alike.message⟩, alike.line,
    alike.column, alike.length, alike.help]

private theorem ToldAs.fits_eq (alike : one.ToldAs other) : fits one.span = fits other.span := by
  have length := alike.length
  have positive : 1 ≤ maxStrip := by decide
  have short : one.span.length ≤ maxStrip ↔ other.span.length ≤ maxStrip := by omega
  simp only [fits, alike.column, short]

end Rejection

/-- Diagnostics in one source are the same exactly when the code, the message, the line, the column
    and the advice are, and the lengths when zero is counted as one. -/
theorem diagnostic_tells_rejection (origin source : String) (one other : Rejection)
    (oneRow : '\n' ∉ one.cause.message.toList) (otherRow : '\n' ∉ other.cause.message.toList) :
    (one.render origin source = other.render origin source ↔ one.ToldAs other) ∧
    ∀ text, one.render? origin source = some text →
      (other.render? origin source = some text ↔ one.ToldAs other) := by
  refine ⟨⟨Rejection.toldAs_of_render_eq oneRow otherRow, fun alike => ?_⟩, ?_⟩
  · exact alike.render_eq origin source
  · intro text laid
    constructor
    · intro again
      have rendered := (Rejection.render?_eq_some_iff.mp laid).2
      have otherRendered := (Rejection.render?_eq_some_iff.mp again).2
      exact Rejection.toldAs_of_render_eq oneRow otherRow (rendered.trans otherRendered.symm)
    · intro alike
      rw [Rejection.render?, alike.fits_eq, alike.render_eq] at laid
      exact laid

/-- The name of the source and the advice look like more rows, and neither line is in the source. -/
theorem diagnostic_tells_lines_apart :
    let origin := "a:0:4\n   |"
    let source := "make\n"
    let empty : Rejection :=
      ⟨.unexpected (.phrase "it's, found 'a'") .endOfInput, ⟨⟨0, 3⟩, 0⟩, some "be\nhelp: brief"⟩
    let single : Rejection := { empty with span := ⟨⟨0, 3⟩, 1⟩ }
    let lower : Rejection := { empty with span := ⟨⟨9, 3⟩, 0⟩ }
    empty.render origin source = single.render origin source ∧
      lower.render? origin source ≠ empty.render? origin source := by
  intro origin source empty single lower
  have row : '\n' ∉ empty.cause.message.toList := by decide +kernel
  refine ⟨(diagnostic_tells_rejection origin source empty single row row).1.mpr ?_, ?_⟩
  · exact ⟨rfl, rfl, rfl, rfl, rfl, rfl⟩
  · have laid : empty.render? origin source = some (empty.render origin source) :=
      Rejection.render?_eq_some_iff.mpr ⟨by decide, rfl⟩
    intro same
    rw [laid] at same
    have alike := ((diagnostic_tells_rejection origin source empty lower row row).2 _ laid).mp same
    exact absurd alike.line (by decide)

end Palette
