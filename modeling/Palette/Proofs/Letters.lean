import Mathlib.Data.List.Basic
import Palette.Text.Classes
import Palette.Text.Uppercase

/-!
# Letters and digits

Only word characters change in uppercase, digits not among them, and what stands for another
character there is a word character, no digit, and its own uppercase (`IsCapital`). The laws are
checked run by run of the table (`caseRuns_lawful`).
-/

namespace Palette.Text

theorem isWord_of_isDigit {c : Char} (digit : isDigit c = true) : isWord c = true := by
  obtain ⟨range, member, held⟩ := isDigit_iff.mp digit
  exact Ranges.covers_of_within wordRanges_ascend (by decide +kernel) member held

/-- The code points from the first to the last of each run. -/
def caseRanges : Ranges := caseRuns.map fun run => (run.first, run.last)

private theorem CaseRun.covers_bounds {run : CaseRun} {code : Nat}
    (covered : run.covers code = true) :
    run.first ≤ code ∧ code ≤ run.last := by
  simp only [covers, Bool.and_eq_true, Nat.ble_eq] at covered
  exact covered.1

private theorem isWord_of_covers {run : CaseRun} {c : Char} (member : run ∈ caseRuns)
    (covered : run.covers c.toNat = true) : isWord c = true := by
  have inside : (run.first, run.last) ∈ caseRanges :=
    List.mem_map_of_mem (f := fun run : CaseRun => (run.first, run.last)) member
  exact Ranges.covers_of_within wordRanges_ascend (by decide +kernel) inside
    (CaseRun.covers_bounds covered)

theorem upperChar_of_not_isWord {c : Char} (notWord : isWord c = false) : upperChar c = [c] := by
  rcases imagesIn_cases caseRuns c.toNat with same | ⟨run, member, covered, _⟩
  · simp [upperChar, same]
  · rw [isWord_of_covers member covered] at notWord
    cases notWord

namespace CaseRun

/-- The code points that a run leads to, as far from a target as its own lie from the first. -/
def Reaches (run : CaseRun) (code : Nat) : Prop :=
  ∃ target ∈ run.targets, ∃ distance, code = target + distance ∧
    distance ≤ run.last - run.first ∧ distance % run.step = 0

private theorem reaches_of_mem_images {run : CaseRun} {code image : Nat}
    (covered : run.covers code = true) (member : image ∈ run.images code) : run.Reaches image := by
  obtain ⟨target, targeted, rfl⟩ := List.mem_map.mp member
  obtain ⟨begun, ended⟩ := covers_bounds covered
  simp only [covers, Bool.and_eq_true, Nat.beq_eq] at covered
  exact ⟨target, targeted, code - run.first, rfl, by omega, covered.2⟩

/-- Whether all that a run leads to lies in ranges. -/
def landsIn (ranges : Ranges) (run : CaseRun) : Bool :=
  run.targets.all fun target =>
    ranges.coversAll target (target + (run.last - run.first)) ||
      (List.range (run.last - run.first + 1)).all fun distance =>
        !(distance % run.step).beq 0 || ranges.covers (target + distance)

private theorem covers_of_landsIn {run : CaseRun} {ranges : Ranges} {code : Nat}
    (lands : run.landsIn ranges = true) (reached : run.Reaches code) :
    ranges.covers code = true := by
  obtain ⟨target, member, distance, rfl, inside, stepped⟩ := reached
  rcases Bool.or_eq_true_iff.mp (List.all_eq_true.mp lands target member) with whole | single
  · exact Ranges.covers_of_coversAll whole (Nat.le_add_right ..) (by omega)
  · have held := List.all_eq_true.mp single distance (List.mem_range.mpr (by omega))
    simpa [stepped] using held

/-- Whether a run holds none of the code points `step` apart from one to another. -/
def passesOver (run : CaseRun) (first last step : Nat) : Bool :=
  run.last.blt first ||
    ((step % run.step).beq 0 || first.beq last) && !(first % run.step).beq (run.first % run.step)

private theorem not_covers_of_passesOver {run : CaseRun} {first last step distance : Nat}
    (passed : run.passesOver first last step = true) (inside : first + distance ≤ last)
    (stepped : distance % step = 0) : run.covers (first + distance) = false := by
  rw [← Bool.not_eq_true]
  intro covered
  obtain ⟨begun, ended⟩ := covers_bounds covered
  simp only [covers, Bool.and_eq_true, Nat.beq_eq] at covered
  simp only [passesOver, Bool.or_eq_true, Bool.and_eq_true, Nat.blt_eq, Nat.beq_eq,
    Bool.not_eq_true', ← Bool.not_eq_true] at passed
  rcases passed with behind | ⟨multiple, between⟩
  · omega
  · have divides : run.step ∣ distance := by
      rcases multiple with steps | single
      · exact Nat.dvd_trans (Nat.dvd_of_mod_eq_zero steps) (Nat.dvd_of_mod_eq_zero stepped)
      · exact ⟨0, by omega⟩
    obtain ⟨steps, rfl⟩ := divides
    obtain ⟨place, reached⟩ := Nat.dvd_of_mod_eq_zero covered.2
    have same : first + run.step * steps = run.first + run.step * place := by omega
    have residues := congrArg (· % run.step) same
    simp only [Nat.add_mul_mod_self_left] at residues
    exact between residues

/-- Whether no run changes a code point from one to another, `step` apart. -/
def keepAll : List CaseRun → Nat → Nat → Nat → Bool
  | [], _, _, _ => true
  | run :: rest, first, last, step =>
    last.blt run.first || run.passesOver first last step && keepAll rest first last step

private theorem imagesIn_of_keepAll {runs : List CaseRun} {first last step distance : Nat}
    (kept : keepAll runs first last step = true) (inside : first + distance ≤ last)
    (stepped : distance % step = 0) : imagesIn runs (first + distance) = [first + distance] := by
  induction runs with
  | nil => rfl
  | cons run rest ih =>
    by_cases before : first + distance < run.first
    · simp [imagesIn, before]
    · simp only [keepAll, Bool.or_eq_true, Bool.and_eq_true, Nat.blt_eq] at kept
      rcases kept with beyond | ⟨passed, kept⟩
      · omega
      · simp [imagesIn, before, not_covers_of_passesOver passed inside stepped, ih kept]

/-- What a run leads to is made of word characters that are no digits and do not change. -/
def lawful (run : CaseRun) : Bool :=
  !run.targets.isEmpty && digitRanges.coversNone run.first run.last && run.landsIn wordRanges &&
    run.targets.all fun target =>
      digitRanges.coversNone target (target + (run.last - run.first)) &&
        keepAll caseRuns target (target + (run.last - run.first)) run.step

end CaseRun

/-- The table is checked once, all laws in one pass over its runs. -/
theorem caseRuns_lawful : caseRuns.all CaseRun.lawful = true := by decide +kernel

section
variable {run : CaseRun} {code : Nat}

private theorem laws_of_mem (member : run ∈ caseRuns) :
    run.targets ≠ [] ∧ digitRanges.coversNone run.first run.last = true ∧
      run.landsIn wordRanges = true ∧ ∀ target ∈ run.targets,
        digitRanges.coversNone target (target + (run.last - run.first)) = true ∧
          CaseRun.keepAll caseRuns target (target + (run.last - run.first)) run.step = true := by
  have lawful := List.all_eq_true.mp caseRuns_lawful run member
  simpa only [CaseRun.lawful, Bool.and_eq_true, Bool.not_eq_true', List.isEmpty_eq_false_iff,
    List.all_eq_true, and_assoc] using lawful

private theorem not_isDigit_of_covers {c : Char} (member : run ∈ caseRuns)
    (covered : run.covers c.toNat = true) : isDigit c = false := by
  obtain ⟨_, clear, _, _⟩ := laws_of_mem member
  obtain ⟨begun, ended⟩ := CaseRun.covers_bounds covered
  exact Ranges.not_covers_of_coversNone clear begun ended

theorem upperChar_of_isDigit {c : Char} (digit : isDigit c = true) : upperChar c = [c] := by
  rcases imagesIn_cases caseRuns c.toNat with same | ⟨run, member, covered, _⟩
  · simp [upperChar, same]
  · rw [not_isDigit_of_covers member covered] at digit
    cases digit

/-- What stands for another character in uppercase. -/
def IsCapital (c : Char) : Prop := ∃ run ∈ caseRuns, run.Reaches c.toNat

private theorem wordRanges_covers_of_reaches (member : run ∈ caseRuns)
    (reached : run.Reaches code) :
    wordRanges.covers code = true := by
  obtain ⟨_, _, lands, _⟩ := laws_of_mem member
  exact CaseRun.covers_of_landsIn lands reached

private theorem settled_of_reaches (member : run ∈ caseRuns) (reached : run.Reaches code) :
    digitRanges.covers code = false ∧ imagesIn caseRuns code = [code] := by
  obtain ⟨target, targeted, distance, rfl, inside, stepped⟩ := reached
  obtain ⟨_, _, _, settled⟩ := laws_of_mem member
  obtain ⟨clear, kept⟩ := settled target targeted
  exact ⟨Ranges.not_covers_of_coversNone clear (by omega) (by omega),
    CaseRun.imagesIn_of_keepAll kept (by omega) stepped⟩

end

private theorem isValidChar_of_covers {code : Nat} (covered : wordRanges.covers code = true) :
    code.isValidChar := by
  have valid : (wordRanges.all fun range =>
      range.2.blt 0xd800 || Nat.blt 0xdfff range.1 && range.2.blt 0x110000) = true := by
    decide +kernel
  obtain ⟨range, member, begun, ended⟩ := (Ranges.covers_iff wordRanges_ascend).mp covered
  have clear := List.all_eq_true.mp valid range member
  simp only [Bool.or_eq_true, Bool.and_eq_true, Nat.blt_eq] at clear
  rcases clear with below | above
  · exact .inl (by omega)
  · exact .inr (by omega)

/-- A character of an uppercase is the character itself, which does not change, or a capital. -/
theorem eq_or_isCapital_of_mem_upperChar {c d : Char} (member : d ∈ upperChar c) :
    d = c ∧ upperChar c = [c] ∨ isWord c = true ∧ IsCapital d := by
  rcases imagesIn_cases caseRuns c.toNat with same | ⟨run, listed, covered, images⟩
  · have kept : upperChar c = [c] := by simp [upperChar, same]
    rw [kept, List.mem_singleton] at member
    exact .inl ⟨member, kept⟩
  · rw [upperChar, images] at member
    obtain ⟨image, imaged, rfl⟩ := List.mem_map.mp member
    have reached := CaseRun.reaches_of_mem_images covered imaged
    have valid := isValidChar_of_covers (wordRanges_covers_of_reaches listed reached)
    have code : (Char.ofNat image).toNat = image := by
      rw [Char.ofNat, dif_pos valid]
      rfl
    exact .inr ⟨isWord_of_covers listed covered, run, listed, code.symm ▸ reached⟩

namespace IsCapital

variable {c : Char}

theorem isWord (capital : IsCapital c) : Text.isWord c = true := by
  obtain ⟨run, member, reached⟩ := capital
  exact wordRanges_covers_of_reaches member reached

theorem not_isDigit (capital : IsCapital c) : isDigit c = false := by
  obtain ⟨run, member, reached⟩ := capital
  exact (settled_of_reaches member reached).1

theorem upperChar_eq (capital : IsCapital c) : upperChar c = [c] := by
  obtain ⟨run, member, reached⟩ := capital
  simp [upperChar, (settled_of_reaches member reached).2]

end IsCapital

theorem upperChar_ne_nil (c : Char) : upperChar c ≠ [] := by
  rcases imagesIn_cases caseRuns c.toNat with same | ⟨run, member, _, images⟩
  · simp [upperChar, same]
  · simp [upperChar, images, CaseRun.images, (laws_of_mem member).1]

theorem isWord_of_mem_upperChar {c d : Char} (member : d ∈ upperChar c) : isWord d = isWord c := by
  rcases eq_or_isCapital_of_mem_upperChar member with ⟨rfl, _⟩ | ⟨word, capital⟩
  · rfl
  · rw [word, capital.isWord]

theorem upperChar_of_mem_upperChar {c d : Char} (member : d ∈ upperChar c) : upperChar d = [d] := by
  rcases eq_or_isCapital_of_mem_upperChar member with ⟨rfl, kept⟩ | ⟨_, capital⟩
  · exact kept
  · exact capital.upperChar_eq

theorem upper_upper (text : String) : upper (upper text) = upper text := by
  have kept : ∀ c ∈ text.toList.flatMap upperChar, upperChar c = [c] := by
    intro c member
    obtain ⟨d, _, image⟩ := List.mem_flatMap.mp member
    exact upperChar_of_mem_upperChar image
  rw [upper, toList_upper, List.flatMap_congr kept, List.flatMap_singleton', upper]

theorem upper_append (front back : String) : upper (front ++ back) = upper front ++ upper back := by
  rw [← String.toList_inj]
  simp

/-- Whether a character is a digit, or no part of a word. -/
def isCaseless (c : Char) : Bool := isDigit c || !isWord c

theorem upperChar_of_isCaseless {c : Char} (caseless : isCaseless c = true) :
    upperChar c = [c] := by
  simp only [isCaseless, Bool.or_eq_true, Bool.not_eq_true'] at caseless
  rcases caseless with digit | notWord
  · exact upperChar_of_isDigit digit
  · exact upperChar_of_not_isWord notWord

private theorem eq_of_mem_upperChar {c d : Char} (caseless : isCaseless d = true)
    (member : d ∈ upperChar c) : c = d := by
  rcases eq_or_isCapital_of_mem_upperChar member with ⟨rfl, _⟩ | ⟨_, capital⟩
  · rfl
  · simp [isCaseless, capital.isWord, capital.not_isDigit] at caseless

/-- A text without letters is the uppercase of no other text. -/
theorem upper_eq_iff_of_caseless {text other : String}
    (caseless : ∀ c ∈ text.toList, isCaseless c = true) : upper other = text ↔ other = text := by
  have spelled : ∀ word text : List Char, (∀ c ∈ text, isCaseless c = true) →
      (word.flatMap upperChar = text ↔ word = text) := by
    intro word
    induction word with
    | nil => simp
    | cons c rest ih =>
      intro text caseless
      constructor
      · rintro rfl
        -- The image of a character has no letter in it, so it is the character alone.
        obtain ⟨d, more, image⟩ := List.exists_cons_of_ne_nil (upperChar_ne_nil c)
        have same : c = d := by
          refine eq_of_mem_upperChar (caseless d ?_) ?_ <;> simp [image]
        subst same
        have kept := upperChar_of_isCaseless (caseless c (by simp [image]))
        rw [List.flatMap_cons, kept, List.singleton_append, List.cons.injEq]
        refine ⟨rfl, (ih _ ?_).mp rfl⟩
        intro e member
        exact caseless e (by simp [List.mem_flatMap.mp member])
      · rintro rfl
        have kept := upperChar_of_isCaseless (caseless c List.mem_cons_self)
        have later := (ih rest fun d member => caseless d (List.mem_cons_of_mem c member)).mpr rfl
        rw [List.flatMap_cons, kept, later, List.singleton_append]
  rw [← String.toList_inj, ← String.toList_inj, toList_upper]
  exact spelled _ _ caseless

theorem isNumeral_upper (text : String) :
    isNumeral (upper text).toList = isNumeral text.toList := by
  have caseless : ∀ word : List Char, isNumeral word = true → ∀ c ∈ word, isCaseless c = true := by
    intro word numeral c member
    simp only [isNumeral, Bool.and_eq_true, List.all_eq_true] at numeral
    simp [isCaseless, numeral.2 c member]
  rw [Bool.eq_iff_iff]
  constructor
  · intro numeral
    rwa [← (upper_eq_iff_of_caseless (caseless _ numeral)).mp rfl] at numeral
  · intro numeral
    rwa [(upper_eq_iff_of_caseless (caseless _ numeral)).mpr rfl]

end Palette.Text
