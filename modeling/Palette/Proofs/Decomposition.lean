import Mathlib.Data.List.Sort
import Palette.Proofs.Segments
import Palette.Parse

/-!
# The decomposition of a text

A text has exactly one decomposition, said without how it is found (`Decomposition`): all its
longest runs of word characters and all its marks (`Decomposition.mem_iff`). These are the tokens of
its scan.
-/

namespace Palette.Text

/-- The characters from one index of a text up to another. -/
structure Stretch where
  first : Nat
  last : Nat

namespace Stretch

def cut (stretch : Stretch) (text : List Char) : List Char :=
  (text.take stretch.last).drop stretch.first

def Holds (stretch : Stretch) (index : Nat) : Prop := stretch.first ≤ index ∧ index < stretch.last

/-- A word character stands at an index of a text. -/
def WordAt (text : List Char) (index : Nat) : Prop := ∃ c, text[index]? = some c ∧ isWord c = true

/-- Word characters, at least one, and none on either side. -/
structure IsRun (text : List Char) (stretch : Stretch) : Prop where
  nonempty : stretch.first < stretch.last
  words : ∀ index, stretch.Holds index → WordAt text index
  before : ∀ index, index + 1 = stretch.first → ¬ WordAt text index
  behind : ¬ WordAt text stretch.last

/-- One character that neither is part of a word nor separates. -/
def IsMark (text : List Char) (stretch : Stretch) : Prop :=
  stretch.last = stretch.first + 1 ∧
    ∃ c, text[stretch.first]? = some c ∧ isWord c = false ∧ isBlank c = false

/-- A longest run of word characters, or a mark. -/
def Whole (text : List Char) (stretch : Stretch) : Prop := stretch.IsRun text ∨ stretch.IsMark text

end Stretch

/-- Disjoint runs and marks in ascending order that leave out nothing but blanks. -/
structure Decomposition (text : List Char) (stretches : List Stretch) : Prop where
  whole : ∀ stretch ∈ stretches, stretch.Whole text
  ordered : stretches.Pairwise fun one other => one.last ≤ other.first
  covering : ∀ index c, text[index]? = some c → isBlank c = false →
    ∃ stretch ∈ stretches, stretch.Holds index

namespace Stretch

variable {text : List Char} {one other : Stretch} {index : Nat}

theorem mem_cut_iff {c : Char} :
    c ∈ one.cut text ↔ ∃ index, one.Holds index ∧ text[index]? = some c := by
  constructor
  · intro member
    obtain ⟨index, found⟩ := List.mem_iff_getElem?.mp member
    rw [cut, List.getElem?_drop, List.getElem?_take] at found
    split at found
    · exact ⟨_, ⟨Nat.le_add_right _ index, ‹_›⟩, found⟩
    · cases found
  · rintro ⟨index, ⟨begun, ended⟩, found⟩
    refine List.mem_iff_getElem?.mpr ⟨index - one.first, ?_⟩
    rw [cut, List.getElem?_drop, List.getElem?_take, Nat.add_sub_cancel' begun, if_pos ended, found]

theorem Whole.first_lt_last (whole : one.Whole text) : one.first < one.last := by
  rcases whole with run | ⟨single, _⟩
  · exact run.nonempty
  · omega

theorem IsMark.eq_of_holds (mark : one.IsMark text) (held : one.Holds index) :
    index = one.first := by
  obtain ⟨single, _⟩ := mark
  obtain ⟨begun, ended⟩ := held
  omega

theorem IsMark.not_wordAt (mark : one.IsMark text) (held : one.Holds index) :
    ¬ WordAt text index := by
  rw [mark.eq_of_holds held]
  obtain ⟨_, c, found, notWord, _⟩ := mark
  rintro ⟨d, foundAgain, word⟩
  rw [found] at foundAgain
  cases foundAgain
  rw [notWord] at word
  cases word

private theorem IsRun.first_le (run : one.IsRun text) (otherRun : other.IsRun text)
    (held : one.Holds index) (otherHeld : other.Holds index) : one.first ≤ other.first := by
  by_contra later
  obtain ⟨begun, _⟩ := held
  obtain ⟨_, ended⟩ := otherHeld
  -- The character in front of the later run belongs to the earlier one.
  have earlier : other.Holds (one.first - 1) := ⟨by omega, by omega⟩
  exact run.before (one.first - 1) (by omega) (otherRun.words _ earlier)

private theorem IsRun.last_le (run : one.IsRun text) (otherRun : other.IsRun text)
    (held : one.Holds index) (otherHeld : other.Holds index) : one.last ≤ other.last := by
  by_contra longer
  obtain ⟨begun, _⟩ := held
  obtain ⟨_, ended⟩ := otherHeld
  have further : one.Holds other.last := ⟨by omega, by omega⟩
  exact otherRun.behind (run.words _ further)

private theorem IsRun.ends_eq (run : one.IsRun text) (otherRun : other.IsRun text)
    (held : one.Holds index) (otherHeld : other.Holds index) :
    one.first = other.first ∧ one.last = other.last := by
  constructor
  · exact Nat.le_antisymm (run.first_le otherRun held otherHeld)
      (otherRun.first_le run otherHeld held)
  · exact Nat.le_antisymm (run.last_le otherRun held otherHeld)
      (otherRun.last_le run otherHeld held)

theorem Whole.eq_of_holds (whole : one.Whole text) (otherWhole : other.Whole text)
    (held : one.Holds index) (otherHeld : other.Holds index) : one = other := by
  have ends : one.first = other.first ∧ one.last = other.last := by
    rcases whole with run | mark
    · rcases otherWhole with otherRun | otherMark
      · exact run.ends_eq otherRun held otherHeld
      · exact absurd (run.words _ held) (otherMark.not_wordAt otherHeld)
    · rcases otherWhole with otherRun | otherMark
      · exact absurd (otherRun.words _ otherHeld) (mark.not_wordAt held)
      · have same := mark.eq_of_holds held
        have otherSame := otherMark.eq_of_holds otherHeld
        obtain ⟨single, _⟩ := mark
        obtain ⟨otherSingle, _⟩ := otherMark
        omega
  cases one
  cases other
  simpa using ends

theorem Whole.exists_visible (whole : one.Whole text) (held : one.Holds index) :
    ∃ c, text[index]? = some c ∧ isBlank c = false := by
  rcases whole with run | mark
  · obtain ⟨c, found, word⟩ := run.words index held
    exact ⟨c, found, not_isBlank_of_isWord word⟩
  · rw [mark.eq_of_holds held]
    obtain ⟨_, c, found, _, visible⟩ := mark
    exact ⟨c, found, visible⟩

/-- A stretch of a decomposition cuts the text in three, with no blank in the middle. -/
theorem Whole.exists_parts (whole : one.Whole text) :
    ∃ front segment back, text = front ++ (segment ++ back) ∧ segment ≠ [] ∧
      (∀ c ∈ segment, isBlank c = false) ∧
      one = ⟨front.length, front.length + segment.length⟩ := by
  have nonempty := whole.first_lt_last
  have inside : one.last ≤ text.length := by
    have held : one.Holds (one.last - 1) := ⟨by omega, by omega⟩
    obtain ⟨c, found, _⟩ := whole.exists_visible held
    obtain ⟨bound, _⟩ := List.getElem?_eq_some_iff.mp found
    omega
  have length : (one.cut text).length = one.last - one.first := by
    rw [cut, List.length_drop, List.length_take]
    omega
  refine ⟨text.take one.first, one.cut text, text.drop one.last, ?_, ?_, ?_, ?_⟩
  · have shorter : (text.take one.last).take one.first = text.take one.first := by
      rw [List.take_take, Nat.min_eq_left (by omega)]
    rw [← List.append_assoc, cut, ← shorter, List.take_append_drop, List.take_append_drop]
  · refine List.ne_nil_of_length_pos ?_
    omega
  · intro c member
    obtain ⟨index, held, found⟩ := mem_cut_iff.mp member
    obtain ⟨d, again, visible⟩ := whole.exists_visible held
    rw [again] at found
    cases found
    exact visible
  · have begun : (text.take one.first).length = one.first := by
      rw [List.length_take]
      omega
    rw [length, begun]
    cases one
    congr 1
    dsimp only at nonempty ⊢
    omega

end Stretch

namespace Decomposition

variable {text : List Char} {stretches others : List Stretch}

/-- The stretches of a decomposition are all the longest runs and all the marks of the text. -/
theorem mem_iff (decomposed : Decomposition text stretches) (stretch : Stretch) :
    stretch ∈ stretches ↔ stretch.Whole text := by
  constructor
  · exact decomposed.whole stretch
  · intro whole
    have begun : stretch.Holds stretch.first := ⟨Nat.le_refl _, whole.first_lt_last⟩
    obtain ⟨c, found, visible⟩ := whole.exists_visible begun
    obtain ⟨covering, member, held⟩ := decomposed.covering _ c found visible
    rwa [whole.eq_of_holds (decomposed.whole covering member) begun held]

private theorem ascending (decomposed : Decomposition text stretches) :
    stretches.Pairwise fun one other => one.first < other.first := by
  refine decomposed.ordered.imp_of_mem ?_
  intro one other member _ before
  have nonempty := (decomposed.whole one member).first_lt_last
  omega

theorem unique (decomposed : Decomposition text stretches) (again : Decomposition text others) :
    others = stretches := by
  refine again.ascending.eq_of_mem_iff decomposed.ascending ?_
  intro stretch
  rw [again.mem_iff, decomposed.mem_iff]

end Decomposition

/-- The stretches of the lexemes among segments that begin at an index. -/
def stretchesFrom (begin : Nat) : List (List Char) → List Stretch
  | [] => []
  | segment :: rest =>
    (if isLexeme segment then [⟨begin, begin + segment.length⟩] else []) ++
      stretchesFrom (begin + segment.length) rest

def stretches (text : List Char) : List Stretch := stretchesFrom 0 (segments text)

section
variable {front segment back : List Char} {rest : List (List Char)}

@[simp] theorem Stretch.cut_append :
    (Stretch.mk front.length (front.length + segment.length)).cut (front ++ (segment ++ back)) =
      segment := by
  simp [Stretch.cut, ← List.append_assoc]

private theorem wordAt_of_words (words : ∀ c ∈ segment, isWord c = true) {index : Nat}
    (behind : front.length ≤ index) (inside : index < front.length + segment.length) :
    Stretch.WordAt (front ++ (segment ++ back)) index := by
  have bound : index - front.length < segment.length := by omega
  refine ⟨segment[index - front.length], ?_, words _ (List.getElem_mem bound)⟩
  rw [List.getElem?_append_right behind, List.getElem?_append_left bound,
    List.getElem?_eq_getElem bound]

private theorem isRun_of_words (nonempty : segment ≠ []) (words : ∀ c ∈ segment, isWord c = true)
    (left : Apart front (segment ++ back)) (right : Apart (front ++ segment) back) :
    (Stretch.mk front.length (front.length + segment.length)).IsRun
      (front ++ (segment ++ back)) where
  nonempty := by
    have positive := List.length_pos_iff.mpr nonempty
    dsimp only
    omega
  words := fun index held => wordAt_of_words words held.1 held.2
  before := by
    rintro index adjacent ⟨c, found, word⟩
    dsimp only at adjacent
    have last : front.getLast? = some c := by
      rw [List.getElem?_append_left (by omega)] at found
      rw [List.getLast?_eq_getElem?, ← found]
      congr 1
      omega
    have head : (segment ++ back).head? = some (segment.head nonempty) := by
      rw [List.head?_append_of_ne_nil _ nonempty, List.head?_eq_some_head nonempty]
    rcases left c last _ head with notWord | notWord
    · simp [word] at notWord
    · simp [words _ (List.head_mem nonempty)] at notWord
  behind := by
    rintro ⟨c, found, word⟩
    have head : back.head? = some c := by
      rw [← List.append_assoc, List.getElem?_append_right (by simp)] at found
      simpa [List.head?_eq_getElem?] using found
    have last : (front ++ segment).getLast? = some (segment.getLast nonempty) := by
      rw [List.getLast?_append_of_ne_nil _ nonempty, List.getLast?_eq_some_getLast nonempty]
    rcases right _ last c head with notWord | notWord
    · simp [words _ (List.getLast_mem nonempty)] at notWord
    · simp [word] at notWord

private theorem whole_of_uniform (nonempty : segment ≠ []) (uniform : Uniform segment)
    (lexeme : isLexeme segment = true) (left : Apart front (segment ++ back))
    (right : Apart (front ++ segment) back) :
    (Stretch.mk front.length (front.length + segment.length)).Whole
      (front ++ (segment ++ back)) := by
  rcases uniform with words | ⟨c, rfl, notWord⟩
  · exact .inl (isRun_of_words nonempty words left right)
  · exact .inr ⟨rfl, c, by simp, notWord, by simpa [isLexeme] using lexeme⟩

private theorem whole_of_continues {segments : List (List Char)}
    (continued : Continues front segments) :
    ∀ stretch ∈ stretchesFrom front.length segments, stretch.Whole (front ++ segments.flatten) := by
  induction segments generalizing front with
  | nil => simp [stretchesFrom]
  | cons segment rest ih =>
    intro stretch member
    have nonempty := continued.nonempty segment List.mem_cons_self
    have uniform := continued.uniform segment List.mem_cons_self
    rcases List.mem_append.mp member with here | later
    · split at here
      · rw [List.mem_singleton.mp here]
        exact whole_of_uniform nonempty uniform ‹_› continued.joint continued.next.joint
      · simp at here
    · have whole := ih continued.next stretch (by simpa using later)
      simpa using whole

private theorem covering_of_segments {segments : List (List Char)} {index : Nat} {c : Char}
    (found : (front ++ segments.flatten)[index]? = some c) (behind : front.length ≤ index)
    (visible : isBlank c = false) :
    ∃ stretch ∈ stretchesFrom front.length segments, stretch.Holds index := by
  induction segments generalizing front with
  | nil =>
    rw [List.flatten_nil, List.append_nil, List.getElem?_eq_none behind] at found
    cases found
  | cons segment rest ih =>
    by_cases inside : index < front.length + segment.length
    · have bound : index - front.length < segment.length := by omega
      rw [List.flatten_cons, List.getElem?_append_right behind, List.getElem?_append_left bound]
        at found
      have lexeme : isLexeme segment = true := by
        simp only [isLexeme, Bool.not_eq_true', List.all_eq_false]
        exact ⟨c, List.mem_of_getElem? found, by simp [visible]⟩
      exact ⟨⟨front.length, front.length + segment.length⟩, by simp [stretchesFrom, lexeme],
        behind, inside⟩
    · have further : (front ++ segment).length ≤ index := by simp; omega
      obtain ⟨stretch, member, held⟩ := ih (by simpa using found) further
      exact ⟨stretch, List.mem_append_right _ (by simpa using member), held⟩

private theorem begin_le_of_mem {begin : Nat} {segments : List (List Char)} {stretch : Stretch}
    (member : stretch ∈ stretchesFrom begin segments) : begin ≤ stretch.first := by
  induction segments generalizing begin with
  | nil => simp [stretchesFrom] at member
  | cons segment rest ih =>
    rcases List.mem_append.mp member with here | later
    · split at here
      · rw [List.mem_singleton.mp here]
      · simp at here
    · have onward := ih later
      omega

private theorem ordered_stretchesFrom (begin : Nat) (segments : List (List Char)) :
    (stretchesFrom begin segments).Pairwise fun one other => one.last ≤ other.first := by
  induction segments generalizing begin with
  | nil => simp [stretchesFrom]
  | cons segment rest ih =>
    refine List.pairwise_append.mpr ⟨by split <;> simp, ih _, ?_⟩
    intro one here other later
    split at here
    · rw [List.mem_singleton.mp here]
      exact begin_le_of_mem later
    · simp at here

end

theorem decomposition_stretches (text : List Char) : Decomposition text (stretches text) where
  whole := by simpa [stretches, segments] using whole_of_continues (continues_segments text)
  ordered := ordered_stretchesFrom 0 (segments text)
  covering := by
    intro index c found visible
    have whole : ([] ++ (segments text).flatten)[index]? = some c := by simpa [segments] using found
    exact covering_of_segments whole (Nat.zero_le _) visible

private theorem flatMap_cut_stretchesFrom (front : List Char) {segments : List (List Char)}
    (uniform : ∀ segment ∈ segments, Uniform segment) :
    (stretchesFrom front.length segments).flatMap (·.cut (front ++ segments.flatten)) =
      segments.flatten.filter fun c => !isBlank c := by
  induction segments generalizing front with
  | nil => rfl
  | cons segment rest ih =>
    have later := ih (front ++ segment) fun other member =>
      uniform other (List.mem_cons_of_mem _ member)
    rw [List.length_append, List.append_assoc] at later
    rw [stretchesFrom, List.flatMap_append, List.flatten_cons, later, List.filter_append]
    congr 1
    cases lexeme : isLexeme segment with
    | true =>
      have visible := not_isBlank_of_isLexeme (uniform segment List.mem_cons_self) lexeme
      have kept : segment.filter (fun c => !isBlank c) = segment :=
        List.filter_eq_self.mpr fun c member => by simp [visible c member]
      simp [kept]
    | false =>
      have blanks : ∀ c ∈ segment, isBlank c = true := by simpa [isLexeme] using lexeme
      have dropped : segment.filter (fun c => !isBlank c) = [] :=
        List.filter_eq_nil_iff.mpr fun c member => by simp [blanks c member]
      simp [dropped]

def Stretch.span (text : List Char) (stretch : Stretch) : Span :=
  (Place.start.after (text.take stretch.first)).span (stretch.last - stretch.first)

def Stretch.token (text : List Char) (stretch : Stretch) : Token :=
  let lexeme := String.ofList (stretch.cut text)
  ⟨Kind.ofLexeme lexeme, lexeme, stretch.span text⟩

private theorem placed_eq_map (front : List Char) (segments : List (List Char)) :
    (((segments.scanl Place.after (Place.start.after front)).zip segments).filter
        fun (_, segment) => isLexeme segment) =
      (stretchesFrom front.length segments).map fun stretch =>
        let text := front ++ segments.flatten
        (Place.start.after (text.take stretch.first), stretch.cut text) := by
  induction segments generalizing front with
  | nil => simp [stretchesFrom]
  | cons segment rest ih =>
    have later := ih (front ++ segment)
    rw [Place.after_append, List.length_append, List.append_assoc] at later
    rw [List.scanl_cons, List.zip_cons_cons, List.filter_cons, stretchesFrom, List.map_append,
      List.flatten_cons, later]
    by_cases lexeme : isLexeme segment = true <;> simp [lexeme]

/-- One pass over a text finds its stretches. -/
theorem foundFrom_eq_map (text : List Char) :
    foundFrom .start text = (stretches text).map fun stretch =>
      (Place.start.after (text.take stretch.first), stretch.cut text) := by
  have placed := placed_eq_map [] (segments text)
  rw [← filter_placed_segments]
  simpa [stretches, segments] using placed

end Palette.Text

namespace Palette

open Text (Decomposition Stretch stretches)

theorem Scan.tokens_ofText (source : String) :
    (Scan.ofText source).tokens =
      (stretches source.toList).map (Stretch.token source.toList) := by
  rw [ofText, tokensFrom, Text.filter_placed_segments, Text.foundFrom_eq_map, List.map_map]
  refine List.map_congr_left fun stretch held => ?_
  -- Cutting blanks off a symbol changes nothing, since a lexeme has none.
  obtain ⟨front, segment, back, parts, _, visible, rfl⟩ :=
    ((Text.decomposition_stretches source.toList).whole stretch held).exists_parts
  simp [Token.ofSegment, Stretch.token, Stretch.span, parts, Text.trim_eq_self visible]

theorem Scan.map_lexeme_ofText (source : String) :
    (ofText source).tokens.map Token.lexeme =
      (Text.lexemes source.toList).map String.ofList := by
  rw [tokens_ofText, Text.lexemes_eq_found .start, Text.foundFrom_eq_map]
  simp only [List.map_map]
  rfl

/-- A token is cut out of its text, holds no blank, and was classified as it was cut. -/
theorem Scan.exists_parts_of_mem_tokens {source : String} {token : Token}
    (member : token ∈ (Scan.ofText source).tokens) :
    ∃ front segment back, source.toList = front ++ (segment ++ back) ∧ segment ≠ [] ∧
      (∀ c ∈ segment, Text.isBlank c = false) ∧
      token = ⟨Kind.ofLexeme (String.ofList segment), String.ofList segment,
        (Place.start.after front).span segment.length⟩ := by
  rw [Scan.tokens_ofText] at member
  obtain ⟨stretch, held, rfl⟩ := List.mem_map.mp member
  have whole := (Text.decomposition_stretches source.toList).whole stretch held
  obtain ⟨front, segment, back, parts, nonempty, visible, rfl⟩ := whole.exists_parts
  refine ⟨front, segment, back, parts, nonempty, visible, ?_⟩
  simp [Stretch.token, Stretch.span, parts]

/-- The lexemes of a text, as one pass finds them and as its tokens keep them, are its only
    decomposition, each at its place. Put together they are the text without its blanks. -/
theorem lexemes_unique_decomposition (source : String) :
    ∃ stretches : List Stretch, Decomposition source.toList stretches ∧
      (∀ others, Decomposition source.toList others → others = stretches) ∧
      (Text.foundFrom .start source.toList).map Prod.snd =
        stretches.map (fun stretch => stretch.cut source.toList) ∧
      ((Scan.ofText source).tokens.map fun token => (token.lexeme.toList, token.span)) =
        stretches.map (fun stretch => (stretch.cut source.toList, stretch.span source.toList)) ∧
      ((Scan.ofText source).tokens.flatMap fun token => token.lexeme.toList) =
        source.toList.filter fun c => !Text.isBlank c := by
  have decomposed := Text.decomposition_stretches source.toList
  refine ⟨stretches source.toList, decomposed, fun _ again => decomposed.unique again, ?_, ?_, ?_⟩
  · rw [Text.foundFrom_eq_map, List.map_map]
    rfl
  · rw [Scan.tokens_ofText, List.map_map]
    refine List.map_congr_left fun stretch _ => ?_
    simp [Stretch.token]
  · have uniform := (Text.continues_segments source.toList).uniform
    have visible := Text.flatMap_cut_stretchesFrom [] uniform
    rw [Scan.tokens_ofText, List.flatMap_map]
    simpa [Stretch.token, stretches, Text.segments] using visible

end Palette
