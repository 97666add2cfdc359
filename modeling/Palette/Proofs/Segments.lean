import Mathlib.Data.List.SplitBy
import Palette.Parse

/-!
# The shape of segments

No two segments run together into one word (`Continues`), which leaves no choice of segments
(`Continues.segments_flatten`). One pass over the text finds the lexemes among them
(`lexemes_eq_found`), and fills both lists of a scan (`Scan.fill_found`).
-/

namespace Palette.Text

/-- Word characters only, or one character that is none. -/
def Uniform (segment : List Char) : Prop :=
  (∀ c ∈ segment, isWord c = true) ∨ ∃ c, segment = [c] ∧ isWord c = false

/-- Two texts that do not run together into a word where they meet. -/
def Apart (front back : List Char) : Prop :=
  ∀ left ∈ front.getLast?, ∀ right ∈ back.head?, isWord left = false ∨ isWord right = false

/-- A text is followed by segments that could be cut no other way. -/
structure Continues (front : List Char) (segments : List (List Char)) : Prop where
  nonempty : ∀ segment ∈ segments, segment ≠ []
  uniform : ∀ segment ∈ segments, Uniform segment
  separate : segments.IsChain Apart
  joint : Apart front segments.flatten

private theorem isWord_of_isChain {c next : Char} {rest : List Char}
    (chain : (c :: next :: rest).IsChain fun left right => (isWord left && isWord right) = true) :
    ∀ x ∈ c :: next :: rest, isWord x = true := by
  induction rest generalizing c next with
  | nil => simpa using chain
  | cons d rest ih =>
    obtain ⟨both, tail⟩ := List.isChain_cons_cons.mp chain
    have later := ih tail
    intro x member
    rcases List.mem_cons.mp member with rfl | member
    · exact (Bool.and_eq_true_iff.mp both).1
    · exact later x member

private theorem uniform_of_isChain {segment : List Char}
    (chain : segment.IsChain fun left right => (isWord left && isWord right) = true) :
    Uniform segment := by
  match segment with
  | [] => exact .inl (by simp)
  | [c] =>
    cases word : isWord c with
    | true => exact .inl (by simpa using word)
    | false => exact .inr ⟨c, rfl, word⟩
  | c :: next :: rest => exact .inl (isWord_of_isChain chain)

theorem continues_segments (text : List Char) : Continues [] (segments text) where
  nonempty := fun _ member => List.ne_nil_of_mem_splitBy member
  uniform := fun _ member => uniform_of_isChain (List.isChain_of_mem_splitBy member)
  separate := by
    refine (List.isChain_getLast_head_splitBy _ text).imp ?_
    rintro front back ⟨frontNonempty, backNonempty, unrelated⟩ left leftLast right rightHead
    rw [List.getLast?_eq_some_getLast frontNonempty] at leftLast
    rw [List.head?_eq_some_head backNonempty] at rightHead
    cases leftLast
    cases rightHead
    exact Bool.and_eq_false_iff.mp unrelated
  joint := by simp [Apart]

/-- Segments that could be cut no other way are those of the text that they make. -/
theorem Continues.segments_flatten {parts : List (List Char)} (continued : Continues [] parts) :
    segments parts.flatten = parts := by
  refine List.splitBy_flatten (fun empty => continued.nonempty [] empty rfl) ?_ ?_
  · intro segment member
    rcases continued.uniform segment member with words | ⟨c, rfl, _⟩
    · refine (List.pairwise_of_forall_mem_list fun left leftMember right rightMember => ?_).isChain
      simp [words left leftMember, words right rightMember]
    · exact .singleton c
  · refine continued.separate.imp_of_mem_imp fun front back frontMember backMember apart => ?_
    have frontNonempty := continued.nonempty front frontMember
    have backNonempty := continued.nonempty back backMember
    refine ⟨frontNonempty, backNonempty, Bool.and_eq_false_iff.mpr ?_⟩
    exact apart _ (List.getLast?_eq_some_getLast frontNonempty) _
      (List.head?_eq_some_head backNonempty)

theorem Continues.next {front segment : List Char} {rest : List (List Char)}
    (continued : Continues front (segment :: rest)) : Continues (front ++ segment) rest where
  nonempty := fun other member => continued.nonempty other (List.mem_cons_of_mem _ member)
  uniform := fun other member => continued.uniform other (List.mem_cons_of_mem _ member)
  separate := continued.separate.tail
  joint := by
    have nonempty := continued.nonempty segment List.mem_cons_self
    cases rest with
    | nil => simp [Apart]
    | cons next more =>
      have nextNonempty := continued.nonempty next (by simp)
      have apart := (List.isChain_cons_cons.mp continued.separate).1
      intro left leftLast right rightHead
      rw [List.getLast?_append_of_ne_nil _ nonempty] at leftLast
      rw [List.flatten_cons, List.head?_append_of_ne_nil _ nextNonempty] at rightHead
      exact apart left leftLast right rightHead

theorem not_isBlank_of_isLexeme {segment : List Char} (uniform : Uniform segment)
    (lexeme : isLexeme segment = true) : ∀ c ∈ segment, isBlank c = false := by
  rcases uniform with words | ⟨c, rfl, _⟩
  · exact fun c member => not_isBlank_of_isWord (words c member)
  · simpa [isLexeme] using lexeme

theorem segments_append {front back : List Char} (apart : Apart front back) :
    segments (front ++ back) = segments front ++ segments back := by
  refine List.splitBy_append ?_
  intro left last right head
  exact Bool.and_eq_false_iff.mpr (apart left last right head)

theorem segments_of_uniform {segment : List Char} (nonempty : segment ≠ [])
    (uniform : Uniform segment) : segments segment = [segment] := by
  have continued : Continues [] [segment] :=
    ⟨by simpa using nonempty, by simpa using uniform, .singleton _, by simp [Apart]⟩
  have cut := continued.segments_flatten
  rwa [List.flatten_singleton] at cut

private theorem segments_cons_of_word {c : Char} {rest : List Char} (word : isWord c = true) :
    segments (c :: rest) =
      (c :: rest.takeWhile isWord) :: segments (rest.dropWhile isWord) := by
  have words : ∀ d ∈ c :: rest.takeWhile isWord, isWord d = true := by
    intro d member
    rcases List.mem_cons.mp member with rfl | later
    · exact word
    · exact List.all_eq_true.mp List.all_takeWhile d later
  have apart : Apart (c :: rest.takeWhile isWord) (rest.dropWhile isWord) := by
    intro _ _ right head
    have stopped := List.head?_dropWhile_not isWord rest
    rw [show (rest.dropWhile isWord).head? = some right from head] at stopped
    exact .inr stopped
  have whole : c :: rest = (c :: rest.takeWhile isWord) ++ rest.dropWhile isWord := by
    rw [List.cons_append, List.takeWhile_append_dropWhile]
  rw [whole, segments_append apart, segments_of_uniform (List.cons_ne_nil c _) (.inl words)]
  rfl

private theorem segments_cons_of_not_word {c : Char} {rest : List Char}
    (notWord : isWord c = false) :
    segments (c :: rest) = [c] :: segments rest := by
  have apart : Apart [c] rest := by
    intro left last _ _
    obtain rfl : c = left := Option.some.inj last
    exact .inl notWord
  have cut := segments_of_uniform (List.cons_ne_nil c []) (.inr ⟨c, rfl, notWord⟩)
  have whole := segments_append apart
  rwa [cut] at whole

/-- One pass over a text: the longest run of word characters that is ahead, or else the next
    character, unless it separates. -/
def foundFrom (place : Place) : List Char → List (Place × List Char)
  | [] => []
  | c :: rest =>
    if isWord c then
      let run := c :: rest.takeWhile isWord
      (place, run) :: foundFrom (place.after run) (rest.dropWhile isWord)
    else if isSeparator c then foundFrom (place.next c) rest
    else (place, [c]) :: foundFrom (place.next c) rest
termination_by text => text.length
decreasing_by
  · have shorter := (List.dropWhile_suffix isWord (l := rest)).length_le
    simp only [List.length_cons]
    omega
  · simp
  · simp

/-- The pass finds the lexemes among the segments, each at the place where its segment begins. -/
theorem filter_placed_segments (place : Place) (text : List Char) :
    (((segments text).scanl Place.after place).zip (segments text)).filter
      (fun (_, segment) => isLexeme segment) = foundFrom place text := by
  fun_induction foundFrom place text with
  | case1 place => simp [segments]
  | case2 place c rest word run ih =>
    have lexeme : isLexeme run = true := by simp [run, isLexeme, not_isBlank_of_isWord word]
    rw [segments_cons_of_word word, List.scanl_cons, List.zip_cons_cons, List.filter_cons]
    exact (if_pos lexeme).trans (congrArg ((place, run) :: ·) ih)
  | case3 place c rest notWord separates ih =>
    have blank : ¬ isLexeme [c] = true := by simpa [isLexeme] using separates
    rw [segments_cons_of_not_word (by simpa using notWord), List.scanl_cons, List.zip_cons_cons,
      List.filter_cons]
    exact (if_neg blank).trans ih
  | case4 place c rest notWord visible ih =>
    have lexeme : isLexeme [c] = true := by simpa [isLexeme] using visible
    rw [segments_cons_of_not_word (by simpa using notWord), List.scanl_cons, List.zip_cons_cons,
      List.filter_cons]
    exact (if_pos lexeme).trans (congrArg ((place, [c]) :: ·) ih)

theorem lexemes_eq_found (place : Place) (text : List Char) :
    lexemes text = (foundFrom place text).map Prod.snd := by
  have all : (((segments text).scanl Place.after place).zip (segments text)).map Prod.snd =
      segments text := List.map_snd_zip (by simp)
  rw [lexemes, ← all, List.filter_map, ← filter_placed_segments]
  rfl

end Palette.Text

namespace Palette.Scan

/-- A token is put on the second list as well when it is a symbol. -/
def fill (tokens symbols : List Token) : List (Place × List Char) → List Token × List Token
  | [] => (tokens, symbols)
  | (place, lexeme) :: rest =>
    let token := Token.ofSegment place lexeme
    let symbols := if token.kind = .symbol then symbols ++ [token] else symbols
    fill (tokens ++ [token]) symbols rest

private theorem fill_eq (tokens symbols : List Token) (found : List (Place × List Char)) :
    let made := found.map fun (place, lexeme) => Token.ofSegment place lexeme
    fill tokens symbols found =
      (tokens ++ made, symbols ++ made.filter fun token => token.kind = .symbol) := by
  induction found generalizing tokens symbols with
  | nil => simp [fill]
  | cons first rest ih =>
    obtain ⟨place, lexeme⟩ := first
    dsimp only at ih
    rw [fill, ih]
    by_cases symbol : (Token.ofSegment place lexeme).kind = .symbol <;> simp [symbol]

/-- One pass over a text finds its tokens and, side by side with them, its symbols. -/
theorem fill_found (source : String) :
    fill [] [] (Text.foundFrom .start source.toList) =
      ((ofText source).tokens, (ofText source).symbols) := by
  rw [fill_eq, ← Text.filter_placed_segments]
  rfl

end Palette.Scan
