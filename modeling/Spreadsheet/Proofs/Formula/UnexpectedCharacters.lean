import Spreadsheet.Proofs.Formula.Tokenization

/-!
# The first unexpected character

A text is refused exactly if it has a character that no formula has, and then for the first
of them. Such a character is found wherever it stands: no token and no white space takes it
in, and every other character that is no white space begins a token. So how the text before
it comes apart makes no difference.
-/

namespace Spreadsheet

namespace Text

/-- The length in bytes is that of the string in UTF-8. -/
theorem byteLength_eq (text : List Char) : byteLength text = (String.ofList text).utf8ByteSize := by
  induction text with
  | nil => rfl
  | cons head text inductionHypothesis =>
    rw [byteLength, inductionHypothesis, ← List.singleton_append, String.ofList_append,
      String.utf8ByteSize_append, ← String.singleton_eq_ofList, String.utf8ByteSize_singleton]

/-- The bytes of two texts add up. -/
theorem byteLength_append (front back : List Char) :
    byteLength (front ++ back) = byteLength front + byteLength back := by
  simp only [byteLength_eq, String.ofList_append, String.utf8ByteSize_append]

end Text

namespace Formula

/-- The characters of formulas: white space, letters, digits, the point and the signs. -/
def isExpected (character : Char) : Bool :=
  Text.isBlank character || character.isAlphanum ||
    ['.', '+', '-', '*', '/', '(', ')'].contains character

/-- The characters of formulas by what they are to the tokens. -/
theorem isExpected_iff {character : Char} :
    isExpected character = true ↔
      Text.isBlank character = true ∨ goesOn character = true ∨ isSign character = true := by
  simp [isExpected, goesOn, isSign, or_assoc]

/-- Tokens hold expected characters only. -/
theorem isExpected_of_mem_splitToken {head : Char} {rest token remaining : List Char}
    (split : splitToken head rest = some (token, remaining)) :
    ∀ character ∈ token, isExpected character = true :=
  fun _ member => isExpected_iff.mpr (.inr ((isLexeme_of_splitToken split).goesOn_or_isSign member))

/-- A character that is no white space begins no token exactly if it is not expected. -/
theorem splitToken_eq_none_iff {head : Char} {rest : List Char}
    (notBlank : Text.isBlank head = false) :
    splitToken head rest = none ↔ isExpected head = false := by
  rw [Bool.eq_false_iff, Ne, isExpected_iff, splitToken]
  split
  · rename_i sign
    simp [sign]
  split
  · rename_i starts
    simp [goesOn_of_startsNumber starts]
  split
  · rename_i isAlpha
    simp [goesOn_of_isAlpha isAlpha]
  · rename_i notSign notNumber notAlpha
    simp_all [goesOn, Char.isAlphanum, startsNumber]

/-! ## Texts that are refused -/

/-- The first character that is not expected, and the byte at which it stands. -/
def IsFirstUnexpected (text : List Char) (problem : UnexpectedCharacter) : Prop :=
  ∃ before after, text = before ++ problem.found :: after ∧
    (∀ character ∈ before, isExpected character = true) ∧ isExpected problem.found = false ∧
    problem.position = (String.ofList before).utf8ByteSize

/-- The first unexpected character stands behind the longest run of expected ones. -/
theorem IsFirstUnexpected.spans {text : List Char} {problem : UnexpectedCharacter}
    (isFirst : IsFirstUnexpected text problem) :
    (text.dropWhile isExpected).head? = some problem.found ∧
      problem.position = (String.ofList (text.takeWhile isExpected)).utf8ByteSize := by
  obtain ⟨before, after, rfl, expected, unexpected, place⟩ := isFirst
  have stops : Text.StopsAt isExpected (problem.found :: after) := .cons unexpected
  rw [Text.takeWhile_append expected stops, Text.dropWhile_append expected stops]
  exact ⟨rfl, place⟩

/-- There is one first unexpected character at most. -/
theorem IsFirstUnexpected.unique {text : List Char} {first second : UnexpectedCharacter}
    (isFirst : IsFirstUnexpected text first) (isSecond : IsFirstUnexpected text second) :
    first = second := by
  obtain ⟨found, place⟩ := isFirst.spans
  obtain ⟨alsoFound, samePlace⟩ := isSecond.spans
  exact congrArg₂ UnexpectedCharacter.mk (Option.some.inj (found.symm.trans alsoFound))
    (place.trans samePlace.symm)

/-- A text that comes apart into tokens holds expected characters only. -/
theorem ComesApart.isExpected {text : List Char} {tokens : List (List Char)}
    (apart : ComesApart text tokens) : ∀ character ∈ text, isExpected character = true := by
  induction apart with
  | nil => exact List.forall_mem_nil _
  | blank isBlank _ inductionHypothesis =>
    exact List.forall_mem_cons.mpr ⟨isExpected_iff.mpr (.inl isBlank), inductionHypothesis⟩
  | token _ split _ inductionHypothesis =>
    rw [← splitToken_append split]
    exact List.forall_mem_append.mpr ⟨isExpected_of_mem_splitToken split, inductionHypothesis⟩

/-- A text is refused for a character that is not expected, with expected ones before it. -/
theorem exists_unexpected_of_lex {position : Nat} {text : List Char}
    {problem : UnexpectedCharacter} (refused : lex position text = .error problem) :
    ∃ before after, text = before ++ problem.found :: after ∧
      (∀ character ∈ before, isExpected character = true) ∧ isExpected problem.found = false ∧
      problem.position = position + Text.byteLength before := by
  fun_induction lex position text with
  | case1 => cases refused
  | case2 position head rest blank inductionHypothesis =>
    obtain ⟨before, after, rfl, expected, unexpected, place⟩ := inductionHypothesis refused
    have expectedHead : isExpected head = true := isExpected_iff.mpr (.inl blank)
    refine ⟨head :: before, after, rfl, List.forall_mem_cons.mpr ⟨expectedHead, expected⟩,
      unexpected, ?_⟩
    rw [place, Text.byteLength, Nat.add_assoc]
  | case3 position head rest notBlank unsplit =>
    cases refused
    exact ⟨[], rest, rfl, List.forall_mem_nil _,
      (splitToken_eq_none_iff (eq_false_of_ne_true notBlank)).mp unsplit, rfl⟩
  | case4 position head rest notBlank token remaining split inductionHypothesis =>
    cases later : lex (position + Text.byteLength token) remaining with
    | ok others =>
      rw [later] at refused
      cases refused
    | error met =>
      rw [later] at refused
      cases refused
      obtain ⟨before, after, rfl, expected, unexpected, place⟩ := inductionHypothesis later
      have expectedToken := isExpected_of_mem_splitToken split
      refine ⟨token ++ before, after, ?_, List.forall_mem_append.mpr ⟨expectedToken, expected⟩,
        unexpected, ?_⟩
      · rw [← splitToken_append split, List.append_assoc]
      · rw [place, Text.byteLength_append, Nat.add_assoc]

/-- A formula is refused for the first unexpected character of its body. -/
theorem isFirstUnexpected_of_tokenize {text : String} {problem : UnexpectedCharacter}
    (refused : tokenize text = .error problem) : IsFirstUnexpected (body text.toList) problem := by
  rw [tokenize] at refused
  cases lexed : lex 0 (body text.toList) with
  | ok pieces =>
    rw [lexed] at refused
    cases refused
  | error met =>
    rw [lexed] at refused
    cases refused
    obtain ⟨before, after, whole, expected, unexpected, place⟩ := exists_unexpected_of_lex lexed
    refine ⟨before, after, whole, expected, unexpected, ?_⟩
    rw [place, Nat.zero_add, Text.byteLength_eq]

/-- An unexpected character in the body of a formula is not passed over. -/
theorem exists_tokenize_eq_error {text : String} {character : Char}
    (member : character ∈ body text.toList) (unexpected : isExpected character = false) :
    ∃ problem, tokenize text = .error problem := by
  cases tokenized : tokenize text with
  | error problem => exact ⟨problem, rfl⟩
  | ok tokens =>
    have expected := (comesApart_of_tokenize tokenized).isExpected character member
    cases unexpected.symm.trans expected

/-- The first unexpected character is in the text and is not expected. -/
theorem IsFirstUnexpected.mem {text : List Char} {problem : UnexpectedCharacter}
    (isFirst : IsFirstUnexpected text problem) :
    problem.found ∈ text ∧ isExpected problem.found = false := by
  obtain ⟨before, after, rfl, -, unexpected, -⟩ := isFirst
  exact ⟨List.mem_append_right before List.mem_cons_self, unexpected⟩

/-- The text of a formula holds one content, between the white space at its two ends and behind
one equals sign. The formula is refused exactly if the content has a character that is not
expected. It is refused for the first of them, with the number of bytes before it. -/
theorem tokenize_fails_exactly (text : String) :
    (∃! content, IsContent text.toList content) ∧
    ∀ content, IsContent text.toList content →
      ((∃ problem, tokenize text = .error problem) ↔
        ∃ character ∈ content, isExpected character = false) ∧
      ∀ problem, tokenize text = .error problem ↔ IsFirstUnexpected content problem := by
  refine ⟨existsUnique_isContent text.toList, fun content isContent => ?_⟩
  rw [← body_eq_iff.mpr isContent]
  refine ⟨⟨?_, ?_⟩, fun problem => ⟨isFirstUnexpected_of_tokenize, fun isFirst => ?_⟩⟩
  · rintro ⟨problem, refused⟩
    exact ⟨problem.found, (isFirstUnexpected_of_tokenize refused).mem⟩
  · rintro ⟨character, member, unexpected⟩
    exact exists_tokenize_eq_error member unexpected
  · obtain ⟨other, refused⟩ := exists_tokenize_eq_error isFirst.mem.1 isFirst.mem.2
    rw [refused, isFirst.unique (isFirstUnexpected_of_tokenize refused)]

/-- White space of two and three bytes around the content and within it: the first of two
characters that are not expected stands at the seventh byte, counted from the space behind the
equals sign. -/
theorem tokenize_fails_exactly_wide_blanks :
    let text := "\u00a0\u3000= 1 +\u2003#?x\u2003"
    let content := " 1 +\u2003#?x".toList
    IsContent text.toList content ∧
    (∃ character ∈ content, isExpected character = false) ∧
    (∃ problem, tokenize text = .error problem) ∧
    IsFirstUnexpected content ⟨'#', 7⟩ ∧ tokenize text = .error ⟨'#', 7⟩ := by
  intro text content
  have isContent : IsContent text.toList content :=
    .marked
      { around := ⟨"\u00a0\u3000".toList, "\u2003".toList, by decide +kernel,
          List.all_eq_true.mp (by decide +kernel), List.all_eq_true.mp (by decide +kernel)⟩
        begins := by
          rintro _ ⟨⟩
          decide
        ends := by
          rintro _ ⟨⟩
          decide }
  have isFirst : IsFirstUnexpected content ⟨'#', 7⟩ :=
    ⟨" 1 +\u2003".toList, "?x".toList, by decide +kernel,
      List.all_eq_true.mp (by decide +kernel), by decide +kernel, by decide +kernel⟩
  obtain ⟨-, fails⟩ := tokenize_fails_exactly text
  obtain ⟨failsIff, refusedIff⟩ := fails content isContent
  have unexpected : ∃ character ∈ content, isExpected character = false := ⟨'#', isFirst.mem⟩
  exact ⟨isContent, unexpected, failsIff.mpr unexpected, isFirst, (refusedIff _).mpr isFirst⟩

end Formula

end Spreadsheet
