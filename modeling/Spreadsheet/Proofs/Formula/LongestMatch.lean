import Spreadsheet.Proofs.Formula.Tokenization

/-!
# Tokens are the longest match

The tokens of a formula are all of its text but the white space, and each of them is as long
as it can be where it stands. Where it stands is settled by the tokens before it: they and
white space are all that has been passed, and what remains begins with the token. A number
is matched in three parts. A part that is not empty begins with a character that the part
before it cannot go on with, so taking each part as long as possible makes the whole as
long as possible.
-/

namespace Spreadsheet

namespace Text

/-- The characters that are no white space. -/
def withoutBlanks (text : List Char) : List Char :=
  text.filter fun character => !isBlank character

/-- White space in front is left out. -/
theorem withoutBlanks_cons_of_blank {head : Char} (blank : isBlank head = true)
    (rest : List Char) : withoutBlanks (head :: rest) = withoutBlanks rest :=
  List.filter_cons_of_neg (by simp [blank])

/-- White space is left out on both sides of a cut. -/
theorem withoutBlanks_append (front back : List Char) :
    withoutBlanks (front ++ back) = withoutBlanks front ++ withoutBlanks back :=
  List.filter_append front back

/-- A text without white space is left as it is. -/
theorem withoutBlanks_eq_self {text : List Char}
    (noBlank : ∀ character ∈ text, isBlank character = false) : withoutBlanks text = text :=
  List.filter_eq_self.mpr fun character member => by rw [noBlank character member]; rfl

end Text

namespace Formula

/-- A text of a form with which an input begins, where no longer one does. -/
structure IsLongest (form : List Char → Prop) (input text : List Char) : Prop where
  isPrefix : text <+: input
  hasForm : form text
  longest : ∀ other, other <+: input → form other → other.length ≤ text.length

/-- Digits, a fraction and an exponent, all of which may be missing. -/
inductive HasNumberShape : List Char → Prop where
  | parts {whole fraction exponent : List Char}
      (areDigits : ∀ digit ∈ whole, digit.isDigit = true) (isFraction : IsFraction fraction)
      (isExponent : IsExponent exponent) : HasNumberShape (whole ++ (fraction ++ exponent))

/-- Letters and digits in any order. -/
def IsAlphanumeric (text : List Char) : Prop :=
  ∀ character ∈ text, character.isAlphanum = true

/-- What is matched at the start of an input: the longest number if it begins with a digit or a
point, the longest run of letters and digits if it begins with a letter, and a sign otherwise. -/
inductive IsMatch (input : List Char) : List Char → Prop where
  | number {head : Char} {tail : List Char} (starts : startsNumber head = true)
      (longest : IsLongest HasNumberShape input (head :: tail)) : IsMatch input (head :: tail)
  | word {head : Char} {tail : List Char} (isAlpha : head.isAlpha = true)
      (longest : IsLongest IsAlphanumeric input (head :: tail)) : IsMatch input (head :: tail)
  | sign {character : Char} (isSign : isSign character = true) (starts : [character] <+: input) :
      IsMatch input [character]

/-! ## Numbers -/

section Parts

variable {whole fraction exponent : List Char}

/-- An exponent that is there begins with neither a digit nor a point. -/
theorem IsExponent.eq_nil_or_stopsAt (isExponent : IsExponent exponent) :
    exponent = [] ∨ ∀ rest, Text.StopsAt startsNumber (exponent ++ rest) := by
  cases isExponent with
  | absent => exact .inl rfl
  | marked isMark => rcases isMark with rfl | rfl <;> exact .inr fun _ => .cons rfl

/-- A fraction or an exponent that is there does not begin with a digit. -/
theorem eq_nil_or_stopsAt_isDigit (isFraction : IsFraction fraction)
    (isExponent : IsExponent exponent) :
    fraction ++ exponent = [] ∨
      ∀ rest, Text.StopsAt Char.isDigit (fraction ++ exponent ++ rest) := by
  cases isFraction with
  | absent =>
    refine isExponent.eq_nil_or_stopsAt.imp id fun stops rest => (stops rest).mono ?_
    exact fun digit isDigit => by simp [startsNumber, isDigit]
  | point => exact .inr fun _ => .cons rfl

/-- An exponent at the start of a text belongs to what is split off as one. -/
theorem prefix_splitExponent (isExponent : IsExponent exponent) (rest : List Char) :
    exponent <+: (splitExponent (exponent ++ rest)).1 := by
  cases isExponent with
  | absent => exact List.nil_prefix
  | marked isMark isSign filled areDigits =>
    rw [splitExponent_marked_append isMark isSign filled areDigits, ← List.append_assoc]
    exact List.prefix_append (_ :: _) _

/-- A fraction with its exponent belongs to what is split off as the two. -/
theorem prefix_splitFraction (isFraction : IsFraction fraction) (isExponent : IsExponent exponent)
    (rest : List Char) :
    fraction ++ exponent <+: (splitFraction (fraction ++ exponent ++ rest)).1 ++
      (splitExponent (splitFraction (fraction ++ exponent ++ rest)).2).1 := by
  rcases isExponent.eq_nil_or_stopsAt with rfl | stops
  · rw [List.append_nil]
    cases isFraction with
    | absent => exact List.nil_prefix
    | point areDigits =>
      rw [List.cons_append, splitFraction, List.takeWhile_append_of_pos areDigits,
        ← List.cons_append, List.append_assoc]
      exact List.prefix_append _ _
  · rw [List.append_assoc, splitFraction_append_of_stopsAt isFraction (stops rest)]
    exact (List.prefix_append_right_inj fraction).mpr (prefix_splitExponent isExponent rest)

/-- A text of the shape of a number belongs to the number with which a text begins. -/
theorem prefix_splitNumber {text : List Char} (hasShape : HasNumberShape text)
    (rest : List Char) : text <+: (splitNumber (text ++ rest)).1 := by
  cases hasShape with
  | @parts whole fraction exponent areDigits isFraction isExponent =>
    rcases eq_nil_or_stopsAt_isDigit isFraction isExponent with empty | stops
    · rw [empty, List.append_nil, splitNumber, List.takeWhile_append_of_pos areDigits]
      simp only [List.append_assoc]
      exact List.prefix_append _ _
    · rw [List.append_assoc, splitNumber, Text.takeWhile_append areDigits (stops rest),
        Text.dropWhile_append areDigits (stops rest), List.append_assoc]
      exact (List.prefix_append_right_inj whole).mpr
        (prefix_splitFraction isFraction isExponent rest)

end Parts

/-! ## Longest matches -/

/-- The number that is split off is the longest at the start of a text. -/
theorem isLongest_splitNumber (input : List Char) :
    IsLongest HasNumberShape input (splitNumber input).1 where
  isPrefix := ⟨_, splitNumber_append input⟩
  hasForm := by
    rw [splitNumber, List.append_assoc]
    exact .parts (fun _ member => List.mem_takeWhile_imp member) (isFraction_splitFraction _)
      (isExponent_splitExponent _)
  longest := by
    rintro other ⟨rest, rfl⟩ hasShape
    exact (prefix_splitNumber hasShape rest).length_le

/-- The letters and digits that are taken are the longest run at the start of a text. -/
theorem isLongest_takeWhile (input : List Char) :
    IsLongest IsAlphanumeric input (input.takeWhile Char.isAlphanum) where
  isPrefix := List.takeWhile_prefix _
  hasForm := fun _ member => List.mem_takeWhile_imp member
  longest := by
    rintro other ⟨rest, rfl⟩ isAlphanumeric
    rw [List.takeWhile_append_of_pos isAlphanumeric]
    exact (List.prefix_append _ _).length_le

/-- A token begins with what the text begins with. -/
theorem exists_cons_of_splitToken {head : Char} {rest token remaining : List Char}
    (split : splitToken head rest = some (token, remaining)) : ∃ tail, token = head :: tail := by
  have whole := splitToken_append split
  obtain ⟨first, tail, rfl⟩ := List.exists_cons_of_ne_nil (splitToken_ne_nil split)
  exact ⟨tail, congrArg (· :: tail) (List.cons.inj whole).1⟩

/-- What is taken off a text is the longest match at its start. -/
theorem isMatch_of_splitToken {head : Char} {rest token remaining : List Char}
    (split : splitToken head rest = some (token, remaining)) : IsMatch (head :: rest) token := by
  obtain ⟨tail, rfl⟩ := exists_cons_of_splitToken split
  simp only [splitToken] at split
  split at split
  · rename_i isSign
    cases split
    exact .sign isSign (List.prefix_append [head] rest)
  split at split
  · rename_i starts
    have longest := isLongest_splitNumber (head :: rest)
    rw [Option.some.inj split] at longest
    exact .number starts longest
  split at split
  · rename_i isAlpha
    have longest := isLongest_takeWhile (head :: rest)
    rw [(Prod.mk.inj (Option.some.inj split)).1] at longest
    exact .word isAlpha longest
  · cases split

/-! ## Tokens in their places -/

/-- A token where it stands in a text: white space and the earlier tokens have been passed, and
the token is the longest match at the start of what remains. -/
def StandsIn (text : List Char) (earlier : List (List Char)) (token : List Char) : Prop :=
  ∃ passed remaining, text = passed ++ remaining ∧
    Text.withoutBlanks passed = earlier.flatten ∧ IsMatch remaining token

/-- What stands in a text stands in it behind what is put before the text. -/
theorem StandsIn.behind {text front token : List Char} {before earlier : List (List Char)}
    (stands : StandsIn text earlier token) (isFront : Text.withoutBlanks front = before.flatten) :
    StandsIn (front ++ text) (before ++ earlier) token := by
  obtain ⟨passed, remaining, rfl, isPassed, isMatch⟩ := stands
  refine ⟨front ++ passed, remaining, (List.append_assoc _ _ _).symm, ?_, isMatch⟩
  rw [Text.withoutBlanks_append, isFront, isPassed, List.flatten_append]

/-- There is no white space in a token. -/
theorem withoutBlanks_of_splitToken {head : Char} {rest token remaining : List Char}
    (split : splitToken head rest = some (token, remaining)) :
    Text.withoutBlanks token = token :=
  Text.withoutBlanks_eq_self fun _ member => (isLexeme_of_splitToken split).not_isBlank member

/-- The tokens of a text are its characters without the white space. -/
theorem ComesApart.flatten {text : List Char} {tokens : List (List Char)}
    (apart : ComesApart text tokens) : tokens.flatten = Text.withoutBlanks text := by
  induction apart with
  | nil => rfl
  | blank isBlank _ inductionHypothesis =>
    rw [inductionHypothesis, Text.withoutBlanks_cons_of_blank isBlank]
  | token _ split _ inductionHypothesis =>
    rw [← splitToken_append split, Text.withoutBlanks_append, withoutBlanks_of_splitToken split,
      List.flatten_cons, inductionHypothesis]

/-- Each token of a text is the longest match where it stands. -/
theorem ComesApart.standsIn {text token : List Char} {tokens earlier later : List (List Char)}
    (apart : ComesApart text tokens) (listed : tokens = earlier ++ token :: later) :
    StandsIn text earlier token := by
  induction apart generalizing earlier with
  | nil => cases earlier <;> cases listed
  | @blank head rest tokens isBlank _ inductionHypothesis =>
    have isFront : Text.withoutBlanks [head] = List.flatten [] :=
      Text.withoutBlanks_cons_of_blank isBlank []
    exact (inductionHypothesis listed).behind isFront
  | @token head rest first remaining tokens _ split _ inductionHypothesis =>
    cases earlier with
    | nil =>
      obtain ⟨rfl, -⟩ := List.cons.inj listed
      exact ⟨[], head :: rest, rfl, rfl, isMatch_of_splitToken split⟩
    | cons first earlier =>
      obtain ⟨rfl, others⟩ := List.cons.inj listed
      have isFront : Text.withoutBlanks first = [first].flatten := by
        rw [withoutBlanks_of_splitToken split, List.flatten_singleton]
      rw [← splitToken_append split]
      exact (inductionHypothesis others).behind isFront

/-- No token is empty or has white space. The text of the formula holds one content, between the
white space at its two ends and behind one equals sign; the tokens together are this content
without its white space, and each token is the longest match where it stands in it. -/
theorem tokenize_lossless {text : String} {tokens : List String}
    (tokenized : tokenize text = .ok tokens) :
    (∀ token ∈ tokens, token ≠ "" ∧
      ∀ character ∈ token.toList, Text.isBlank character = false) ∧
    (∃! content, IsContent text.toList content) ∧
    ∀ content, IsContent text.toList content →
      tokens.flatMap String.toList = Text.withoutBlanks content ∧
      ∀ earlier token later, tokens = earlier ++ token :: later →
        StandsIn content (earlier.map String.toList) token.toList := by
  have apart := comesApart_of_tokenize tokenized
  refine ⟨fun token member => ?_, existsUnique_isContent text.toList, fun content isContent => ?_⟩
  · have isLexeme := isLexeme_of_tokenize tokenized token member
    obtain ⟨head, tail, filled, -⟩ := isLexeme.exists_cons
    refine ⟨?_, fun _ => isLexeme.not_isBlank⟩
    rintro rfl
    cases filled
  · rw [← body_eq_iff.mpr isContent]
    refine ⟨?_, fun earlier token later listed => ?_⟩
    · rw [List.flatMap_def, apart.flatten]
    · have parts : tokens.map String.toList =
          earlier.map String.toList ++ token.toList :: later.map String.toList := by
        rw [listed, List.map_append, List.map_cons]
      exact apart.standsIn parts

/-- Behind a number with an exponent begins a word that looks like another exponent, and the
number behind its sign ends in a point. -/
theorem tokenize_lossless_exponents :
    let text := " =1.e5e+2.\u00a0 x9"
    let tokens := ["1.e5", "e", "+", "2.", "x9"]
    let content := "1.e5e+2.\u00a0 x9".toList
    tokenize text = .ok tokens ∧
      (∀ token ∈ tokens, token ≠ "" ∧
        ∀ character ∈ token.toList, Text.isBlank character = false) ∧
      IsContent text.toList content ∧
      Text.withoutBlanks content = "1.e5e+2.x9".toList ∧
      StandsIn content [] "1.e5".toList ∧
      StandsIn content ["1.e5".toList] "e".toList ∧
      StandsIn content ["1.e5".toList, "e".toList, "+".toList] "2.".toList := by
  intro text tokens content
  have tokenized : tokenize text = .ok tokens := by decide +kernel
  have isContent : IsContent text.toList content :=
    .marked
      { around := ⟨[' '], [], by decide +kernel, List.all_eq_true.mp (by decide +kernel),
          List.forall_mem_nil _⟩
        begins := by
          rintro _ ⟨⟩
          decide
        ends := by
          rintro _ ⟨⟩
          decide }
  obtain ⟨filled, -, held⟩ := tokenize_lossless tokenized
  obtain ⟨whole, stands⟩ := held content isContent
  exact ⟨tokenized, filled, isContent, whole.symm, stands [] _ _ rfl, stands ["1.e5"] _ _ rfl,
    stands ["1.e5", "e", "+"] _ _ rfl⟩

end Formula

end Spreadsheet
