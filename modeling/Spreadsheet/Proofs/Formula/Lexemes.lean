import Spreadsheet.Formula.Lexer
import Spreadsheet.Proofs.Address.Column
import Spreadsheet.Proofs.Decimal.Digits
import Spreadsheet.Proofs.Text.Spans

/-!
# The lexemes of formulas

`IsLexeme` says what the pieces of a formula look like, apart from how they are found: a
sign, a number, or a word of a letter with letters and digits. Every token taken off a text
is a lexeme, and a lexeme at the start of a text is taken off whole if what follows it
cannot go on with it. After a sign anything may follow; a number or a word ends before any
character that is no letter, no digit and no point. An exponent that has no digits is not
begun, so nothing that follows a number is ever looked at in vain.
-/

namespace Spreadsheet.Formula

/-! ## Numbers, words and signs -/

/-- A point with any number of digits, or nothing. -/
inductive IsFraction : List Char → Prop where
  | absent : IsFraction []
  | point {digits : List Char} (areDigits : ∀ digit ∈ digits, digit.isDigit = true) :
      IsFraction ('.' :: digits)

/-- A plus, a minus, or nothing. -/
inductive IsExponentSign : List Char → Prop where
  | absent : IsExponentSign []
  | plus : IsExponentSign ['+']
  | minus : IsExponentSign ['-']

/-- The letter e in either case, a sign if there is one and at least one digit, or nothing. -/
inductive IsExponent : List Char → Prop where
  | absent : IsExponent []
  | marked {mark : Char} {sign digits : List Char} (isMark : mark = 'e' ∨ mark = 'E')
      (isSign : IsExponentSign sign) (filled : digits ≠ [])
      (areDigits : ∀ digit ∈ digits, digit.isDigit = true) :
      IsExponent (mark :: (sign ++ digits))

/-- Digits with a fraction and an exponent, where digits or the point may be missing. -/
inductive IsNumber : List Char → Prop where
  | parts {whole fraction exponent : List Char}
      (areDigits : ∀ digit ∈ whole, digit.isDigit = true) (isFraction : IsFraction fraction)
      (isExponent : IsExponent exponent) (filled : whole ≠ [] ∨ fraction ≠ []) :
      IsNumber (whole ++ (fraction ++ exponent))

/-- A letter and the letters and digits behind it. -/
inductive IsWord : List Char → Prop where
  | letter {head : Char} {tail : List Char} (isAlpha : head.isAlpha = true)
      (areAlphanumeric : ∀ character ∈ tail, character.isAlphanum = true) :
      IsWord (head :: tail)

/-- What a formula is made of. -/
inductive IsLexeme : List Char → Prop where
  | sign {character : Char} (isSign : isSign character = true) : IsLexeme [character]
  | number {text : List Char} (isNumber : IsNumber text) : IsLexeme text
  | word {text : List Char} (isWord : IsWord text) : IsLexeme text

/-- The lexemes that would run together with one of them right behind. -/
def IsSolid (text : List Char) : Prop :=
  IsNumber text ∨ IsWord text

/-- The characters with which a number or a word may go on. -/
def goesOn (character : Char) : Bool :=
  character.isAlphanum || character == '.'

/-! ## Kinds of characters -/

section Kinds

variable {character : Char}

/-- Numbers and words go on with digits. -/
theorem goesOn_of_isDigit (isDigit : character.isDigit = true) : goesOn character = true := by
  simp [goesOn, Char.isAlphanum, isDigit]

/-- Numbers and words go on with letters. -/
theorem goesOn_of_isAlpha (isAlpha : character.isAlpha = true) : goesOn character = true := by
  simp [goesOn, Char.isAlphanum, isAlpha]

/-- Words go on with letters and digits. -/
theorem goesOn_of_isAlphanum (isAlphanum : character.isAlphanum = true) :
    goesOn character = true := by
  simp [goesOn, isAlphanum]

/-- Numbers go on with what they start with. -/
theorem goesOn_of_startsNumber (starts : startsNumber character = true) :
    goesOn character = true := by
  rcases Bool.or_eq_true _ _ ▸ starts with isDigit | isPoint
  · exact goesOn_of_isDigit isDigit
  · simp [goesOn, isPoint]

/-- Signs neither go on with a lexeme nor are they white space. -/
theorem of_isSign (sign : isSign character = true) :
    goesOn character = false ∧ Text.isBlank character = false := by
  simp only [isSign, Bool.or_eq_true, beq_iff_eq, or_assoc] at sign
  rcases sign with rfl | rfl | rfl | rfl | rfl | rfl <;> decide

/-- White space neither goes on with a lexeme nor is it a sign. -/
theorem of_isBlank (blank : Text.isBlank character = true) :
    goesOn character = false ∧ isSign character = false := by
  constructor
  · have ranges := blank
    simp only [Text.isBlank, Text.blankRanges, List.any_cons, List.any_nil, Bool.or_false,
      Bool.or_eq_true, Bool.and_eq_true, decide_eq_true_eq] at ranges
    refine Bool.eq_false_iff.mpr fun solid => ?_
    simp only [goesOn, Char.isAlphanum, Bool.or_eq_true, Column.isAlpha_iff,
      Decimal.isDigit_iff, beq_iff_eq] at solid
    rcases solid with letterOrDigit | rfl
    · omega
    · cases blank
  · refine Bool.eq_false_iff.mpr fun sign => ?_
    rw [(of_isSign sign).2] at blank
    cases blank

/-- What a number or a word goes on with is no white space. -/
theorem isBlank_eq_false_of_goesOn (solid : goesOn character = true) :
    Text.isBlank character = false := by
  refine Bool.eq_false_iff.mpr fun blank => ?_
  rw [(of_isBlank blank).1] at solid
  cases solid

/-- What a number or a word goes on with is no sign. -/
theorem isSign_eq_false_of_goesOn (solid : goesOn character = true) :
    isSign character = false := by
  refine Bool.eq_false_iff.mpr fun sign => ?_
  rw [(of_isSign sign).1] at solid
  cases solid

/-- No letter starts a number. -/
theorem startsNumber_eq_false_of_isAlpha (isAlpha : character.isAlpha = true) :
    startsNumber character = false := by
  refine Bool.eq_false_iff.mpr fun starts => ?_
  simp only [startsNumber, Bool.or_eq_true, beq_iff_eq, Decimal.isDigit_iff] at starts
  rcases starts with isDigit | rfl
  · have isLetter := Column.isAlpha_iff.mp isAlpha
    omega
  · cases isAlpha

end Kinds

/-! ## What is taken off is a lexeme -/

/-- What is split off as a fraction is one, or nothing. -/
theorem isFraction_splitFraction (text : List Char) : IsFraction (splitFraction text).1 := by
  unfold splitFraction
  split
  · exact .point fun _ member => List.mem_takeWhile_imp member
  · exact .absent

/-- What is split off as the sign of an exponent is one, or nothing. -/
theorem isExponentSign_splitExponentSign (text : List Char) :
    IsExponentSign (splitExponentSign text).1 := by
  unfold splitExponentSign
  split
  · exact .plus
  · exact .minus
  · exact .absent

/-- What is split off as an exponent is one, or nothing. -/
theorem isExponent_splitExponent (text : List Char) : IsExponent (splitExponent text).1 := by
  cases text with
  | nil => exact .absent
  | cons mark rest =>
    unfold splitExponent
    dsimp only
    split
    · rename_i begun
      simp only [Bool.and_eq_true, Bool.or_eq_true, beq_iff_eq, Bool.not_eq_true',
        List.isEmpty_eq_false_iff] at begun
      exact .marked begun.1 (isExponentSign_splitExponentSign rest) begun.2
        fun _ member => List.mem_takeWhile_imp member
    · exact .absent

/-- What is split off from a text that starts like a number is one. -/
theorem isNumber_splitNumber {head : Char} (rest : List Char) (starts : startsNumber head = true) :
    IsNumber (splitNumber (head :: rest)).1 := by
  have filled : (head :: rest).takeWhile Char.isDigit ≠ [] ∨
      (splitFraction ((head :: rest).dropWhile Char.isDigit)).1 ≠ [] := by
    simp only [startsNumber, Bool.or_eq_true, beq_iff_eq] at starts
    rcases starts with isDigit | rfl
    · exact .inl (by simp [isDigit])
    · exact .inr (by simp [splitFraction])
  rw [splitNumber, List.append_assoc]
  exact .parts (fun _ member => List.mem_takeWhile_imp member) (isFraction_splitFraction _)
    (isExponent_splitExponent _) filled

/-- Every token that is taken off a text is a lexeme. -/
theorem isLexeme_of_splitToken {head : Char} {rest token remaining : List Char}
    (split : splitToken head rest = some (token, remaining)) : IsLexeme token := by
  simp only [splitToken] at split
  split at split
  · rename_i sign
    cases split
    exact .sign sign
  split at split
  · rename_i starts
    have isNumber := isNumber_splitNumber rest starts
    cases split
    exact .number isNumber
  split at split
  · rename_i isAlpha
    have isAlphanum : head.isAlphanum = true := by simp [Char.isAlphanum, isAlpha]
    cases split
    rw [List.takeWhile_cons, if_pos isAlphanum]
    exact .word (.letter isAlpha fun _ member => List.mem_takeWhile_imp member)
  · cases split

/-! ## Lexemes are taken off whole -/

section Boundary

variable {rest : List Char}

/-- Without its mark there is no exponent. -/
theorem splitExponent_of_not_mark {rest : List Char}
    (notMark : ∀ mark ∈ rest.head?, mark ≠ 'e' ∧ mark ≠ 'E') :
    splitExponent rest = ([], rest) := by
  cases rest with
  | nil => rfl
  | cons head tail =>
    obtain ⟨notLower, notUpper⟩ := notMark head rfl
    simp [splitExponent, notLower, notUpper]

/-- The sign of an exponent is split off before its digits. -/
theorem splitExponentSign_append_of_isDigit {sign : List Char} (isSign : IsExponentSign sign)
    {digit : Char} (isDigit : digit.isDigit = true) (rest : List Char) :
    splitExponentSign (sign ++ digit :: rest) = (sign, digit :: rest) := by
  cases isSign with
  | plus => rfl
  | minus => rfl
  | absent =>
    rw [List.nil_append]
    unfold splitExponentSign
    split
    · rename_i plus
      cases plus
      cases isDigit
    · rename_i minus
      cases minus
      cases isDigit
    · rfl

/-- An exponent that has digits goes on with all digits behind it. -/
theorem splitExponent_marked_append {mark : Char} {sign digits : List Char}
    (isMark : mark = 'e' ∨ mark = 'E') (isSign : IsExponentSign sign) (filled : digits ≠ [])
    (areDigits : ∀ digit ∈ digits, digit.isDigit = true) (rest : List Char) :
    splitExponent (mark :: (sign ++ digits) ++ rest) =
      (mark :: (sign ++ (digits ++ rest.takeWhile Char.isDigit)), rest.dropWhile Char.isDigit) := by
  obtain ⟨digit, others, rfl⟩ := List.exists_cons_of_ne_nil filled
  have isDigit := areDigits digit List.mem_cons_self
  have signed := splitExponentSign_append_of_isDigit isSign isDigit (others ++ rest)
  have takes : (digit :: (others ++ rest)).takeWhile Char.isDigit =
      digit :: others ++ rest.takeWhile Char.isDigit :=
    List.takeWhile_append_of_pos areDigits
  have drops : (digit :: (others ++ rest)).dropWhile Char.isDigit = rest.dropWhile Char.isDigit :=
    List.dropWhile_append_of_pos areDigits
  rw [List.cons_append, List.append_assoc, List.cons_append]
  simp only [splitExponent, signed, takes, drops]
  rcases isMark with rfl | rfl <;> rfl

/-- An exponent is taken off whole. -/
theorem splitExponent_append_of_stopsAt {exponent : List Char} (isExponent : IsExponent exponent)
    (stops : Text.StopsAt goesOn rest) :
    splitExponent (exponent ++ rest) = (exponent, rest) := by
  cases isExponent with
  | absent =>
    refine splitExponent_of_not_mark fun mark member => ?_
    have ends := stops mark member
    constructor
    · rintro rfl
      cases ends
    · rintro rfl
      cases ends
  | marked isMark isSign filled areDigits =>
    have noDigit : Text.StopsAt Char.isDigit rest := stops.mono fun _ => goesOn_of_isDigit
    have takes := Text.takeWhile_append (List.forall_mem_nil _) noDigit
    have drops := Text.dropWhile_append (List.forall_mem_nil _) noDigit
    rw [List.nil_append] at takes drops
    rw [splitExponent_marked_append isMark isSign filled areDigits, takes, drops, List.append_nil]

/-- What an exponent begins with is neither a digit nor a point. -/
theorem stopsAt_exponent_append {exponent : List Char} (isExponent : IsExponent exponent)
    (stops : Text.StopsAt goesOn rest) :
    Text.StopsAt startsNumber (exponent ++ rest) := by
  cases isExponent with
  | absent => exact stops.mono fun _ => goesOn_of_startsNumber
  | marked isMark =>
    rcases isMark with rfl | rfl
    · exact .cons rfl
    · exact .cons rfl

/-- A fraction is taken off whole if digits and points end with it. -/
theorem splitFraction_append_of_stopsAt {fraction : List Char} (isFraction : IsFraction fraction)
    (stops : Text.StopsAt startsNumber rest) :
    splitFraction (fraction ++ rest) = (fraction, rest) := by
  cases isFraction with
  | absent =>
    rw [List.nil_append]
    unfold splitFraction
    split
    · cases stops '.' rfl
    · rfl
  | point areDigits =>
    have noDigit : Text.StopsAt Char.isDigit rest :=
      stops.mono fun digit isDigit => by simp [startsNumber, isDigit]
    rw [List.cons_append, splitFraction, Text.takeWhile_append areDigits noDigit,
      Text.dropWhile_append areDigits noDigit]

/-- What a fraction begins with is no digit. -/
theorem stopsAt_fraction_append {fraction : List Char} (isFraction : IsFraction fraction)
    (stops : Text.StopsAt startsNumber rest) : Text.StopsAt Char.isDigit (fraction ++ rest) := by
  cases isFraction with
  | absent => exact stops.mono fun digit isDigit => by simp [startsNumber, isDigit]
  | point => exact .cons rfl

/-- A number is taken off whole. -/
theorem splitNumber_append_of_stopsAt {text : List Char} (isNumber : IsNumber text)
    (stops : Text.StopsAt goesOn rest) : splitNumber (text ++ rest) = (text, rest) := by
  cases isNumber with
  | @parts whole fraction exponent areDigits isFraction isExponent =>
    have afterFraction := stopsAt_exponent_append isExponent stops
    have afterWhole := stopsAt_fraction_append isFraction afterFraction
    rw [List.append_assoc, List.append_assoc]
    simp only [splitNumber, Text.takeWhile_append areDigits afterWhole,
      Text.dropWhile_append areDigits afterWhole,
      splitFraction_append_of_stopsAt isFraction afterFraction,
      splitExponent_append_of_stopsAt isExponent stops, List.append_assoc]

/-- What a number begins with. -/
theorem IsNumber.exists_cons {text : List Char} (isNumber : IsNumber text) :
    ∃ head tail, text = head :: tail ∧ startsNumber head = true := by
  cases isNumber with
  | @parts whole fraction exponent areDigits isFraction isExponent filled =>
    cases whole with
    | cons digit whole =>
      have isDigit := areDigits digit List.mem_cons_self
      exact ⟨digit, _, rfl, by simp [startsNumber, isDigit]⟩
    | nil =>
      cases isFraction with
      | absent =>
        rcases filled with wholeFilled | fractionFilled
        · exact absurd rfl wholeFilled
        · exact absurd rfl fractionFilled
      | point => exact ⟨'.', _, rfl, rfl⟩

/-- A lexeme is taken off whole, where a number or a word does not go on behind it. -/
theorem splitToken_append_of_isLexeme {text : List Char} (isLexeme : IsLexeme text)
    (stops : IsSolid text → Text.StopsAt goesOn rest) :
    ∃ head tail, text ++ rest = head :: tail ∧ Text.isBlank head = false ∧
      splitToken head tail = some (text, rest) := by
  cases isLexeme with
  | @sign character sign =>
    exact ⟨character, rest, rfl, (of_isSign sign).2, if_pos sign⟩
  | number isNumber =>
    obtain ⟨head, tail, rfl, starts⟩ := isNumber.exists_cons
    have whole := splitNumber_append_of_stopsAt isNumber (stops (.inl isNumber))
    have solid := goesOn_of_startsNumber starts
    refine ⟨head, tail ++ rest, rfl, isBlank_eq_false_of_goesOn solid, ?_⟩
    rw [splitToken, if_neg (by simp [isSign_eq_false_of_goesOn solid]), if_pos starts]
    exact congrArg some whole
  | word isWord =>
    have ends := (stops (.inr isWord)).mono fun _ => goesOn_of_isAlphanum
    cases isWord with
    | @letter head tail isAlpha areAlphanumeric =>
      have solid := goesOn_of_isAlpha isAlpha
      have isAlphanum : head.isAlphanum = true := by simp [Char.isAlphanum, isAlpha]
      have all : ∀ character ∈ head :: tail, character.isAlphanum = true :=
        List.forall_mem_cons.mpr ⟨isAlphanum, areAlphanumeric⟩
      have takes := Text.takeWhile_append all ends
      have drops := Text.dropWhile_append all ends
      rw [List.cons_append] at takes drops
      refine ⟨head, tail ++ rest, rfl, isBlank_eq_false_of_goesOn solid, ?_⟩
      rw [splitToken, if_neg (by simp [isSign_eq_false_of_goesOn solid]),
        if_neg (by simp [startsNumber_eq_false_of_isAlpha isAlpha]), if_pos isAlpha, takes, drops]

end Boundary

/-! ## The characters of lexemes -/

/-- Every character of a fraction is one with which numbers go on. -/
theorem goesOn_of_mem_isFraction {text : List Char} (isFraction : IsFraction text)
    {character : Char} (member : character ∈ text) : goesOn character = true := by
  cases isFraction with
  | absent => cases member
  | point areDigits =>
    rcases List.mem_cons.mp member with rfl | isDigit
    · decide
    · exact goesOn_of_isDigit (areDigits character isDigit)

/-- Every character of an exponent is one with which numbers go on, or a sign. -/
theorem goesOn_or_isSign_of_mem_isExponent {text : List Char} (isExponent : IsExponent text)
    {character : Char} (member : character ∈ text) :
    goesOn character = true ∨ isSign character = true := by
  cases isExponent with
  | absent => cases member
  | marked isMark isSign _ areDigits =>
    rcases List.mem_cons.mp member with rfl | behind
    · rcases isMark with rfl | rfl <;> exact .inl (by decide)
    rcases List.mem_append.mp behind with inSign | isDigit
    · cases isSign with
      | absent => cases inSign
      | plus => exact .inr (by rw [List.mem_singleton.mp inSign]; decide)
      | minus => exact .inr (by rw [List.mem_singleton.mp inSign]; decide)
    · exact .inl (goesOn_of_isDigit (areDigits character isDigit))

/-- Every character of a lexeme is one with which numbers and words go on, or a sign. -/
theorem IsLexeme.goesOn_or_isSign {text : List Char} (isLexeme : IsLexeme text)
    {character : Char} (member : character ∈ text) :
    goesOn character = true ∨ isSign character = true := by
  cases isLexeme with
  | sign sign =>
    rw [List.mem_singleton.mp member]
    exact .inr sign
  | number isNumber =>
    cases isNumber with
    | parts areDigits isFraction isExponent =>
      rcases List.mem_append.mp member with isDigit | behind
      · exact .inl (goesOn_of_isDigit (areDigits character isDigit))
      rcases List.mem_append.mp behind with inFraction | inExponent
      · exact .inl (goesOn_of_mem_isFraction isFraction inFraction)
      · exact goesOn_or_isSign_of_mem_isExponent isExponent inExponent
  | word isWord =>
    cases isWord with
    | letter isAlpha areAlphanumeric =>
      rcases List.mem_cons.mp member with rfl | behind
      · exact .inl (goesOn_of_isAlpha isAlpha)
      · exact .inl (goesOn_of_isAlphanum (areAlphanumeric character behind))

/-- No character of a lexeme is white space. -/
theorem IsLexeme.not_isBlank {text : List Char} (isLexeme : IsLexeme text) {character : Char}
    (member : character ∈ text) : Text.isBlank character = false := by
  rcases isLexeme.goesOn_or_isSign member with solid | sign
  · exact isBlank_eq_false_of_goesOn solid
  · exact (of_isSign sign).2

/-- A lexeme is not empty, and what it begins with is no equals sign. -/
theorem IsLexeme.exists_cons {text : List Char} (isLexeme : IsLexeme text) :
    ∃ head tail, text = head :: tail ∧ head ≠ '=' := by
  cases isLexeme with
  | @sign character sign =>
    refine ⟨character, [], rfl, ?_⟩
    rintro rfl
    cases sign
  | number isNumber =>
    obtain ⟨head, tail, rfl, starts⟩ := isNumber.exists_cons
    refine ⟨head, tail, rfl, ?_⟩
    rintro rfl
    cases starts
  | word isWord =>
    cases isWord with
    | @letter head tail isAlpha =>
      refine ⟨head, tail, rfl, ?_⟩
      rintro rfl
      cases isAlpha

end Spreadsheet.Formula
