import Spreadsheet.Formula.Token
import Spreadsheet.Proofs.Address.Grammar
import Spreadsheet.Proofs.Binary64.Signs
import Spreadsheet.Proofs.Decimal.Numerals
import Spreadsheet.Proofs.Formula.Tokenization

/-!
# The classes of tokens

What a token of a formula begins with settles what it can be. Numbers are taken off a text by
one grammar and read by another, and the two differ only where no digit stands before the
exponent. A word is a label or nothing known, because a word with a digit is no numeral. So the
class of a token is known from its text alone, without the order of the tests that find it.
-/

namespace Spreadsheet.Formula

/-- The text begins with a character of the kind. -/
def Begins (kind : Char → Bool) (text : List Char) : Prop :=
  ∃ head tail, text = head :: tail ∧ kind head = true

/-- How a text begins is a matter of its first character. -/
theorem begins_iff_head? {kind : Char → Bool} {text : List Char} :
    Begins kind text ↔ text.head?.any kind = true := by
  cases text with
  | nil => simp [Begins]
  | cons head tail => simp [Begins]

/-- A text that begins with a kind begins with every wider one. -/
theorem Begins.mono {kind wider : Char → Bool} {text : List Char} (begins : Begins kind text)
    (included : ∀ character, kind character = true → wider character = true) :
    Begins wider text := by
  obtain ⟨head, tail, whole, isKind⟩ := begins
  exact ⟨head, tail, whole, included head isKind⟩

/-- A text does not begin with two kinds that have no character in common. -/
theorem Begins.not_begins {kind other : Char → Bool} {text : List Char}
    (begins : Begins kind text)
    (apart : ∀ character, kind character = true → other character = false) :
    ¬ Begins other text := by
  obtain ⟨head, tail, rfl, isKind⟩ := begins
  rintro ⟨first, others, same, isOther⟩
  obtain ⟨rfl, -⟩ := List.cons.inj same
  cases isOther.symm.trans (apart head isKind)

/-- The letters that begin an exponent. -/
def startsExponent (character : Char) : Bool :=
  character == 'e' || character == 'E'

/-- A digit stands before the exponent. -/
def HasMantissaDigit (text : List Char) : Prop :=
  ∃ digit ∈ text.takeWhile fun character => !startsExponent character, digit.isDigit = true

/-- The class of a token, by what the token begins with. -/
inductive Classifies : String → Token → Prop where
  | openGroup : Classifies "(" .openGroup
  | closeGroup : Classifies ")" .closeGroup
  | operator (operator : Operator) : Classifies operator.symbol (.operator operator)
  | number {text : String} {value : Float} (begins : Begins startsNumber text.toList)
      (hasDigit : HasMantissaDigit text.toList)
      (read : Decimal.readFloat? text.toList = some value)
      (isNonnegative : Binary64.IsNonnegative value) : Classifies text (.number value)
  | digitless {text : String} (begins : Begins startsNumber text.toList)
      (noDigit : ¬ HasMantissaDigit text.toList) : Classifies text (.unknown text)
  | reference {text : String} {address : Address} (begins : Begins Char.isAlpha text.toList)
      (named : Address.ofLabel text = .ok address) : Classifies text (.reference text)
  | name {text : String} {problem : LabelError} (begins : Begins Char.isAlpha text.toList)
      (refused : Address.ofLabel text = .error problem) : Classifies text (.unknown text)

/-! ## Numbers are read as they are taken off -/

section Parts

variable {whole fraction exponent : List Char}

/-- The digits behind the point are read as they are taken off. -/
theorem readFraction_eq_splitFraction (text : List Char) :
    Decimal.Numeral.readFraction text = ((splitFraction text).1.tail, (splitFraction text).2) := by
  cases text with
  | nil => rfl
  | cons head tail =>
    by_cases point : head = '.'
    · rw [point]
      rfl
    · simp [Decimal.Numeral.readFraction, splitFraction, point]

/-- Every exponent is read. -/
theorem exists_readExponent? (isExponent : IsExponent exponent) :
    ∃ power, Decimal.Numeral.readExponent? exponent = some power := by
  cases isExponent with
  | absent => exact ⟨0, rfl⟩
  | @marked mark sign digits isMark isSign filled areDigits =>
    obtain ⟨negative, signed⟩ :
        ∃ negative, Decimal.Numeral.readSign (sign ++ digits) = (negative, digits) := by
      cases isSign with
      | plus => exact ⟨false, rfl⟩
      | minus => exact ⟨true, rfl⟩
      | absent =>
        obtain ⟨digit, others, rfl⟩ := List.exists_cons_of_ne_nil filled
        have isDigit := areDigits digit List.mem_cons_self
        exact ⟨false, Decimal.Numeral.readSign_of_isDigit isDigit others⟩
    have all : digits.all Char.isDigit = true := List.all_eq_true.mpr areDigits
    have marked : (mark == 'e' || mark == 'E') = true := by simpa using isMark
    simp [Decimal.Numeral.readExponent?, signed, marked, filled, all]

/-- A number is read if it has a digit on either side of the point, and else it is not. -/
theorem readDecimal?_append (areDigits : ∀ digit ∈ whole, digit.isDigit = true)
    (isFraction : IsFraction fraction) (isExponent : IsExponent exponent) (negative : Bool) :
    ∃ power, Decimal.Numeral.readDecimal? negative (whole ++ (fraction ++ exponent)) =
      if whole.isEmpty && fraction.tail.isEmpty then none
      else some (.decimal negative (Decimal.value (whole ++ fraction.tail)) power) := by
  obtain ⟨power, read⟩ := exists_readExponent? isExponent
  have afterFraction := stopsAt_exponent_append isExponent .nil
  rw [List.append_nil] at afterFraction
  have afterWhole := stopsAt_fraction_append isFraction afterFraction
  refine ⟨power - fraction.tail.length, ?_⟩
  simp only [Decimal.Numeral.readDecimal?, Text.takeWhile_append areDigits afterWhole,
    Text.dropWhile_append areDigits afterWhole, readFraction_eq_splitFraction,
    splitFraction_append_of_stopsAt isFraction afterFraction, read, Option.map_some]

/-- No digit starts an exponent. -/
theorem startsExponent_eq_false_of_isDigit {digit : Char} (isDigit : digit.isDigit = true) :
    startsExponent digit = false := by
  refine Bool.eq_false_iff.mpr fun mark => ?_
  simp only [startsExponent, Bool.or_eq_true, beq_iff_eq] at mark
  rcases mark with rfl | rfl
  · cases isDigit
  · cases isDigit

/-- What stands before the exponent of a number. -/
theorem takeWhile_not_startsExponent (areDigits : ∀ digit ∈ whole, digit.isDigit = true)
    (isFraction : IsFraction fraction) (isExponent : IsExponent exponent) :
    (whole ++ (fraction ++ exponent)).takeWhile (fun character => !startsExponent character) =
      whole ++ fraction := by
  rw [← List.append_assoc]
  refine Text.takeWhile_append ?_ ?_
  · refine List.forall_mem_append.mpr ⟨fun digit member => ?_, fun character member => ?_⟩
    · rw [startsExponent_eq_false_of_isDigit (areDigits digit member), Bool.not_false]
    · cases isFraction with
      | absent => cases member
      | point behindPoint =>
        rcases List.mem_cons.mp member with rfl | isDigit
        · rfl
        · rw [startsExponent_eq_false_of_isDigit (behindPoint character isDigit), Bool.not_false]
  · cases isExponent with
    | absent => exact .nil
    | marked isMark =>
      rcases isMark with rfl | rfl
      · exact .cons rfl
      · exact .cons rfl

/-- A number has a digit before its exponent if one stands before or behind the point. -/
theorem hasMantissaDigit_append (areDigits : ∀ digit ∈ whole, digit.isDigit = true)
    (isFraction : IsFraction fraction) (isExponent : IsExponent exponent) :
    HasMantissaDigit (whole ++ (fraction ++ exponent)) ↔
      ¬ (whole.isEmpty && fraction.tail.isEmpty) = true := by
  have hasDigit {digits : List Char} (areDigits : ∀ digit ∈ digits, digit.isDigit = true) :
      (∃ digit ∈ digits, digit.isDigit = true) ↔ digits ≠ [] := by
    constructor
    · rintro ⟨digit, member, -⟩
      exact List.ne_nil_of_mem member
    · intro filled
      obtain ⟨digit, member⟩ := List.exists_mem_of_ne_nil digits filled
      exact ⟨digit, member, areDigits digit member⟩
  have notDigit : Char.isDigit '.' = false := rfl
  rw [HasMantissaDigit, takeWhile_not_startsExponent areDigits isFraction isExponent]
  cases isFraction with
  | absent => simp [hasDigit areDigits]
  | point behindPoint =>
    simp [or_and_right, exists_or, hasDigit areDigits, hasDigit behindPoint, notDigit,
      imp_iff_not_or]

end Parts

/-- A number is read exactly if a digit stands before its exponent, and is not negative. -/
theorem IsNumber.readFloat?_cases {text : List Char} (isNumber : IsNumber text) :
    (HasMantissaDigit text ∧
        ∃ value, Decimal.readFloat? text = some value ∧ Binary64.IsNonnegative value) ∨
      (¬ HasMantissaDigit text ∧ Decimal.readFloat? text = none) := by
  obtain ⟨head, tail, begins, starts⟩ := isNumber.exists_cons
  have decimal : Decimal.Numeral.read? text = Decimal.Numeral.readDecimal? false text := by
    have other {character : Char} (notBegin : startsNumber character = false) :
        head ≠ character := by
      rintro rfl
      cases starts.symm.trans notBegin
    have notAlpha : head.isAlpha = false := by
      refine Bool.eq_false_iff.mpr fun isAlpha => ?_
      cases starts.symm.trans (startsNumber_eq_false_of_isAlpha isAlpha)
    have unsigned := Decimal.Numeral.readSign_cons (other rfl) (other rfl) tail
    rw [begins, Decimal.Numeral.read?_of_readSign unsigned (.cons notAlpha)]
  cases isNumber with
  | @parts whole fraction exponent areDigits isFraction isExponent filled =>
    obtain ⟨power, read⟩ := readDecimal?_append areDigits isFraction isExponent false
    rw [hasMantissaDigit_append areDigits isFraction isExponent, Decimal.readFloat?, decimal, read]
    by_cases digitless : (whole.isEmpty && fraction.tail.isEmpty) = true
    · exact .inr ⟨not_not_intro digitless, by rw [if_pos digitless, Option.map_none]⟩
    · rw [if_neg digitless]
      exact .inl ⟨digitless, _, rfl, Binary64.isNonnegative_ofScientific _ _⟩

/-! ## Classes -/

section Classes

variable {text : String}

/-- There is no white space to be trimmed from a lexeme. -/
theorem IsLexeme.trim_eq {text : List Char} (isLexeme : IsLexeme text) : Text.trim text = text := by
  have begins : Text.StopsAt Text.isBlank text :=
    fun _ first => isLexeme.not_isBlank (List.mem_of_mem_head? first)
  have ends : Text.StopsAt Text.isBlank text.reverse :=
    fun _ last => isLexeme.not_isBlank (List.mem_reverse.mp (List.mem_of_mem_head? last))
  have trimmed := Text.trim_append (List.forall_mem_nil _) (List.forall_mem_nil _) begins ends
  rwa [List.nil_append, List.append_nil] at trimmed

/-- A lexeme is read as a number without trimming. -/
theorem readNumber?_of_isLexeme (isLexeme : IsLexeme text.toList) :
    Token.readNumber? text =
      if text.toList.any Char.isDigit then
        (Decimal.readFloat? text.toList).filter fun value => !value.isNaN
      else none := by
  rw [Token.readNumber?, isLexeme.trim_eq]

/-- What begins like a number or a word is no sign. -/
theorem classify_of_begins (begins : Begins goesOn text.toList) :
    Token.classify text =
      (Token.readNumber? text).elim
        (if Address.isLabel text then .reference text else .unknown text) .number := by
  have other {sign : String} (isSign : Begins isSign sign.toList) : text ≠ sign := by
    rintro rfl
    exact isSign.not_begins (fun _ sign => (of_isSign sign).1) begins
  have noOperator : Operator.ofSymbol? text = none := by
    refine Option.eq_none_iff_forall_ne_some.mpr fun operator found => ?_
    have isSign : Begins isSign operator.symbol.toList := by
      cases operator <;> exact ⟨_, _, rfl, rfl⟩
    exact other isSign (Operator.ofSymbol?_eq_some_iff.mp found)
  rw [Token.classify, if_neg (other ⟨_, _, rfl, rfl⟩), if_neg (other ⟨_, _, rfl, rfl⟩), noOperator]
  cases Token.readNumber? text with
  | none => rfl
  | some value => rfl

/-- A lexeme that begins like a number is one. -/
theorem IsLexeme.isNumber {text : List Char} (isLexeme : IsLexeme text)
    (begins : Begins startsNumber text) : IsNumber text := by
  cases isLexeme with
  | number isNumber => exact isNumber
  | @sign character sign =>
    have isSign : Begins isSign [character] := ⟨character, [], rfl, sign⟩
    exact absurd (begins.mono fun _ => goesOn_of_startsNumber)
      (isSign.not_begins fun _ sign => (of_isSign sign).1)
  | word isWord =>
    cases isWord with
    | @letter head tail isAlpha =>
      have isLetter : Begins Char.isAlpha (head :: tail) := ⟨head, tail, rfl, isAlpha⟩
      exact absurd begins (isLetter.not_begins fun _ => startsNumber_eq_false_of_isAlpha)

/-- What begins with a letter is no number, whatever stands behind the letter. -/
theorem readNumber?_of_isAlpha (begins : Begins Char.isAlpha text.toList) :
    Token.readNumber? text = none := by
  obtain ⟨head, tail, whole, isAlpha⟩ := begins
  have notBlank : Text.isBlank head = false :=
    isBlank_eq_false_of_goesOn (goesOn_of_isAlpha isAlpha)
  have trimmed : Text.trim (head :: tail) <+: head :: tail := Text.isPrefix_trim (.cons notBlank)
  rw [Token.readNumber?, whole]
  split
  · rename_i hasDigit
    obtain ⟨digit, member, isDigit⟩ := List.any_eq_true.mp hasDigit
    rcases List.prefix_cons_iff.mp trimmed with nothing | ⟨others, starts, -⟩
    · rw [nothing] at member
      cases member
    · rw [starts] at member ⊢
      have inOthers : digit ∈ others := by
        refine (List.mem_cons.mp member).resolve_left ?_
        rintro rfl
        cases isAlpha.symm.trans (Decimal.not_isAlpha_of_isDigit isDigit)
      have unread := Decimal.Numeral.read?_eq_none_of_isAlpha isAlpha ⟨digit, inOthers, isDigit⟩
      rw [Decimal.readFloat?, unread, Option.map_none, Option.filter_none]
  · rfl

/-- A lexeme has the class that goes with what it begins with. -/
theorem classify_of_classifies (isLexeme : IsLexeme text.toList) {token : Token}
    (classifies : Classifies text token) : Token.classify text = token := by
  cases classifies with
  | openGroup => rfl
  | closeGroup => rfl
  | operator operator => cases operator <;> rfl
  | @number _ value begins hasDigit read isNonnegative =>
    obtain ⟨digit, inMantissa, isDigit⟩ := hasDigit
    have hasDigit : text.toList.any Char.isDigit = true :=
      List.any_eq_true.mpr ⟨digit, List.takeWhile_subset _ inMantissa, isDigit⟩
    have isNumber : (!value.isNaN) = true := by rw [isNonnegative.isNumber, Bool.not_false]
    rw [classify_of_begins (begins.mono fun _ => goesOn_of_startsNumber),
      readNumber?_of_isLexeme isLexeme, if_pos hasDigit, read, Option.filter_some,
      if_pos isNumber, Option.elim_some]
  | digitless begins noDigit =>
    have unread : Decimal.readFloat? text.toList = none := by
      rcases (isLexeme.isNumber begins).readFloat?_cases with ⟨hasDigit, -⟩ | ⟨-, unread⟩
      · exact absurd hasDigit noDigit
      · exact unread
    have notLabel : ¬ Address.isLabel text = true := by
      intro isLabel
      obtain ⟨address, named⟩ := Address.isLabel_iff.mp isLabel
      have isLetter : Begins Char.isAlpha text.toList := Address.exists_cons_of_ofLabel named
      exact isLetter.not_begins (fun _ => startsNumber_eq_false_of_isAlpha) begins
    rw [classify_of_begins (begins.mono fun _ => goesOn_of_startsNumber),
      readNumber?_of_isLexeme isLexeme, unread, Option.filter_none, ite_self, Option.elim_none,
      if_neg notLabel]
  | @reference _ address begins named =>
    have isLabel : Address.isLabel text = true := Address.isLabel_iff.mpr ⟨address, named⟩
    rw [classify_of_begins (begins.mono fun _ => goesOn_of_isAlpha),
      readNumber?_of_isAlpha begins, Option.elim_none, if_pos isLabel]
  | @name _ problem begins refused =>
    have notLabel : ¬ Address.isLabel text = true := by
      intro isLabel
      obtain ⟨address, named⟩ := Address.isLabel_iff.mp isLabel
      cases refused.symm.trans named
    rw [classify_of_begins (begins.mono fun _ => goesOn_of_isAlpha),
      readNumber?_of_isAlpha begins, Option.elim_none, if_neg notLabel]

/-- A sign is an operator or opens or closes a group. -/
theorem exists_classifies_of_isSign {character : Char} (sign : isSign character = true)
    (spelled : text.toList = [character]) : ∃ token, Classifies text token := by
  obtain rfl : text = String.ofList [character] := by rw [← spelled, String.ofList_toList]
  simp only [isSign, Bool.or_eq_true, beq_iff_eq, or_assoc] at sign
  rcases sign with rfl | rfl | rfl | rfl | rfl | rfl
  · exact ⟨_, .operator .add⟩
  · exact ⟨_, .operator .subtract⟩
  · exact ⟨_, .operator .multiply⟩
  · exact ⟨_, .operator .divide⟩
  · exact ⟨_, .openGroup⟩
  · exact ⟨_, .closeGroup⟩

/-- A lexeme begins with a sign, like a number or with a letter, and so it has a class. -/
theorem exists_classifies (isLexeme : IsLexeme text.toList) : ∃ token, Classifies text token := by
  generalize spelled : text.toList = characters at isLexeme
  cases isLexeme with
  | sign sign => exact exists_classifies_of_isSign sign spelled
  | number isNumber =>
    rw [← spelled] at isNumber
    have begins : Begins startsNumber text.toList := isNumber.exists_cons
    rcases isNumber.readFloat?_cases with ⟨hasDigit, value, read, isNonnegative⟩ | ⟨noDigit, -⟩
    · exact ⟨.number value, .number begins hasDigit read isNonnegative⟩
    · exact ⟨.unknown text, .digitless begins noDigit⟩
  | word isWord =>
    have begins : Begins Char.isAlpha text.toList := by
      cases isWord with
      | letter isAlpha => exact ⟨_, _, spelled, isAlpha⟩
    cases named : Address.ofLabel text with
    | ok address => exact ⟨.reference text, .reference begins named⟩
    | error problem => exact ⟨.unknown text, .name begins named⟩

end Classes

/-- The class of every token of a formula is the one that goes with what the token begins with.
A sign is its operator or opens or closes a group. What begins like a number is a number, neither
negative nor undefined, exactly if a digit stands before its exponent, and never a reference. What
begins with a letter is a reference exactly if it is read as a label, and never a number. -/
theorem classify_eq_iff_of_tokenize {text : String} {tokens : List String}
    (tokenized : tokenize text = .ok tokens) :
    ∀ lexeme ∈ tokens, ∀ token, Token.classify lexeme = token ↔ Classifies lexeme token := by
  intro lexeme member token
  have isLexeme := isLexeme_of_tokenize tokenized lexeme member
  constructor
  · rintro rfl
    obtain ⟨found, classifies⟩ := exists_classifies isLexeme
    rwa [classify_of_classifies isLexeme classifies]
  · exact classify_of_classifies isLexeme

/-- Points and exponents without digits, a word for infinity with a digit and one without. -/
theorem classify_eq_iff_of_tokenize_borders :
    let text := "=5. + 1.e5*(.e5 - E5) / INF1 .inf 1e"
    let tokens := ["5.", "+", "1.e5", "*", "(", ".e5", "-", "E5", ")", "/", "INF1", ".", "inf", "1",
      "e"]
    tokenize text = .ok tokens ∧
      classify tokens =
        [.number 5.0, .operator .add, .number 100000.0, .operator .multiply, .openGroup,
          .unknown ".e5", .operator .subtract, .reference "E5", .closeGroup, .operator .divide,
          .reference "INF1", .unknown ".", .unknown "inf", .number 1.0, .unknown "e"] ∧
      ∀ lexeme ∈ tokens, Classifies lexeme (Token.classify lexeme) := by
  intro text tokens
  have tokenized : tokenize text = .ok tokens := by decide +kernel
  have classes := classify_eq_iff_of_tokenize tokenized
  exact ⟨tokenized, by decide +kernel, fun lexeme member => (classes lexeme member _).mp rfl⟩

end Spreadsheet.Formula
