import Spreadsheet.Json.Reader
import Spreadsheet.Json.Writer
import Spreadsheet.Proofs.Decimal.Rereading

/-!
# Numbers are read back

Every spelling is a number of the format: it has no superfluous zero in front, there are digits
behind its point, and its exponent has digits. So the text of a finite number is one run of
number characters that is accepted and read as the number.
-/

namespace Spreadsheet.Json

open Decimal

namespace Lexeme

/-- A written exponent is one by the grammar of numbers. -/
theorem isExponent_marked (exponent : Option Int) :
    isExponent (Spelling.marked exponent) = true := by
  cases exponent with
  | none => rfl
  | some exponent =>
    have areDigits : (digits exponent.natAbs).all Char.isDigit = true :=
      List.all_eq_true.mpr fun _ member => isDigit_of_mem_digits member
    rw [Spelling.marked]
    split <;>
      simp [isExponent, isDigitRun, Numeral.readSign, digits_ne_nil, areDigits]

/-- A written fraction with an exponent behind it is one by the grammar of numbers. -/
theorem isFractionAndExponent_pointed {fraction : List Char}
    (areDigits : ∀ digit ∈ fraction, digit.isDigit = true) (exponent : Option Int) :
    isFractionAndExponent (Spelling.pointed fraction ++ Spelling.marked exponent) = true := by
  cases fraction with
  | nil =>
    have exponentOnly := isExponent_marked exponent
    cases exponent with
    | none => rfl
    | some => exact exponentOnly
  | cons digit rest =>
    have stops := Spelling.stopsAt_marked exponent
    have takes := Text.takeWhile_append areDigits stops
    have drops := Text.dropWhile_append areDigits stops
    rw [Spelling.pointed, List.cons_append, isFractionAndExponent, takes, drops,
      isExponent_marked]
    rfl

/-- A spelling without a sign is a number by the grammar. -/
theorem isMagnitude_text (spelling : Spelling) : isMagnitude spelling.text = true := by
  have tail := isFractionAndExponent_pointed spelling.fractionDigits spelling.exponent
  obtain ⟨digit, rest, whole⟩ := List.exists_cons_of_ne_nil spelling.filled
  have areDigits := spelling.wholeDigits
  have leading := spelling.leading
  rw [whole] at areDigits leading
  obtain ⟨isDigit, restDigits⟩ := List.forall_mem_cons.mp areDigits
  rw [Spelling.text, whole, List.cons_append]
  by_cases zero : digit = '0'
  · -- A leading zero is the whole part.
    obtain rfl : rest = [] := by
      rcases leading with only | other
      · exact (List.cons.inj only).2
      · exact absurd (congrArg some zero) other
    rw [zero]
    exact tail
  · have drops := Text.dropWhile_append restDigits
      (Spelling.stopsAt_pointed spelling.fraction spelling.exponent)
    rw [isMagnitude, isDigit, drops, tail]
    · rfl
    · exact zero

/-- A spelling behind its sign is a number of the format. -/
theorem isNumber_signed (spelling : Spelling) (negative : Bool) :
    isNumber (Layout.signed negative spelling.text) = true := by
  have magnitude := isMagnitude_text spelling
  cases negative with
  | true => exact magnitude
  | false =>
    obtain ⟨digit, rest, starts, isDigit⟩ := spelling.exists_cons
    change isNumber spelling.text = true
    rw [starts] at magnitude ⊢
    rw [isNumber]
    · exact magnitude
    · rintro others ⟨⟩
      cases isDigit

/-- Digits stand in numbers. -/
theorem isNumberCharacter_of_isDigit {character : Char} (isDigit : character.isDigit = true) :
    isNumberCharacter character = true := by
  simp [isNumberCharacter, isDigit]

/-- The characters of a fraction stand in numbers. -/
theorem isNumberCharacter_of_mem_pointed {fraction : List Char}
    (areDigits : ∀ digit ∈ fraction, digit.isDigit = true) {character : Char}
    (member : character ∈ Spelling.pointed fraction) : isNumberCharacter character = true := by
  cases fraction with
  | nil => cases member
  | cons digit rest =>
    rcases List.mem_cons.mp member with rfl | isDigit
    · rfl
    · exact isNumberCharacter_of_isDigit (areDigits character isDigit)

/-- The characters of an exponent stand in numbers. -/
theorem isNumberCharacter_of_mem_marked {exponent : Option Int} {character : Char}
    (member : character ∈ Spelling.marked exponent) : isNumberCharacter character = true := by
  cases exponent with
  | none => cases member
  | some exponent =>
    rcases List.mem_cons.mp member with rfl | behind
    · rfl
    rcases List.mem_cons.mp behind with rfl | isDigit
    · split <;> rfl
    · exact isNumberCharacter_of_isDigit (isDigit_of_mem_digits isDigit)

/-- A spelling behind its sign has number characters only. -/
theorem isNumberCharacter_of_mem_signed {spelling : Spelling} {negative : Bool} {character : Char}
    (member : character ∈ Layout.signed negative spelling.text) :
    isNumberCharacter character = true := by
  have inText (member : character ∈ spelling.text) : isNumberCharacter character = true := by
    rcases List.mem_append.mp member with isDigit | behind
    · exact isNumberCharacter_of_isDigit (spelling.wholeDigits character isDigit)
    rcases List.mem_append.mp behind with inFraction | inExponent
    · exact isNumberCharacter_of_mem_pointed spelling.fractionDigits inFraction
    · exact isNumberCharacter_of_mem_marked inExponent
  cases negative with
  | false => exact inText member
  | true =>
    rcases List.mem_cons.mp member with rfl | behind
    · rfl
    · exact inText behind

end Lexeme

/-- The text of a finite number is a run of number characters, and reads as the number. -/
theorem number?_numberText {value : Float} (finite : value.isFinite = true) :
    Lexeme.number? (numberText value) = some (.number value) ∧ numberText value ≠ [] ∧
      ∀ character ∈ numberText value, Lexeme.isNumberCharacter character = true := by
  have read := numberLayout.readFloat?_text rfl finite
  obtain ⟨negative, spelling, text, -⟩ := numberLayout.exists_spelling_of_finite finite
  rw [numberText, if_pos finite]
  rw [text] at read ⊢
  refine ⟨?_, ?_, fun _ member => Lexeme.isNumberCharacter_of_mem_signed member⟩
  · rw [Lexeme.number?, if_pos (Lexeme.isNumber_signed spelling negative), read]
    rfl
  · obtain ⟨digit, rest, starts, -⟩ := spelling.exists_cons
    cases negative <;> simp [Layout.signed, starts]

end Spreadsheet.Json
