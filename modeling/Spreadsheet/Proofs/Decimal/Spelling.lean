import Mathlib.Algebra.Order.Field.Power
import Mathlib.Tactic.FieldSimp
import Mathlib.Tactic.Linarith
import Mathlib.Tactic.Ring
import Spreadsheet.Decimal.Layout
import Spreadsheet.Decimal.Numeral
import Spreadsheet.Proofs.Decimal.Numerals

/-!
# Spelled decimals

A `Spelling` is the form that every written decimal has: digits without a superfluous zero in
front, a point with digits if there are any, and an exponent with its sign. Reading a spelling
gives its digits and its power of ten, and each way to lay out a decimal, positional or with an
exponent, is a spelling of the same number.
-/

namespace Spreadsheet.Decimal

/-- A decimal in the form in which it is written. -/
structure Spelling where
  whole : List Char
  /-- The digits behind the point; there is no point without digits. -/
  fraction : List Char
  exponent : Option Int
  wholeDigits : ∀ digit ∈ whole, digit.isDigit = true
  fractionDigits : ∀ digit ∈ fraction, digit.isDigit = true
  filled : whole ≠ []
  leading : whole = ['0'] ∨ whole.head? ≠ some '0'

namespace Spelling

/-- The point and the digits behind it. -/
def pointed : List Char → List Char
  | [] => []
  | digit :: rest => '.' :: digit :: rest

/-- The exponent with its mark and its sign. -/
def marked : Option Int → List Char
  | none => []
  | some exponent => 'e' :: (if 0 ≤ exponent then '+' else '-') :: Decimal.digits exponent.natAbs

/-- The characters. -/
def text (spelling : Spelling) : List Char :=
  spelling.whole ++ (pointed spelling.fraction ++ marked spelling.exponent)

/-- All digits as one number. -/
def digits (spelling : Spelling) : Nat :=
  value (spelling.whole ++ spelling.fraction)

/-- The power of ten that belongs to the last digit. -/
def power (spelling : Spelling) : Int :=
  spelling.exponent.getD 0 - spelling.fraction.length

end Spelling

/-! ## Reading -/

namespace Spelling

/-- No digit is taken from an exponent. -/
theorem stopsAt_marked (exponent : Option Int) : Text.StopsAt Char.isDigit (marked exponent) := by
  cases exponent with
  | none => exact .nil
  | some => exact .cons rfl

/-- No digit is taken from a fraction or from the exponent behind it. -/
theorem stopsAt_pointed (fraction : List Char) (exponent : Option Int) :
    Text.StopsAt Char.isDigit (pointed fraction ++ marked exponent) := by
  cases fraction with
  | nil => exact stopsAt_marked exponent
  | cons => exact .cons rfl

/-- A fraction is read back, up to the exponent behind it. -/
theorem readFraction_pointed {fraction : List Char} (exponent : Option Int)
    (areDigits : ∀ digit ∈ fraction, digit.isDigit = true) :
    Numeral.readFraction (pointed fraction ++ marked exponent) = (fraction, marked exponent) := by
  cases fraction with
  | nil =>
    cases exponent with
    | none => rfl
    | some => rfl
  | cons digit rest =>
    have stops := stopsAt_marked exponent
    have takes := Text.takeWhile_append areDigits stops
    have drops := Text.dropWhile_append areDigits stops
    rw [pointed, List.cons_append, Numeral.readFraction, takes, drops]

/-- An exponent is read back; a missing one is zero. -/
theorem readExponent?_marked (exponent : Option Int) :
    Numeral.readExponent? (marked exponent) = some (exponent.getD 0) := by
  cases exponent with
  | none => rfl
  | some exponent =>
    have filled : (Decimal.digits exponent.natAbs).isEmpty = false :=
      List.isEmpty_eq_false_iff.mpr (digits_ne_nil _)
    have areDigits : (Decimal.digits exponent.natAbs).all Char.isDigit = true :=
      List.all_eq_true.mpr fun _ member => isDigit_of_mem_digits member
    rw [marked]
    split
    · rename_i notNegative
      simp [Numeral.readExponent?, Numeral.readSign, filled, areDigits, value_digits,
        abs_of_nonneg notNegative]
    · rename_i negative
      simp [Numeral.readExponent?, Numeral.readSign, filled, areDigits, value_digits,
        abs_of_neg (not_le.mp negative)]

/-- Reading a spelling gives its digits and its power of ten. -/
theorem readDecimal?_text (spelling : Spelling) (negative : Bool) :
    Numeral.readDecimal? negative spelling.text =
      some (.decimal negative spelling.digits spelling.power) := by
  have stops := stopsAt_pointed spelling.fraction spelling.exponent
  simp only [Numeral.readDecimal?, text, Text.takeWhile_append spelling.wholeDigits stops,
    Text.dropWhile_append spelling.wholeDigits stops,
    readFraction_pointed spelling.exponent spelling.fractionDigits, readExponent?_marked]
  rw [if_neg (by simp [spelling.filled])]
  rfl

/-- A spelling begins with a digit. -/
theorem exists_cons (spelling : Spelling) :
    ∃ digit rest, spelling.text = digit :: rest ∧ digit.isDigit = true := by
  obtain ⟨digit, rest, whole⟩ := List.exists_cons_of_ne_nil spelling.filled
  have isDigit := spelling.wholeDigits digit (whole ▸ List.mem_cons_self)
  exact ⟨digit, _, by rw [text, whole]; rfl, isDigit⟩

/-- A spelling is not taken for a sign. -/
theorem readSign_text (spelling : Spelling) :
    Numeral.readSign spelling.text = (false, spelling.text) := by
  obtain ⟨digit, rest, starts, isDigit⟩ := spelling.exists_cons
  rw [starts]
  exact Numeral.readSign_of_isDigit isDigit rest

/-- A spelling behind a sign, if it is negative, is read with that sign. -/
theorem read?_signed (spelling : Spelling) (negative : Bool) :
    Numeral.read? (Layout.signed negative spelling.text) =
      some (.decimal negative spelling.digits spelling.power) := by
  have sign : Numeral.readSign (Layout.signed negative spelling.text) =
      (negative, spelling.text) := by
    cases negative with
    | true => rfl
    | false => exact spelling.readSign_text
  have notLetter : Text.StopsAt Char.isAlpha spelling.text := by
    obtain ⟨digit, rest, starts, isDigit⟩ := spelling.exists_cons
    rw [starts]
    exact .cons (not_isAlpha_of_isDigit isDigit)
  rw [Numeral.read?_of_readSign sign notLetter, spelling.readDecimal?_text]

end Spelling

/-! ## Writing -/

/-- Digits in front of others are shifted by as many places. -/
theorem value_append (front back : List Char) :
    value (front ++ back) = value front * 10 ^ back.length + value back := by
  induction back using List.reverseRecOn with
  | nil => simp [value]
  | append_singleton back digit inductionHypothesis =>
    rw [← List.append_assoc, value_append_singleton, inductionHypothesis, value_append_singleton,
      List.length_append, List.length_singleton, pow_succ]
    ring

/-- Zeros stand for zero. -/
theorem value_replicate_zero (count : Nat) : value (List.replicate count '0') = 0 :=
  (value_eq_zero_iff fun _ member => by rw [List.eq_of_mem_replicate member]; rfl).mpr
    fun _ member => List.eq_of_mem_replicate member

/-- The digits of a positive number do not begin with zero. -/
theorem head?_digits_ne {number : Nat} (positive : 0 < number) :
    (digits number).head? ≠ some '0' := by
  have shortened := digits_value (fun _ member => isDigit_of_mem_digits member)
    (by rwa [value_digits] : 0 < value (digits number))
  rw [value_digits] at shortened
  rw [shortened]
  intro zero
  have other := List.head?_dropWhile_not (· == '0') (digits number)
  rw [zero] at other
  cases other

namespace Spelling

/-- What a whole number ends in behind its point are digits. -/
theorem isDigit_of_mem_pointZero (pointed : Bool) :
    ∀ digit ∈ if pointed then ['0'] else [], digit.isDigit = true := by
  split
  · exact List.forall_mem_singleton.mpr rfl
  · exact List.forall_mem_nil _

/-- The digits of a number, with zeros behind them and perhaps a zero behind the point. -/
def ofWhole {number : Nat} (positive : 0 < number) (zeros : Nat) (pointed : Bool) : Spelling where
  whole := Decimal.digits number ++ List.replicate zeros '0'
  fraction := if pointed then ['0'] else []
  exponent := none
  wholeDigits := by
    intro digit member
    rcases List.mem_append.mp member with written | zero
    · exact isDigit_of_mem_digits written
    · rw [List.eq_of_mem_replicate zero]
      rfl
  fractionDigits := isDigit_of_mem_pointZero pointed
  filled := by simp [digits_ne_nil]
  leading := by
    right
    rw [List.head?_append_of_ne_nil _ (digits_ne_nil number)]
    exact head?_digits_ne positive

/-- The digits of a number with the point among them or behind them, and perhaps an exponent. -/
def ofSplit {number count : Nat} (positive : 0 < number) (some : 0 < count)
    (exponent : Option Int) : Spelling where
  whole := (Decimal.digits number).take count
  fraction := (Decimal.digits number).drop count
  exponent
  wholeDigits := fun _ member => isDigit_of_mem_digits (List.mem_of_mem_take member)
  fractionDigits := fun _ member => isDigit_of_mem_digits (List.mem_of_mem_drop member)
  filled := by simp [digits_ne_nil, Nat.ne_of_gt some]
  leading := by
    right
    rw [List.head?_take, if_neg (Nat.ne_of_gt some)]
    exact head?_digits_ne positive

/-- The digits of a number behind a point and zeros. -/
def ofFraction (number zeros : Nat) : Spelling where
  whole := ['0']
  fraction := List.replicate zeros '0' ++ Decimal.digits number
  exponent := none
  wholeDigits := List.forall_mem_singleton.mpr rfl
  fractionDigits := by
    intro digit member
    rcases List.mem_append.mp member with zero | written
    · rw [List.eq_of_mem_replicate zero]
      rfl
    · exact isDigit_of_mem_digits written
  filled := List.cons_ne_nil _ _
  leading := .inl rfl

/-- The spelling of zero. -/
def zero (pointed : Bool) : Spelling where
  whole := ['0']
  fraction := if pointed then ['0'] else []
  exponent := none
  wholeDigits := List.forall_mem_singleton.mpr rfl
  fractionDigits := isDigit_of_mem_pointZero pointed
  filled := List.cons_ne_nil _ _
  leading := .inl rfl

/-- The spelling of zero has no digits but zero. -/
theorem digits_zero (pointed : Bool) : (zero pointed).digits = 0 := by
  cases pointed <;> rfl

/-- The number that a spelling means. -/
def toRat (spelling : Spelling) : ℚ :=
  spelling.digits * 10 ^ spelling.power

section Values

variable {number : Nat} (positive : 0 < number)

/-- A number before zeros is multiplied by a power of ten. -/
theorem toRat_ofWhole (zeros : Nat) (pointed : Bool) :
    (ofWhole positive zeros pointed).toRat = number * 10 ^ zeros := by
  have zero : value ['0'] = 0 := rfl
  cases pointed with
  | false =>
    have all : (ofWhole positive zeros false).digits = number * 10 ^ zeros := by
      simp [Spelling.digits, ofWhole, value_append, value_digits, value_replicate_zero]
    have last : (ofWhole positive zeros false).power = 0 := rfl
    rw [toRat, all, last]
    simp
  | true =>
    have all : (ofWhole positive zeros true).digits = number * 10 ^ zeros * 10 := by
      change value (Decimal.digits number ++ List.replicate zeros '0' ++ ['0']) = _
      rw [value_append, value_append, value_replicate_zero, value_digits, zero,
        List.length_replicate, List.length_singleton, pow_one, add_zero, add_zero]
    have last : (ofWhole positive zeros true).power = -1 := rfl
    rw [toRat, all, last, zpow_neg_one]
    push_cast
    field_simp

/-- A number with a point inside is divided by a power of ten, one for each digit behind it. -/
theorem toRat_ofSplit {count : Nat} (some : 0 < count) (exponent : Option Int) :
    (ofSplit positive some exponent).toRat =
      number * 10 ^ (exponent.getD 0 - ((Decimal.digits number).length - count : Nat)) := by
  rw [toRat, digits, power, ofSplit, List.take_append_drop, value_digits, List.length_drop]

/-- A number behind a point and zeros is divided by a power of ten. -/
theorem toRat_ofFraction (zeros : Nat) :
    (ofFraction number zeros).toRat =
      number * 10 ^ (-(zeros + (Decimal.digits number).length : Int)) := by
  have zero : value ['0'] = 0 := rfl
  have all : (ofFraction number zeros).digits = number := by
    change value (['0'] ++ (List.replicate zeros '0' ++ Decimal.digits number)) = _
    simp only [value_append, value_replicate_zero, value_digits, zero, zero_mul, zero_add]
  have last : (ofFraction number zeros).power =
      -(zeros + (Decimal.digits number).length : Int) := by
    simp [power, ofFraction]
  rw [toRat, all, last]

end Values

end Spelling

/-- Digits that are there stand behind a point. -/
theorem Spelling.pointed_of_ne_nil {fraction : List Char} (filled : fraction ≠ []) :
    Spelling.pointed fraction = '.' :: fraction := by
  obtain ⟨digit, rest, rfl⟩ := List.exists_cons_of_ne_nil filled
  rfl

namespace Layout

variable (layout : Layout) {number : Nat}

/-- Digits that are laid out positionally spell the number at its power of ten. -/
theorem exists_spelling_positional (positive : 0 < number) (exponent : Int) :
    ∃ spelling : Spelling,
      layout.positionalText (digits number) exponent = spelling.text ∧
        spelling.toRat = number * 10 ^ exponent := by
  unfold positionalText
  split
  · rename_i whole
    refine ⟨.ofWhole positive exponent.toNat layout.wholePoint, ?_, ?_⟩
    · rw [Spelling.text, Spelling.ofWhole, wholeEnd, Spelling.marked, List.append_nil]
      cases layout.wholePoint <;> rfl
    · rw [Spelling.toRat_ofWhole, ← zpow_natCast, Int.toNat_of_nonneg whole]
  rename_i fraction
  dsimp only
  split
  · rename_i inside
    have some : 0 < (digits number).length - (-exponent).toNat := by omega
    refine ⟨.ofSplit positive some none, ?_, ?_⟩
    · have filled : (digits number).drop ((digits number).length - (-exponent).toNat) ≠ [] := by
        rw [Ne, List.drop_eq_nil_iff]
        omega
      rw [Spelling.text, Spelling.ofSplit, Spelling.pointed_of_ne_nil filled, Spelling.marked,
        List.append_nil]
    · rw [Spelling.toRat_ofSplit]
      congr 2
      simp
      omega
  · rename_i outside
    refine ⟨.ofFraction number ((-exponent).toNat - (digits number).length), ?_, ?_⟩
    · have filled : List.replicate ((-exponent).toNat - (digits number).length) '0' ++
          digits number ≠ [] := by simp [digits_ne_nil]
      rw [Spelling.text, Spelling.ofFraction, Spelling.pointed_of_ne_nil filled, Spelling.marked,
        List.append_nil]
      rfl
    · rw [Spelling.toRat_ofFraction]
      congr 2
      omega

/-- Digits that are laid out with an exponent spell the number at its power of ten. -/
theorem exists_spelling_scientific (positive : 0 < number) (leading : Int) :
    ∃ spelling : Spelling, scientificText (digits number) leading = spelling.text ∧
      spelling.toRat = number * 10 ^ (leading - ((digits number).length - 1 : Nat)) := by
  refine ⟨.ofSplit positive one_pos (some leading), ?_, Spelling.toRat_ofSplit positive one_pos _⟩
  rw [scientificText, Spelling.text, Spelling.ofSplit, Spelling.marked, ← List.append_assoc]
  congr 2
  change _ = Spelling.pointed ((digits number).drop 1)
  split
  · rename_i short
    rw [List.drop_eq_nil_iff.mpr short]
    rfl
  · rename_i long
    exact (Spelling.pointed_of_ne_nil (mt List.drop_eq_nil_iff.mp long)).symm

/-- A positive decimal is written as a spelling of the same number. -/
theorem exists_spelling (decimal : Scaled) (positive : 0 < decimal.digits) :
    ∃ spelling : Spelling, layout.scaledText decimal = spelling.text ∧
      spelling.toRat = decimal.digits * 10 ^ decimal.exponent := by
  unfold scaledText
  dsimp only
  split
  · exact layout.exists_spelling_positional positive decimal.exponent
  split
  · exact layout.exists_spelling_positional positive decimal.exponent
  · have filled := List.length_pos_iff.mpr (digits_ne_nil decimal.digits)
    obtain ⟨spelling, text, means⟩ := exists_spelling_scientific positive
      (decimal.exponent + (digits decimal.digits).length - 1)
    refine ⟨spelling, text, means.trans ?_⟩
    congr 2
    omega

end Layout

end Spreadsheet.Decimal
