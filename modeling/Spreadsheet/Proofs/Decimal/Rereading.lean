import Spreadsheet.Proofs.Binary64.Scientific
import Spreadsheet.Proofs.Decimal.Shortest
import Spreadsheet.Proofs.Decimal.Spelling

/-!
# Written numbers are read back

The text of a finite number is a spelling of its shortest decimal. That decimal rounds to the
number, reading it rounds to what it rounds to, and so the text is read as the number itself, with
its sign also if it is zero.
-/

namespace Spreadsheet.Decimal

open Float.Model Float.Model.UnpackedFloat

namespace Numeral

/-- A decimal that rounds to a value is the number with that value and the sign of the decimal. -/
theorem toFloat_decimal {digits significand : Nat} {power exponent : Int}
    (areParts : Binary64.AreParts significand exponent)
    (rounds : Binary64.RoundsTo (digits * 10 ^ power) significand exponent) (sign : Sign) :
    (decimal (sign == .negative) digits power).toFloat =
      Float.ofModel (.pack (.finite sign significand exponent areParts.significand_pos)) := by
  rw [toFloat, Float.Model.ofScientific, Binary64.ofScientific_eq areParts rounds]
  cases sign with
  | positive => rfl
  | negative => exact Binary64.neg_pack_finite areParts areParts.significand_pos .positive

/-- Zero digits are zero with the sign of the decimal. -/
theorem toFloat_decimal_zero (power : Int) (sign : Sign) :
    (decimal (sign == .negative) 0 power).toFloat = Float.ofModel (.pack (.zero sign)) := by
  have magnitude : Float.Model.ofScientific 0 power = .pack (.zero .positive) := by
    rw [Float.Model.ofScientific, UnpackedFloat.ofScientific, dif_pos rfl]
  rw [toFloat, magnitude]
  cases sign with
  | positive => rfl
  | negative => decide +kernel

end Numeral

namespace Layout

/-- The text of a finite number is a spelling behind its sign. The number is what the spelling is
read as, unless it is a zero that has lost its sign. -/
theorem exists_spelling_of_finite (layout : Layout) {number : Float}
    (finite : number.isFinite = true) :
    ∃ (negative : Bool) (spelling : Spelling),
      layout.text number = Layout.signed negative spelling.text ∧
        (layout.signedZero = true →
          (Numeral.decimal negative spelling.digits spelling.power).toFloat = number) := by
  have packed := Binary64.pack_unpack number
  unfold text
  cases unpacked : number.toModel.unpack with
  | infinity | notANumber =>
    change number.toModel.unpack.isFinite = true at finite
    rw [unpacked] at finite
    cases finite
  | zero sign =>
    refine ⟨layout.signedZero && sign == .negative, .zero layout.wholePoint, ?_, fun signed => ?_⟩
    · rw [Spelling.text, Spelling.zero, wholeEnd]
      cases layout.wholePoint <;> rfl
    · rw [signed, Bool.true_and, Spelling.digits_zero, Numeral.toFloat_decimal_zero, ← unpacked,
        packed]
  | finite sign significand exponent positive =>
    have areParts := Binary64.areParts_of_unpack unpacked
    have rounds := Dyadic.roundsTo_shortest ⟨significand, exponent⟩ positive layout.tie
    obtain ⟨filled, -⟩ := rounds.power_bounds areParts
    obtain ⟨spelling, text, means⟩ :=
      layout.exists_spelling (Dyadic.shortest ⟨significand, exponent⟩ layout.tie)
        (Nat.pos_of_ne_zero filled)
    refine ⟨sign == .negative, spelling, congrArg (Layout.signed _) text, fun _ => ?_⟩
    rw [Scaled.toRat, ← means] at rounds
    rw [Numeral.toFloat_decimal areParts rounds, ← unpacked, packed]

/-- Reading the text of a finite number gives the number. -/
theorem readFloat?_text (layout : Layout) (signed : layout.signedZero = true)
    {number : Float} (finite : number.isFinite = true) :
    readFloat? (layout.text number) = some number := by
  obtain ⟨negative, spelling, text, read⟩ := layout.exists_spelling_of_finite finite
  rw [readFloat?, text, spelling.read?_signed, Option.map_some, read signed]

end Layout

end Spreadsheet.Decimal
