import Mathlib

/-!
# The parts of a binary64 value

A finite binary64 value other than zero is a significand times a power of two, and `AreParts`
lists which pairs there are: normal values use all fifty-three bits of the significand, and
subnormal values use fewer at the least exponent. Taking a value apart gives such a pair, packing
a pair and taking it apart gives the pair, and packing the parts of a value gives the value.
-/

namespace Spreadsheet.Binary64

open Float.Model Float.Model.UnpackedFloat

/-- The significand and the exponent of a positive value. -/
inductive AreParts : Nat → Int → Prop where
  | subnormal {significand : Nat} (positive : 0 < significand) (below : significand < 2 ^ 52) :
      AreParts significand (-1074)
  | normal {significand : Nat} {exponent : Int} (least : 2 ^ 52 ≤ significand)
      (below : significand < 2 ^ 53) (notUnder : -1074 ≤ exponent) (notOver : exponent ≤ 971) :
      AreParts significand exponent

section Parts

variable {significand : Nat} {exponent : Int}

/-- The significand of a finite number is not zero. -/
theorem AreParts.significand_pos (areParts : AreParts significand exponent) : 0 < significand := by
  cases areParts with
  | subnormal positive => exact positive
  | normal least => omega

/-- The significand of a finite number has at most fifty-three bits. -/
theorem AreParts.significand_lt (areParts : AreParts significand exponent) :
    significand < 2 ^ 53 := by
  cases areParts with
  | subnormal _ below => omega
  | normal _ below => exact below

/-- The exponents of finite numbers. -/
theorem AreParts.exponent_bounds (areParts : AreParts significand exponent) :
    -1074 ≤ exponent ∧ exponent ≤ 971 := by
  cases areParts with
  | subnormal => decide
  | normal _ _ notUnder notOver => exact ⟨notUnder, notOver⟩

end Parts

/-- The leading bit of a normal significand is not packed. -/
theorem toNat_one_append (mantissa : BitVec 52) :
    (1#1 ++ mantissa).toNat = 2 ^ 52 + mantissa.toNat := by
  rw [BitVec.toNat_append, ← Nat.shiftLeft_add_eq_or_of_lt mantissa.isLt]
  rfl

/-! ## Packing and taking apart -/

section Finite

variable {sign : Sign} {significand : Nat} {exponent : Int}

/-- The exponent field of a pair; it is zero if the value is subnormal. -/
def exponentField (significand : Nat) (exponent : Int) : Nat :=
  if 2 ^ 52 ≤ significand then (exponent + 1075).toNat else 0

/-- The fields into which a pair is packed. -/
theorem pack_finite (areParts : AreParts significand exponent) (positive : 0 < significand) :
    UnpackedFloat.pack .binary64 (.finite sign significand exponent positive) =
      packComponents .binary64 sign (.ofNat 11 (exponentField significand exponent))
        (.ofNat 52 significand) := by
  have biased : (exponent + Format.binary64.exponentBias +
      Format.binary64.mantissaBitsWithoutImplicit).toNat = (exponent + 1075).toNat := by
    change (exponent + (1023 : Nat) + (52 : Nat)).toNat = _
    omega
  have bits : Format.binary64.mantissaBits = 53 := rfl
  simp only [UnpackedFloat.pack, biased, bits, exponentField]
  cases areParts with
  | subnormal _ below =>
    have short : significand.log2 < 52 := (Nat.log2_lt (by omega)).mpr below
    rw [if_neg (by decide), if_neg (by omega), if_neg (by omega)]
  | normal least below notUnder notOver =>
    have long : 52 ≤ significand.log2 := (Nat.le_log2 (by omega)).mpr least
    have short : significand.log2 < 53 := (Nat.log2_lt (by omega)).mpr below
    rw [if_neg (by omega), if_pos (by omega), if_pos least]

/-- A packed pair is taken apart into the pair. -/
theorem unpack_pack_finite (areParts : AreParts significand exponent)
    (positive : 0 < significand) :
    UnpackedFloat.unpack .binary64
        (UnpackedFloat.pack .binary64 (.finite sign significand exponent positive)) =
      .finite sign significand exponent positive := by
  rw [pack_finite areParts]
  simp only [UnpackedFloat.unpack, unpackMantissa_packComponents, unpackExponent_packComponents,
    unpackSign_packComponents, Sign.ofBitVec_toBitVec]
  cases areParts with
  | subnormal _ below =>
    have field : exponentField significand (-1074) = 0 := if_neg (by omega)
    have mantissa : (BitVec.ofNat 52 significand).toNat = significand := by
      rw [BitVec.toNat_ofNat, Nat.mod_eq_of_lt below]
    have notZero : BitVec.ofNat 52 significand ≠ 0#52 := by
      intro zero
      rw [zero] at mantissa
      exact absurd mantissa (Nat.ne_of_lt positive)
    rw [field, if_neg (by decide), if_pos rfl, dif_neg notZero]
    simp only [mantissa]
    rfl
  | normal least below notUnder notOver =>
    have field : exponentField significand exponent = (exponent + 1075).toNat := if_pos least
    have code : (BitVec.ofNat 11 (exponent + 1075).toNat).toNat = (exponent + 1075).toNat := by
      rw [BitVec.toNat_ofNat, Nat.mod_eq_of_lt (by omega)]
    have notLast : BitVec.ofNat 11 (exponent + 1075).toNat ≠ -1#11 := by
      intro last
      have number := congrArg BitVec.toNat last
      rw [code] at number
      change _ = 2047 at number
      omega
    have notFirst : BitVec.ofNat 11 (exponent + 1075).toNat ≠ 0#11 := by
      intro first
      have number := congrArg BitVec.toNat first
      rw [code] at number
      change _ = 0 at number
      omega
    have mantissa : (1#1 ++ BitVec.ofNat 52 significand).toNat = significand := by
      rw [toNat_one_append, BitVec.toNat_ofNat]
      omega
    have restored : ((exponent + 1075).toNat : Int) - ((1023 : Nat) + (52 : Nat)) = exponent := by
      omega
    rw [field, if_neg notLast, if_neg notFirst]
    simp only [mantissa, code]
    congr 1

/-- Where a word is a finite value other than zero, it is that of a pair. -/
theorem areParts_of_unpack {bits : BitVec Format.binary64.numBits} {positive : 0 < significand}
    (unpacked : UnpackedFloat.unpack .binary64 bits =
      .finite sign significand exponent positive) :
    AreParts significand exponent := by
  have small : (unpackMantissa bits).toNat < 2 ^ 52 := (unpackMantissa bits).isLt
  have code : (unpackExponent bits).toNat < 2 ^ 11 := (unpackExponent bits).isLt
  simp only [UnpackedFloat.unpack] at unpacked
  split at unpacked
  · split at unpacked <;> cases unpacked
  rename_i notLast
  split at unpacked
  · rename_i first
    split at unpacked
    · cases unpacked
    cases unpacked
    have field : (unpackExponent bits).toNat = 0 := congrArg BitVec.toNat first
    rw [field]
    exact .subnormal positive small
  · rename_i notFirst
    cases unpacked
    have mantissa := toNat_one_append (unpackMantissa bits)
    have positiveCode : (unpackExponent bits).toNat ≠ 0 := fun zero =>
      notFirst (BitVec.eq_of_toNat_eq zero)
    have belowLast : (unpackExponent bits).toNat ≠ 2047 := fun last =>
      notLast (BitVec.eq_of_toNat_eq last)
    refine .normal (by omega) (by omega) ?_ ?_
    · change -1074 ≤ ((unpackExponent bits).toNat - ((1023 : Nat) + (52 : Nat)) : Int)
      omega
    · change ((unpackExponent bits).toNat - ((1023 : Nat) + (52 : Nat)) : Int) ≤ 971
      omega

end Finite

/-- Packing the parts of a value gives the value. -/
theorem pack_unpack (number : Float) :
    Float.ofModel (.pack number.toModel.unpack) = number := by
  obtain ⟨word, valid⟩ := number
  have packed := UnpackedFloat.pack_unpack_of_valid valid
  simp only [Float.Model.pack, Float.Model.unpack, packed]

/-- A value with a sign and parts, negated. -/
theorem neg_pack_finite {significand : Nat} {exponent : Int}
    (areParts : AreParts significand exponent) (positive : 0 < significand) (sign : Sign) :
    -Float.ofModel (.pack (.finite sign significand exponent positive)) =
      Float.ofModel (.pack (.finite (-sign) significand exponent positive)) := by
  change Float.ofModel (.pack (UnpackedFloat.neg
    (UnpackedFloat.unpack .binary64 (UnpackedFloat.pack .binary64 _)))) = _
  rw [unpack_pack_finite areParts]
  rfl

end Spreadsheet.Binary64
