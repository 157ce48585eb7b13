import Spreadsheet.Decimal.Numeral
import Spreadsheet.Proofs.Decimal.Digits
import Spreadsheet.Proofs.Text.Spans

/-!
# Signs and words of numerals

A numeral that begins, behind its sign, with another character than a letter is read as a
decimal. One that begins with a letter can only be a word for infinity or for what is no number,
and none of these words has a digit.
-/

namespace Spreadsheet.Decimal.Numeral

section Characters

variable {head : Char}

/-- Only letters are changed by taking the lower case. -/
theorem toLower_of_not_isAlpha (notAlpha : head.isAlpha = false) : head.toLower = head := by
  unfold Char.toLower
  split
  · rename_i isUpper
    have isAlpha : head.isAlpha = true :=
      (Bool.or_eq_true _ _).mpr (.inl (decide_eq_true isUpper))
    cases isAlpha.symm.trans notAlpha
  · rfl

/-- A text that does not begin with a sign is read without one. -/
theorem readSign_cons (notMinus : head ≠ '-') (notPlus : head ≠ '+') (tail : List Char) :
    readSign (head :: tail) = (false, head :: tail) := by
  unfold readSign
  split
  · rename_i minus
    exact absurd (List.cons.inj minus).1 notMinus
  · rename_i plus
    exact absurd (List.cons.inj plus).1 notPlus
  · rfl

/-- A text that begins with a digit is read without a sign. -/
theorem readSign_of_isDigit (isDigit : head.isDigit = true) (tail : List Char) :
    readSign (head :: tail) = (false, head :: tail) := by
  refine readSign_cons ?_ ?_ tail
  · rintro rfl
    cases isDigit
  · rintro rfl
    cases isDigit

/-- A decimal begins with a digit or with the point. -/
theorem readDecimal?_cons_eq_none (notDigit : head.isDigit = false) (notPoint : head ≠ '.')
    (negative : Bool) (tail : List Char) : readDecimal? negative (head :: tail) = none := by
  have noFraction : readFraction (head :: tail) = ([], head :: tail) := by
    unfold readFraction
    split
    · rename_i point
      exact absurd (List.cons.inj point).1 notPoint
    · rfl
  simp [readDecimal?, notDigit, noFraction]

end Characters

/-- What begins with another character than a letter is no word. -/
theorem read?_of_readSign {text rest : List Char} {negative : Bool}
    (sign : readSign text = (negative, rest)) (notLetter : Text.StopsAt Char.isAlpha rest) :
    read? text = readDecimal? negative rest := by
  have notSpelled {letter : Char} (isLetter : letter.isAlpha = true) (others : List Char) :
      rest.map Char.toLower ≠ letter :: others := by
    intro spelled
    obtain ⟨head, tail, rfl, lowered, -⟩ := List.map_eq_cons_iff.mp spelled
    have notAlpha := notLetter head rfl
    rw [toLower_of_not_isAlpha notAlpha] at lowered
    rw [lowered, isLetter] at notAlpha
    cases notAlpha
  have notInf : rest.map Char.toLower ≠ "inf".toList := notSpelled rfl ['n', 'f']
  have notInfinity : rest.map Char.toLower ≠ "infinity".toList :=
    notSpelled rfl ['n', 'f', 'i', 'n', 'i', 't', 'y']
  have notNan : rest.map Char.toLower ≠ "nan".toList := notSpelled rfl ['a', 'n']
  simp only [read?, sign]
  rw [if_neg (not_or.mpr ⟨notInf, notInfinity⟩), if_neg notNan]

/-- What begins with a letter and has a digit is no numeral. -/
theorem read?_eq_none_of_isAlpha {head : Char} {tail : List Char} (isAlpha : head.isAlpha = true)
    (hasDigit : ∃ digit ∈ tail, digit.isDigit = true) : read? (head :: tail) = none := by
  have other {character : Char} (notAlpha : character.isAlpha = false) : head ≠ character := by
    rintro rfl
    cases isAlpha.symm.trans notAlpha
  have notDigit : head.isDigit = false := by
    refine Bool.eq_false_iff.mpr fun isDigit => ?_
    cases isAlpha.symm.trans (not_isAlpha_of_isDigit isDigit)
  have notWord {word : List Char} (digitless : word.any Char.isDigit = false) :
      (head :: tail).map Char.toLower ≠ word := by
    rintro rfl
    obtain ⟨digit, member, isDigit⟩ := hasDigit
    have lowered : digit ∈ (head :: tail).map Char.toLower := by
      rw [← toLower_of_not_isAlpha (not_isAlpha_of_isDigit isDigit)]
      exact List.mem_map_of_mem (List.mem_cons_of_mem head member)
    have digitLowered := List.any_eq_true.mpr ⟨digit, lowered, isDigit⟩
    cases digitLowered.symm.trans digitless
  simp only [read?, readSign_cons (other (by decide)) (other (by decide))]
  rw [if_neg (not_or.mpr ⟨notWord rfl, notWord rfl⟩), if_neg (notWord rfl),
    readDecimal?_cons_eq_none notDigit (other (by decide))]

end Spreadsheet.Decimal.Numeral
