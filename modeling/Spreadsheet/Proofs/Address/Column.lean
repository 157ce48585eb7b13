import Mathlib.Data.List.Induction
import Mathlib.Tactic.Positivity
import Mathlib.Tactic.Ring
import Spreadsheet.Address.Column

/-!
# Column letters and column numbers

`Column.number` is the number of a run of letters in base twenty-six with the digits one
to twenty-six. There is no digit zero, so every positive number is that of exactly one
run of capital letters: writing a column and reading it again agree in both directions.
Reading stops at the first letter that leaves the sheet, which comes to the same as
looking at the number of the whole run, because a further letter never makes it smaller.
-/

namespace Spreadsheet.Column

/-- The number of a run of letters: the value of each letter times the power of twenty-six
that belongs to its place. -/
def number : List Char → Nat
  | [] => 0
  | letter :: rest => letterValue letter * 26 ^ rest.length + number rest

/-! ## Letters -/

/-- Letters by their code points. -/
theorem isAlpha_iff {character : Char} :
    character.isAlpha = true ↔
      (65 ≤ character.toNat ∧ character.toNat ≤ 90) ∨
        (97 ≤ character.toNat ∧ character.toNat ≤ 122) := by
  have ranges : character.isAlpha =
      (decide (65 ≤ character.val ∧ character.val ≤ 90) ||
        (decide (97 ≤ character.val) && decide (character.val ≤ 122))) := rfl
  simp only [ranges, Bool.or_eq_true, Bool.and_eq_true, decide_eq_true_eq,
    UInt32.le_iff_toNat_le]
  exact Iff.rfl

/-- A letter is one of the twenty-six in either case. -/
theorem isAlpha_iff_exists {character : Char} :
    character.isAlpha = true ↔
      ∃ digit < 26, character = letter digit ∨ character = Char.ofNat (97 + digit) := by
  have letters : ∀ digit : Fin 26, (letter digit).isAlpha = true ∧
      (Char.ofNat (97 + digit)).isAlpha = true := by decide
  constructor
  · intro isAlpha
    rcases isAlpha_iff.mp isAlpha with ⟨lower, upper⟩ | ⟨lower, upper⟩
    · refine ⟨character.toNat - 65, by omega, .inl ?_⟩
      have shifted : 'A'.toNat + (character.toNat - 65) = character.toNat := by
        change 65 + (character.toNat - 65) = character.toNat
        omega
      rw [letter, shifted, Char.ofNat_toNat]
    · refine ⟨character.toNat - 97, by omega, .inr ?_⟩
      have shifted : 97 + (character.toNat - 97) = character.toNat := by omega
      rw [shifted, Char.ofNat_toNat]
  · rintro ⟨digit, small, rfl | rfl⟩
    · exact (letters ⟨digit, small⟩).1
    · exact (letters ⟨digit, small⟩).2

/-- Either case of a letter has the same place in the alphabet and the same capital. -/
theorem letterValue_and_toUpper {digit : Nat} (small : digit < 26) :
    (letterValue (letter digit) = digit + 1 ∧ (letter digit).toUpper = letter digit) ∧
      (letterValue (Char.ofNat (97 + digit)) = digit + 1 ∧
        (Char.ofNat (97 + digit)).toUpper = letter digit) := by
  have table : ∀ digit : Fin 26,
      (letterValue (letter digit) = digit + 1 ∧ (letter digit).toUpper = letter digit) ∧
        (letterValue (Char.ofNat (97 + digit)) = digit + 1 ∧
          (Char.ofNat (97 + digit)).toUpper = letter digit) := by
    decide
  exact table ⟨digit, small⟩

/-- A digit below twenty-six is read back from its letter as one more. -/
theorem letterValue_letter {digit : Nat} (small : digit < 26) :
    letterValue (letter digit) = digit + 1 :=
  (letterValue_and_toUpper small).1.1

/-- A letter stands for one to twenty-six, and its capital is written for it. -/
theorem exists_letterValue {character : Char} (isAlpha : character.isAlpha = true) :
    ∃ digit < 26, letterValue character = digit + 1 ∧ character.toUpper = letter digit := by
  obtain ⟨digit, small, rfl | rfl⟩ := isAlpha_iff_exists.mp isAlpha
  · exact ⟨digit, small, (letterValue_and_toUpper small).1⟩
  · exact ⟨digit, small, (letterValue_and_toUpper small).2⟩

/-- A column is written with letters only. -/
theorem isAlpha_of_mem_letters {column : Nat} {character : Char}
    (member : character ∈ letters column) : character.isAlpha = true := by
  fun_induction letters column with
  | case1 column small =>
    rw [List.mem_singleton.mp member]
    exact isAlpha_iff_exists.mpr ⟨column, small, .inl rfl⟩
  | case2 column large inductionHypothesis =>
    rcases List.mem_append.mp member with before | last
    · exact inductionHypothesis before
    · rw [List.mem_singleton.mp last]
      exact isAlpha_iff_exists.mpr ⟨column % 26, Nat.mod_lt _ (by decide), .inl rfl⟩

/-- Every column has a letter. -/
theorem letters_ne_nil (column : Nat) : letters column ≠ [] := by
  fun_cases letters column <;> simp

/-! ## The number of a run -/

/-- A last letter shifts the number by one place. -/
theorem number_append_singleton (run : List Char) (last : Char) :
    number (run ++ [last]) = number run * 26 + letterValue last := by
  induction run with
  | nil => simp [number]
  | cons first run inductionHypothesis =>
    rw [List.cons_append, number, number, inductionHypothesis, List.length_append,
      List.length_singleton, pow_succ]
    ring

/-- Letters never stand for zero: bijective numbers have no such digit. -/
theorem number_pos {run : List Char} (filled : run ≠ [])
    (areLetters : ∀ letter ∈ run, letter.isAlpha = true) : 0 < number run := by
  cases run with
  | nil => exact absurd rfl filled
  | cons first run =>
    obtain ⟨digit, -, value, -⟩ := exists_letterValue (areLetters first List.mem_cons_self)
    rw [number, value]
    positivity

/-- The letters of a column are those of its number, counted from one. -/
theorem number_letters (column : Nat) : number (letters column) = column + 1 := by
  fun_induction letters column with
  | case1 column small => simp [number, letterValue_letter small]
  | case2 column large inductionHypothesis =>
    rw [number_append_singleton, inductionHypothesis, letterValue_letter (Nat.mod_lt _ (by decide))]
    omega

/-- The letters of a number are the capitals of any run that has it. -/
theorem letters_number {run : List Char} (filled : run ≠ [])
    (areLetters : ∀ letter ∈ run, letter.isAlpha = true) :
    letters (number run - 1) = run.map Char.toUpper := by
  induction run using List.reverseRecOn with
  | nil => exact absurd rfl filled
  | append_singleton run last inductionHypothesis =>
    simp only [List.mem_append, List.mem_singleton, or_imp, forall_and, forall_eq] at areLetters
    obtain ⟨before, isAlpha⟩ := areLetters
    obtain ⟨digit, small, value, capital⟩ := exists_letterValue isAlpha
    rw [number_append_singleton, value, List.map_append, List.map_singleton, capital]
    by_cases single : run = []
    · subst single
      simp [number, letters, small]
    · have positive := number_pos single before
      have column : number run * 26 + (digit + 1) - 1 = number run * 26 + digit := by omega
      have quotient : (number run * 26 + digit) / 26 - 1 = number run - 1 := by omega
      have remainder : (number run * 26 + digit) % 26 = digit := by omega
      rw [column, letters, if_neg (by omega), quotient, remainder,
        inductionHypothesis single before]

/-! ## Reading letters -/

/-- Reading one more letter succeeds exactly if it is one and stays on the sheet. -/
theorem extend_eq_ok_iff {start extended : Nat} {character : Char} :
    extend start character = .ok extended ↔
      character.isAlpha = true ∧ extended = start * 26 + letterValue character ∧
        extended ≤ Address.columnLimit := by
  unfold extend
  split
  · rename_i isAlpha
    dsimp only
    split
    · rename_i within
      constructor
      · rintro ⟨⟩
        exact ⟨isAlpha, rfl, within⟩
      · rintro ⟨-, rfl, -⟩
        rfl
    · rename_i beyond
      constructor
      · intro refused
        cases refused
      · rintro ⟨-, rfl, within⟩
        exact absurd within beyond
  · rename_i notAlpha
    constructor
    · intro refused
      cases refused
    · rintro ⟨isAlpha, -⟩
      exact absurd isAlpha notAlpha

/-- Reading a run from a number on the sheet succeeds exactly if the run is of letters and
the number stays on the sheet to the end. -/
theorem foldlM_extend_eq_ok_iff {run : List Char} {start finish : Nat}
    (within : start ≤ Address.columnLimit) :
    run.foldlM extend start = .ok finish ↔
      (∀ letter ∈ run, letter.isAlpha = true) ∧
        finish = start * 26 ^ run.length + number run ∧ finish ≤ Address.columnLimit := by
  induction run generalizing start with
  | nil =>
    simp only [List.foldlM_nil, List.length_nil, pow_zero, mul_one, number, add_zero]
    constructor
    · rintro ⟨⟩
      exact ⟨List.forall_mem_nil _, rfl, within⟩
    · rintro ⟨-, rfl, -⟩
      rfl
  | cons first run inductionHypothesis =>
    have place : (start * 26 + letterValue first) * 26 ^ run.length + number run =
        start * 26 ^ (run.length + 1) + (letterValue first * 26 ^ run.length + number run) := by
      ring
    rw [List.foldlM_cons, List.forall_mem_cons, List.length_cons, number, ← place]
    cases extending : extend start first with
    | error refused =>
      constructor
      · intro impossible
        cases impossible
      · rintro ⟨⟨isAlpha, -⟩, rfl, bounded⟩
        -- What is refused now is too large, and the rest of the run makes it no smaller.
        have least : start * 26 + letterValue first ≤
            (start * 26 + letterValue first) * 26 ^ run.length := Nat.le_mul_of_pos_right _
          (Nat.pow_pos (by decide))
        have accepted := extend_eq_ok_iff.mpr
          ⟨isAlpha, rfl, (by omega : start * 26 + letterValue first ≤ Address.columnLimit)⟩
        cases extending.symm.trans accepted
    | ok extended =>
      obtain ⟨isAlpha, rfl, bounded⟩ := extend_eq_ok_iff.mp extending
      refine (inductionHypothesis bounded).trans ?_
      rw [and_iff_right isAlpha]

/-- A run of letters names the column one below its number, where that is on the sheet. -/
theorem ofLetters_eq_ok_iff {run : List Char} {column : Nat} :
    ofLetters run = .ok column ↔
      run ≠ [] ∧ (∀ letter ∈ run, letter.isAlpha = true) ∧
        number run = column + 1 ∧ column < Address.columnLimit := by
  have folded {finish : Nat} : run.foldlM extend 0 = .ok finish ↔ _ :=
    foldlM_extend_eq_ok_iff (Nat.zero_le _)
  simp only [zero_mul, zero_add] at folded
  unfold ofLetters
  cases run with
  | nil => simp
  | cons first run =>
    rw [List.isEmpty_cons, if_neg Bool.false_ne_true]
    constructor
    · intro read
      cases reading : (first :: run).foldlM extend 0 with
      | error refused =>
        rw [reading] at read
        cases read
      | ok finish =>
        rw [reading] at read
        cases read
        obtain ⟨areLetters, rfl, bounded⟩ := folded.mp reading
        have positive := number_pos (List.cons_ne_nil first run) areLetters
        have next : number (first :: run) = number (first :: run) - 1 + 1 := by omega
        exact ⟨List.cons_ne_nil first run, areLetters, next, Nat.lt_of_lt_of_le
          (Nat.sub_one_lt_of_lt positive) bounded⟩
    · rintro ⟨-, areLetters, numbered, bounded⟩
      have reading := folded.mpr ⟨areLetters, rfl, by omega⟩
      rw [reading]
      simp only [Except.map, numbered, Nat.add_sub_cancel]

end Spreadsheet.Column
