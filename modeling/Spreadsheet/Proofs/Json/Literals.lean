import Spreadsheet.Json.StringLiteral

/-!
# String literals are read back

Every character between the quotes is read as one piece, whatever stands behind it: a character
that needs no escape and one that has a short escape as itself, the other control characters as
their numbers. No number that is written is half of a surrogate pair, so the pieces join to the
text that was written.
-/

namespace Spreadsheet.Json.StringLiteral

/-- The piece as which a written character is read. -/
def pieceOf (value : Char) : Piece :=
  if 0x20 ≤ value.toNat ∨ value ∈ ['\x08', '\x0c', '\n', '\r', '\t'] then .character value
  else .unit value.toNat

/-- A number written with four digits is read back. -/
theorem unit?_hexDigits {code : Nat} (control : code < 0x20) :
    unit? ['0', '0', hexDigit (code / 16), hexDigit (code % 16)] = some code := by
  have table : ∀ code : Fin 0x20,
      unit? ['0', '0', hexDigit (code / 16), hexDigit (code % 16)] = some code.val := by decide
  exact table ⟨code, control⟩

/-- A character that stands for itself is one piece. -/
theorem scan_character {value : Char} (printable : 0x20 ≤ value.toNat) (notQuote : value ≠ '"')
    (notBackslash : value ≠ '\\') (rest : List Char) :
    scan (value :: rest) =
      (scan rest).map fun (pieces, remaining) => (.character value :: pieces, remaining) := by
  have plain : ¬ (value.toNat < 0x20 ∨ value = '\\') :=
    not_or.mpr ⟨Nat.not_lt.mpr printable, notBackslash⟩
  rw [scan, if_neg plain]
  · cases scan rest <;> rfl
  · exact notQuote
  · intro first second third fourth others escape
    exact absurd escape notBackslash
  · intro letter others escape
    exact absurd escape notBackslash

/-- A short escape is one piece. -/
theorem scan_short {letter value : Char} (notUnit : letter ≠ 'u')
    (escaped : escaped? letter = some value) (rest : List Char) :
    scan ('\\' :: letter :: rest) =
      (scan rest).map fun (pieces, remaining) => (.character value :: pieces, remaining) := by
  rw [scan, escaped]
  · cases scan rest <;> rfl
  · intro first second third fourth others unit
    exact absurd unit notUnit

/-- A written character is read as its piece, and reading goes on behind it. -/
theorem scan_escape (value : Char) (rest : List Char) :
    scan (escape value ++ rest) =
      (scan rest).map fun (pieces, remaining) => (pieceOf value :: pieces, remaining) := by
  unfold escape
  split
  case h_8 notQuote notBackslash notBackspace notFormFeed notLineFeed notReturn notTab =>
    split
    · rename_i control
      have piece : pieceOf value = .unit value.toNat := by
        refine if_neg (not_or.mpr ⟨Nat.not_le.mpr control, ?_⟩)
        simp only [List.mem_cons, List.not_mem_nil, or_false, not_or]
        exact ⟨notBackspace, notFormFeed, notLineFeed, notReturn, notTab⟩
      have code := unit?_hexDigits control
      rw [piece]
      simp only [List.cons_append, List.nil_append, scan, code]
      cases scan rest <;> rfl
    · rename_i printable
      have piece : pieceOf value = .character value :=
        if_pos (.inl (Nat.le_of_not_lt printable))
      rw [piece]
      exact scan_character (Nat.le_of_not_lt printable) notQuote notBackslash rest
  all_goals exact scan_short (by decide) rfl rest

/-- What stands between the quotes is read up to the closing quote. -/
theorem scan_flatMap_escape (value rest : List Char) :
    scan (value.flatMap escape ++ '"' :: rest) = some (value.map pieceOf, rest) := by
  induction value with
  | nil => rfl
  | cons head tail inductionHypothesis =>
    rw [List.flatMap_cons, List.append_assoc, scan_escape, inductionHypothesis]
    rfl

/-! ## Joining the pieces -/

/-- The number of a control character is no half of a surrogate pair. -/
theorem join?_unit {code : Nat} (control : code < 0x20) (rest : List Piece) :
    join? (.unit code :: rest) = (join? rest).map (Char.ofNat code :: ·) := by
  have notHigh : isHighHalf code = false := by simp [isHighHalf]; omega
  have notLow : isLowHalf code = false := by simp [isLowHalf]; omega
  rcases rest with _ | ⟨next, rest⟩
  · simp [join?, notHigh, notLow]
  · cases next <;> simp [join?, notHigh, notLow]

/-- The piece of a character is joined to that character. -/
theorem join?_pieceOf (value : Char) (rest : List Piece) :
    join? (pieceOf value :: rest) = (join? rest).map (value :: ·) := by
  unfold pieceOf
  split
  · rfl
  · rename_i special
    rw [join?_unit (Nat.not_le.mp (not_or.mp special).1), Char.ofNat_toNat]

/-- The pieces of a written text join to the text. -/
theorem join?_map_pieceOf (value : List Char) : join? (value.map pieceOf) = some value := by
  induction value with
  | nil => rfl
  | cons head tail inductionHypothesis =>
    rw [List.map_cons, join?_pieceOf, inductionHypothesis]
    rfl

end Spreadsheet.Json.StringLiteral
