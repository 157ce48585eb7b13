import Spreadsheet.Decimal.Digits

/-!
# String literals

Inside quotes, a backslash introduces an escape and control characters below the
space are not allowed. A character beyond the basic plane may be escaped as a pair
of surrogate halves; half of a pair on its own names no character.

`write` escapes only what must be escaped: the quote, the backslash and the
control characters.
-/

namespace Spreadsheet.Json.StringLiteral

/-- One piece of a literal: a character, or the number of a `u` escape. -/
inductive Piece where
  | character (value : Char)
  | unit (value : Nat)
deriving DecidableEq, Repr

/-- The value of a hexadecimal digit in either case. -/
def hexValue? (digit : Char) : Option Nat :=
  if digit.isDigit then some (digit.toNat - '0'.toNat)
  else if 'a' ≤ digit ∧ digit ≤ 'f' then some (digit.toNat - 'a'.toNat + 10)
  else if 'A' ≤ digit ∧ digit ≤ 'F' then some (digit.toNat - 'A'.toNat + 10)
  else none

/-- The number that four hexadecimal digits spell. -/
def unit? (digits : List Char) : Option Nat :=
  (digits.mapM hexValue?).map fun values =>
    values.foldl (fun number value => number * 16 + value) 0

/-- The character that a one-letter escape stands for. -/
def escaped? : Char → Option Char
  | '"' => some '"'
  | '\\' => some '\\'
  | '/' => some '/'
  | 'b' => some '\x08'
  | 'f' => some '\x0c'
  | 'n' => some '\n'
  | 'r' => some '\r'
  | 't' => some '\t'
  | _ => none

/-- The pieces of a literal up to its closing quote, and what follows the quote. -/
def scan : List Char → Option (List Piece × List Char)
  | [] => none
  | '"' :: rest => some ([], rest)
  | '\\' :: 'u' :: first :: second :: third :: fourth :: rest => do
    let number ← unit? [first, second, third, fourth]
    let (pieces, remaining) ← scan rest
    return (.unit number :: pieces, remaining)
  | '\\' :: letter :: rest => do
    let value ← escaped? letter
    let (pieces, remaining) ← scan rest
    return (.character value :: pieces, remaining)
  | value :: rest =>
    if value.toNat < 0x20 ∨ value = '\\' then none
    else do
      let (pieces, remaining) ← scan rest
      return (.character value :: pieces, remaining)

/-- Reading a literal uses up text. -/
theorem length_scan_lt {source rest : List Char} {pieces : List Piece}
    (scanned : scan source = some (pieces, rest)) : rest.length < source.length := by
  fun_induction scan source generalizing pieces rest with
  | case1 => simp at scanned
  | case2 remaining =>
    simp only [Option.some.injEq, Prod.mk.injEq] at scanned
    simp [← scanned.2]
  | case3 first second third fourth remaining hypothesis =>
    obtain ⟨number, -, inner⟩ := Option.bind_eq_some_iff.1 scanned
    obtain ⟨⟨tail, left⟩, found, final⟩ := Option.bind_eq_some_iff.1 inner
    have shorter := hypothesis found
    cases final
    simp only [List.length_cons]
    omega
  | case4 letter remaining notUnit hypothesis =>
    obtain ⟨value, -, inner⟩ := Option.bind_eq_some_iff.1 scanned
    obtain ⟨⟨tail, left⟩, found, final⟩ := Option.bind_eq_some_iff.1 inner
    have shorter := hypothesis found
    cases final
    simp only [List.length_cons]
    omega
  | case5 => simp at scanned
  | case6 value remaining _ _ _ _ hypothesis =>
    obtain ⟨⟨tail, left⟩, found, final⟩ := Option.bind_eq_some_iff.1 scanned
    have shorter := hypothesis found
    cases final
    simp only [List.length_cons]
    omega

/-- Whether a number is the first half of a surrogate pair. -/
def isHighHalf (number : Nat) : Bool :=
  0xD800 ≤ number && number ≤ 0xDBFF

/-- Whether a number is the second half of a surrogate pair. -/
def isLowHalf (number : Nat) : Bool :=
  0xDC00 ≤ number && number ≤ 0xDFFF

/-- The character that a surrogate pair names. -/
def pairCharacter (high low : Nat) : Char :=
  Char.ofNat (0x10000 + (high - 0xD800) * 0x400 + (low - 0xDC00))

/-- The text that pieces spell, unless half of a pair stands alone. -/
def join? : List Piece → Option (List Char)
  | [] => some []
  | .character value :: rest => (join? rest).map (value :: ·)
  | .unit high :: .unit low :: rest =>
    if isHighHalf high then
      if isLowHalf low then (join? rest).map (pairCharacter high low :: ·) else none
    else if isLowHalf high then none
    else (join? (.unit low :: rest)).map (Char.ofNat high :: ·)
  | .unit code :: rest =>
    if isHighHalf code || isLowHalf code then none
    else (join? rest).map (Char.ofNat code :: ·)

/-- The lower-case hexadecimal digit of a number below sixteen. -/
def hexDigit (digit : Nat) : Char :=
  if digit < 10 then Char.ofNat ('0'.toNat + digit) else Char.ofNat ('a'.toNat + (digit - 10))

/-- A character as it stands between quotes. -/
def escape (value : Char) : List Char :=
  match value with
  | '"' => ['\\', '"']
  | '\\' => ['\\', '\\']
  | '\x08' => ['\\', 'b']
  | '\x0c' => ['\\', 'f']
  | '\n' => ['\\', 'n']
  | '\r' => ['\\', 'r']
  | '\t' => ['\\', 't']
  | _ =>
    if value.toNat < 0x20 then
      ['\\', 'u', '0', '0', hexDigit (value.toNat / 16), hexDigit (value.toNat % 16)]
    else
      [value]

/-- A text as a literal, with its quotes. -/
def write (value : List Char) : List Char :=
  '"' :: value.flatMap escape ++ ['"']

end Spreadsheet.Json.StringLiteral
