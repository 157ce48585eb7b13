import Spreadsheet.Text.Blank

/-!
# Splitting formula text into tokens

A formula may begin with an equals sign and may hold white space anywhere between
its tokens. A token is one sign, a number, or a letter with the letters and digits
that follow it; numbers and words are taken as long as possible. Text that has a
character no token can start with is refused at the first such character.
-/

namespace Spreadsheet.Formula

/-- A character that no token starts with, and the byte at which it stands. -/
structure UnexpectedCharacter where
  found : Char
  position : Nat
deriving DecidableEq, Repr

/-- The sentence that reports the character. -/
def UnexpectedCharacter.message (problem : UnexpectedCharacter) : String :=
  s!"Unexpected character '{problem.found}' at position {problem.position}"

/-- The characters that are tokens on their own. -/
def isSign (character : Char) : Bool :=
  character == '+' || character == '-' || character == '*' || character == '/' ||
    character == '(' || character == ')'

/-- The characters with which a number starts. -/
def startsNumber (character : Char) : Bool :=
  character.isDigit || character == '.'

/-- A point with the digits after it, if the text starts with one, and the rest. -/
def splitFraction : List Char → List Char × List Char
  | '.' :: rest => ('.' :: rest.takeWhile Char.isDigit, rest.dropWhile Char.isDigit)
  | text => ([], text)

/-- A sign, if the text starts with one, and the rest. -/
def splitExponentSign : List Char → List Char × List Char
  | '+' :: rest => (['+'], rest)
  | '-' :: rest => (['-'], rest)
  | text => ([], text)

/-- An exponent, if the text starts with one that has a digit, and the rest. -/
def splitExponent : List Char → List Char × List Char
  | [] => ([], [])
  | mark :: rest =>
    let sign := (splitExponentSign rest).1
    let afterSign := (splitExponentSign rest).2
    if (mark == 'e' || mark == 'E') && !(afterSign.takeWhile Char.isDigit).isEmpty then
      (mark :: sign ++ afterSign.takeWhile Char.isDigit, afterSign.dropWhile Char.isDigit)
    else
      ([], mark :: rest)

/-- The longest number at the start of a text, and the rest. -/
def splitNumber (text : List Char) : List Char × List Char :=
  let fraction := splitFraction (text.dropWhile Char.isDigit)
  let exponent := splitExponent fraction.2
  (text.takeWhile Char.isDigit ++ fraction.1 ++ exponent.1, exponent.2)

/-- The token at the start of a text that does not start with white space, and the rest. -/
def splitToken (head : Char) (rest : List Char) : Option (List Char × List Char) :=
  if isSign head then some ([head], rest)
  else if startsNumber head then some (splitNumber (head :: rest))
  else if head.isAlpha then
    some ((head :: rest).takeWhile Char.isAlphanum, (head :: rest).dropWhile Char.isAlphanum)
  else none

/-- A fraction and what follows it make up the text. -/
theorem splitFraction_append (text : List Char) :
    (splitFraction text).1 ++ (splitFraction text).2 = text := by
  fun_cases splitFraction text <;> simp

/-- The sign of an exponent and what follows it make up the text. -/
theorem splitExponentSign_append (text : List Char) :
    (splitExponentSign text).1 ++ (splitExponentSign text).2 = text := by
  fun_cases splitExponentSign text <;> simp

/-- An exponent and what follows it make up the text. -/
theorem splitExponent_append (text : List Char) :
    (splitExponent text).1 ++ (splitExponent text).2 = text := by
  cases text with
  | nil => rfl
  | cons mark rest =>
    simp only [splitExponent]
    split
    · simp [splitExponentSign_append]
    · rfl

/-- A number and what follows it make up the text. -/
theorem splitNumber_append (text : List Char) :
    (splitNumber text).1 ++ (splitNumber text).2 = text := by
  simp only [splitNumber, List.append_assoc, splitExponent_append, splitFraction_append,
    List.takeWhile_append_dropWhile]

/-- A text that starts like a number has a number at its start. -/
theorem splitNumber_ne_nil {head : Char} (rest : List Char) (number : startsNumber head = true) :
    (splitNumber (head :: rest)).1 ≠ [] := by
  simp only [startsNumber, Bool.or_eq_true, beq_iff_eq] at number
  rcases number with digit | rfl
  · simp [splitNumber, digit]
  · have notDigit : Char.isDigit '.' = false := by decide
    simp [splitNumber, splitFraction, notDigit]

/-- A token and what follows it make up the text. -/
theorem splitToken_append {head : Char} {rest token remaining : List Char}
    (split : splitToken head rest = some (token, remaining)) :
    token ++ remaining = head :: rest := by
  simp only [splitToken] at split
  split at split
  · cases split
    rfl
  · split at split
    · have whole := splitNumber_append (head :: rest)
      cases split
      exact whole
    · split at split
      · cases split
        exact List.takeWhile_append_dropWhile
      · cases split

/-- No token is empty. -/
theorem splitToken_ne_nil {head : Char} {rest token remaining : List Char}
    (split : splitToken head rest = some (token, remaining)) : token ≠ [] := by
  simp only [splitToken] at split
  split at split
  · cases split
    simp
  · split at split
    · rename_i number
      have filled := splitNumber_ne_nil rest number
      cases split
      exact filled
    · split at split
      · rename_i letter
        cases split
        simp [Char.isAlphanum, letter]
      · cases split

/-- Taking a token uses up text. -/
theorem length_splitToken_lt {head : Char} {rest token remaining : List Char}
    (split : splitToken head rest = some (token, remaining)) :
    remaining.length < (head :: rest).length := by
  have whole := congrArg List.length (splitToken_append split)
  have filled := List.length_pos_iff.mpr (splitToken_ne_nil split)
  simp only [List.length_append] at whole
  omega

/-- The tokens of a text that starts at a byte position. -/
def lex (position : Nat) : List Char → Except UnexpectedCharacter (List (List Char))
  | [] => .ok []
  | head :: rest =>
    if Text.isBlank head then lex (position + head.utf8Size) rest
    else
      match _split : splitToken head rest with
      | none => .error ⟨head, position⟩
      | some (token, remaining) =>
        (lex (position + Text.byteLength token) remaining).map (token :: ·)
termination_by text => text.length
decreasing_by
  · simp
  · exact length_splitToken_lt _split

/-- The part of a formula that holds its tokens: white space at both ends and one
leading equals sign are left out. -/
def body (text : List Char) : List Char :=
  match Text.trim text with
  | '=' :: rest => rest
  | trimmed => trimmed

/-- The tokens of a formula. -/
def tokenize (text : String) : Except UnexpectedCharacter (List String) :=
  (lex 0 (body text.toList)).map (List.map String.ofList)

end Spreadsheet.Formula
