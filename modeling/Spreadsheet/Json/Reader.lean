import Spreadsheet.Decimal.Numeral
import Spreadsheet.Json.Basic
import Spreadsheet.Json.StringLiteral

/-!
# Reading values

A text is first split into lexemes; a machine with a stack of open containers then
takes them one by one. Nothing but white space may surround the value, commas stand
only between items, and a text that breaks a rule is refused as a whole.
-/

namespace Spreadsheet.Json

/-- The signs of the format and its indivisible values. -/
inductive Lexeme where
  | openList
  | closeList
  | openObject
  | closeObject
  | comma
  | colon
  | atom (value : Json)

namespace Lexeme

/-- The white space of the format: space, tab, line feed and carriage return. -/
def isSpace (character : Char) : Bool :=
  character == ' ' || character == '\t' || character == '\n' || character == '\r'

/-- The characters of which numbers are made. -/
def isNumberCharacter (character : Char) : Bool :=
  character.isDigit || character == '-' || character == '+' || character == '.' ||
    character == 'e' || character == 'E'

/-- The part of a number behind its mark: at least one digit and nothing else. -/
def isDigitRun (run : List Char) : Bool :=
  !run.isEmpty && run.all Char.isDigit

/-- The end of a number after its fraction: nothing, or an exponent. -/
def isExponent : List Char → Bool
  | [] => true
  | mark :: rest => (mark == 'e' || mark == 'E') && isDigitRun (Decimal.Numeral.readSign rest).2

/-- The end of a number after its whole part. -/
def isFractionAndExponent : List Char → Bool
  | '.' :: rest =>
    !(rest.takeWhile Char.isDigit).isEmpty && isExponent (rest.dropWhile Char.isDigit)
  | rest => isExponent rest

/-- A number without its sign: no leading zero before other digits. -/
def isMagnitude : List Char → Bool
  | '0' :: rest => isFractionAndExponent rest
  | digit :: rest =>
    digit.isDigit && isFractionAndExponent (rest.dropWhile Char.isDigit)
  | [] => false

/-- Whether a run of characters is a number of the format. -/
def isNumber : List Char → Bool
  | '-' :: rest => isMagnitude rest
  | run => isMagnitude run

/-- The number that a run of characters spells. -/
def number? (run : List Char) : Option Json :=
  if isNumber run then (Decimal.readFloat? run).map .number else none

/-- The value of a string literal. -/
def ofPieces (pieces : List StringLiteral.Piece) : Json :=
  match StringLiteral.join? pieces with
  | some characters => .text (String.ofList characters)
  | none => .unrepresentable

/-- The value that a word stands for. -/
def word? (word : List Char) : Option Json :=
  if word = "null".toList then some .null
  else if word = "true".toList then some (.bool true)
  else if word = "false".toList then some (.bool false)
  else none

/-- The sign that a character is. -/
def sign? : Char → Option Lexeme
  | '[' => some .openList
  | ']' => some .closeList
  | '\x7b' => some .openObject
  | '\x7d' => some .closeObject
  | ',' => some .comma
  | ':' => some .colon
  | _ => none

/-- A run of characters of one kind becomes shorter by the run. -/
theorem length_dropWhile_lt (kind : Char → Bool) (head : Char) (rest : List Char)
    (taken : kind head = true) :
    ((head :: rest).dropWhile kind).length < (head :: rest).length := by
  have shrinks := (List.dropWhile_suffix kind (l := rest)).length_le
  simp only [List.dropWhile_cons, taken, if_true, List.length_cons]
  omega

/-- The lexemes of a text. -/
def lex : List Char → Option (List Lexeme)
  | [] => some []
  | head :: rest =>
    if isSpace head then lex rest
    else match sign? head with
    | some sign => (lex rest).map (sign :: ·)
    | none =>
      if head = '"' then
        match _scanned : StringLiteral.scan rest with
        | none => none
        | some (pieces, remaining) => (lex remaining).map (.atom (ofPieces pieces) :: ·)
      else if _number : isNumberCharacter head then do
        let value ← number? ((head :: rest).takeWhile isNumberCharacter)
        let lexemes ← lex ((head :: rest).dropWhile isNumberCharacter)
        return .atom value :: lexemes
      else if _letter : head.isAlpha then do
        let value ← word? ((head :: rest).takeWhile Char.isAlpha)
        let lexemes ← lex ((head :: rest).dropWhile Char.isAlpha)
        return .atom value :: lexemes
      else
        none
termination_by text => text.length
decreasing_by
  · simp
  · simp
  · have := StringLiteral.length_scan_lt _scanned
    simp only [List.length_cons]
    omega
  · exact length_dropWhile_lt _ _ _ _number
  · exact length_dropWhile_lt _ _ _ _letter

end Lexeme

/-- A container whose end has not been read; what it holds so far is listed last first. -/
inductive OpenContainer where
  | list (items : List Json)
  /-- The name is that of the member being read, and every name so far has been
  representable or not. -/
  | object (members : List (String × Json)) (name : String) (representable : Bool)

/-- What the reader has to see next. -/
inductive Expected where
  | value
  | valueOrEnd
  | name
  | nameOrEnd
  | colon
  | commaOrEnd
  | nothing

/-- The reader between two lexemes. -/
structure Reader where
  /-- The open containers, innermost first. -/
  containers : List OpenContainer
  expected : Expected
  /-- The value read last; at the end, the whole value. -/
  last : Json

namespace Reader

/-- Nothing has been read. -/
def start : Reader :=
  ⟨[], .value, .null⟩

/-- A value is complete and goes into the innermost container. -/
def complete (containers : List OpenContainer) (value : Json) : Reader :=
  match containers with
  | [] => ⟨[], .nothing, value⟩
  | .list items :: outer => ⟨.list (value :: items) :: outer, .commaOrEnd, value⟩
  | .object members name representable :: outer =>
    ⟨.object ((name, value) :: members) name representable :: outer, .commaOrEnd, value⟩

/-- The value of an object whose end has been read. -/
def closedObject (members : List (String × Json)) (representable : Bool) : Json :=
  if representable then .object members.reverse else .unrepresentable

/-- A lexeme where a value may stand. -/
def readValue (containers : List OpenContainer) : Lexeme → Option Reader
  | .atom value => some (complete containers value)
  | .openList => some ⟨.list [] :: containers, .valueOrEnd, .null⟩
  | .openObject => some ⟨.object [] "" true :: containers, .nameOrEnd, .null⟩
  | _ => none

/-- A lexeme where the name of a member may stand. -/
def readName : List OpenContainer → Lexeme → Option Reader
  | .object members _ representable :: outer, .atom (.text name) =>
    some ⟨.object members name representable :: outer, .colon, .null⟩
  | .object members _ _ :: outer, .atom .unrepresentable =>
    some ⟨.object members "" false :: outer, .colon, .null⟩
  | _, _ => none

/-- A lexeme where the innermost container may end. -/
def readEnd : List OpenContainer → Lexeme → Option Reader
  | .list items :: outer, .closeList => some (complete outer (.list items.reverse))
  | .object members _ representable :: outer, .closeObject =>
    some (complete outer (closedObject members representable))
  | _, _ => none

/-- A comma inside a container asks for one more item. -/
def readComma : List OpenContainer → Lexeme → Option Reader
  | .list items :: outer, .comma => some ⟨.list items :: outer, .value, .null⟩
  | .object members name representable :: outer, .comma =>
    some ⟨.object members name representable :: outer, .name, .null⟩
  | _, _ => none

/-- One lexeme, where it is allowed. -/
def step (reader : Reader) (lexeme : Lexeme) : Option Reader :=
  match reader.expected with
  | .value => readValue reader.containers lexeme
  | .valueOrEnd => readValue reader.containers lexeme <|> readEnd reader.containers lexeme
  | .name => readName reader.containers lexeme
  | .nameOrEnd => readName reader.containers lexeme <|> readEnd reader.containers lexeme
  | .colon =>
    match lexeme with
    | .colon => some ⟨reader.containers, .value, .null⟩
    | _ => none
  | .commaOrEnd => readComma reader.containers lexeme <|> readEnd reader.containers lexeme
  | .nothing => none

/-- The value, once the whole of it has been read. -/
def whole? (reader : Reader) : Option Json :=
  match reader.expected with
  | .nothing => some reader.last
  | _ => none

end Reader

/-- The value that a text spells. -/
def read? (text : String) : Option Json := do
  let lexemes ← Lexeme.lex text.toList
  let reader ← lexemes.foldlM Reader.step Reader.start
  reader.whole?

end Spreadsheet.Json
