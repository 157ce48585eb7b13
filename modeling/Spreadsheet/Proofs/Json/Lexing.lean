import Spreadsheet.Proofs.Json.Literals
import Spreadsheet.Proofs.Json.Numbers

/-!
# Written values are split into their lexemes

A style may put white space between lexemes, and a number or a word is only ever followed by
white space or by a sign, so no two lexemes run together. `IsWritable` leaves out what the
format has no text for: numbers that are not finite, and halves of surrogate pairs.
-/

namespace Spreadsheet.Json

open Decimal

/-- Everything in a value has a text. -/
inductive IsWritable : Json → Prop where
  | null : IsWritable .null
  | bool (truth : Bool) : IsWritable (.bool truth)
  | number {value : Float} (finite : value.isFinite = true) : IsWritable (.number value)
  | text (value : String) : IsWritable (.text value)
  | list {items : List Json} (held : ∀ item ∈ items, IsWritable item) : IsWritable (.list items)
  | object {members : List (String × Json)} (held : ∀ member ∈ members, IsWritable member.2) :
      IsWritable (.object members)

/-- A style adds nothing but white space. -/
structure Style.IsPlain (style : Style) : Prop where
  lineBreak : ∀ depth, ∀ character ∈ style.lineBreak depth, Lexeme.isSpace character = true
  colon : ∃ spaces, style.colon = ':' :: spaces ∧
    ∀ character ∈ spaces, Lexeme.isSpace character = true

mutual

/-- The lexemes of a value. -/
def lexemes : Json → List Lexeme
  | .list [] => [.openList, .closeList]
  | .list (item :: items) => .openList :: (lexemes item ++ itemLexemes items ++ [.closeList])
  | .object [] => [.openObject, .closeObject]
  | .object ((name, value) :: members) =>
    .openObject :: .atom (.text name) :: .colon ::
      (lexemes value ++ memberLexemes members ++ [.closeObject])
  | value => [.atom value]

/-- The lexemes of the items after the first. -/
def itemLexemes : List Json → List Lexeme
  | [] => []
  | item :: items => .comma :: (lexemes item ++ itemLexemes items)

/-- The lexemes of the members after the first. -/
def memberLexemes : List (String × Json) → List Lexeme
  | [] => []
  | (name, value) :: members =>
    .comma :: .atom (.text name) :: .colon :: (lexemes value ++ memberLexemes members)

end

namespace Lexeme

/-- The characters with which a number or a word may go on. -/
def goesOn (character : Char) : Bool :=
  isNumberCharacter character || character.isAlpha

/-! ## One lexeme -/

section Lexeme

variable {rest : List Char} {later : List Lexeme}

/-- Spaces are passed over. -/
theorem lex_append_of_isSpace {spaces : List Char}
    (areSpaces : ∀ character ∈ spaces, isSpace character = true) :
    lex (spaces ++ rest) = lex rest := by
  induction spaces with
  | nil => rfl
  | cons head tail inductionHypothesis =>
    obtain ⟨headSpace, tailSpaces⟩ := List.forall_mem_cons.mp areSpaces
    rw [List.cons_append, lex, if_pos headSpace, inductionHypothesis tailSpaces]

/-- A sign becomes a lexeme of its own. -/
theorem lex_sign (character : Char) {sign : Lexeme} (isSign : sign? character = some sign)
    (behind : lex rest = some later) : lex (character :: rest) = some (sign :: later) := by
  have notSpace : isSpace character = false := by
    unfold sign? at isSign
    split at isSign <;> first | rfl | cases isSign
  rw [lex, if_neg (by simp [notSpace]), behind]
  simp only [isSign, Option.map_some]

/-- A literal is one lexeme, whatever stands behind it. -/
theorem lex_literal (value : String) (behind : lex rest = some later) :
    lex (StringLiteral.write value.toList ++ rest) = some (.atom (.text value) :: later) := by
  have scanned := StringLiteral.scan_flatMap_escape value.toList rest
  have joined : ofPieces (value.toList.map StringLiteral.pieceOf) = .text value := by
    rw [ofPieces, StringLiteral.join?_map_pieceOf]
    exact congrArg Json.text String.ofList_toList
  have notSpace : isSpace '"' = false := rfl
  have notSign : sign? '"' = none := rfl
  rw [StringLiteral.write, List.cons_append, List.cons_append, List.append_assoc,
    List.singleton_append, lex, if_neg (by simp [notSpace])]
  simp only [notSign, if_true]
  split
  · rename_i unscanned
    cases unscanned.symm.trans scanned
  · rename_i found
    cases found.symm.trans scanned
    rw [joined, behind]
    rfl

/-- A number character is no sign, no space and no quote. -/
theorem of_isNumberCharacter {character : Char} (number : isNumberCharacter character = true) :
    isSpace character = false ∧ sign? character = none ∧ character ≠ '"' := by
  have table : ∀ digit : Fin 10, isSpace (digitCharacter digit) = false ∧
      (sign? (digitCharacter digit)).isNone = true ∧ digitCharacter digit ≠ '"' := by decide
  simp only [isNumberCharacter, Bool.or_eq_true, beq_iff_eq, or_assoc] at number
  rcases number with isDigit | rfl | rfl | rfl | rfl | rfl
  · obtain ⟨digit, small, rfl⟩ := isDigit_iff_exists.mp isDigit
    obtain ⟨notSpace, notSign, notQuote⟩ := table ⟨digit, small⟩
    exact ⟨notSpace, Option.isNone_iff_eq_none.mp notSign, notQuote⟩
  all_goals exact ⟨rfl, rfl, by decide⟩

/-- A number is one lexeme if no number goes on behind it. -/
theorem lex_number {run : List Char} {value : Json} (number : number? run = some value)
    (filled : run ≠ []) (areNumber : ∀ character ∈ run, isNumberCharacter character = true)
    (stops : Text.StopsAt goesOn rest) (behind : lex rest = some later) :
    lex (run ++ rest) = some (.atom value :: later) := by
  have ends : Text.StopsAt isNumberCharacter rest :=
    stops.mono fun character isNumber => by simp [goesOn, isNumber]
  have takes := Text.takeWhile_append areNumber ends
  have drops := Text.dropWhile_append areNumber ends
  obtain ⟨head, tail, rfl⟩ := List.exists_cons_of_ne_nil filled
  have isNumber := areNumber head List.mem_cons_self
  obtain ⟨notSpace, notSign, notQuote⟩ := of_isNumberCharacter isNumber
  rw [List.cons_append] at takes drops ⊢
  rw [lex, if_neg (by simp [notSpace])]
  simp only [notSign]
  rw [if_neg notQuote, dif_pos isNumber, takes, drops, number, behind]
  rfl

/-- A word is made of letters, and its first letter begins nothing else. -/
theorem of_word? {word : List Char} {value : Json} (isWord : word? word = some value) :
    (∃ head tail, word = head :: tail ∧ isSpace head = false ∧ sign? head = none ∧ head ≠ '"' ∧
      isNumberCharacter head = false) ∧ word.all Char.isAlpha = true := by
  unfold word? at isWord
  split at isWord
  · rename_i isNull
    subst isNull
    exact ⟨⟨'n', "ull".toList, rfl, rfl, rfl, by decide, rfl⟩, rfl⟩
  · split at isWord
    · rename_i isTrue
      subst isTrue
      exact ⟨⟨'t', "rue".toList, rfl, rfl, rfl, by decide, rfl⟩, rfl⟩
    · split at isWord
      · rename_i isFalse
        subst isFalse
        exact ⟨⟨'f', "alse".toList, rfl, rfl, rfl, by decide, rfl⟩, rfl⟩
      · cases isWord

/-- A word is one lexeme if no word goes on behind it. -/
theorem lex_word {word : List Char} {value : Json} (isWord : word? word = some value)
    (stops : Text.StopsAt goesOn rest) (behind : lex rest = some later) :
    lex (word ++ rest) = some (.atom value :: later) := by
  have ends : Text.StopsAt Char.isAlpha rest :=
    stops.mono fun character isAlpha => by simp [goesOn, isAlpha]
  obtain ⟨⟨head, tail, rfl, notSpace, notSign, notQuote, notNumber⟩, allLetters⟩ :=
    of_word? isWord
  have areLetters := List.all_eq_true.mp allLetters
  have takes := Text.takeWhile_append areLetters ends
  have drops := Text.dropWhile_append areLetters ends
  rw [List.cons_append] at takes drops ⊢
  rw [lex, if_neg (by simp [notSpace])]
  simp only [notSign]
  rw [if_neg notQuote, dif_neg (by simp [notNumber]),
    dif_pos (areLetters head List.mem_cons_self), takes, drops, isWord, behind]
  rfl

/-- White space ends a number and a word. -/
theorem stopsAt_spaces {spaces : List Char}
    (areSpaces : ∀ character ∈ spaces, isSpace character = true)
    (stops : Text.StopsAt goesOn rest) : Text.StopsAt goesOn (spaces ++ rest) := by
  cases spaces with
  | nil => exact stops
  | cons head tail =>
    have headSpace := areSpaces head List.mem_cons_self
    simp only [isSpace, Bool.or_eq_true, beq_iff_eq, or_assoc] at headSpace
    refine Text.StopsAt.cons ?_
    rcases headSpace with rfl | rfl | rfl | rfl <;> rfl

end Lexeme

/-! ## Whole values -/

section Value

variable {style : Style} {depth : Nat} {rest : List Char} {later : List Lexeme}

/-- Whatever ends numbers and words may stand behind the text of a value. -/
def IsSplit (style : Style) (value : Json) : Prop :=
  ∀ depth rest later, Text.StopsAt goesOn rest → lex rest = some later →
    lex (write style depth value ++ rest) = some (lexemes value ++ later)

/-- A value ends where the next item begins. -/
theorem stopsAt_writeItems (items : List Json) (stops : Text.StopsAt goesOn rest) :
    Text.StopsAt goesOn (writeItems style depth items ++ rest) := by
  cases items with
  | nil => exact stops
  | cons item items => exact Text.StopsAt.cons rfl

/-- A value ends where the next member begins. -/
theorem stopsAt_writeMembers (members : List (String × Json)) (stops : Text.StopsAt goesOn rest) :
    Text.StopsAt goesOn (writeMembers style depth members ++ rest) := by
  cases members with
  | nil => exact stops
  | cons member members => exact Text.StopsAt.cons rfl

/-- The text of a value behind a break. -/
theorem lex_break (depth : Nat) (plain : style.IsPlain) {value : Json} (read : IsSplit style value)
    (stops : Text.StopsAt goesOn rest) (behind : lex rest = some later) :
    lex (style.lineBreak depth ++ (write style depth value ++ rest)) =
      some (lexemes value ++ later) := by
  rw [lex_append_of_isSpace (plain.lineBreak depth)]
  exact read depth rest later stops behind

/-- The text of a member behind a break. -/
theorem lex_member (depth : Nat) (plain : style.IsPlain) (name : String) {value : Json}
    (read : IsSplit style value) (stops : Text.StopsAt goesOn rest)
    (behind : lex rest = some later) :
    lex (style.lineBreak depth ++ (StringLiteral.write name.toList ++
        (style.colon ++ (write style depth value ++ rest)))) =
      some (.atom (.text name) :: .colon :: (lexemes value ++ later)) := by
  obtain ⟨spaces, colon, areSpaces⟩ := plain.colon
  rw [lex_append_of_isSpace (plain.lineBreak depth), colon]
  refine lex_literal name (lex_sign ':' rfl ?_)
  exact (lex_append_of_isSpace areSpaces).trans (read depth rest later stops behind)

/-- A sign that closes a container behind a break, and ends what stands before the break. -/
theorem lex_close (depth : Nat) (plain : style.IsPlain) (character : Char) {sign : Lexeme}
    (isSign : sign? character = some sign) (ends : goesOn character = false)
    (behind : lex rest = some later) :
    Text.StopsAt goesOn (style.lineBreak depth ++ character :: rest) ∧
      lex (style.lineBreak depth ++ character :: rest) = some (sign :: later) := by
  constructor
  · exact stopsAt_spaces (plain.lineBreak depth) (.cons ends)
  · rw [lex_append_of_isSpace (plain.lineBreak depth)]
    exact lex_sign character isSign behind

/-- The items after the first are split one by one. -/
theorem lex_writeItems (depth : Nat) (plain : style.IsPlain) {items : List Json}
    (read : ∀ item ∈ items, IsSplit style item) (stops : Text.StopsAt goesOn rest)
    (behind : lex rest = some later) :
    lex (writeItems style depth items ++ rest) = some (itemLexemes items ++ later) := by
  induction items with
  | nil => exact behind
  | cons item items inductionHypothesis =>
    obtain ⟨readItem, readItems⟩ := List.forall_mem_cons.mp read
    have first := lex_sign ',' rfl
      (lex_break depth plain readItem (stopsAt_writeItems items stops)
        (inductionHypothesis readItems))
    simpa only [writeItems, itemLexemes, List.cons_append, List.append_assoc] using first

/-- The members after the first are split one by one. -/
theorem lex_writeMembers (depth : Nat) (plain : style.IsPlain) {members : List (String × Json)}
    (read : ∀ member ∈ members, IsSplit style member.2) (stops : Text.StopsAt goesOn rest)
    (behind : lex rest = some later) :
    lex (writeMembers style depth members ++ rest) = some (memberLexemes members ++ later) := by
  induction members with
  | nil => exact behind
  | cons member members inductionHypothesis =>
    obtain ⟨name, value⟩ := member
    obtain ⟨readValue, readMembers⟩ := List.forall_mem_cons.mp read
    have first := lex_sign ',' rfl
      (lex_member depth plain name readValue (stopsAt_writeMembers members stops)
        (inductionHypothesis readMembers))
    simpa only [writeMembers, memberLexemes, List.cons_append, List.append_assoc] using first

/-- A written value is split into its lexemes. -/
theorem isSplit_of_isWritable (plain : style.IsPlain) {value : Json}
    (writable : IsWritable value) : IsSplit style value := by
  induction writable with
  | null =>
    intro depth rest later stops behind
    exact lex_word rfl stops behind
  | bool truth =>
    intro depth rest later stops behind
    cases truth with
    | true => exact lex_word rfl stops behind
    | false => exact lex_word rfl stops behind
  | number finite =>
    intro depth rest later stops behind
    obtain ⟨number, filled, areNumber⟩ := number?_numberText finite
    exact lex_number number filled areNumber stops behind
  | text value =>
    intro depth rest later stops behind
    exact lex_literal value behind
  | @list items held read =>
    intro depth rest later stops behind
    cases items with
    | nil => exact lex_sign _ rfl (lex_sign _ rfl behind)
    | cons item items =>
      obtain ⟨readItem, readItems⟩ := List.forall_mem_cons.mp read
      obtain ⟨ends, closed⟩ := lex_close depth plain ']' rfl rfl behind
      have list := lex_sign '[' rfl
        (lex_break (depth + 1) plain readItem (stopsAt_writeItems items ends)
          (lex_writeItems (depth + 1) plain readItems ends closed))
      simpa only [write, lexemes, List.cons_append, List.append_assoc, List.nil_append] using list
  | @object members held read =>
    intro depth rest later stops behind
    cases members with
    | nil => exact lex_sign _ rfl (lex_sign _ rfl behind)
    | cons member members =>
      obtain ⟨name, value⟩ := member
      obtain ⟨readValue, readMembers⟩ := List.forall_mem_cons.mp read
      obtain ⟨ends, closed⟩ := lex_close depth plain '\x7d' rfl rfl behind
      have object := lex_sign '\x7b' rfl
        (lex_member (depth + 1) plain name readValue (stopsAt_writeMembers members ends)
          (lex_writeMembers (depth + 1) plain readMembers ends closed))
      simpa only [write, lexemes, List.cons_append, List.append_assoc, List.nil_append]
        using object

/-- A text that holds a written value, with nothing behind it but white space, has the lexemes of
the value. -/
theorem lex_write (plain : style.IsPlain) {value : Json} (writable : IsWritable value)
    {spaces : List Char} (areSpaces : ∀ character ∈ spaces, isSpace character = true) :
    lex (write style depth value ++ spaces) = some (lexemes value) := by
  have ended : lex spaces = some [] := by
    rw [← List.append_nil spaces, lex_append_of_isSpace areSpaces, lex]
  have stops : Text.StopsAt goesOn spaces := by
    simpa only [List.append_nil] using stopsAt_spaces areSpaces .nil
  have split := isSplit_of_isWritable plain writable depth spaces [] stops ended
  simpa only [List.append_nil] using split

end Value

end Lexeme

end Spreadsheet.Json
