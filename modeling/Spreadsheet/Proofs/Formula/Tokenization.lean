import Mathlib.Data.List.Chain
import Spreadsheet.Proofs.Formula.Lexemes

/-!
# Tokenizing undoes writing

A `Rendering` is a text made of lexemes in their order. White space may stand anywhere around
them, an equals sign may stand in front, and white space has to stand between two lexemes
that would run together otherwise. Tokenizing such a text gives back the lexemes. Since every
token of a formula is a lexeme, tokens written one space apart are tokenized to themselves.
-/

namespace Spreadsheet.Formula

/-- A lexeme with the white space before it. -/
structure SpacedLexeme where
  gap : List Char
  lexeme : List Char
  blankGap : ∀ character ∈ gap, Text.isBlank character = true
  isLexeme : IsLexeme lexeme

namespace SpacedLexeme

/-- The white space and the lexeme. -/
def text (item : SpacedLexeme) : List Char :=
  item.gap ++ item.lexeme

/-- Two neighbours do not run together: one of them is a sign, or there is a gap. -/
def Apart (first second : SpacedLexeme) : Prop :=
  IsSolid first.lexeme → IsSolid second.lexeme → second.gap ≠ []

end SpacedLexeme

/-- A text made of lexemes. -/
structure Rendering where
  before : List Char
  /-- Whether an equals sign stands before the lexemes. -/
  equals : Bool
  items : List SpacedLexeme
  after : List Char
  blankBefore : ∀ character ∈ before, Text.isBlank character = true
  blankAfter : ∀ character ∈ after, Text.isBlank character = true
  apart : items.IsChain SpacedLexeme.Apart

namespace Rendering

/-- The equals sign, if there is one. -/
def marker (rendering : Rendering) : List Char :=
  if rendering.equals then ['='] else []

/-- The characters of the text. -/
def characters (rendering : Rendering) : List Char :=
  rendering.before ++
    (rendering.marker ++ rendering.items.flatMap SpacedLexeme.text ++ rendering.after)

/-- The text. -/
def text (rendering : Rendering) : String :=
  String.ofList rendering.characters

/-- The lexemes, from left to right. -/
def lexemes (rendering : Rendering) : List String :=
  rendering.items.map fun item => String.ofList item.lexeme

end Rendering

/-! ## Splitting a text into lexemes -/

/-- White space is passed over. -/
theorem lex_append_of_blank (position : Nat) (rest : List Char) {gap : List Char}
    (blank : ∀ character ∈ gap, Text.isBlank character = true) :
    lex position (gap ++ rest) = lex (position + Text.byteLength gap) rest := by
  induction gap generalizing position with
  | nil => rfl
  | cons head gap inductionHypothesis =>
    obtain ⟨headBlank, tailBlank⟩ := List.forall_mem_cons.mp blank
    rw [List.cons_append, lex, if_pos headBlank, inductionHypothesis _ tailBlank,
      Text.byteLength, Nat.add_assoc]

/-- A lexeme becomes a token, where a number or a word does not go on behind it. -/
theorem lex_append_of_isLexeme (position : Nat) {lexeme rest : List Char}
    (isLexeme : IsLexeme lexeme)
    (stops : IsSolid lexeme → Text.StopsAt goesOn rest) :
    lex position (lexeme ++ rest) =
      (lex (position + Text.byteLength lexeme) rest).map (lexeme :: ·) := by
  obtain ⟨head, tail, whole, notBlank, split⟩ := splitToken_append_of_isLexeme isLexeme stops
  rw [whole, lex, if_neg (by simp [notBlank])]
  split
  · rename_i unsplit
    cases unsplit.symm.trans split
  · rename_i found
    cases found.symm.trans split
    rfl

/-- What stands behind a number or a word does not go on with it. -/
theorem stopsAt_items {first : SpacedLexeme} {items : List SpacedLexeme} {after : List Char}
    (apart : (first :: items).IsChain SpacedLexeme.Apart)
    (blankAfter : ∀ character ∈ after, Text.isBlank character = true)
    (solid : IsSolid first.lexeme) :
    Text.StopsAt goesOn (items.flatMap SpacedLexeme.text ++ after) := by
  have blankStops {gap rest : List Char} (filled : gap ≠ [])
      (blank : ∀ character ∈ gap, Text.isBlank character = true) :
      Text.StopsAt goesOn (gap ++ rest) := by
    obtain ⟨head, tail, rfl⟩ := List.exists_cons_of_ne_nil filled
    exact .cons (of_isBlank (blank head List.mem_cons_self)).1
  cases items with
  | nil =>
    by_cases filled : after = []
    · rw [filled]
      exact .nil
    · rw [List.flatMap_nil, List.nil_append, ← List.append_nil after]
      exact blankStops filled blankAfter
  | cons second items =>
    rw [List.flatMap_cons, SpacedLexeme.text, List.append_assoc, List.append_assoc]
    by_cases filled : second.gap = []
    · have notSolid : ¬ IsSolid second.lexeme := fun secondSolid =>
        (List.isChain_cons_cons.mp apart).1 solid secondSolid filled
      obtain ⟨gap, lexeme, _, isLexeme⟩ := second
      dsimp only at filled notSolid ⊢
      rw [filled, List.nil_append]
      cases isLexeme with
      | sign sign => exact .cons (of_isSign sign).1
      | number isNumber => exact absurd (.inl isNumber) notSolid
      | word isWord => exact absurd (.inr isWord) notSolid
    · exact blankStops filled second.blankGap

/-- Lexemes with gaps that keep them apart are split into themselves. -/
theorem lex_items (position : Nat) {items : List SpacedLexeme} {after : List Char}
    (apart : items.IsChain SpacedLexeme.Apart)
    (blankAfter : ∀ character ∈ after, Text.isBlank character = true) :
    lex position (items.flatMap SpacedLexeme.text ++ after) =
      .ok (items.map SpacedLexeme.lexeme) := by
  induction items generalizing position with
  | nil =>
    have passed := lex_append_of_blank position [] blankAfter
    rw [List.append_nil] at passed
    rw [List.flatMap_nil, List.nil_append, passed, lex]
    rfl
  | cons first items inductionHypothesis =>
    rw [List.flatMap_cons, SpacedLexeme.text, List.append_assoc, List.append_assoc,
      lex_append_of_blank position _ first.blankGap,
      lex_append_of_isLexeme _ first.isLexeme fun solid => stopsAt_items apart blankAfter solid,
      inductionHypothesis _ apart.of_cons]
    rfl

/-- How a text comes apart into tokens, from the left to the right. -/
inductive ComesApart : List Char → List (List Char) → Prop where
  | nil : ComesApart [] []
  | blank {head : Char} {rest : List Char} {tokens : List (List Char)}
      (isBlank : Text.isBlank head = true) (later : ComesApart rest tokens) :
      ComesApart (head :: rest) tokens
  | token {head : Char} {rest token remaining : List Char} {tokens : List (List Char)}
      (notBlank : Text.isBlank head = false)
      (split : splitToken head rest = some (token, remaining))
      (later : ComesApart remaining tokens) : ComesApart (head :: rest) (token :: tokens)

/-- A text comes apart into the tokens that are found in it. -/
theorem comesApart_of_lex {position : Nat} {text : List Char} {tokens : List (List Char)}
    (lexed : lex position text = .ok tokens) : ComesApart text tokens := by
  fun_induction lex position text generalizing tokens with
  | case1 =>
    cases lexed
    exact .nil
  | case2 position head rest blank inductionHypothesis =>
    exact .blank blank (inductionHypothesis lexed)
  | case3 => cases lexed
  | case4 position head rest notBlank token remaining split inductionHypothesis =>
    cases later : lex (position + Text.byteLength token) remaining with
    | error problem =>
      rw [later] at lexed
      cases lexed
    | ok others =>
      rw [later] at lexed
      cases lexed
      exact .token (eq_false_of_ne_true notBlank) split (inductionHypothesis later)

/-- The tokens of a text are lexemes. -/
theorem ComesApart.isLexeme {text : List Char} {tokens : List (List Char)}
    (apart : ComesApart text tokens) : ∀ token ∈ tokens, IsLexeme token := by
  induction apart with
  | nil => exact List.forall_mem_nil _
  | blank _ _ inductionHypothesis => exact inductionHypothesis
  | token _ split _ inductionHypothesis =>
    exact List.forall_mem_cons.mpr ⟨isLexeme_of_splitToken split, inductionHypothesis⟩

/-! ## The text around the lexemes -/

/-- Lexemes with gaps do not end in white space. -/
theorem stopsAt_reverse_items (items : List SpacedLexeme) :
    Text.StopsAt Text.isBlank (items.flatMap SpacedLexeme.text).reverse := by
  induction items with
  | nil => exact .nil
  | cons first items inductionHypothesis =>
    intro character member
    rw [List.head?_reverse, List.flatMap_cons, List.getLast?_append] at member
    rw [Text.StopsAt, List.head?_reverse] at inductionHypothesis
    cases last : (items.flatMap SpacedLexeme.text).getLast? with
    | some final =>
      rw [last, Option.some_or] at member
      exact inductionHypothesis character (last.trans member)
    | none =>
      obtain ⟨head, tail, filled, -⟩ := first.isLexeme.exists_cons
      have inLexeme : first.lexeme.getLast? = some character := by
        rw [last, Option.none_or, SpacedLexeme.text, filled, List.getLast?_append_cons] at member
        rw [filled]
        exact member
      exact first.isLexeme.not_isBlank (List.mem_of_getLast? inLexeme)

/-- The lexeme without the white space before it. -/
def SpacedLexeme.flush (item : SpacedLexeme) : SpacedLexeme where
  gap := []
  lexeme := item.lexeme
  blankGap := List.forall_mem_nil _
  isLexeme := item.isLexeme

/-- Without its gap an item is its lexeme. -/
theorem SpacedLexeme.text_flush (item : SpacedLexeme) : item.flush.text = item.lexeme := rfl

/-- The gap before the first lexeme keeps nothing apart. -/
theorem isChain_flush {first : SpacedLexeme} {items : List SpacedLexeme}
    (apart : (first :: items).IsChain SpacedLexeme.Apart) :
    (first.flush :: items).IsChain SpacedLexeme.Apart := by
  cases items with
  | nil => exact .singleton first.flush
  | cons second items =>
    obtain ⟨here, later⟩ := List.isChain_cons_cons.mp apart
    exact List.isChain_cons_cons.mpr ⟨here, later⟩

/-- What a text holds between the white space at its two ends, without one equals sign at the
start. White space behind the equals sign is held as well. -/
inductive IsContent (text : List Char) : List Char → Prop where
  | marked {content : List Char} (trimmed : Text.IsTrimmed text ('=' :: content)) :
      IsContent text content
  | unmarked {content : List Char} (trimmed : Text.IsTrimmed text content)
      (other : content.head? ≠ some '=') : IsContent text content

/-- The body of a formula is what its text holds. -/
theorem body_eq_iff {text content : List Char} : body text = content ↔ IsContent text content := by
  constructor
  · rintro rfl
    have trimmed := Text.isTrimmed_trim text
    unfold body
    split
    · rename_i rest starts
      exact .marked (starts ▸ trimmed)
    · rename_i starts
      refine .unmarked trimmed fun marker => ?_
      obtain ⟨rest, whole⟩ := List.head?_eq_some_iff.mp marker
      exact starts rest whole
  · intro isContent
    unfold body
    cases isContent with
    | marked trimmed =>
      rw [Text.trim_eq_iff.mpr trimmed]
      rfl
    | unmarked trimmed other =>
      rw [Text.trim_eq_iff.mpr trimmed]
      split
      · exact absurd rfl other
      · rfl

/-- Every text holds one content. -/
theorem existsUnique_isContent (text : List Char) : ∃! content, IsContent text content :=
  ⟨body text, body_eq_iff.mp rfl, fun _ isContent => (body_eq_iff.mpr isContent).symm⟩

section Around

variable {before after : List Char}

/-- What begins and ends without white space is the body, unless it begins with the marker. -/
theorem body_append {head : Char} {tail : List Char}
    (blankBefore : ∀ character ∈ before, Text.isBlank character = true)
    (blankAfter : ∀ character ∈ after, Text.isBlank character = true)
    (notBlank : Text.isBlank head = false) (notMarker : head ≠ '=')
    (ends : Text.StopsAt Text.isBlank (head :: tail).reverse) :
    body (before ++ (head :: tail ++ after)) = head :: tail := by
  have trimmed := Text.trim_append blankBefore blankAfter (.cons notBlank) ends
  rw [body, trimmed]
  split
  · rename_i marker
    exact absurd (List.cons.inj marker).1 notMarker
  · rfl

/-- The marker is left out with the white space before it and at the end. -/
theorem body_marker_append (items : List SpacedLexeme)
    (blankBefore : ∀ character ∈ before, Text.isBlank character = true)
    (blankAfter : ∀ character ∈ after, Text.isBlank character = true) :
    body (before ++ ('=' :: items.flatMap SpacedLexeme.text ++ after)) =
      items.flatMap SpacedLexeme.text := by
  have ends : Text.StopsAt Text.isBlank ('=' :: items.flatMap SpacedLexeme.text).reverse := by
    intro character member
    rw [List.reverse_cons, List.head?_append] at member
    cases last : (items.flatMap SpacedLexeme.text).reverse.head? with
    | some final =>
      rw [last, Option.some_or] at member
      exact stopsAt_reverse_items items character (last.trans member)
    | none =>
      rw [last] at member
      cases member
      decide
  rw [body, Text.trim_append blankBefore blankAfter (.cons (by decide)) ends]
  rfl

/-- Without a marker the white space before the first lexeme is left out with the rest. -/
theorem body_items_append (first : SpacedLexeme) (items : List SpacedLexeme)
    (blankBefore : ∀ character ∈ before, Text.isBlank character = true)
    (blankAfter : ∀ character ∈ after, Text.isBlank character = true) :
    body (before ++ ((first :: items).flatMap SpacedLexeme.text ++ after)) =
      (first.flush :: items).flatMap SpacedLexeme.text := by
  obtain ⟨head, tail, filled, notMarker⟩ := first.isLexeme.exists_cons
  have notBlank : Text.isBlank head = false := by
    refine first.isLexeme.not_isBlank ?_
    rw [filled]
    exact List.mem_cons_self
  have blankAround : ∀ character ∈ before ++ first.gap, Text.isBlank character = true := by
    intro character member
    rcases List.mem_append.mp member with outside | inGap
    · exact blankBefore character outside
    · exact first.blankGap character inGap
  have starts : (first.flush :: items).flatMap SpacedLexeme.text =
      head :: (tail ++ items.flatMap SpacedLexeme.text) := by
    rw [List.flatMap_cons, SpacedLexeme.text_flush, filled]
    rfl
  have regrouped : before ++ ((first :: items).flatMap SpacedLexeme.text ++ after) =
      before ++ first.gap ++ ((first.flush :: items).flatMap SpacedLexeme.text ++ after) := by
    rw [List.flatMap_cons, List.flatMap_cons, SpacedLexeme.text_flush, SpacedLexeme.text]
    simp
  have ends := stopsAt_reverse_items (first.flush :: items)
  rw [regrouped]
  rw [starts] at ends ⊢
  exact body_append blankAround blankAfter notBlank notMarker ends

end Around

namespace Rendering

/-- The tokens are found behind the marker and the white space before the first lexeme. -/
theorem lex_body (rendering : Rendering) :
    lex 0 (body rendering.characters) = .ok (rendering.items.map SpacedLexeme.lexeme) := by
  obtain ⟨before, equals, items, after, blankBefore, blankAfter, apart⟩ := rendering
  have lexed {items : List SpacedLexeme} (apart : items.IsChain SpacedLexeme.Apart) :
      lex 0 (items.flatMap SpacedLexeme.text) = .ok (items.map SpacedLexeme.lexeme) := by
    simpa using lex_items 0 apart (List.forall_mem_nil _)
  simp only [characters, marker]
  cases equals with
  | true =>
    rw [if_pos rfl, List.singleton_append, body_marker_append items blankBefore blankAfter]
    exact lexed apart
  | false =>
    rw [if_neg Bool.false_ne_true, List.nil_append]
    cases items with
    | nil =>
      have trimmed : Text.trim (before ++ ([] ++ after)) = [] :=
        Text.trim_append blankBefore blankAfter .nil .nil
      rw [List.flatMap_nil, body, trimmed]
      exact lexed .nil
    | cons first items =>
      rw [body_items_append first items blankBefore blankAfter]
      exact lexed (isChain_flush apart)

/-- Tokenizing a text made of lexemes gives the lexemes. -/
theorem tokenize_text (rendering : Rendering) :
    tokenize rendering.text = .ok rendering.lexemes := by
  rw [tokenize, text, String.toList_ofList, rendering.lex_body, lexemes]
  simp only [Except.map, List.map_map]
  rfl

end Rendering

/-! ## Tokens one space apart -/

/-- The tokens of a formula are those into which its body comes apart. -/
theorem comesApart_of_tokenize {text : String} {tokens : List String}
    (tokenized : tokenize text = .ok tokens) :
    ComesApart (body text.toList) (tokens.map String.toList) := by
  rw [tokenize] at tokenized
  cases lexed : lex 0 (body text.toList) with
  | error problem =>
    rw [lexed] at tokenized
    cases tokenized
  | ok pieces =>
    rw [lexed] at tokenized
    cases tokenized
    have same : (pieces.map String.ofList).map String.toList = pieces := by
      simp [Function.comp_def]
    rw [same]
    exact comesApart_of_lex lexed

/-- Every token of a formula is a lexeme. -/
theorem isLexeme_of_tokenize {text : String} {tokens : List String}
    (tokenized : tokenize text = .ok tokens) : ∀ token ∈ tokens, IsLexeme token.toList :=
  fun _ member => (comesApart_of_tokenize tokenized).isLexeme _ (List.mem_map_of_mem member)

/-- Lexemes can be written with one space before each, and that keeps them apart. -/
theorem exists_spaced {tokens : List String}
    (areLexemes : ∀ token ∈ tokens, IsLexeme token.toList) :
    ∃ items : List SpacedLexeme,
      items.map (fun item => String.ofList item.lexeme) = tokens ∧
      items.flatMap SpacedLexeme.text = tokens.flatMap (fun token => ' ' :: token.toList) ∧
      items.IsChain SpacedLexeme.Apart ∧ ∀ item ∈ items, item.gap ≠ [] := by
  induction tokens with
  | nil => exact ⟨[], rfl, rfl, .nil, List.forall_mem_nil _⟩
  | cons token tokens inductionHypothesis =>
    obtain ⟨isLexeme, others⟩ := List.forall_mem_cons.mp areLexemes
    obtain ⟨items, lexemes, text, apart, gaps⟩ := inductionHypothesis others
    have blank : ∀ character ∈ [' '], Text.isBlank character = true :=
      List.forall_mem_singleton.mpr (by decide)
    refine ⟨⟨[' '], token.toList, blank, isLexeme⟩ :: items, ?_, ?_, ?_, ?_⟩
    · rw [List.map_cons, lexemes, String.ofList_toList]
    · rw [List.flatMap_cons, text]
      rfl
    · cases items with
      | nil => exact .singleton _
      | cons second items =>
        refine List.isChain_cons_cons.mpr ⟨fun _ _ => ?_, apart⟩
        exact gaps second List.mem_cons_self
    · exact List.forall_mem_cons.mpr ⟨List.cons_ne_nil _ _, gaps⟩

/-- The first of several texts, and the others with the separator before each. -/
theorem intercalate_cons (separator first : List Char) (others : List (List Char)) :
    separator.intercalate (first :: others) = first ++ others.flatMap (separator ++ ·) := by
  induction others generalizing first with
  | nil => simp
  | cons second others inductionHypothesis =>
    rw [List.intercalate_cons_cons, inductionHypothesis, List.flatMap_cons]
    simp only [List.append_assoc]

/-- Lexemes that are written one space apart are tokenized to themselves. -/
theorem tokenize_intercalate {tokens : List String}
    (areLexemes : ∀ token ∈ tokens, IsLexeme token.toList) :
    tokenize (" ".intercalate tokens) = .ok tokens := by
  cases tokens with
  | nil => decide +kernel
  | cons first tokens =>
    obtain ⟨isLexeme, others⟩ := List.forall_mem_cons.mp areLexemes
    obtain ⟨items, lexemes, text, apart, gaps⟩ := exists_spaced others
    let rendering : Rendering :=
      { before := [], equals := false, after := []
        items := ⟨[], first.toList, List.forall_mem_nil _, isLexeme⟩ :: items
        blankBefore := List.forall_mem_nil _
        blankAfter := List.forall_mem_nil _
        apart := by
          cases items with
          | nil => exact .singleton _
          | cons second items =>
            refine List.isChain_cons_cons.mpr ⟨fun _ _ => ?_, apart⟩
            exact gaps second List.mem_cons_self }
    have written : rendering.text = " ".intercalate (first :: tokens) := by
      refine String.toList_inj.mp ?_
      rw [String.toList_intercalate, List.map_cons, intercalate_cons, Rendering.text,
        String.toList_ofList]
      simp [Rendering.characters, Rendering.marker, rendering, SpacedLexeme.text, text,
        List.flatMap_map]
    have listed : rendering.lexemes = first :: tokens := by
      simp [Rendering.lexemes, rendering, lexemes]
    rw [← written, rendering.tokenize_text, listed]

/-- Tokenizing a text made of lexemes gives the lexemes, and whatever the tokens of a text
are, they are lexemes and tokenized to themselves when they are written one space apart. -/
theorem tokenize_inverts_writing :
    (∀ rendering : Rendering, tokenize rendering.text = .ok rendering.lexemes) ∧
    ∀ (text : String) (tokens : List String), tokenize text = .ok tokens →
      (∀ token ∈ tokens, IsLexeme token.toList) ∧
      tokenize (" ".intercalate tokens) = .ok tokens := by
  refine ⟨Rendering.tokenize_text, fun text tokens tokenized => ?_⟩
  have areLexemes := isLexeme_of_tokenize tokenized
  exact ⟨areLexemes, tokenize_intercalate areLexemes⟩

/-- An exponent without digits and a second point begin tokens of their own, so the tokens
need spaces that the text did not have. -/
theorem tokenize_inverts_writing_exponents :
    tokenize "2e+x" = .ok ["2", "e", "+", "x"] ∧
    tokenize " =2E-7.e5.1.3E " = .ok ["2E-7", ".e5", ".1", ".3", "E"] ∧
    (∀ token ∈ ["2E-7", ".e5", ".1", ".3", "E"], IsLexeme token.toList) ∧
    tokenize "2E-7 .e5 .1 .3 E" = .ok ["2E-7", ".e5", ".1", ".3", "E"] := by
  have text : tokenize " =2E-7.e5.1.3E " = .ok ["2E-7", ".e5", ".1", ".3", "E"] := by
    decide +kernel
  exact ⟨by decide +kernel, text, tokenize_inverts_writing.2 _ _ text⟩

end Spreadsheet.Formula
