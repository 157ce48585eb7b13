import Spreadsheet.Proofs.Formula.Classification
import Spreadsheet.Proofs.Sheet.References

/-!
# Tests that exclude one another

A token text is classified by four tests, and how the text is spelled leaves only one of
them open: a sign is no number and no label, a number does not begin with a letter, and a
label does. The tests may therefore be made in any order. The last of them is the one by
which the reference graph reads labels as well, so no reference of a formula is missing
from the graph.
-/

namespace Spreadsheet.Token

/-- The tests by which a token text is classified. -/
inductive Test where
  | group
  | operator
  | number
  | label
deriving DecidableEq

namespace Test

/-- The token that a text is if it passes the test. -/
def token? (text : String) : Test → Option Token
  | .group =>
    if text = "(" then some .openGroup else if text = ")" then some .closeGroup else none
  | .operator => (Operator.ofSymbol? text).map .operator
  | .number => (readNumber? text).map .number
  | .label => if Address.isLabel text then some (.reference text) else none

/-- The text passes the test. -/
def Passes (test : Test) (text : String) : Prop :=
  ∃ token, test.token? text = some token

/-- The token texts that are a single sign. -/
def signs : List String :=
  ["(", ")", "+", "-", "*", "/"]

/-- The test that the spelling of a text leaves open. -/
def forText (text : String) : Test :=
  if text ∈ ["(", ")"] then .group
  else if text ∈ ["+", "-", "*", "/"] then .operator
  else if text.toList.head?.any Char.isAlpha then .label
  else .number

end Test

/-- The class of a text by the first of the given tests that it passes. -/
def classifyBy (tests : List Test) (text : String) : Token :=
  (tests.findSome? fun test => test.token? text).getD (.unknown text)

variable {text : String} {test : Test} {tests : List Test} {token : Token}

/-! ## At most one test is passed -/

namespace Test

/-- A text that is no sign is left to the test for labels or to that for numbers, as it begins
with a letter or not. -/
theorem forText_of_not_sign (notSign : text ∉ signs) :
    forText text = if text.toList.head?.any Char.isAlpha then .label else .number := by
  have notGroup : text ∉ ["(", ")"] := fun member => notSign (List.mem_append_left _ member)
  have notOperator : text ∉ ["+", "-", "*", "/"] := fun member =>
    notSign (List.mem_append_right ["(", ")"] member)
  rw [forText, if_neg notGroup, if_neg notOperator]

/-- Texts that are read as numbers are spelled like numbers. -/
theorem forText_of_number {value : Float} (read : readNumber? text = some value) :
    forText text = .number := by
  have digitless : ∀ sign ∈ signs, readNumber? sign = none := by decide +kernel
  have notSign : text ∉ signs := by
    intro sign
    cases (digitless text sign).symm.trans read
  have notLetter : ¬ text.toList.head?.any Char.isAlpha = true := by
    intro begins
    cases (Formula.readNumber?_of_isAlpha (Formula.begins_iff_head?.mpr begins)).symm.trans read
  rw [forText_of_not_sign notSign, if_neg notLetter]

/-- Labels are spelled like labels. -/
theorem forText_of_label {address : Address} (named : Address.ofLabel text = .ok address) :
    forText text = .label := by
  have begins : text.toList.head?.any Char.isAlpha = true :=
    Formula.begins_iff_head?.mp (Address.exists_cons_of_ofLabel named)
  have letterless : ∀ sign ∈ signs, sign.toList.head?.any Char.isAlpha = false := by decide
  have notSign : text ∉ signs := by
    intro sign
    cases (letterless text sign).symm.trans begins
  rw [forText_of_not_sign notSign, if_pos begins]

/-- No text passes another test than the one that its spelling leaves open. -/
theorem Passes.eq_forText (passes : test.Passes text) : test = forText text := by
  obtain ⟨token, found⟩ := passes
  cases test with
  | group =>
    have isGroup : text ∈ ["(", ")"] := by
      by_contra other
      simp only [List.mem_cons, List.not_mem_nil, or_false, not_or] at other
      rw [token?, if_neg other.1, if_neg other.2] at found
      cases found
    rw [forText, if_pos isGroup]
  | operator =>
    obtain ⟨operator, spelled, -⟩ := Option.map_eq_some_iff.mp found
    rw [Operator.ofSymbol?_eq_some_iff.mp spelled]
    cases operator <;> rfl
  | number =>
    obtain ⟨value, read, -⟩ := Option.map_eq_some_iff.mp found
    exact (forText_of_number read).symm
  | label =>
    have isLabel : Address.isLabel text = true := by
      by_contra other
      rw [token?, if_neg other] at found
      cases found
    obtain ⟨address, named⟩ := Address.isLabel_iff.mp isLabel
    exact (forText_of_label named).symm

/-- A text passes one test at most. -/
theorem Passes.unique {first second : Test} (passesFirst : first.Passes text)
    (passesSecond : second.Passes text) : first = second :=
  passesFirst.eq_forText.trans passesSecond.eq_forText.symm

end Test

/-! ## The order of the tests -/

/-- The tests are made in this order. -/
theorem classify_eq_classifyBy (text : String) :
    classify text = classifyBy [.group, .operator, .number, .label] text := by
  simp only [classify, classifyBy, List.findSome?_cons, List.findSome?_nil, Test.token?]
  by_cases opens : text = "("
  · subst opens
    rfl
  by_cases closes : text = ")"
  · subst closes
    rfl
  simp only [opens, closes, if_false]
  cases Operator.ofSymbol? text with
  | some operator => rfl
  | none =>
    cases readNumber? text with
    | some value => rfl
    | none =>
      cases Address.isLabel text with
      | true => rfl
      | false => rfl

/-- Whichever tests are made before it, the one that a text passes decides. -/
theorem classifyBy_of_passes (member : test ∈ tests) (found : test.token? text = some token) :
    classifyBy tests text = token := by
  have passed : (tests.findSome? fun test => test.token? text).isSome = true :=
    List.findSome?_isSome_iff.mpr ⟨test, member, by rw [found]; rfl⟩
  obtain ⟨first, firstFound⟩ := Option.isSome_iff_exists.mp passed
  obtain ⟨other, -, otherFound⟩ := List.exists_of_findSome?_eq_some firstFound
  obtain rfl : other = test := Test.Passes.unique ⟨first, otherFound⟩ ⟨token, found⟩
  rw [classifyBy, firstFound, Option.getD_some]
  exact Option.some.inj (otherFound.symm.trans found)

/-- A text that fails every test is unknown. -/
theorem classifyBy_of_fails (fails : ∀ test : Test, ¬ test.Passes text) :
    classifyBy tests text = .unknown text := by
  have unpassed : (tests.findSome? fun test => test.token? text) = none :=
    List.findSome?_eq_none_iff.mpr fun test _ =>
      Option.eq_none_iff_forall_ne_some.mpr fun token found => fails test ⟨token, found⟩
  rw [classifyBy, unpassed, Option.getD_none]

/-- All orders in which every test is made give a text the same class. -/
theorem classifyBy_eq {others : List Test} (complete : ∀ test, test ∈ tests)
    (othersComplete : ∀ test, test ∈ others) : classifyBy tests text = classifyBy others text := by
  by_cases passed : ∃ test : Test, test.Passes text
  · obtain ⟨test, token, found⟩ := passed
    rw [classifyBy_of_passes (complete test) found,
      classifyBy_of_passes (othersComplete test) found]
  · have fails := not_exists.mp passed
    rw [classifyBy_of_fails fails, classifyBy_of_fails fails]

/-! ## References -/

/-- A token text passes at most one of the tests, and so it has the same class in whatever order
the tests are made. The labels among them are the names of cells: every reference of a formula
names one, and on every sheet with the formula it is an edge of the reference graph, seen from
both of its ends. -/
theorem tests_exclusive (text : String) (raw : List String) :
    (∀ first second : Test, first.Passes text → second.Passes text → first = second) ∧
    (∀ order : List Test, (∀ test, test ∈ order) → classifyBy order text = classify text) ∧
    ∀ label ∈ Formula.references (Formula.classify raw),
      ∃ address, Address.ofLabel label = .ok address ∧
        ∀ (sheet : Sheet) (reader : Address), sheet.formula? reader = some raw →
          reader ∈ sheet.graph.dependentsOf address ∧
            address ∈ sheet.graph.precedentsOf reader := by
  refine ⟨fun first second => Test.Passes.unique, fun order complete => ?_, ?_⟩
  · rw [classify_eq_classifyBy]
    exact classifyBy_eq complete fun test => by cases test <;> decide
  · intro label refers
    obtain ⟨address, named⟩ :=
      Address.isLabel_iff.mp (Formula.isLabel_of_mem_references refers)
    refine ⟨address, named, fun sheet reader formula => ?_⟩
    obtain ⟨cell, held, rfl⟩ := Option.map_eq_some_iff.mp formula
    obtain ⟨precedent, found, reads⟩ := Sheet.reads_of_mem_references held refers
    rw [Address.ofLabel?, named] at found
    cases found
    exact ⟨Sheet.mem_dependentsOf_graph.mpr reads, Sheet.mem_precedentsOf_graph.mpr reads⟩

/-- A name that could pass for a number by its letters, with the tests made the other way round,
and a formula that names its cells in small letters and with leading zeros. -/
theorem tests_exclusive_reversed :
    let order : List Test := [.label, .number, .operator, .group]
    let raw := ["e05", "*", "INF1", "+", " 1e5 ", "nan"]
    let sheet := (Sheet.empty.setFormulaAt ⟨0, 0⟩ raw).setFormulaAt ⟨4, 4⟩ ["A1"]
    Test.label.Passes "e05" ∧ (∀ test, test ∈ order) ∧
    (∀ second : Test, second.Passes "e05" → .label = second) ∧
    classifyBy order "e05" = .reference "e05" ∧ classifyBy order "e05" = classify "e05" ∧
    "e05" ∈ Formula.references (Formula.classify raw) ∧ sheet.formula? ⟨0, 0⟩ = some raw ∧
    ∃ address, Address.ofLabel "e05" = .ok address ∧
      ⟨0, 0⟩ ∈ sheet.graph.dependentsOf address ∧ address ∈ sheet.graph.precedentsOf ⟨0, 0⟩ := by
  intro order raw sheet
  have passes : Test.label.Passes "e05" := ⟨.reference "e05", by decide +kernel⟩
  have complete : ∀ test, test ∈ order := fun test => by cases test <;> decide
  have refers : "e05" ∈ Formula.references (Formula.classify raw) := by decide +kernel
  have formula : sheet.formula? ⟨0, 0⟩ = some raw := by decide +kernel
  obtain ⟨unique, sameClass, edges⟩ := tests_exclusive "e05" raw
  obtain ⟨address, named, edge⟩ := edges "e05" refers
  exact ⟨passes, complete, fun second => unique .label second passes, by decide +kernel,
    sameClass order complete, refers, formula, address, named, edge sheet ⟨0, 0⟩ formula⟩

end Spreadsheet.Token
