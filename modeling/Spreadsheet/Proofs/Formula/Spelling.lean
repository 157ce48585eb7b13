import Spreadsheet.Proofs.Address.Label
import Spreadsheet.Proofs.Formula.Dependence
import Spreadsheet.Proofs.Formula.Exclusion

/-!
# Other spellings of references

Writing other labels for the references of a formula is the same as looking the labels up under
other names: no step of an evaluation looks at a label except to resolve it. Each reference has
a canonical spelling, the canonical label of the cell that it names; formulas that differ in how
they spell references become equal in it.
-/

namespace Spreadsheet

/-! ## Relabelling -/

/-- The token with another label if it is a reference. -/
def Token.relabel (rename : String → String) : Token → Token
  | .reference label => .reference (rename label)
  | token => token

namespace Token

variable {rename : String → String}

/-- Relabelling makes no token an operator. -/
@[simp] theorem isOperator_relabel (token : Token) :
    (token.relabel rename).isOperator = token.isOperator := by
  cases token <;> rfl

/-- Relabelling makes no token an operand. -/
@[simp] theorem isOperand_relabel (token : Token) :
    (token.relabel rename).isOperand = token.isOperand := by
  cases token <;> rfl

/-- Relabelling leaves numbers as they are. -/
@[simp] theorem number?_relabel (token : Token) :
    (token.relabel rename).number? = token.number? := by
  cases token <;> rfl

/-- Relabelling renames the label of a reference. -/
@[simp] theorem reference?_relabel (token : Token) :
    (token.relabel rename).reference? = token.reference?.map rename := by
  cases token <;> rfl

end Token

namespace Formula

variable {rename : String → String}

/-- The references of a relabelled formula are renamed. -/
theorem references_map_relabel (tokens : List Token) :
    references (tokens.map (Token.relabel rename)) = (references tokens).map rename := by
  simp only [references, List.filterMap_map, List.map_filterMap, Function.comp_def,
    Token.reference?_relabel]

/-- Relabelling leaves an operator too many where it was. -/
theorem hasDanglingOperator_map_relabel (tokens : List Token) :
    hasDanglingOperator (tokens.map (Token.relabel rename)) = hasDanglingOperator tokens := by
  simp [hasDanglingOperator, ← List.map_dropLast, Option.any_map]

/-- Relabelling leaves an empty group empty. -/
theorem isEmptyGroup_map_relabel (tokens : List Token) :
    isEmptyGroup (tokens.map (Token.relabel rename)) = isEmptyGroup tokens := by
  rcases tokens with _ | ⟨first, _ | ⟨second, _ | ⟨third, rest⟩⟩⟩
  · rfl
  · cases first <;> rfl
  · cases first <;> cases second <;> rfl
  · cases first <;> cases second <;> rfl

/-- Relabelling leaves a division by a spelled-out zero where it was. -/
theorem endsInZeroDivision_map_relabel (tokens : List Token) :
    endsInZeroDivision (tokens.map (Token.relabel rename)) = endsInZeroDivision tokens := by
  simp only [endsInZeroDivision, ← List.map_reverse]
  rcases tokens.reverse with _ | ⟨last, _ | ⟨before, rest⟩⟩
  · rfl
  · cases last <;> rfl
  · cases last with
    | number value =>
      cases before with
      | operator operator => cases operator <;> rfl
      | _ => rfl
    | _ => rfl

/-- Relabelling leaves the operands of a formula where they were. -/
theorem any_isOperand_map_relabel (tokens : List Token) :
    (tokens.map (Token.relabel rename)).any Token.isOperand = tokens.any Token.isOperand := by
  simp only [List.any_map, Function.comp_def, Token.isOperand_relabel]

/-- A relabelled token steps as the token does in the store with renamed labels. -/
theorem step_relabel (store : Store) (machine : Machine) (token : Token) :
    step store machine (token.relabel rename) =
      step (fun label => store (rename label)) machine token := by
  cases token <;> rfl

/-- A relabelled formula is scanned as the formula is in the store with renamed labels. -/
theorem scan_map_relabel (store : Store) (machine : Machine) (tokens : List Token) :
    scan store machine (tokens.map (Token.relabel rename)) =
      scan (fun label => store (rename label)) machine tokens := by
  rw [scan, List.foldlM_map]
  simp only [step_relabel]
  rfl

/-- The report looks at a first token that is a number, which relabelling leaves as it is. -/
theorem report_head?_map_relabel (tokens : List Token) (machine : Machine) :
    report (tokens.map (Token.relabel rename)).head? machine = report tokens.head? machine := by
  cases tokens with
  | nil => rfl
  | cons first rest => cases first <;> rfl

/-- A relabelled formula runs as the formula does in the store with renamed labels. -/
theorem run_map_relabel (store : Store) (repair : Option CellError) (tokens : List Token) :
    run store repair (tokens.map (Token.relabel rename)) =
      run (fun label => store (rename label)) repair tokens := by
  simp only [run, scan_map_relabel, report_head?_map_relabel]

/-- Evaluating a formula with other labels is evaluating it with the labels looked up under
their new names. -/
theorem evaluate_map_relabel (store : Store) (tokens : List Token) :
    evaluate store (tokens.map (Token.relabel rename)) =
      evaluate (fun label => store (rename label)) tokens := by
  have shorter : (tokens.map (Token.relabel rename)).dropLast =
      tokens.dropLast.map (Token.relabel rename) := List.map_dropLast.symm
  simp only [evaluate, hasDanglingOperator_map_relabel, List.isEmpty_map]
  cases hasDanglingOperator tokens with
  | false =>
    simp only [Bool.false_eq_true, if_false, isEmptyGroup_map_relabel,
      endsInZeroDivision_map_relabel, any_isOperand_map_relabel, run_map_relabel]
  | true =>
    simp only [if_true, shorter, isEmptyGroup_map_relabel, endsInZeroDivision_map_relabel,
      any_isOperand_map_relabel, run_map_relabel]

end Formula

/-! ## Canonical spellings -/

namespace Token

/-- One token text can stand in another's place: it is the same text, or both are labels that name
the same cell. -/
inductive Respells : String → String → Prop where
  | same (text : String) : Respells text text
  | label {left right : String} {address : Address} (leftNamed : Address.ofLabel left = .ok address)
      (rightNamed : Address.ofLabel right = .ok address) : Respells left right

/-- A token text with the canonical label of the cell that it names, if it names one. -/
def canonicalSpelling (text : String) : String :=
  match Address.ofLabel text with
  | .ok address => address.label
  | .error _ => text

variable {text : String} {address : Address}

/-- A label is spelled as its address is written. -/
theorem canonicalSpelling_of_named (named : Address.ofLabel text = .ok address) :
    canonicalSpelling text = address.label := by
  rw [canonicalSpelling, named]

/-- A text that names no address keeps its spelling. -/
theorem canonicalSpelling_of_refused {problem : LabelError}
    (refused : Address.ofLabel text = .error problem) : canonicalSpelling text = text := by
  rw [canonicalSpelling, refused]

/-- The canonical spelling names the same cell. -/
theorem ofLabel_canonicalSpelling_of_named (named : Address.ofLabel text = .ok address) :
    Address.ofLabel (canonicalSpelling text) = .ok address := by
  rw [canonicalSpelling_of_named named, Address.ofLabel_label (Address.inBounds_of_ofLabel named)]

/-- The canonical spelling of a text names what the text names. -/
theorem ofLabel?_canonicalSpelling (text : String) :
    Address.ofLabel? (canonicalSpelling text) = Address.ofLabel? text := by
  cases read : Address.ofLabel text with
  | error problem => rw [canonicalSpelling_of_refused read]
  | ok address =>
    rw [Address.ofLabel?, Address.ofLabel?, read, ofLabel_canonicalSpelling_of_named read]

/-- Texts that can stand for one another have the same canonical spelling. -/
theorem Respells.canonicalSpelling_eq {left right : String} (respells : Respells left right) :
    canonicalSpelling left = canonicalSpelling right := by
  cases respells with
  | same => rfl
  | label leftNamed rightNamed =>
    rw [canonicalSpelling_of_named leftNamed, canonicalSpelling_of_named rightNamed]

/-- A text that names a cell is a reference. -/
theorem classify_of_named (named : Address.ofLabel text = .ok address) :
    classify text = .reference text := by
  have isLabel : Address.isLabel text = true := Address.isLabel_iff.mpr ⟨address, named⟩
  have found : Test.label.token? text = some (.reference text) := if_pos isLabel
  rw [classify_eq_classifyBy]
  exact classifyBy_of_passes (by decide) found

/-- A reference keeps its label as it was written. -/
theorem eq_of_classify_eq_reference {label : String}
    (classified : classify text = .reference label) : text = label := by
  unfold classify at classified
  split at classified
  · cases classified
  split at classified
  · cases classified
  split at classified
  · cases classified
  split at classified
  · cases classified
  split at classified
  · cases classified
    rfl
  · cases classified

/-- The canonical spelling of a token text is the token with the canonical label. -/
theorem classify_canonicalSpelling (text : String) :
    classify (canonicalSpelling text) = (classify text).relabel canonicalSpelling := by
  cases read : Address.ofLabel text with
  | ok address =>
    rw [classify_of_named read, classify_of_named (ofLabel_canonicalSpelling_of_named read)]
    rfl
  | error problem =>
    rw [canonicalSpelling_of_refused read]
    cases classified : classify text with
    | reference label =>
      have isReference : (classify text).reference? = some label := by rw [classified, reference?]
      obtain ⟨address, named⟩ := Address.isLabel_iff.mp (isLabel_of_reference? isReference)
      rw [eq_of_classify_eq_reference classified, named] at read
      cases read
    | _ => rfl

end Token

namespace Formula

/-- The raw formula with its references in their canonical spelling. -/
def canonicalSpelling (raw : List String) : List String :=
  raw.map Token.canonicalSpelling

/-- A formula in canonical spelling is classified as the formula, relabelled. -/
theorem classify_canonicalSpelling (raw : List String) :
    classify (canonicalSpelling raw) =
      (classify raw).map (Token.relabel Token.canonicalSpelling) := by
  simp only [classify, canonicalSpelling, List.map_map, Function.comp_def,
    Token.classify_canonicalSpelling]

/-- Formulas that differ in how they spell references have the same canonical spelling. -/
theorem canonicalSpelling_eq_of_respells {left right : List String}
    (respells : List.Forall₂ Token.Respells left right) :
    canonicalSpelling left = canonicalSpelling right := by
  induction respells with
  | nil => rfl
  | cons first _ inductionHypothesis =>
    simp only [canonicalSpelling, List.map_cons] at inductionHypothesis ⊢
    rw [first.canonicalSpelling_eq, inductionHypothesis]

end Formula

end Spreadsheet
