import Spreadsheet.Formula.Evaluation

/-!
# What an evaluation reads

A formula sees the store only through what its references resolve to, so two stores
that resolve them alike give the same outcome, for every formula.
-/

namespace Spreadsheet

/-- Only texts that name a cell are classified as references. -/
theorem Token.isLabel_of_reference? {text label : String}
    (isReference : (classify text).reference? = some label) : Address.isLabel label = true := by
  unfold classify at isReference
  split at isReference
  · cases isReference
  split at isReference
  · cases isReference
  split at isReference
  · cases isReference
  split at isReference
  · cases isReference
  split at isReference
  · rename_i isLabel
    cases isReference
    exact isLabel
  · cases isReference

namespace Formula

variable {left right : Store}

/-- Whatever a formula refers to is the name of a cell. -/
theorem isLabel_of_mem_references {raw : List String} {label : String}
    (refers : label ∈ references (classify raw)) : Address.isLabel label = true := by
  obtain ⟨token, classified, isReference⟩ := List.mem_filterMap.mp refers
  obtain ⟨text, -, rfl⟩ := List.mem_map.mp classified
  exact Token.isLabel_of_reference? isReference

/-- A label is referred to by the first token or by a later one. -/
theorem mem_references_cons {label : String} {token : Token} {tokens : List Token} :
    label ∈ references (token :: tokens) ↔
      label ∈ references [token] ∨ label ∈ references tokens := by
  have split : references (token :: tokens) = references [token] ++ references tokens :=
    @List.filterMap_append _ _ [token] tokens Token.reference?
  rw [split, List.mem_append]

/-- Dropping the last token adds no reference. -/
theorem references_dropLast_subset (tokens : List Token) :
    references tokens.dropLast ⊆ references tokens :=
  ((List.dropLast_sublist tokens).filterMap Token.reference?).subset

/-- Stores that resolve the reference of a token alike step alike. -/
theorem step_congr (token : Token)
    (alike : ∀ label ∈ references [token], left.resolve label = right.resolve label)
    (machine : Machine) : step left machine token = step right machine token := by
  cases token with
  | reference label =>
    rw [step, step, alike label (List.mem_singleton_self label)]
  | _ => rfl

/-- Stores that resolve the references of a formula alike scan it alike. -/
theorem scan_congr {tokens : List Token}
    (alike : ∀ label ∈ references tokens, left.resolve label = right.resolve label)
    (machine : Machine) : scan left machine tokens = scan right machine tokens := by
  induction tokens generalizing machine with
  | nil => rfl
  | cons token tokens inductionHypothesis =>
    have headAlike := step_congr token fun label member =>
      alike label (mem_references_cons.mpr (.inl member))
    have tailAlike := inductionHypothesis fun label member =>
      alike label (mem_references_cons.mpr (.inr member))
    simp only [scan] at tailAlike ⊢
    rw [List.foldlM_cons, List.foldlM_cons, headAlike]
    simp only [tailAlike]

/-- Stores that resolve the references of a formula alike run it alike. -/
theorem run_congr {tokens : List Token}
    (alike : ∀ label ∈ references tokens, left.resolve label = right.resolve label)
    (repair : Option CellError) : run left repair tokens = run right repair tokens := by
  rw [run, run, scan_congr alike]

/-- Stores that resolve the references of a formula alike give it the same outcome. -/
theorem evaluate_congr_of_resolve {tokens : List Token}
    (alike : ∀ label ∈ references tokens, left.resolve label = right.resolve label) :
    evaluate left tokens = evaluate right tokens := by
  have shorter := run_congr fun label member =>
    alike label (references_dropLast_subset tokens member)
  have whole := run_congr alike
  cases dangling : hasDanglingOperator tokens <;> simp [evaluate, dangling, shorter, whole]

end Formula

end Spreadsheet
