import Spreadsheet.CellError

/-!
# Errors and their texts

The text of an error also says which kind it is. An error is canonical if it is what some text
is read as; these errors are read back from their own texts, and the others are exactly the
foreign texts that are empty or are the display text of a kind.
-/

namespace Spreadsheet.CellError

/-- Some text is read as the error. -/
def IsCanonical (error : CellError) : Prop :=
  ∃ text, ofText? text = some error

/-- The display text of a kind stands for the kind. -/
theorem ofText?_kind {kind : CellError} (isKind : kind ∈ kinds) :
    ofText? kind.text = some kind := by
  simp only [kinds, List.mem_cons, List.not_mem_nil, or_false] at isKind
  rcases isKind with rfl | rfl | rfl | rfl | rfl | rfl | rfl <;> rfl

/-- An error is a kind or foreign. -/
theorem mem_kinds_or_other (error : CellError) :
    error ∈ kinds ∨ ∃ text, error = .other text := by
  cases error with
  | other text => exact .inr ⟨text, rfl⟩
  | _ => exact .inl (by decide)

/-- A foreign error is none of the kinds. -/
theorem other_not_mem_kinds (text : String) : .other text ∉ kinds := by
  simp [kinds]

/-- Foreign text is kept, unless it stands for a kind or for none. -/
theorem ofText?_foreign {text : String} (filled : text ≠ "")
    (foreign : ∀ kind ∈ kinds, kind.text ≠ text) : ofText? text = some (.other text) := by
  have unknown : (kinds.find? fun kind => kind.text = text) = none :=
    List.find?_eq_none.mpr fun kind isKind => by simpa using foreign kind isKind
  rw [ofText?, if_neg filled, unknown]
  rfl

/-- An error that is read from a text has that text. -/
theorem text_of_ofText? {text : String} {error : CellError} (read : ofText? text = some error) :
    error.text = text := by
  by_cases known : ∃ kind ∈ kinds, kind.text = text
  · obtain ⟨kind, isKind, rfl⟩ := known
    rw [ofText?_kind isKind] at read
    cases read
    rfl
  · have filled : text ≠ "" := by
      rintro rfl
      cases read
    rw [ofText?_foreign filled fun kind isKind same => known ⟨kind, isKind, same⟩] at read
    cases read
    rfl

/-- The canonical errors are those that are read back from their own texts. -/
theorem isCanonical_iff_ofText?_text {error : CellError} :
    error.IsCanonical ↔ ofText? error.text = some error := by
  constructor
  · rintro ⟨text, read⟩
    rwa [text_of_ofText? read]
  · intro read
    exact ⟨error.text, read⟩

/-- The errors that are not canonical are the foreign texts that stand for none or for a kind. -/
theorem isCanonical_iff {error : CellError} :
    error.IsCanonical ↔ error ≠ .other "" ∧ ∀ kind ∈ kinds, error ≠ .other kind.text := by
  rw [isCanonical_iff_ofText?_text]
  constructor
  · intro read
    constructor
    · rintro rfl
      cases read
    · rintro kind isKind rfl
      rw [text, ofText?_kind isKind, Option.some.injEq] at read
      exact other_not_mem_kinds kind.text (read ▸ isKind)
  · rintro ⟨notEmpty, notKind⟩
    rcases mem_kinds_or_other error with isKind | ⟨foreign, rfl⟩
    · exact ofText?_kind isKind
    · refine ofText?_foreign (fun empty => notEmpty (congrArg other empty)) ?_
      intro kind isKind same
      exact notKind kind isKind (congrArg other same.symm)

end Spreadsheet.CellError
