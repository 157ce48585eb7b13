import Spreadsheet.Cell.Record
import Spreadsheet.Proofs.Cell.Error
import Spreadsheet.Proofs.Json.Rereading

/-!
# Cells are read back from their texts

The data of a cell can always be written, and the text is read as those data. Formula and value
come back as they were, whatever the value is; the error comes back as what its display text
stands for. So the whole cell comes back exactly if its error is canonical, and a cell that was
read from any text has such an error.
-/

namespace Spreadsheet.Cell

/-! ## The members of a cell -/

/-- A finite value is written as a number, and any other as a text that is read as the value. -/
theorem valueToJson_cases (value : Float) :
    (value.isFinite = true ∧ valueToJson value = .number value) ∨
      ∃ text, valueToJson value = .text text ∧ Decimal.readFloat? text.toList = some value := by
  have packed := Binary64.pack_unpack value
  have isFinite : value.isFinite = value.toModel.unpack.isFinite := rfl
  unfold valueToJson
  cases unpacked : value.toModel.unpack with
  | notANumber =>
    rw [unpacked] at packed
    refine .inr ⟨"NaN", rfl, packed ▸ ?_⟩
    decide +kernel
  | infinity sign =>
    rw [unpacked] at packed
    cases sign with
    | positive =>
      refine .inr ⟨"inf", rfl, packed ▸ ?_⟩
      decide +kernel
    | negative =>
      refine .inr ⟨"-inf", rfl, packed ▸ ?_⟩
      decide +kernel
  | zero sign =>
    rw [unpacked] at isFinite
    exact .inl ⟨isFinite, rfl⟩
  | finite sign significand exponent positive =>
    rw [unpacked] at isFinite
    exact .inl ⟨isFinite, rfl⟩

/-- A value is read back, also if it is infinite, not a number or a zero with a sign. -/
theorem readValue?_valueToJson (value : Float) : readValue? (valueToJson value) = some value := by
  rcases valueToJson_cases value with ⟨finite, written⟩ | ⟨text, written, read⟩
  · rw [written]
    exact if_pos finite
  · rw [written]
    exact read

/-- Values are written as text that is read back. -/
theorem isWritable_valueToJson (value : Float) : (valueToJson value).IsWritable := by
  rcases valueToJson_cases value with ⟨finite, written⟩ | ⟨text, written, -⟩
  · rw [written]
    exact .number finite
  · rw [written]
    exact .text text

/-- A list of texts is read back. -/
theorem texts?_list (formula : List String) :
    Json.texts? (.list (formula.map .text)) = some formula := by
  rw [Json.texts?]
  induction formula with
  | nil => rfl
  | cons text rest inductionHypothesis =>
    rw [List.map_cons, List.mapM_cons, inductionHypothesis]
    rfl

/-- Only canonical errors are read. -/
theorem isCanonical_of_readError? {record : Json} {error : Option CellError}
    (read : readError? record = some error) : ∀ held ∈ error, held.IsCanonical := by
  unfold readError? at read
  split at read
  · cases read
    rintro held ⟨⟩
  · rename_i text
    obtain ⟨found, isRead, rfl⟩ := Option.map_eq_some_iff.mp read
    rintro held ⟨⟩
    exact ⟨text, isRead⟩
  · cases read

/-! ## The data of a cell -/

/-- Cells are written as text that is read back. -/
theorem isWritable_toJson (cell : Cell) : cell.toJson.IsWritable := by
  have isFormula : (Json.list (cell.formula.map .text)).IsWritable := by
    refine .list fun item held => ?_
    obtain ⟨text, -, rfl⟩ := List.mem_map.mp held
    exact .text text
  refine .object fun member held => ?_
  rcases List.mem_append.mp held with isMember | isError
  · rcases List.mem_cons.mp isMember with rfl | isValue
    · exact isFormula
    · rw [List.mem_singleton.mp isValue]
      exact isWritable_valueToJson cell.outcome.value
  · obtain ⟨error, -, rfl⟩ := Option.map_eq_some_iff.mp (Option.mem_toList.mp isError)
    exact .text error.text

/-- A cell is written with each of its members once. -/
theorem isUnrepeated_toJson (cell : Cell) : isUnrepeated cell.toJson = true := by
  obtain ⟨formula, value, error⟩ := cell
  cases error <;> simp [isUnrepeated, toJson, members]

/-- The error as which the data of a cell give the cell's error. -/
def rereadError? : Option CellError → Option (Option CellError)
  | none => some none
  | some error => (CellError.ofText? error.text).map some

/-- The data of a cell are those of the cell with its error read from its text. -/
theorem ofJson?_toJson (cell : Cell) :
    ofJson? cell.toJson =
      (rereadError? cell.outcome.error).map fun error =>
        { cell with outcome := { cell.outcome with error } } := by
  obtain ⟨formula, value, error⟩ := cell
  cases error with
  | none =>
    simp [ofJson?, toJson, members, Json.member?, ofMembers?, readMember?, texts?_list,
      readValue?_valueToJson, rereadError?]
  | some error =>
    simp [ofJson?, toJson, members, Json.member?, ofMembers?, readMember?, texts?_list,
      readValue?_valueToJson, rereadError?, readError?]
    cases CellError.ofText? error.text <;> rfl

/-- The text of a cell is read as the cell with its error read from its text. -/
theorem read?_text (cell : Cell) :
    read? cell.text =
      (rereadError? cell.outcome.error).map fun error =>
        { cell with outcome := { cell.outcome with error } } := by
  have written : Json.read? cell.text = some cell.toJson :=
    Json.read?_compact (isWritable_toJson cell)
  rw [read?, written, Option.bind_eq_bind, Option.bind_some, if_pos (isUnrepeated_toJson cell),
    ofJson?_toJson]

/-- A cell that is read from data has a canonical error or none. -/
theorem isCanonical_of_ofJson? {record : Json} {cell : Cell} (read : ofJson? record = some cell) :
    ∀ error ∈ cell.outcome.error, error.IsCanonical := by
  have ofMembers {formula value error : Option Json}
      (read : ofMembers? formula value error = some cell) :
      ∀ held ∈ cell.outcome.error, held.IsCanonical := by
    obtain ⟨tokens, -, read⟩ := Option.bind_eq_some_iff.mp read
    obtain ⟨number, -, read⟩ := Option.bind_eq_some_iff.mp read
    obtain ⟨found, isError, read⟩ := Option.bind_eq_some_iff.mp read
    cases read
    cases error with
    | none =>
      cases isError
      rintro held ⟨⟩
    | some content => exact isCanonical_of_readError? isError
  unfold ofJson? at read
  split at read
  · exact ofMembers read
  · split at read
    · exact ofMembers read
    · cases read
  · cases read

/-- A cell's error comes back exactly if it is canonical. -/
theorem rereadError?_eq_self_iff {error : Option CellError} :
    rereadError? error = some error ↔ ∀ held ∈ error, held.IsCanonical := by
  cases error with
  | none => simp [rereadError?]
  | some error =>
    simp [rereadError?, CellError.isCanonical_iff_ofText?_text]

/-- The text of a cell is read as the same cell exactly if the cell's error is canonical. -/
theorem read?_text_eq_self_iff (cell : Cell) :
    read? cell.text = some cell ↔ ∀ error ∈ cell.outcome.error, error.IsCanonical := by
  obtain ⟨formula, value, error⟩ := cell
  rw [read?_text, ← rereadError?_eq_self_iff]
  cases rereadError? error <;> simp

/-- A cell with an empty error text is written, but its text is refused. -/
theorem read?_text_of_emptyError {cell : Cell} (empty : cell.outcome.error = some (.other "")) :
    read? cell.text = none := by
  rw [read?_text, empty]
  rfl

/-- A cell that is read from a text has a canonical error or none. -/
theorem isCanonical_of_read? {text : String} {cell : Cell} (read : read? text = some cell) :
    ∀ error ∈ cell.outcome.error, error.IsCanonical := by
  obtain ⟨record, -, read⟩ := Option.bind_eq_some_iff.mp read
  split at read
  · exact isCanonical_of_ofJson? read
  · cases read

/-- Reading the text of a cell gives the cell exactly if its error is absent or canonical, which
all errors are but foreign ones with the empty text, with which the text is refused, or with the
text of a kind. A cell that was read from some text is such a cell, so writing it and reading it
again gives the same cell. -/
theorem reread_exact :
    (∀ cell : Cell,
      read? cell.text = some cell ↔ ∀ error ∈ cell.outcome.error, error.IsCanonical) ∧
    (∀ error : CellError, error.IsCanonical ↔
      error ≠ .other "" ∧ ∀ kind ∈ CellError.kinds, error ≠ .other kind.text) ∧
    (∀ cell : Cell, cell.outcome.error = some (.other "") → read? cell.text = none) ∧
    (∀ (text : String) (cell : Cell), read? text = some cell →
      (∀ error ∈ cell.outcome.error, error.IsCanonical) ∧ read? cell.text = some cell) := by
  refine ⟨read?_text_eq_self_iff, fun _ => CellError.isCanonical_iff,
    fun _ => read?_text_of_emptyError, fun text cell read => ?_⟩
  have canonical := isCanonical_of_read? read
  exact ⟨canonical, (read?_text_eq_self_iff cell).mpr canonical⟩

/-- The text with an empty error is refused; a cell read from a list comes back with its negative
zero and its error. -/
theorem reread_exact_division :
    (⟨["A1"], ⟨1.5, some (.other "")⟩⟩ : Cell).text =
      "\x7b\"formula\":[\"A1\"],\"value\":1.5,\"error\":\"\"\x7d" ∧
    read? (⟨["A1"], ⟨1.5, some (.other "")⟩⟩ : Cell).text = none ∧
    read? "[ [\"1\", \"/\", \"0\"], -0, \"#DIV/0!\" ]" =
      some ⟨["1", "/", "0"], ⟨-0.0, some .divideByZero⟩⟩ ∧
    read? (⟨["1", "/", "0"], ⟨-0.0, some .divideByZero⟩⟩ : Cell).text =
      some ⟨["1", "/", "0"], ⟨-0.0, some .divideByZero⟩⟩ := by
  have read : read? "[ [\"1\", \"/\", \"0\"], -0, \"#DIV/0!\" ]" =
      some ⟨["1", "/", "0"], ⟨-0.0, some .divideByZero⟩⟩ := by decide +kernel
  exact ⟨by decide +kernel, reread_exact.2.2.1 _ rfl, read, (reread_exact.2.2.2 _ _ read).2⟩

end Spreadsheet.Cell
