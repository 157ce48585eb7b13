import Spreadsheet.Proofs.Address.Label
import Spreadsheet.Proofs.Cell.Record
import Spreadsheet.Proofs.Sheet.Attribution
import Spreadsheet.Proofs.Sheet.Loading
import Spreadsheet.Sheet.Report

/-!
# Reports can be read back

A sheet that was loaded and calculated in full has cells only at addresses that a label can name,
and no foreign errors. Nothing that is reported of such a cell calls for quotes, so its line comes
apart at the commas; and different cells have different labels, so none is lost among the data.
-/

namespace Spreadsheet

/-- A sheet whose reports say everything: every cell has a label, and every error a text that
stands for it. -/
structure Sheet.IsReportable (sheet : Sheet) : Prop where
  inBounds : ∀ address cell, sheet.cell? address = some cell → address.InBounds
  isKind : ∀ address cell, sheet.cell? address = some cell →
    ∀ error ∈ cell.outcome.error, error ∈ CellError.kinds

namespace Report

/-! ## Fields without quotes -/

/-- Nothing in a text calls for quotes. -/
def IsBare (text : String) : Prop :=
  text.toList.any needsQuotes = false

/-- A text is bare if none of its characters calls for quotes. -/
theorem isBare_iff {text : String} :
    IsBare text ↔ ∀ character ∈ text.toList, needsQuotes character = false := by
  simp only [IsBare, List.any_eq_false, Bool.not_eq_true]

/-- A text is bare if its characters are of kinds that no sign of the format has. -/
theorem isBare_of {kind : Char → Bool} {text : String}
    (areKind : ∀ character ∈ text.toList, kind character = true)
    (others : [',', '"', '\n', '\r'].any kind = false) : IsBare text := by
  refine isBare_iff.mpr fun character member => Bool.eq_false_iff.mpr fun quoted => ?_
  have listed : character ∈ [',', '"', '\n', '\r'] := by
    simpa [needsQuotes, or_assoc] using quoted
  exact List.any_eq_false.mp others character listed (areKind character member)

/-- The label of an address needs no quotes. -/
theorem isBare_label (address : Address) : IsBare address.label := by
  have areAlphanumeric : ∀ character ∈ address.label.toList, character.isAlphanum = true := by
    intro character member
    rw [Address.label, String.toList_ofList, Address.labelCharacters, List.mem_append] at member
    rcases member with isLetter | isDigit
    · simp [Char.isAlphanum, Column.isAlpha_of_mem_letters isLetter]
    · simp [Char.isAlphanum, Decimal.isDigit_of_mem_digits isDigit]
  exact isBare_of areAlphanumeric rfl

/-- The text of a value needs no quotes, whatever the value. -/
theorem isBare_valueText (value : Float) : IsBare (valueText value) := by
  by_cases finite : value.isFinite = true
  · obtain ⟨negative, spelling, text, -⟩ := valueLayout.exists_spelling_of_finite finite
    have areNumber : ∀ character ∈ (valueText value).toList,
        Json.Lexeme.isNumberCharacter character = true := by
      intro character member
      rw [valueText, Decimal.Layout.render, String.toList_ofList, text] at member
      exact Json.Lexeme.isNumberCharacter_of_mem_signed member
    exact isBare_of areNumber rfl
  -- What is not finite is written as one of three words.
  · have notFinite : ¬ value.toModel.unpack.isFinite = true := finite
    rw [IsBare, valueText, Decimal.Layout.render, String.toList_ofList, Decimal.Layout.text]
    cases unpacked : value.toModel.unpack with
    | notANumber => rfl
    | infinity sign => cases sign <;> rfl
    | zero sign =>
      rw [unpacked] at notFinite
      exact absurd rfl notFinite
    | finite sign significand exponent positive =>
      rw [unpacked] at notFinite
      exact absurd rfl notFinite

/-- The text of an error of the program's own needs no quotes. -/
theorem isBare_errorText {error : Option CellError}
    (isKind : ∀ held ∈ error, held ∈ CellError.kinds) : IsBare (errorText error) := by
  cases error with
  | none => rfl
  | some held =>
    have bare : CellError.kinds.all fun kind => !kind.text.toList.any needsQuotes := by rfl
    exact (Bool.not_eq_true' _).mp (List.all_eq_true.mp bare held (isKind held rfl))

/-- A bare text is written as it is. -/
theorem field_of_isBare {text : String} (bare : IsBare text) : field text = text.toList := by
  rw [field, if_neg (Bool.eq_false_iff.mp bare)]

/-- The text of an error, or of none, stands for it. -/
theorem ofText?_errorText {error : Option CellError}
    (isKind : ∀ held ∈ error, held ∈ CellError.kinds) :
    CellError.ofText? (errorText error) = error := by
  cases error with
  | none => rfl
  | some held => exact CellError.ofText?_kind (isKind held rfl)

/-! ## Lines -/

/-- A line that says what is stored at an address. Between its commas stand a label of the address,
the value, and a text that stands for the error; nothing is quoted. -/
structure LineGives (line : List Char) (entry : Address × Cell) : Prop where
  unquoted : ∀ character ∈ line, needsQuotes character = true → character = ','
  fields : ∃ label value error : String,
    line.splitOn ',' = [label.toList, value.toList, error.toList] ∧
      Address.ofLabel label = .ok entry.1 ∧ value = valueText entry.2.outcome.value ∧
      CellError.ofText? error = entry.2.outcome.error

/-- The fields of a cell on a line, without its end. -/
def rowText (address : Address) (cell : Cell) : List Char :=
  [','].intercalate ((row address cell).map String.toList)

/-- The line of a cell is its fields between commas, and an end of line. -/
theorem line_row {address : Address} {cell : Cell}
    (isKind : ∀ error ∈ cell.outcome.error, error ∈ CellError.kinds) :
    line (row address cell) = rowText address cell ++ ['\n'] := by
  simp only [line, rowText, row, List.map_cons, List.map_nil,
    field_of_isBare (isBare_label address), field_of_isBare (isBare_valueText _),
    field_of_isBare (isBare_errorText isKind)]

/-- The line of a cell says what the cell has. -/
theorem lineGives_rowText {address : Address} {cell : Cell} (inBounds : address.InBounds)
    (isKind : ∀ error ∈ cell.outcome.error, error ∈ CellError.kinds) :
    LineGives (rowText address cell) (address, cell) := by
  have bare : ∀ field ∈ row address cell, IsBare field := by
    simp only [row, List.forall_mem_cons, List.not_mem_nil, false_implies, implies_true, and_true]
    exact ⟨isBare_label address, isBare_valueText _, isBare_errorText isKind⟩
  constructor
  · intro character member quoted
    have notInField : ∀ field ∈ row address cell, character ∉ field.toList := by
      intro field isField held
      rw [isBare_iff.mp (bare field isField) character held] at quoted
      cases quoted
    simp only [row, List.forall_mem_cons] at notInField
    simp only [rowText, row, List.map_cons, List.map_nil, List.intercalate_cons_cons,
      List.intercalate_singleton, List.mem_append, List.mem_singleton] at member
    tauto
  · refine ⟨address.label, valueText cell.outcome.value, errorText cell.outcome.error, ?_,
      Address.ofLabel_label inBounds, rfl, ofText?_errorText isKind⟩
    refine List.splitOn_intercalate ',' (fun field member isComma => ?_) (List.cons_ne_nil _ _)
    obtain ⟨text, isField, rfl⟩ := List.mem_map.mp member
    cases isBare_iff.mp (bare text isField) ',' isComma

/-- A text that gives each cell of a sheet on a line of its own, row by row behind a header. -/
def IsTable (text : String) (sheet : Sheet) : Prop :=
  ∃ (lines : List (List Char)) (entries : List (Address × Cell)),
    text.toList.splitOn '\n' = "label,value,error".toList :: (lines ++ [[]]) ∧
      List.Forall₂ LineGives lines entries ∧
      (entries.Pairwise fun left right => left.1.row < right.1.row ∨
        left.1.row = right.1.row ∧ left.1.column < right.1.column) ∧
      ∀ address cell, (address, cell) ∈ entries ↔ sheet.cell? address = some cell

/-- Lines that each end are the lines between the ends, with nothing behind the last. -/
theorem flatMap_ended (ending : Char) (lines : List (List Char)) :
    lines.flatMap (· ++ [ending]) = [ending].intercalate (lines ++ [[]]) := by
  induction lines with
  | nil => rfl
  | cons first others inductionHypothesis =>
    rw [List.flatMap_cons, inductionHypothesis, List.cons_append,
      List.intercalate_cons_of_ne_nil (by simp)]

/-! ## Data -/

/-- The cells that members give under their names; of members with one name the last counts. -/
def readCells? (members : List (String × Json)) : Option (Std.TreeMap String Cell) :=
  members.foldlM (fun cells (label, record) =>
    (Cell.ofJson? record).map fun cell => cells.insert label cell) ∅

/-- A text that gives each cell of a sheet exactly once, under a label of its address. -/
def IsData (text : String) (sheet : Sheet) : Prop :=
  ∃ (members : List (String × Json)) (cells : Std.TreeMap String Cell),
    Json.read? text = some (.object [("cells", .object members)]) ∧
      members.length = sheet.size ∧ readCells? members = some cells ∧
      (∀ label cell, cells[label]? = some cell →
        ∃ address, Address.ofLabel label = .ok address ∧ sheet.cell? address = some cell) ∧
      ∀ address cell, sheet.cell? address = some cell →
        ∃! label, Address.ofLabel label = .ok address ∧ cells[label]? = some cell

/-- A cell with an error of the program's own is read back from its record. -/
theorem ofJson?_toJson_of_isKind {cell : Cell}
    (isKind : ∀ error ∈ cell.outcome.error, error ∈ CellError.kinds) :
    Cell.ofJson? cell.toJson = some cell := by
  have canonical : ∀ error ∈ cell.outcome.error, error.IsCanonical := fun error held =>
    ⟨error.text, CellError.ofText?_kind (isKind error held)⟩
  rw [Cell.ofJson?_toJson, Cell.rereadError?_eq_self_iff.mpr canonical, Option.map_some]

/-- Cells put under their labels one after the other. -/
def gather (entries : List (String × Cell)) : Std.TreeMap String Cell :=
  entries.foldl (fun cells (label, cell) => cells.insert label cell) ∅

/-- Gathering entries one by one gives the map made from their list. -/
theorem gather_equiv (entries : List (String × Cell)) :
    (gather entries).Equiv (.ofList entries compare) :=
  Std.TreeMap.ofList_equiv_foldl.symm

/-- No label is given twice. -/
def AreApart (entries : List (String × Cell)) : Prop :=
  entries.Pairwise fun left right => ¬ compare left.1 right.1 = .eq

section Gather

variable {entries : List (String × Cell)} (apart : AreApart entries)

include apart

/-- Cells under different labels are found there, and no others are found. -/
theorem getElem?_gather_iff {label : String} {cell : Cell} :
    (gather entries)[label]? = some cell ↔ (label, cell) ∈ entries := by
  have found {cell : Cell} (member : (label, cell) ∈ entries) :
      (gather entries)[label]? = some cell := by
    rw [(gather_equiv entries).getElem?_eq]
    exact Std.TreeMap.getElem?_ofList_of_mem (Std.compare_eq_iff_eq.mpr rfl) apart member
  refine ⟨fun held => ?_, found⟩
  by_cases named : ∃ other, (label, other) ∈ entries
  · obtain ⟨other, member⟩ := named
    cases held.symm.trans (found member)
    exact member
  · have missing : (entries.map Prod.fst).contains label = false := by
      simpa using fun other member => named ⟨other, member⟩
    rw [(gather_equiv entries).getElem?_eq,
      Std.TreeMap.getElem?_ofList_of_contains_eq_false missing] at held
    cases held

/-- Entries with labels of their own are all kept when they are gathered. -/
theorem size_gather : (gather entries).size = entries.length := by
  rw [(gather_equiv entries).size_eq, Std.TreeMap.size_ofList apart]

end Gather

/-- Written cells are read back and put under their labels. -/
theorem readCells?_written {entries : List (String × Cell)}
    (isKind : ∀ entry ∈ entries, ∀ error ∈ entry.2.outcome.error, error ∈ CellError.kinds) :
    readCells? (entries.map fun (label, cell) => (label, cell.toJson)) =
      some (gather entries) := by
  rw [readCells?, gather]
  -- The induction needs every map that may have been gathered so far.
  generalize (∅ : Std.TreeMap String Cell) = start
  induction entries generalizing start with
  | nil => rfl
  | cons entry entries inductionHypothesis =>
    obtain ⟨label, cell⟩ := entry
    obtain ⟨headKind, tailKinds⟩ := List.forall_mem_cons.mp isKind
    have read := ofJson?_toJson_of_isKind headKind
    rw [List.map_cons, List.foldlM_cons]
    dsimp only at read ⊢
    rw [read]
    exact inductionHypothesis tailKinds _

end Report

namespace Sheet

variable {sheet : Sheet}

/-- The cells under their labels, row by row. -/
def labelled (sheet : Sheet) : List (String × Cell) :=
  sheet.entries.map fun entry => (entry.1.label, entry.2)

/-- The map by labels gathers the cells with the labels of their addresses. -/
theorem byLabel_eq (sheet : Sheet) : sheet.byLabel = Report.gather sheet.labelled := by
  rw [labelled, Report.gather, List.foldl_map]
  rfl

/-- The written cells, in the order of their labels. -/
def members (sheet : Sheet) : List (String × Json) :=
  sheet.byLabel.toList.map fun (label, cell) => (label, cell.toJson)

/-- The record of a sheet has the records of its cells as members. -/
theorem toJson_eq (sheet : Sheet) : sheet.toJson = .object [("cells", .object sheet.members)] :=
  rfl

/-- The record of a sheet is one that can be written. -/
theorem isWritable_toJson (sheet : Sheet) : sheet.toJson.IsWritable := by
  rw [toJson_eq]
  refine .object (List.forall_mem_singleton.mpr (.object fun member held => ?_))
  obtain ⟨entry, -, rfl⟩ := List.mem_map.mp held
  exact Cell.isWritable_toJson entry.2

/-- The text is read back as the data. -/
theorem read?_toJsonText (sheet : Sheet) :
    Json.read? sheet.toJsonText = some (.object [("cells", .object sheet.members)]) :=
  Json.read?_indented sheet.isWritable_toJson (List.forall_mem_singleton.mpr rfl)

/-- Different cells have different labels. -/
theorem areApart_labelled (sheet : Sheet) : Report.AreApart sheet.labelled := by
  refine List.pairwise_map.mpr (sheet.pairwise_entries.imp ?_)
  intro left right before sameLabel
  have same := Address.label_injective (Std.compare_eq_iff_eq.mp sameLabel)
  cases before.symm.trans (Std.compare_eq_iff_eq.mpr same)

/-- The cells by label are those that are stored, each under the label of its address. -/
theorem getElem?_byLabel_iff {label : String} {cell : Cell} :
    sheet.byLabel[label]? = some cell ↔
      ∃ address, sheet.cell? address = some cell ∧ address.label = label := by
  rw [byLabel_eq, Report.getElem?_gather_iff sheet.areApart_labelled]
  simp [labelled]

/-- Under the label of an address stands the cell that is stored there. -/
theorem getElem?_byLabel_label (address : Address) :
    sheet.byLabel[address.label]? = sheet.cell? address := by
  refine Option.ext fun cell => ?_
  rw [getElem?_byLabel_iff]
  constructor
  · rintro ⟨other, held, same⟩
    rwa [Address.label_injective same] at held
  · intro held
    exact ⟨address, held, rfl⟩

/-- The record has one member for each cell. -/
theorem length_members (sheet : Sheet) : sheet.members.length = sheet.size := by
  rw [members, List.length_map, Std.TreeMap.length_toList, byLabel_eq,
    Report.size_gather sheet.areApart_labelled, labelled, List.length_map]
  exact Std.TreeMap.length_toList

namespace IsReportable

variable (reportable : sheet.IsReportable)

include reportable

/-- The text has one line for the header and one for each cell. -/
theorem toList_toCsv :
    sheet.toCsv.toList =
      ("label,value,error".toList ::
        sheet.entries.map fun entry => Report.rowText entry.1 entry.2).flatMap (· ++ ['\n']) := by
  have header : Report.line Report.header = "label,value,error".toList ++ ['\n'] := by decide
  have rows : ∀ entry ∈ sheet.entries, Report.line (Report.row entry.1 entry.2) =
      Report.rowText entry.1 entry.2 ++ ['\n'] := fun (address, cell) member =>
    Report.line_row (reportable.isKind address cell (mem_entries.mp member))
  rw [toCsv, String.toList_ofList, header, List.flatMap_congr rows, List.flatMap_cons,
    List.flatMap_map]

/-- Each line of the report says what its cell has. -/
theorem lineGives {address : Address} {cell : Cell} (member : (address, cell) ∈ sheet.entries) :
    Report.LineGives (Report.rowText address cell) (address, cell) := by
  have held := mem_entries.mp member
  exact Report.lineGives_rowText (reportable.inBounds address cell held)
    (reportable.isKind address cell held)

/-- The text comes apart at the ends of its lines. -/
theorem splitOn_toCsv :
    sheet.toCsv.toList.splitOn '\n' =
      "label,value,error".toList ::
        (sheet.entries.map (fun entry => Report.rowText entry.1 entry.2) ++ [[]]) := by
  rw [reportable.toList_toCsv, Report.flatMap_ended, List.cons_append]
  refine List.splitOn_intercalate '\n' ?_ (List.cons_ne_nil _ _)
  rw [List.forall_mem_cons, List.forall_mem_append, List.forall_mem_map, List.forall_mem_singleton]
  refine ⟨by decide, fun entry member isEnd => ?_, List.not_mem_nil⟩
  cases (reportable.lineGives member).unquoted '\n' isEnd rfl

/-- The members are read back as the cells by label. -/
theorem readCells?_members :
    ∃ cells, Report.readCells? sheet.members = some cells ∧
      ∀ label cell, cells[label]? = some cell ↔
        ∃ address, sheet.cell? address = some cell ∧ address.label = label := by
  have mem_toList {label : String} {cell : Cell} : (label, cell) ∈ sheet.byLabel.toList ↔
      ∃ address, sheet.cell? address = some cell ∧ address.label = label :=
    Std.TreeMap.mem_toList_iff_getElem?_eq_some.trans getElem?_byLabel_iff
  have isKind : ∀ entry ∈ sheet.byLabel.toList,
      ∀ error ∈ entry.2.outcome.error, error ∈ CellError.kinds := by
    rintro ⟨label, cell⟩ member
    obtain ⟨address, held, -⟩ := mem_toList.mp member
    exact reportable.isKind address cell held
  refine ⟨_, Report.readCells?_written isKind, fun label cell => ?_⟩
  rw [Report.getElem?_gather_iff Std.TreeMap.distinct_keys_toList, mem_toList]

/-- The lines of the text give the stored cells. -/
theorem isTable : Report.IsTable sheet.toCsv sheet := by
  refine ⟨_, sheet.entries, reportable.splitOn_toCsv, ?_, ?_, fun _ _ => mem_entries⟩
  · rw [List.forall₂_map_left_iff, List.forall₂_same]
    exact fun (address, cell) member => reportable.lineGives member
  · exact sheet.pairwise_entries.imp (Address.compare_eq_lt_iff _ _).mp

/-- The data give the stored cells. -/
theorem isData : Report.IsData sheet.toJsonText sheet := by
  obtain ⟨cells, read, found⟩ := reportable.readCells?_members
  refine ⟨sheet.members, cells, sheet.read?_toJsonText, sheet.length_members, read, ?_, ?_⟩
  · intro label cell given
    obtain ⟨address, held, rfl⟩ := (found label cell).mp given
    exact ⟨address, Address.ofLabel_label (reportable.inBounds address cell held), held⟩
  · intro address cell held
    have named := Address.ofLabel_label (reportable.inBounds address cell held)
    refine ⟨address.label, ⟨named, (found _ _).mpr ⟨address, held, rfl⟩⟩, ?_⟩
    rintro label ⟨otherNamed, given⟩
    obtain ⟨other, otherHeld, rfl⟩ := (found label cell).mp given
    rw [Address.ofLabel_label (reportable.inBounds other cell otherHeld)] at otherNamed
    rw [Except.ok.inj otherNamed]

end IsReportable

section Calculated

variable {snapshot : Snapshot} {loaded : Sheet} {dependentsOf : Address → List Address}

/-- A loaded sheet is reportable once it is calculated: its cells are named by labels, and a full
calculation leaves no foreign error. -/
theorem isReportable_calculateBy (loads : snapshot.load = .ok loaded)
    (enumerates : loaded.graph.Enumerates dependentsOf) :
    (loaded.calculateBy dependentsOf { full := true, detectCycles := true }).1.IsReportable where
  inBounds address cell held := by
    obtain ⟨label, -, named⟩ :=
      (Snapshot.holds_iff_named loads).mp (holds_of_cell?_calculateInOrder held)
    exact Address.inBounds_of_ofLabel named
  isKind address cell held error failed := by
    have isOrder := isCalculationOrder_calculationOrder enumerates
      { full := true, detectCycles := true }
    obtain isKind | ⟨text, rfl⟩ := error.mem_kinds_or_other
    · exact isKind
    · exact absurd failed (error_ne_other (isOrder.settledAt_of_full rfl rfl) held text)

/-- Both reports on a loaded sheet, calculated in full in whatever order dependents are looked at,
give every stored cell exactly once: the lines row by row, without quotes, each with a label of the
address and the text of the error, and the data under labels of the addresses. -/
theorem reports_exact (loads : snapshot.load = .ok loaded)
    (enumerates : loaded.graph.Enumerates dependentsOf) :
    let sheet := (loaded.calculateBy dependentsOf { full := true, detectCycles := true }).1
    Report.IsTable sheet.toCsv sheet ∧ Report.IsData sheet.toJsonText sheet := by
  intro sheet
  have reportable : sheet.IsReportable := isReportable_calculateBy loads enumerates
  exact ⟨reportable.isTable, reportable.isData⟩

/-- A number, a reader that divides it by zero, and a reader of both, entered in lower case;
dependents are looked at from the last to the first. -/
theorem reports_exact_three_cells :
    let snapshot : Snapshot := .ofList
      [("a1", .text "2"), ("AA1", .tokens ["A1", "/", "0"]), ("b02", .text "A1 - AA1")] compare
    let loaded := ((empty.setFormulaAt ⟨0, 26⟩ ["A1", "/", "0"]).setFormulaAt ⟨0, 0⟩
      ["2"]).setFormulaAt ⟨1, 1⟩ ["A1", "-", "AA1"]
    let dependentsOf : Address → List Address := fun address =>
      (loaded.graph.dependentsOf address).reverse
    let sheet := (loaded.calculateBy dependentsOf { full := true, detectCycles := true }).1
    snapshot.load = .ok loaded ∧ loaded.graph.Enumerates dependentsOf ∧
    sheet.toCsv = "label,value,error\nA1,2,\nAA1,inf,#DIV/0!\nB2,0,#DIV/0!\n" ∧
    Report.IsTable sheet.toCsv sheet ∧ Report.IsData sheet.toJsonText sheet := by
  intro snapshot loaded dependentsOf sheet
  have loads : snapshot.load = .ok loaded := by
    have entries : snapshot.toList =
        [("AA1", .tokens ["A1", "/", "0"]), ("a1", .text "2"), ("b02", .text "A1 - AA1")] := by
      decide +kernel
    have first : Address.ofLabel "AA1" = .ok ⟨0, 26⟩ := by decide +kernel
    have second : Address.ofLabel "a1" = .ok ⟨0, 0⟩ := by decide +kernel
    have third : Address.ofLabel "b02" = .ok ⟨1, 1⟩ := by decide +kernel
    have two : Formula.tokenize "2" = .ok ["2"] := by decide +kernel
    have difference : Formula.tokenize "A1 - AA1" = .ok ["A1", "-", "AA1"] := by decide +kernel
    rw [Snapshot.load, entries,
      Snapshot.foldlM_cons_of_ok (Snapshot.loadCell_of_named .tokens first .empty),
      Snapshot.foldlM_cons_of_ok (Snapshot.loadCell_of_named (.text two) second _),
      Snapshot.foldlM_cons_of_ok (Snapshot.loadCell_of_named (.text difference) third _)]
    rfl
  have enumerates : loaded.graph.Enumerates dependentsOf := fun _ _ => List.mem_reverse
  exact ⟨loads, enumerates, by decide +kernel, reports_exact loads enumerates⟩

end Calculated

end Sheet

end Spreadsheet
