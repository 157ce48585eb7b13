import Mathlib.Data.Finset.Max
import Spreadsheet.Proofs.Sheet.Cells
import Spreadsheet.Proofs.Text.Bytes
import Spreadsheet.Sheet.Snapshot

/-!
# Loading a snapshot

What one entry contributes does not depend on the sheet so far: it fails, or it sets the formula
of the cell that its label names. Entries are taken in the order of their label texts, so where
the entries are split at one of them, smaller labels stand before it and greater ones behind it.
The entry that is reported is then the first one that fails, and a cell keeps the formula of the
last entry that names it.
-/

namespace Spreadsheet

/-! ## One entry -/

/-- The tokens of a formula: those that its text is cut into, or those that it is given by. -/
inductive FormulaSource.Yields : FormulaSource → List String → Prop where
  | text {text : String} {formula : List String} (lexed : Formula.tokenize text = .ok formula) :
      Yields (.text text) formula
  | tokens {formula : List String} : Yields (.tokens formula) formula

/-- The tokens that a source yields are those it is read as. -/
theorem FormulaSource.Yields.tokenize_eq {source : FormulaSource} {formula : List String}
    (yields : source.Yields formula) : source.tokenize = .ok formula := by
  cases yields with
  | text lexed => exact lexed
  | tokens => rfl

/-- Only a text can be refused. -/
theorem FormulaSource.yields_or_refused (source : FormulaSource) :
    (∃ formula, source.Yields formula) ∨
      ∃ text problem, source = .text text ∧ Formula.tokenize text = .error problem := by
  cases source with
  | tokens formula => exact .inl ⟨formula, .tokens⟩
  | text text =>
    cases lexed : Formula.tokenize text with
    | ok formula => exact .inl ⟨formula, .text lexed⟩
    | error problem => exact .inr ⟨text, problem, rfl, lexed⟩

namespace Snapshot

/-- An entry fails for its text if that cannot be lexed, and otherwise for its label. -/
inductive Fails (label : String) : FormulaSource → LoadError → Prop where
  | formula {text : String} {problem : Formula.UnexpectedCharacter}
      (refused : Formula.tokenize text = .error problem) :
      Fails label (.text text) (.badFormula label problem)
  | label {source : FormulaSource} {formula : List String} {problem : LabelError}
      (yields : source.Yields formula) (refused : Address.ofLabel label = .error problem) :
      Fails label source (.badLabel label problem)

variable {snapshot : Snapshot} {sheet loaded : Sheet} {address : Address} {cell : Cell}
  {label : String} {source : FormulaSource} {formula : List String} {problem : LoadError}

/-- An entry whose text is refused gives that refusal. -/
theorem loadCell_of_refused {text : String} {problem : Formula.UnexpectedCharacter}
    (refused : Formula.tokenize text = .error problem) :
    loadCell sheet (label, .text text) = .error (.badFormula label problem) := by
  rw [loadCell, FormulaSource.tokenize, refused]

/-- An entry that yields a formula sets it for its label, and fails as that does. -/
theorem loadCell_of_yields (yields : source.Yields formula) :
    loadCell sheet (label, source) =
      (sheet.setFormula label formula).mapError (.badLabel label) := by
  rw [loadCell, yields.tokenize_eq]

/-- An entry that fails gives its problem on every sheet. -/
theorem Fails.loadCell_eq (fails : Fails label source problem) (sheet : Sheet) :
    loadCell sheet (label, source) = .error problem := by
  cases fails with
  | formula refused => exact loadCell_of_refused refused
  | label yields refused =>
    rw [loadCell_of_yields yields, Sheet.setFormula, refused]
    rfl

/-- An entry that yields a formula sets it at the address that its label names. -/
theorem loadCell_of_named (yields : source.Yields formula)
    (named : Address.ofLabel label = .ok address) (sheet : Sheet) :
    loadCell sheet (label, source) = .ok (sheet.setFormulaAt address formula) := by
  rw [loadCell_of_yields yields, Sheet.setFormula, named]
  rfl

/-- An entry fails, or it sets a formula, on every sheet alike. -/
theorem loadCell_cases (label : String) (source : FormulaSource) :
    (∃ problem, Fails label source problem) ∨
    ∃ formula address, source.Yields formula ∧ Address.ofLabel label = .ok address ∧
      ∀ sheet, loadCell sheet (label, source) = .ok (sheet.setFormulaAt address formula) := by
  obtain ⟨formula, yields⟩ | ⟨text, problem, rfl, refused⟩ := source.yields_or_refused
  · cases read : Address.ofLabel label with
    | error problem => exact .inl ⟨_, .label yields read⟩
    | ok address => exact .inr ⟨formula, address, yields, rfl, loadCell_of_named yields read⟩
  · exact .inl ⟨_, .formula refused⟩

/-! ## A run over entries -/

variable {entries before after : List (String × FormulaSource)} {middle : Sheet}

/-- After a run that succeeds, the remaining entries are run from the sheet it has left. -/
theorem foldlM_append_of_ok (run : before.foldlM loadCell sheet = .ok middle) :
    (before ++ after).foldlM loadCell sheet = after.foldlM loadCell middle := by
  rw [List.foldlM_append, run]
  rfl

/-- After an entry that loads, the remaining entries are run from the sheet it has left. -/
theorem foldlM_cons_of_ok {entry : String × FormulaSource}
    (loads : loadCell sheet entry = .ok middle) :
    (entry :: after).foldlM loadCell sheet = after.foldlM loadCell middle := by
  rw [List.foldlM_cons, loads]
  rfl

/-- An entry that fails ends the run, whatever comes after it. -/
theorem Fails.foldlM_cons_eq (fails : Fails label source problem) (sheet : Sheet) :
    ((label, source) :: after).foldlM loadCell sheet = .error problem := by
  rw [List.foldlM_cons, fails.loadCell_eq]
  rfl

/-- No entry fails. -/
def NoneFails (entries : List (String × FormulaSource)) : Prop :=
  ∀ entry ∈ entries, ∀ problem, ¬ Fails entry.1 entry.2 problem

/-- A run that succeeds came to each entry with some sheet, set its formula and went on. -/
theorem exists_of_foldlM_eq_ok
    (succeeded : (before ++ (label, source) :: after).foldlM loadCell sheet = .ok loaded) :
    ∃ middle formula address, source.Yields formula ∧ Address.ofLabel label = .ok address ∧
      after.foldlM loadCell (Sheet.setFormulaAt middle address formula) = .ok loaded := by
  cases run : before.foldlM loadCell sheet with
  | error problem =>
    rw [List.foldlM_append, run] at succeeded
    cases succeeded
  | ok middle =>
    rw [foldlM_append_of_ok run] at succeeded
    obtain ⟨problem, fails⟩ | ⟨formula, address, yields, named, loads⟩ :=
      loadCell_cases label source
    · cases (fails.foldlM_cons_eq middle).symm.trans succeeded
    · exact ⟨middle, formula, address, yields, named, foldlM_cons_of_ok (loads middle) ▸ succeeded⟩

/-- A run fails with the first entry that does. -/
theorem exists_fails_of_foldlM_eq_error (failed : entries.foldlM loadCell sheet = .error problem) :
    ∃ before label source after, entries = before ++ (label, source) :: after ∧
      Fails label source problem ∧ NoneFails before := by
  -- For every sheet: an entry that loads changes it before the next one is looked at.
  induction entries generalizing sheet with
  | nil => cases failed
  | cons head tail inductionHypothesis =>
    obtain ⟨label, source⟩ := head
    obtain ⟨found, fails⟩ | ⟨formula, address, -, -, loads⟩ := loadCell_cases label source
    · rw [fails.foldlM_cons_eq] at failed
      cases failed
      exact ⟨[], label, source, tail, rfl, fails, List.forall_mem_nil _⟩
    · rw [foldlM_cons_of_ok (loads sheet)] at failed
      obtain ⟨before, other, otherSource, after, rfl, fails, earlier⟩ :=
        inductionHypothesis failed
      refine ⟨(label, source) :: before, other, otherSource, after, rfl, fails, ?_⟩
      refine List.forall_mem_cons.mpr ⟨fun problem headFails => ?_, earlier⟩
      cases (headFails.loadCell_eq sheet).symm.trans (loads sheet)

/-- A run over entries of which none fails succeeds. -/
theorem exists_foldlM_eq_ok (noneFails : NoneFails entries) (sheet : Sheet) :
    ∃ loaded, entries.foldlM loadCell sheet = .ok loaded := by
  cases run : entries.foldlM loadCell sheet with
  | ok loaded => exact ⟨loaded, rfl⟩
  | error problem =>
    obtain ⟨before, label, source, after, rfl, fails, -⟩ := exists_fails_of_foldlM_eq_error run
    exact absurd fails (noneFails (label, source) (by simp) problem)

/-- The first entry that fails gives the problem of the whole run. -/
theorem Fails.foldlM_eq (fails : Fails label source problem) (earlier : NoneFails before)
    (sheet : Sheet) :
    (before ++ (label, source) :: after).foldlM loadCell sheet = .error problem := by
  obtain ⟨middle, run⟩ := exists_foldlM_eq_ok earlier sheet
  rw [foldlM_append_of_ok run, fails.foldlM_cons_eq]

/-- A run leaves every cell as it is that no entry names. -/
theorem cell?_of_unnamed (succeeded : entries.foldlM loadCell sheet = .ok loaded)
    (unnamed : ∀ entry ∈ entries, Address.ofLabel entry.1 ≠ .ok address) :
    loaded.cell? address = sheet.cell? address := by
  induction entries generalizing sheet with
  | nil =>
    cases succeeded
    rfl
  | cons head tail inductionHypothesis =>
    obtain ⟨label, source⟩ := head
    obtain ⟨headUnnamed, tailUnnamed⟩ := List.forall_mem_cons.mp unnamed
    obtain ⟨problem, fails⟩ | ⟨formula, named, -, read, loads⟩ := loadCell_cases label source
    · cases (fails.foldlM_cons_eq sheet).symm.trans succeeded
    · rw [foldlM_cons_of_ok (loads sheet)] at succeeded
      rw [inductionHypothesis succeeded tailUnnamed, Sheet.setFormulaAt, Sheet.cell?_put, if_neg]
      rintro rfl
      exact headUnnamed read

/-- A run leaves in a cell the formula of the last entry that names it, not yet evaluated. -/
theorem cell?_of_lastNamed
    (succeeded : (before ++ (label, source) :: after).foldlM loadCell sheet = .ok loaded)
    (named : Address.ofLabel label = .ok address)
    (last : ∀ entry ∈ after, Address.ofLabel entry.1 ≠ .ok address) :
    ∃ formula, source.Yields formula ∧ loaded.cell? address = some ⟨formula, ⟨0.0, none⟩⟩ := by
  obtain ⟨middle, formula, other, yields, read, rest⟩ := exists_of_foldlM_eq_ok succeeded
  cases named.symm.trans read
  refine ⟨formula, yields, ?_⟩
  rw [cell?_of_unnamed rest last, Sheet.setFormulaAt, Sheet.cell?_put, if_pos rfl]
  rfl

/-! ## Entries in the order of their labels -/

/-- A label is in a snapshot if it has a source there. -/
theorem mem_iff : label ∈ snapshot ↔ ∃ source, snapshot[label]? = some source := by
  rw [Std.TreeMap.mem_iff_isSome_getElem?, Option.isSome_iff_exists]

/-- The entries of a snapshot are its labels with their sources. -/
theorem mem_toList {label : String} {source : FormulaSource} :
    (label, source) ∈ snapshot.toList ↔ snapshot[label]? = some source :=
  Std.TreeMap.mem_toList_iff_getElem?_eq_some

/-- Where the entries are split at one of them, smaller labels stand before it and greater ones
behind it. -/
structure Ordered (before : List (String × FormulaSource)) (label : String)
    (after : List (String × FormulaSource)) : Prop where
  before_lt : ∀ entry ∈ before, Text.bytes entry.1 < Text.bytes label
  lt_after : ∀ entry ∈ after, Text.bytes label < Text.bytes entry.1

/-- At each entry the list is split into the smaller labels and the greater ones. -/
theorem ordered_of_split (split : snapshot.toList = before ++ (label, source) :: after) :
    Ordered before label after := by
  have ordered : snapshot.toList.Pairwise fun left right => compare left.1 right.1 = .lt :=
    Std.TreeMap.ordered_keys_toList
  rw [split, List.pairwise_append, List.pairwise_cons] at ordered
  obtain ⟨-, ⟨behind, -⟩, ahead⟩ := ordered
  exact ⟨fun entry member => Text.compare_eq_lt_iff.mp (ahead entry member _ List.mem_cons_self),
    fun entry member => Text.compare_eq_lt_iff.mp (behind entry member)⟩

/-- An entry with a smaller label stands before it. -/
theorem Ordered.mem_before {other : String} {otherSource : FormulaSource}
    (ordered : Ordered before label after)
    (member : (other, otherSource) ∈ before ++ (label, source) :: after)
    (smaller : Text.bytes other < Text.bytes label) : (other, otherSource) ∈ before := by
  obtain ahead | behind := List.mem_append.mp member
  · exact ahead
  obtain same | behind := List.mem_cons.mp behind
  · cases same
    exact absurd smaller (List.lt_irrefl _)
  · exact absurd smaller (List.lt_asymm (ordered.lt_after _ behind))

/-- Of the labels that name an address, the greatest. -/
structure IsGreatestName (snapshot : Snapshot) (address : Address) (label : String) : Prop where
  mem : label ∈ snapshot
  named : Address.ofLabel label = .ok address
  greatest : ∀ other ∈ snapshot, Address.ofLabel other = .ok address → other ≠ label →
    Text.bytes other < Text.bytes label

/-- An address that some label names has a greatest label that names it. -/
theorem exists_isGreatestName (member : label ∈ snapshot)
    (named : Address.ofLabel label = .ok address) :
    ∃ greatest, snapshot.IsGreatestName address greatest := by
  classical
  let names := snapshot.keys.toFinset.filter fun label => Address.ofLabel label = .ok address
  have mem_names {label : String} :
      label ∈ names ↔ label ∈ snapshot ∧ Address.ofLabel label = .ok address := by
    simp [names]
  obtain ⟨greatest, isName, isGreatest⟩ :=
    names.exists_max_image id ⟨label, mem_names.mpr ⟨member, named⟩⟩
  obtain ⟨stored, isNamed⟩ := mem_names.mp isName
  refine ⟨greatest, stored, isNamed, fun other otherStored otherNamed different => ?_⟩
  have le : other ≤ greatest := isGreatest other (mem_names.mpr ⟨otherStored, otherNamed⟩)
  exact Text.lt_iff_bytes_lt.mp (lt_of_le_of_ne le different)

/-! ## Loading -/

/-- A snapshot is refused with the failure of the smallest label that fails. -/
theorem load_eq_error_iff :
    snapshot.load = .error problem ↔
      ∃ label source, snapshot[label]? = some source ∧ Fails label source problem ∧
        ∀ other otherSource, snapshot[other]? = some otherSource →
          Text.bytes other < Text.bytes label → ∀ problem, ¬ Fails other otherSource problem := by
  constructor
  · intro failed
    obtain ⟨before, label, source, after, split, fails, earlier⟩ :=
      exists_fails_of_foldlM_eq_error failed
    have stored : (label, source) ∈ snapshot.toList := by simp [split]
    refine ⟨label, source, mem_toList.mp stored, fails, ?_⟩
    intro other otherSource otherStored smaller
    rw [← mem_toList, split] at otherStored
    exact earlier _ ((ordered_of_split split).mem_before otherStored smaller)
  · rintro ⟨label, source, stored, fails, smaller⟩
    obtain ⟨before, after, split⟩ := List.append_of_mem (mem_toList.mpr stored)
    rw [load, split]
    refine fails.foldlM_eq (fun entry member => ?_) .empty
    have entryStored : entry ∈ snapshot.toList := by simp [split, member]
    exact smaller _ _ (mem_toList.mp entryStored) ((ordered_of_split split).before_lt _ member)

/-- The cell that the greatest name of an address gives. -/
theorem IsGreatestName.exists_cell (greatest : snapshot.IsGreatestName address label)
    (succeeded : snapshot.load = .ok loaded) :
    ∃ source formula, snapshot[label]? = some source ∧ source.Yields formula ∧
      loaded.cell? address = some ⟨formula, ⟨0.0, none⟩⟩ := by
  obtain ⟨source, stored⟩ := mem_iff.mp greatest.mem
  obtain ⟨before, after, split⟩ := List.append_of_mem (mem_toList.mpr stored)
  -- A later entry has a greater label, and the greatest name would not be the greatest.
  have last : ∀ entry ∈ after, Address.ofLabel entry.1 ≠ .ok address := by
    intro entry member named
    have entryStored : entry ∈ snapshot.toList := by simp [split, member]
    have entryMem : entry.1 ∈ snapshot := mem_iff.mpr ⟨entry.2, mem_toList.mp entryStored⟩
    have greater := (ordered_of_split split).lt_after entry member
    have different : entry.1 ≠ label := fun same => List.lt_irrefl _ (same ▸ greater)
    exact List.lt_asymm greater (greatest.greatest entry.1 entryMem named different)
  rw [load, split] at succeeded
  obtain ⟨formula, yields, held⟩ := cell?_of_lastNamed succeeded greatest.named last
  exact ⟨source, formula, stored, yields, held⟩

/-- The text and the label of every entry of a snapshot that is loaded are read. -/
theorem reads_of_load (succeeded : snapshot.load = .ok loaded)
    (stored : snapshot[label]? = some source) :
    (∃ formula, source.Yields formula) ∧ ∃ address, Address.ofLabel label = .ok address := by
  obtain ⟨before, after, split⟩ := List.append_of_mem (mem_toList.mpr stored)
  rw [load, split] at succeeded
  obtain ⟨middle, formula, address, yields, named, -⟩ := exists_of_foldlM_eq_ok succeeded
  exact ⟨⟨formula, yields⟩, address, named⟩

/-- A snapshot is loaded if every text and every label is read. -/
theorem exists_load_eq_ok
    (lexes : ∀ label text : String, snapshot[label]? = some (.text text) →
      ∃ formula, Formula.tokenize text = .ok formula)
    (named : ∀ label ∈ snapshot, ∃ address, Address.ofLabel label = .ok address) :
    ∃ loaded, snapshot.load = .ok loaded := by
  refine exists_foldlM_eq_ok (fun (label, source) member problem fails => ?_) .empty
  have stored := mem_toList.mp member
  cases fails with
  | formula refused =>
    obtain ⟨formula, lexed⟩ := lexes label _ stored
    cases refused.symm.trans lexed
  | label yields refused =>
    obtain ⟨address, read⟩ := named label (mem_iff.mpr ⟨source, stored⟩)
    cases refused.symm.trans read

/-- A snapshot loads if all its texts can be lexed and all its labels name addresses. -/
theorem exists_load_eq_ok_iff :
    (∃ loaded, snapshot.load = .ok loaded) ↔
      (∀ label text : String, snapshot[label]? = some (.text text) →
        ∃ formula, Formula.tokenize text = .ok formula) ∧
      ∀ label ∈ snapshot, ∃ address, Address.ofLabel label = .ok address := by
  constructor
  · rintro ⟨loaded, succeeded⟩
    constructor
    · intro label text stored
      obtain ⟨⟨formula, yields⟩, -⟩ := reads_of_load succeeded stored
      exact ⟨formula, yields.tokenize_eq⟩
    · intro label member
      obtain ⟨source, stored⟩ := mem_iff.mp member
      exact (reads_of_load succeeded stored).2
  · rintro ⟨lexes, named⟩
    exact exists_load_eq_ok lexes named

/-- A loaded sheet holds what the greatest names give, and nothing else. -/
theorem cell?_eq_some_iff (succeeded : snapshot.load = .ok loaded) :
    loaded.cell? address = some cell ↔
      ∃ label source formula, snapshot.IsGreatestName address label ∧
        snapshot[label]? = some source ∧ source.Yields formula ∧
        cell = ⟨formula, ⟨0.0, none⟩⟩ := by
  constructor
  · intro held
    by_cases named : ∃ label ∈ snapshot, Address.ofLabel label = .ok address
    · obtain ⟨name, member, isNamed⟩ := named
      obtain ⟨label, greatest⟩ := exists_isGreatestName member isNamed
      obtain ⟨source, formula, stored, yields, given⟩ := greatest.exists_cell succeeded
      rw [given, Option.some.injEq] at held
      exact ⟨label, source, formula, greatest, stored, yields, held.symm⟩
    · have vacant : loaded.cell? address = Sheet.empty.cell? address := by
        refine cell?_of_unnamed succeeded fun (label, source) member isNamed => named ?_
        exact ⟨label, mem_iff.mpr ⟨source, mem_toList.mp member⟩, isNamed⟩
      rw [vacant, Sheet.cell?_empty] at held
      cases held
  · rintro ⟨label, source, formula, greatest, stored, yields, rfl⟩
    obtain ⟨found, given, foundStored, foundYields, held⟩ := greatest.exists_cell succeeded
    cases stored.symm.trans foundStored
    cases yields.tokenize_eq.symm.trans foundYields.tokenize_eq
    exact held

/-- A loaded sheet holds cells at the addresses that its labels name, and at no other. -/
theorem holds_iff_named (succeeded : snapshot.load = .ok loaded) :
    loaded.holds address = true ↔
      ∃ label ∈ snapshot, Address.ofLabel label = .ok address := by
  rw [Sheet.holds_iff]
  constructor
  · rintro ⟨cell, held⟩
    obtain ⟨label, -, -, greatest, -⟩ := (cell?_eq_some_iff succeeded).mp held
    exact ⟨label, greatest.mem, greatest.named⟩
  · rintro ⟨name, member, isNamed⟩
    obtain ⟨label, greatest⟩ := exists_isGreatestName member isNamed
    obtain ⟨-, formula, -, -, held⟩ := greatest.exists_cell succeeded
    exact ⟨_, held⟩

/-- For a text that is refused the message is about the formula. -/
theorem Fails.message_of_refused {text : String} {refusal : Formula.UnexpectedCharacter}
    (fails : Fails label source problem) (isText : source = .text text)
    (refused : Formula.tokenize text = .error refusal) :
    problem.message = s!"Invalid formula in {label}" := by
  cases fails with
  | formula => rfl
  | label yields =>
    rw [isText] at yields
    cases yields.tokenize_eq.symm.trans refused

/-- For a label that names no address the message is about the cell. -/
theorem Fails.message_of_yields (fails : Fails label source problem)
    (yields : source.Yields formula) : problem.message = s!"Invalid cell '{label}'" := by
  cases fails with
  | label => rfl
  | formula refused => cases refused.symm.trans yields.tokenize_eq

/-- A snapshot is loaded exactly if every text can be lexed and every label names a cell. The
sheet then holds exactly the cells that are named, each with the formula under the greatest label
that names it, in the order of bytes, and not yet evaluated. A snapshot is refused with the failure
of the smallest label that fails; the message is about the formula if its text cannot be lexed, and
otherwise about the cell. -/
theorem load_exact (snapshot : Snapshot) :
    ((∃ sheet, snapshot.load = .ok sheet) ↔
      (∀ label text : String, snapshot[label]? = some (.text text) →
        ∃ formula, Formula.tokenize text = .ok formula) ∧
      ∀ label ∈ snapshot, ∃ address, Address.ofLabel label = .ok address) ∧
    (∀ sheet, snapshot.load = .ok sheet →
      (∀ address, sheet.holds address = true ↔
        ∃ label ∈ snapshot, Address.ofLabel label = .ok address) ∧
      ∀ address cell, sheet.cell? address = some cell ↔
        ∃ label source formula, snapshot.IsGreatestName address label ∧
          snapshot[label]? = some source ∧ source.Yields formula ∧
          cell = ⟨formula, ⟨0.0, none⟩⟩) ∧
    (∀ problem, snapshot.load = .error problem ↔
      ∃ label source, snapshot[label]? = some source ∧ Fails label source problem ∧
        ∀ other otherSource, snapshot[other]? = some otherSource →
          Text.bytes other < Text.bytes label → ∀ problem, ¬ Fails other otherSource problem) ∧
    ∀ label source problem, Fails label source problem →
      (∀ text refusal, source = .text text → Formula.tokenize text = .error refusal →
        problem.message = s!"Invalid formula in {label}") ∧
      ∀ formula, source.Yields formula → problem.message = s!"Invalid cell '{label}'" :=
  ⟨exists_load_eq_ok_iff,
    fun _ succeeded => ⟨fun _ => holds_iff_named succeeded, fun _ _ => cell?_eq_some_iff succeeded⟩,
    fun _ => load_eq_error_iff,
    fun _ _ _ fails => ⟨fun _ _ => fails.message_of_refused, fun _ => fails.message_of_yields⟩⟩

/-- Three labels name one cell. In another snapshot two entries fail, the one for its label and the
other for its text. -/
theorem load_exact_aliases :
    let aliases : Snapshot := .ofList
      [("a1", .text "3 * B2"), ("A1", .tokens ["2"]), ("A01", .text "1"), ("B2", .tokens ["("])]
      compare
    let broken : Snapshot := .ofList [("A1", .text "1 ? 2"), ("1A", .text "1"), ("a1", .text "1")]
      compare
    (∃ sheet, aliases.load = .ok sheet ∧
      sheet.cell? ⟨0, 0⟩ = some ⟨["3", "*", "B2"], ⟨0.0, none⟩⟩) ∧
    ∃ problem, broken.load = .error problem ∧ problem.message = "Invalid cell '1A'" := by
  intro aliases broken
  constructor
  · obtain ⟨loads, cells, -⟩ := load_exact aliases
    have entries : aliases.toList =
        [("A01", .text "1"), ("A1", .tokens ["2"]), ("B2", .tokens ["("]),
          ("a1", .text "3 * B2")] := by
      decide +kernel
    have stored {label : String} {source : FormulaSource} (found : aliases[label]? = some source) :
        (label, source) ∈ aliases.toList := mem_toList.mpr found
    simp only [entries, List.mem_cons, List.not_mem_nil, or_false, Prod.mk.injEq] at stored
    have lexes : ∀ label text : String, aliases[label]? = some (.text text) →
        ∃ formula, Formula.tokenize text = .ok formula := by
      intro label text found
      obtain ⟨-, ⟨⟩⟩ | ⟨-, ⟨⟩⟩ | ⟨-, ⟨⟩⟩ | ⟨-, ⟨⟩⟩ := stored found
      · exact ⟨["1"], by decide +kernel⟩
      · exact ⟨["3", "*", "B2"], by decide +kernel⟩
    have named : ∀ label ∈ aliases, ∃ address, Address.ofLabel label = .ok address := by
      intro label member
      obtain ⟨source, found⟩ := mem_iff.mp member
      obtain ⟨rfl, -⟩ | ⟨rfl, -⟩ | ⟨rfl, -⟩ | ⟨rfl, -⟩ := stored found
      · exact ⟨⟨0, 0⟩, by decide +kernel⟩
      · exact ⟨⟨0, 0⟩, by decide +kernel⟩
      · exact ⟨⟨1, 1⟩, by decide +kernel⟩
      · exact ⟨⟨0, 0⟩, by decide +kernel⟩
    have greatest : aliases.IsGreatestName ⟨0, 0⟩ "a1" := by
      refine ⟨by decide +kernel, by decide +kernel, fun other member _ different => ?_⟩
      obtain ⟨source, found⟩ := mem_iff.mp member
      obtain ⟨rfl, -⟩ | ⟨rfl, -⟩ | ⟨rfl, -⟩ | ⟨rfl, -⟩ := stored found
      · decide +kernel
      · decide +kernel
      · decide +kernel
      · exact absurd rfl different
    obtain ⟨sheet, loaded⟩ := loads.mpr ⟨lexes, named⟩
    refine ⟨sheet, loaded, ((cells sheet loaded).2 _ _).mpr ?_⟩
    exact ⟨"a1", .text "3 * B2", ["3", "*", "B2"], greatest, by decide +kernel,
      .text (by decide +kernel), rfl⟩
  · obtain ⟨-, -, refused, messages⟩ := load_exact broken
    have fails : Fails "1A" (.text "1") (.badLabel "1A" (.noColumn "1A")) :=
      .label (.text (by decide +kernel : Formula.tokenize "1" = .ok ["1"])) (by decide +kernel)
    have smallest : ∀ entry ∈ broken.toList, ¬ Text.bytes entry.1 < Text.bytes "1A" := by
      decide +kernel
    refine ⟨_, (refused _).mpr ⟨"1A", .text "1", by decide +kernel, fails, ?_⟩, ?_⟩
    · intro other source found smaller
      exact absurd smaller (smallest _ (mem_toList.mpr found))
    · exact (messages _ _ _ fails).2 ["1"] (.text (by decide +kernel))

end Snapshot

end Spreadsheet
