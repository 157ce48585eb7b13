import Spreadsheet.CommandLine.Files
import Spreadsheet.CommandLine.Request
import Spreadsheet.Formula.Evaluation
import Spreadsheet.Sheet.Calculation
import Spreadsheet.Sheet.Report
import Spreadsheet.Sheet.Snapshot

/-!
# The program

A run of the program takes arguments and access to files, and ends with an exit code,
what goes to the output and what goes to the messages. Code 1 reports a failure and
code 2 a usage error.
-/

namespace Spreadsheet

/-- What could not be done, and the reason if it is known. -/
structure Failure where
  context : String
  cause : Option String := none
deriving DecidableEq, Repr

namespace Failure

/-- The cause with its further lines as far in as the first. -/
def indentedCause (cause : String) : String :=
  String.ofList <| cause.toList.flatMap fun character =>
    if character = '\n' then '\n' :: List.replicate 4 ' ' else [character]

/-- The report of a failure. Without a cause it is left open for one, and has no line end. -/
def text (failure : Failure) : String :=
  match failure.cause with
  | none => "Error: " ++ failure.context
  | some cause =>
    "Error: " ++ failure.context ++ "\n\nCaused by:\n    " ++ indentedCause cause ++ "\n"

/-- The failure to load a snapshot. -/
def ofLoadError (problem : LoadError) : Failure :=
  ⟨problem.message, some problem.cause⟩

end Failure

/-- How a run of the program ends. -/
structure Ending where
  exitCode : Nat
  output : String := ""
  messages : String := ""
deriving DecidableEq, Repr

namespace Ending

/-- Ends well, with something on the output. -/
def success (output : String) (messages : String := "") : Ending :=
  ⟨0, output, messages⟩

/-- Ends with a failure, behind the messages that came before it. -/
def failure (problem : Failure) (messages : String := "") : Ending :=
  ⟨1, "", messages ++ problem.text⟩

end Ending

namespace Program

/-- The name and number of the program. -/
def versionText : String := "cellcalc 0.1.0\n"

/-- How the program is called. -/
def usageText : String :=
  "Spreadsheet formula evaluation tool\n\n" ++
  "Usage:\n" ++
  "  cellcalc eval FORMULA [-s, --sheet FILE]\n" ++
  "  cellcalc recalc INPUT [-o, --output FILE] [--json]\n" ++
  "  cellcalc -h, --help\n" ++
  "  cellcalc -V, --version\n"

variable {m : Type → Type} [Monad m]

/-- The sheet in a file. -/
def loadSheet (files : FileAccess m) (path : String) : m (Except Failure Sheet) := do
  match ← files.read path with
  | none => return .error ⟨s!"Failed to open '{path}'", none⟩
  | some text =>
    match Snapshot.read? text with
    | none => return .error ⟨s!"Failed to read sheet '{path}'", none⟩
    | some snapshot => return snapshot.load.mapError Failure.ofLoadError

/-- Evaluates a formula on a sheet. -/
def evaluateOn (sheet : Sheet) (formula : String) : Ending :=
  match Formula.parse formula with
  | .error problem => .failure ⟨s!"Failed to parse '{formula}'", some problem.message⟩
  | .ok tokens => .success (Report.outcomeText (Formula.evaluate sheet.store tokens))

/-- Evaluates a formula, on a calculated sheet if a file is given. The sheet is loaded
before the formula is looked at. -/
def evaluate (files : FileAccess m) (formula : String) (sheetPath : Option String) :
    m Ending := do
  match sheetPath with
  | none => return evaluateOn .empty formula
  | some path =>
    match ← loadSheet files path with
    | .error problem => return .failure problem
    | .ok sheet => return evaluateOn sheet.calculate.1 formula

/-- The message that sums up a calculation. -/
def summary (statistics : CalculationStatistics) : String :=
  s!"Calculated {statistics.calculated} of {statistics.formulas} formulas " ++
    s!"({statistics.errors} errors, {statistics.circular} circular)\n"

/-- Calculates a sheet and reports it, on the output or into a file. -/
def recalculate (files : FileAccess m) (input : String) (outputPath : Option String)
    (asData : Bool) : m Ending := do
  match ← loadSheet files input with
  | .error problem => return .failure problem
  | .ok loaded =>
    let (sheet, statistics) := loaded.calculate
    let report := if asData then sheet.toJsonText else sheet.toCsv
    match outputPath with
    | none => return .success report (summary statistics)
    | some path =>
      if ← files.write path report then
        return .success "" (summary statistics ++ s!"Wrote {sheet.size} cells to '{path}'\n")
      else
        return .failure ⟨s!"Failed to write '{path}'", none⟩ (summary statistics)

/-- Carries out a request. -/
def perform (files : FileAccess m) : Request → m Ending
  | .run (.evaluate formula sheet) => evaluate files formula sheet
  | .run (.recalculate input output asData) => recalculate files input output asData
  | .help => return .success usageText
  | .version => return .success versionText
  | .usageError => return { exitCode := 2, messages := usageText }

/-- Runs the program with arguments. -/
def run (files : FileAccess m) (arguments : List String) : m Ending :=
  perform files (.ofArguments arguments)

end Program

end Spreadsheet
