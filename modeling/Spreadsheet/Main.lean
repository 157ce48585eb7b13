import Spreadsheet.CommandLine.Program

/-!
# The command line

The outermost layer: it connects the program to the disk and to the standard streams.
-/

namespace Spreadsheet

/-- Access to the files on disk. -/
def diskAccess : FileAccess IO where
  read path := do
    try
      return some (← IO.FS.readFile path)
    catch _ =>
      return none
  write path text := do
    try
      IO.FS.writeFile path text
      return true
    catch _ =>
      return false

/-- The messages with their last line closed. -/
def closedMessages (messages : String) : String :=
  if messages.isEmpty || messages.endsWith "\n" then messages else messages ++ "\n"

end Spreadsheet

/-- Runs the program on the disk and the standard streams. -/
def main (arguments : List String) : IO UInt32 := do
  let ending ← Spreadsheet.Program.run Spreadsheet.diskAccess arguments
  IO.print ending.output
  IO.eprint (Spreadsheet.closedMessages ending.messages)
  return ending.exitCode.toUInt32
