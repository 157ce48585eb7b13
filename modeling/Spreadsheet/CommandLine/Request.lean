/-!
# What the command line asks for

The program has two commands, each with one operand and one option that takes a file.
Arguments are read from left to right, and the first one that settles the matter does:
a request for help or for the version is granted even if a later argument is wrong.
Everything that breaks the grammar is the same usage error.
-/

namespace Spreadsheet

/-- What the program can do. -/
inductive Command where
  /-- Evaluates a formula, with references into a sheet file if one is given. -/
  | evaluate (formula : String) (sheet : Option String)
  /-- Calculates a sheet file and reports every cell, into a file if one is given. -/
  | recalculate (input : String) (output : Option String) (asData : Bool)
deriving DecidableEq, Repr

/-- What the command line asks for. -/
inductive Request where
  | run (command : Command)
  | help
  | version
  | usageError
deriving DecidableEq, Repr

namespace Request

/-- The arguments that a command takes. -/
structure Grammar where
  /-- The letter of the option that takes a file. -/
  letter : Char
  /-- The name of the option that takes a file. -/
  name : String
  /-- The names of the options that take nothing. -/
  flags : List String
  /-- Whether the operand may be empty. -/
  emptyOperand : Bool

/-- The arguments that a command has been given so far. -/
structure Given where
  operand : Option String := none
  file : Option String := none
  flags : List String := []

/-- What one argument is. -/
inductive Argument where
  | operand (text : String)
  /-- The option that takes a file, with the file if it is attached. -/
  | file (attached : Option String)
  | flag (name : String)
  | help
  | endOfOptions
  | unknown

/-- A value behind an equals sign, which is not part of it. -/
def afterEquals : List Char → Option String
  | '=' :: value => some (String.ofList value)
  | _ => none

/-- A value attached to a letter, with or without an equals sign. -/
def attachedToLetter : List Char → Option String
  | [] => none
  | '=' :: value => some (String.ofList value)
  | value => some (String.ofList value)

/-- An option that is spelled out, with a value behind an equals sign if it has one. -/
def readName (grammar : Grammar) (name : String) (value : Option String) : Argument :=
  if name = grammar.name then .file value
  else if value.isSome then .unknown
  else if name = "help" then .help
  else if name ∈ grammar.flags then .flag name
  else .unknown

/-- What an argument is while options are read. -/
def readArgument (grammar : Grammar) (argument : String) : Argument :=
  match argument.toList with
  | ['-', '-'] => .endOfOptions
  | '-' :: '-' :: rest =>
    readName grammar (String.ofList (rest.takeWhile (· ≠ '=')))
      (afterEquals (rest.dropWhile (· ≠ '=')))
  | ['-'] => .operand argument
  | '-' :: letter :: attached =>
    if letter = 'h' then .help
    else if letter = grammar.letter then .file (attachedToLetter attached)
    else .unknown
  | _ => .operand argument

/-- Whether an argument may be the value of the option before it. -/
def isValue (argument : String) : Bool :=
  argument == "-" || argument.toList.head? != some '-'

/-- Takes the operand, which can be given once. -/
def takeOperand (grammar : Grammar) (given : Given) (text : String) : Except Request Given :=
  if given.operand.isSome || (text.isEmpty && !grammar.emptyOperand) then .error .usageError
  else .ok { given with operand := some text }

/-- Takes the file of the option, which can be given once and not be empty. -/
def takeFile (given : Given) (path : String) : Except Request Given :=
  if given.file.isSome || path.isEmpty then .error .usageError
  else .ok { given with file := some path }

/-- Takes a flag, which can be given once. -/
def takeFlag (given : Given) (name : String) : Except Request Given :=
  if name ∈ given.flags then .error .usageError
  else .ok { given with flags := name :: given.flags }

/-- Reads the arguments of a command, or stops at the one that settles the request. -/
def readArguments (grammar : Grammar) (given : Given) : List String → Except Request Given
  | [] => .ok given
  | argument :: rest =>
    match readArgument grammar argument with
    | .endOfOptions => rest.foldlM (takeOperand grammar) given
    | .help => .error .help
    | .unknown => .error .usageError
    | .operand text => do readArguments grammar (← takeOperand grammar given text) rest
    | .flag name => do readArguments grammar (← takeFlag given name) rest
    | .file (some path) => do readArguments grammar (← takeFile given path) rest
    | .file none =>
      match rest with
      | [] => .error .usageError
      | path :: rest =>
        if isValue path then do readArguments grammar (← takeFile given path) rest
        else .error .usageError

/-- The arguments of the command that evaluates a formula. -/
def evaluateGrammar : Grammar := ⟨'s', "sheet", [], true⟩

/-- The arguments of the command that calculates a sheet. -/
def recalculateGrammar : Grammar := ⟨'o', "output", ["json"], false⟩

/-- The request of a command that has its arguments; the operand may not be missing. -/
def ofGrammar (grammar : Grammar) (command : String → Given → Command)
    (arguments : List String) : Request :=
  match readArguments grammar {} arguments with
  | .error request => request
  | .ok given =>
    match given.operand with
    | none => .usageError
    | some operand => .run (command operand given)

/-- The names of the commands, the request for help among them. -/
def commandNames : List String := ["eval", "recalc", "help"]

/-- The request for help, about a command if one is named. -/
def ofHelp : List String → Request
  | [] => .help
  | [name] => if name ∈ commandNames then .help else .usageError
  | _ => .usageError

/-- A first argument that names no command. -/
def ofOption (argument : String) : Request :=
  match argument.toList with
  | '-' :: '-' :: _ =>
    if argument = "--help" then .help
    else if argument = "--version" then .version
    else .usageError
  | '-' :: 'h' :: _ => .help
  | '-' :: 'V' :: _ => .version
  | _ => .usageError

/-- What a list of arguments asks for. -/
def ofArguments : List String → Request
  | [] => .usageError
  | first :: rest =>
    if first = "eval" then
      ofGrammar evaluateGrammar (fun formula given => .evaluate formula given.file) rest
    else if first = "recalc" then
      ofGrammar recalculateGrammar
        (fun input given => .recalculate input given.file ("json" ∈ given.flags)) rest
    else if first = "help" then ofHelp rest
    else ofOption first

end Request

end Spreadsheet
