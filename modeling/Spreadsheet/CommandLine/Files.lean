/-!
# Files

The program reaches files only through `FileAccess`. A `Directory` holds text files
as a value, so that a run of the program can be carried out and reasoned about
without a disk.
-/

namespace Spreadsheet

/-- Reading and writing of text files by path. -/
structure FileAccess (m : Type → Type) where
  /-- The text of a file, if it can be read. -/
  read : String → m (Option String)
  /-- Replaces the text of a file, and tells whether that was possible. -/
  write : String → String → m Bool

/-- Text files by the names on the way to them. -/
structure Directory where
  files : List (List String × String) := []

namespace Directory

/-- The text of the file at a place. -/
def text? (directory : Directory) (place : List String) : Option String :=
  directory.files.lookup place

/-- Whether a place is a directory: the whole, or one that leads to a file. -/
def isDirectory (directory : Directory) (place : List String) : Bool :=
  place.isEmpty ||
    directory.files.any fun file => place.isPrefixOf file.1 && place.length < file.1.length

/-- One name further from a place, which has to be a directory. Nothing lies outside. -/
def enter? (directory : Directory) (place : List String) (name : String) :
    Option (List String) :=
  if !directory.isDirectory place then none
  else if name = "" ∨ name = "." then some place
  else if name = ".." then (if place.isEmpty then none else some place.dropLast)
  else some (place ++ [name])

/-- The place to which a relative path leads. -/
def place? (directory : Directory) (path : String) : Option (List String) :=
  if path.startsWith "/" then none
  else (path.splitOn "/").foldlM directory.enter? []

/-- The text of the file at a path. -/
def read? (directory : Directory) (path : String) : Option String :=
  (directory.place? path).bind directory.text?

/-- The directory after a file has been written; the way to it has to be there. -/
def write? (directory : Directory) (path : String) (text : String) : Option Directory :=
  (directory.place? path).bind fun place =>
    if directory.isDirectory place then none
    else some ⟨(place, text) :: directory.files.filter fun file => file.1 != place⟩

/-- The directory of files under plain paths. -/
def ofFiles (files : List (String × String)) : Directory :=
  ⟨files.map fun (path, text) => (path.splitOn "/", text)⟩

/-- Access to a directory that is held as a state. -/
def access : FileAccess (StateM Directory) where
  read path := return (← get).read? path
  write path text := do
    match (← get).write? path text with
    | none => return false
    | some changed =>
      set changed
      return true

end Directory

end Spreadsheet
