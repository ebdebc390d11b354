import Gamebook.Text.Split

/-!
# Files

A directory with texts in it, as far as commands see it: files are found by their paths, and writing
a file needs a directory to put it in. Main definitions: `FileFault`, `Files`, `Files.read`,
`Files.write`.
-/

namespace Gamebook.Command

/-- Why a file cannot be read or written. -/
inductive FileFault where
  /-- There is no such file. -/
  | missing
  /-- There is a directory in place of the file. -/
  | directory
  /-- There is a file in place of a directory. -/
  | notDirectory
  /-- Something else, in the words of the system. -/
  | other (text : String)
  deriving DecidableEq, Repr

/-- The wording of a fault. -/
def FileFault.message : FileFault → String
  | missing => "No such file or directory (os error 2)"
  | directory => "Is a directory (os error 21)"
  | notDirectory => "Not a directory (os error 20)"
  | other text => text

/-- The names on the way to a file; none if the path leaves the directory. -/
def pathNames? (path : String) : Option (List String) :=
  if path.toList.head? = some '/' then none
  else
    let names := (Text.splitOn '/' path.toList).map String.ofList
    (names.filter fun name => name != "" && name != ".").foldl step (some [])
where
  /-- Goes on to a name, or back for two dots. -/
  step : Option (List String) → String → Option (List String)
    | none, _ => none
    | some names, name =>
      if name = ".." then if names.isEmpty then none else some names.dropLast
      else some (names ++ [name])

/-- Whether a path asks for a directory. -/
def asksDirectory (path : String) : Bool :=
  match (Text.splitOn '/' path.toList).getLast? with
  | some name => name == [] || name == ['.']
  | none => false

/-- The files of a directory: the names on the way to each, and its text. -/
structure Files where
  /-- The files. -/
  entries : List (List String × String)
  deriving DecidableEq, Repr

namespace Files

/-- The text of a file. -/
def get? (files : Files) (names : List String) : Option String :=
  files.entries.lookup names

/-- Whether some names are a directory. -/
def isDirectory (files : Files) (names : List String) : Bool :=
  names.isEmpty || files.entries.any fun (other, _) => names.length < other.length && names.isPrefixOf other

/-- Why there is neither a file nor a directory. -/
def faultAt (files : Files) (names : List String) : FileFault :=
  if (List.range names.length).any fun n => (files.get? (names.take n)).isSome then .notDirectory
  else .missing

/-- Reads a file. -/
def read (files : Files) (path : String) : Except FileFault String :=
  match pathNames? path with
  | none => .error .missing
  | some names =>
    match files.get? names with
    | some text => if asksDirectory path then .error .notDirectory else .ok text
    | none => if files.isDirectory names then .error .directory else .error (files.faultAt names)

/-- Writes a file. -/
def write (files : Files) (path text : String) : Except FileFault Files :=
  match pathNames? path with
  | none => .error .missing
  | some names =>
    if files.isDirectory names then .error .directory
    else if asksDirectory path then
      if (files.get? names).isSome then .error .notDirectory else .error .directory
    else if files.isDirectory names.dropLast then
      .ok ⟨files.entries.filter (·.1 != names) ++ [(names, text)]⟩
    else .error (files.faultAt names)

/-- The files that are not the same among earlier ones. -/
def changedFrom (before after : Files) : Files :=
  ⟨after.entries.filter fun (names, text) => before.get? names != some text⟩

end Files

end Gamebook.Command
