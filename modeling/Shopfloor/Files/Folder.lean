import Shopfloor.Files.Path
/-!
# Folders

The files that can be read: a tree of files and folders, and the working folder
in it. A path is followed name by name, from the root if it begins there and from
the working folder if it does not. Above the root there is the root again.

The first name that cannot be followed decides what is reported: a name behind
a file, a name that is too long, or a name under which nothing lies. A path
that is too long as a whole is refused before it is followed. These are the
troubles that the tree itself makes. A system has more of them, a file that must
not be read for one, and they are told by the name and the words that it gives.

## Main definitions

* `Files.Trouble`: Why a file cannot be opened.
* `Files.Folder`: The files, the folders, and the working folder.
* `Files.Folder.walk`: Where a path leads.
* `Files.Folder.read`: The bytes of the file at the end of a path.
-/

namespace Shopfloor

namespace Files

/-- Why a file cannot be opened. -/
inductive Trouble
  | missing
  | isFolder
  | notFolder
  | longName
  /-- Any other error of the system, by its name and its words. -/
  | other (name text : String)
deriving DecidableEq, Repr

/-- The name of a trouble in answers. -/
def Trouble.name : Trouble → String
  | .missing => "FileNotFoundError"
  | .isFolder => "IsADirectoryError"
  | .notFolder => "NotADirectoryError"
  | .longName => "OSError"
  | .other name _ => name

/-- The words for a trouble. -/
def Trouble.text : Trouble → String
  | .missing => "No such file or directory"
  | .isFolder => "Is a directory"
  | .notFolder => "Not a directory"
  | .longName => "File name too long"
  | .other _ text => text

/-- The files and the folders, by the names that lead to them from the root, and those that lead to
    the working folder. -/
structure Folder where
  here : List String
  files : List (List String × List UInt8)
  folders : List (List String)
deriving DecidableEq, Repr

/-- The longest name, in bytes. -/
def nameLimit : Nat := 255

/-- The longest path, in bytes. -/
def pathLimit : Nat := 4095

namespace Folder

/-- Every folder on the way to a place, the place included. -/
def waysTo (names : List String) : List (List String) :=
  (List.range (names.length + 1)).map names.take

/-- The names that a path is written with from the root, from a given working folder. -/
def fromRoot (here : List String) (p : Path) : List String :=
  if p.root = "" then here ++ p.names else p.names

/-- The names of a working folder that no path can name: no name is empty that stands in a path. -/
def unnamed : List String := [""]

/-- A working folder without a name, with these files and folders and with every folder on the way to
    one of them. -/
def ofFiles (files : List (String × List UInt8)) (folders : List String) : Folder :=
  let files := files.map fun f => (fromRoot unnamed (.ofText f.1), f.2)
  let folders := folders.map fun f => fromRoot unnamed (.ofText f)
  ⟨unnamed, files, (unnamed :: files.map (·.1.dropLast) ++ folders).flatMap waysTo⟩

/-- The bytes of the file that names lead to. -/
def fileAt? (f : Folder) (names : List String) : Option (List UInt8) := f.files.lookup names

/-- Whether names lead to a folder. -/
def isFolderAt (f : Folder) (names : List String) : Bool :=
  names.isEmpty || f.folders.contains names

/-- Follows one name. -/
def step (f : Folder) (names : List String) (name : String) : Except Trouble (List String) :=
  -- Nothing lies behind a file, not even the way back up.
  if (f.fileAt? names).isSome then .error .notFolder
  else if name = ".." then .ok names.dropLast
  else if nameLimit < name.utf8ByteSize then .error .longName
  else if (f.fileAt? (names ++ [name])).isSome || f.isFolderAt (names ++ [name]) then
    .ok (names ++ [name])
  else .error .missing

/-- Where a path leads. -/
def walk (f : Folder) (p : Path) : Except Trouble (List String) :=
  if pathLimit < p.text.utf8ByteSize then .error .longName
  else p.names.foldlM f.step (if p.root = "" then f.here else [])

/-- The bytes of the file at the end of a path. -/
def read (f : Folder) (p : Path) : Except Trouble (List UInt8) := do
  let names ← f.walk p
  match f.fileAt? names with
  | some bytes => return bytes
  | none => .error .isFolder

end Folder

end Files

end Shopfloor
