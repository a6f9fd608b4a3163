import Shopfloor.Text.Split
/-!
# Paths

The way to a file, name by name. Empty names and the name `.` lead nowhere and
are left out; `..` leads up and is kept. A path may begin at the root, which
is written with one slash, or with two if exactly two were written. A path
without names that begins nowhere is written `.`.

## Main definitions

* `Files.Path`: Where a path begins, and its names.
* `Files.Path.ofText`, `Files.Path.text`: A path as it is written.
-/

namespace Shopfloor

namespace Files

/-- Where a path begins, and its names. -/
structure Path where
  /-- The slashes at the front: none, one, or exactly two. -/
  root : String
  names : List String
deriving DecidableEq, Repr

/-- The slashes that a text begins with, as a path keeps them. -/
def rootOf (s : String) : String :=
  match (s.toList.takeWhile (· = '/')).length with
  | 0 => ""
  | 2 => "//"
  | _ => "/"

/-- The path that a text writes. -/
def Path.ofText (s : String) : Path :=
  ⟨rootOf s, (Text.split '/' s).filter fun name => name ≠ "" ∧ name ≠ "."⟩

/-- A path as it is written. -/
def Path.text (p : Path) : String :=
  if p.root = "" ∧ p.names = [] then "." else p.root ++ "/".intercalate p.names

end Files

end Shopfloor
