import Netscribe.Text.Blank
/-!
Names of files. A path is read in two ways: as a name that is shown and put together, where its
spelling counts (`parts`), and as a sequence of steps that leads to a place (`steps`). Places are
lists of names without steps up, except that those above the current folder start with some.
-/
namespace Netscribe.Path

/-- What an absolute path starts with. -/
def root : String := "/"

/-- What a path starts with before its first name. Exactly two strokes are a spelling of their
    own. -/
def rootOf? (path : String) : Option String :=
  match (path.toList.takeWhile (· == '/')).length with
  | 0 => none
  | 2 => some "//"
  | _ => some root

def isRoot (name : String) : Bool := name.startsWith root

/-- The names along a path. Empty names and the name of the current folder say nothing. -/
def parts (path : String) : List String :=
  (rootOf? path).toList
    ++ (Text.splitOn '/' path).filter fun name => name ≠ "" && name ≠ "."

/-- A path from the names along it. -/
def ofParts : List String → String
  | [] => "."
  | name :: rest => if isRoot name then name ++ Text.join "/" rest else Text.join "/" (name :: rest)

/-- A path without the names that say nothing. -/
def tidy (path : String) : String := ofParts (parts path)

/-- The names along the folder of a path; a root is its own folder. -/
def parentParts (names : List String) : List String :=
  match names with
  | [name] => if isRoot name then names else []
  | _ => names.dropLast

/-- The folder of a path. -/
def parent (path : String) : String := ofParts (parentParts (parts path))

/-- A path inside a folder. -/
def inside (folder name : String) : String := ofParts (parts folder ++ parts name)

/-- The place where the steps of a path begin: the root, or the current folder. -/
def start (path : String) : List String := if Text.hasStart root path then [root] else []

/-- The steps along a path. A stroke at the end steps into what is there. -/
def steps (path : String) : List String :=
  let names := (Text.splitOn '/' path).filter (· ≠ "")
  if Text.hasEnd root path && names ≠ [] then names ++ ["."] else names

/-- The place one step up. There is nothing above the root. -/
def above (place : List String) : List String :=
  match place.getLast? with
  | none => [".."]
  | some last =>
    if last = ".." then place ++ [".."] else if isRoot last then place else place.dropLast

/-- The place that one step leads to. -/
def step (place : List String) (name : String) : List String :=
  if name = "." then place else if name = ".." then above place else place ++ [name]

/-- The place of a path by its spelling alone, as if all its folders were there. -/
def place (path : String) : List String := (steps path).foldl step (start path)

end Netscribe.Path
