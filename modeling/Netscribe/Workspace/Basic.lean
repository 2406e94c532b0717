import Netscribe.Fault
import Netscribe.Text.Lines
import Netscribe.Workspace.Path
/-!
What a run of the program can see of the outer world: files and folders by name, settings of the
environment, the reader of the looser document format, and what its output goes to. The steps of a
path are taken one by one, so that all but the last must lead to folders that are there, also where
a later step leads up again.
-/
namespace Netscribe

/-- What printed texts go to. -/
inductive Console
  /-- A buffer of the program that asks for them, which takes any text. -/
  | buffer
  /-- Streams of bytes. What has no encoding cannot be printed, and stands escaped among errors. -/
  | bytes
  deriving DecidableEq, Repr

/-- Folders with something in them need not be listed. -/
structure Workspace where
  files : List (String × String) := []
  folders : List String := []
  environment : List (String × String) := []
  /-- The home folders of users by their names. -/
  users : List (String × String) := []
  console : Console := .bytes
  /-- The reader of documents in the looser format, which is no part of the program: it gives the
      document in a text, null if there is nothing in it, or says what it refuses the text for.
      Nothing is relied on about it; without one every text is refused. -/
  readLoose : String → Except Fault Document := fun _ => .error (.unreadable "no reader")

namespace Workspace

/-- What is at a place. -/
inductive Entry
  | file (text : String)
  | folder
  | missing
  deriving DecidableEq, Repr

def fileAt? (w : Workspace) (place : List String) : Option String :=
  (w.files.find? fun file => Path.place file.1 == place).map (·.2)

/-- Whether a place is that of a folder: the current one, one above it, the root, or one that is
    listed or has something in it. -/
def isFolder (w : Workspace) (place : List String) : Bool :=
  place.all (fun name => name == ".." || name == Path.root)
    || w.folders.any (fun folder => place.isPrefixOf (Path.place folder))
    || w.files.any fun file => place.isPrefixOf (Path.place file.1).dropLast

def entryAt (w : Workspace) (place : List String) : Entry :=
  match w.fileAt? place with
  | some text => .file text
  | none => if w.isFolder place then .folder else .missing

/-- The most bytes of a name. -/
def longestName : Nat := 255

/-- The most bytes of a path. -/
def longestPath : Nat := 4095

/-- The place that steps lead to, each of them taken from a folder. `path` is their spelling. -/
def follow (w : Workspace) (path : String) : List String → List String →
    Except Fault (List String)
  | place, [] => .ok place
  | place, name :: rest =>
    match w.entryAt place with
    | .file _ => .error (.notFolder path)
    | .missing => .error (.missingFile path)
    | .folder =>
      if longestName < Text.byteSize name then .error (.nameTooLong path)
      else w.follow path (Path.step place name) rest

/-- The place of a path, which need not have anything at it. -/
def locate (w : Workspace) (path : String) : Except Fault (List String) :=
  if Text.contains '\x00' path then .error .nullInPath
  else if path = "" then .error (.missingFile path)
  else if longestPath < Text.byteSize path then .error (.nameTooLong path)
  else w.follow path (Path.start path) (Path.steps path)

/-- Whether there is something at a path. Of what can be wrong with the path only its length is a
    fault. -/
def exists? (w : Workspace) (path : String) : Except Fault Bool :=
  match w.locate path with
  | .ok place => .ok (w.entryAt place != .missing)
  | .error (.nameTooLong shown) => .error (.nameTooLong shown)
  | .error _ => .ok false

/-- The text of a file, with line feeds at the ends of its lines. -/
def read (w : Workspace) (path : String) : Except Fault String := do
  match w.entryAt (← w.locate path) with
  | .file text => return .ofList (Text.unifyEnds text.toList)
  | .folder => throw (.isFolder path)
  | .missing => throw (.missingFile path)

/-- The workspace with a file at a place. -/
def put (w : Workspace) (place : List String) (text : String) : Workspace :=
  { w with
    files := (w.files.filter fun file => Path.place file.1 != place)
      ++ [(Path.ofParts place, text)] }

/-- The workspace with a file written. The folder of the file must exist. -/
def write (w : Workspace) (path text : String) : Except Fault Workspace := do
  let place ← w.locate path
  if w.entryAt place = .folder then throw (.isFolder path)
  return w.put place text

/-- The workspace with a file at a path to add to: the one that is there, or an empty one. -/
def touch (w : Workspace) (path : String) : Except Fault Workspace := do
  let place ← w.locate path
  match w.entryAt place with
  | .file _ => return w
  | .folder => throw (.isFolder path)
  | .missing => return w.put place ""

/-- The workspace with a folder inside a folder that is there. -/
def makeFolder (w : Workspace) (path : String) : Except Fault Workspace := do
  let place ← w.locate path
  match w.entryAt place with
  | .file _ => throw (.fileInTheWay path)
  | .folder => return w
  | .missing => return { w with folders := w.folders ++ [Path.ofParts place] }

/-- The workspace with a folder and all those on the way to it. The names are those along its path,
    the last one first. -/
def makeFolders (w : Workspace) : List String → Except Fault Workspace
  | [] => .ok w
  | name :: before =>
    let path := Path.ofParts (name :: before).reverse
    match w.makeFolder path with
    | .error (.missingFile _) => do (← w.makeFolders before).makeFolder path
    | result => result

/-- The paths of the files in the current folder and below it, in order. -/
def filesInside (w : Workspace) : List String :=
  let places := (w.files.map fun file => Path.place file.1).filter fun place =>
    (place.head?.map fun name => name != ".." && name != Path.root).getD false
  (places.map Path.ofParts).mergeSort fun a b => decide (a ≤ b)

/-- A setting of the environment; an empty one counts as absent. -/
def setting? (w : Workspace) (name : String) : Option String :=
  (w.environment.lookup name).filter (· ≠ "")

def defaultHome : String := "home"

/-- The home folder that a word with a tilde at its start stands for: that of the user who is named
    behind the tilde or, without a name, the one of the environment. -/
def homeOf (w : Workspace) (word : String) : Except Fault String :=
  let user := String.ofList (word.toList.drop 1)
  let found :=
    if user = "" then some ((w.environment.lookup "HOME").getD defaultHome)
    else w.users.lookup user
  match found with
  | none => .error .noHome
  | some home =>
    let tail := home.toList.reverse.dropWhile (· == '/')
    let home := if tail = [] then Path.root else .ofList tail.reverse
    if Text.hasStart "~" home then .error .noHome else .ok home

def home (w : Workspace) : Except Fault String := w.homeOf "~"

/-- A path with a home folder in place of a word with a tilde at its start. -/
def expandHome (w : Workspace) (path : String) : Except Fault String :=
  match Path.parts path with
  | [] => .ok (Path.tidy path)
  | word :: rest =>
    if Text.hasStart "~" word then do
      return Path.ofParts (Path.parts (← w.homeOf word) ++ rest)
    else .ok (Path.tidy path)

end Workspace
end Netscribe
