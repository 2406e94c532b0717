import Netscribe.CommandLine.Run
/-!
The program: it gathers the files that a command line can refer to, runs the command on them, and
puts its results out.
-/
namespace Netscribe.Program

open CommandLine (Invocation Record Run)

/-- The files that a command may read. -/
def inputs (w : Workspace) (i : Invocation) : List String :=
  let topology := match CommandLine.nonempty i.topology with
    | some path => [path]
    | none => (Inventory.candidates w).toOption.getD []
  match i.command with
  | .translate _ _ file .. => file.toList
  | .compile .. | .preview .. => topology
  | .features => []

/-- The folders along a path, each with those before it. -/
def foldersAlong (path : String) : List String :=
  let names := Path.parts path
  (List.range names.length).map fun n => Path.ofParts (names.take n)

/-- The folders that a command may write into. Whether they exist turns out on writing. -/
def outputFolders (i : Invocation) : List String :=
  match i.command with
  | .compile _ _ (some (some path)) => foldersAlong path
  | _ => []

/-- Whether a command translates what is typed in. -/
def wantsTyping (i : Invocation) : Bool :=
  match i.command with
  | .translate _ _ file _ line => file.isNone && line.isEmpty
  | _ => false

def environment : IO (List (String × String)) := do
  let mut found := []
  for name in ["HOME", "CLIFORGE_TOPOLOGY"] do
    if let some value ← IO.getEnv name then found := found ++ [(name, value)]
  return found

/-- The home folders of users, as the list of accounts has them. -/
def accounts : IO (List (String × String)) := do
  try
    let text ← IO.FS.readFile "/etc/passwd"
    return (Text.lines text).filterMap fun line =>
      match Text.splitOn ':' line with
      | name :: _ :: _ :: _ :: _ :: home :: _ => some (name, home)
      | _ => none
  catch _ => return []

def readFiles (paths : List String) : IO (List (String × String)) := do
  let mut found := []
  for path in paths do
    try found := found ++ [(path, ← IO.FS.readFile path)] catch _ => pure ()
  return found

partial def typedText (input : IO.FS.Stream) (soFar : String) : IO String := do
  let line ← input.getLine
  if line.isEmpty then return soFar else typedText input (soFar ++ line)

/-- The reader of the looser format here, which knows only what is written like the strict one. -/
def looseReader (text : String) : Except Fault Document :=
  match Document.readLoose text with
  | .ok d => .ok d
  | .error e => .error (.unreadable e.message)

def usage : String :=
  "usage: cliforge [--topology FILE] [-v] [--timings] compile|preview|translate|features ..."

/-- Writes the files that a run has changed. -/
def writeFiles (before after : Workspace) : IO Unit := do
  for (path, text) in after.files do
    if before.files.lookup path ≠ some text then IO.FS.writeFile path text

/-- The line of a record on the console, without the times. -/
def recordLine (r : Record) : String :=
  let message := (r.message "-").toOption.getD ""
  s!"{r.level} | {message}"

/-- Puts out what the log shows of a run and how it ended, and gives its exit code. -/
def conclude (before : Workspace) (run : Run) : IO UInt32 := do
  run.log.forM fun r => IO.eprintln (recordLine r)
  match run.ending with
  | .stopped .help => do IO.println usage; return 0
  | .stopped .rejected => do IO.eprintln usage; return 2
  | .failed fault => do IO.eprintln fault.message; return 1
  | .finished result => do
    try writeFiles before result.workspace
    catch e => do IO.eprintln s!"Error: {e}"; return 1
    IO.print result.output
    IO.eprint result.errors
    return result.code.toUInt32

end Netscribe.Program

open Netscribe Netscribe.Program in
def main (words : List String) : IO UInt32 := do
  let outer : Workspace :=
    { environment := ← environment
      users := ← accounts
      readLoose := looseReader }
  match CommandLine.Invocation.read words with
  | .error why => conclude outer { ending := .stopped why }
  | .ok invocation =>
    let typed ← if wantsTyping invocation then typedText (← IO.getStdin) "" else pure ""
    let files ← readFiles (inputs outer invocation)
    let w := { outer with
      files := files
      folders := outputFolders invocation ++ files.flatMap fun file => foldersAlong file.1 }
    conclude w (CommandLine.run w words typed)
