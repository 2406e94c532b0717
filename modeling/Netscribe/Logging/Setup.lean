import Netscribe.Number.Integer
import Netscribe.Text.LetterCase
import Netscribe.Workspace.Basic
/-!
The settings of the log, taken from the environment, and its set-up: which logger writes where.
Setting it up once more changes nothing.
-/
namespace Netscribe.Logging

/-- The numbers of the levels of messages, by name. -/
def levels : List (String × Nat) :=
  [("CRITICAL", 50), ("FATAL", 50), ("ERROR", 40), ("WARNING", 30), ("WARN", 30), ("INFO", 20),
   ("DEBUG", 10), ("NOTSET", 0)]

def infoLevel : Nat := 20

def debugLevel : Nat := 10

/-- What the setting of the level may name. The usual form of lines and the table of such forms have
    names like the levels have, but they are none. -/
inductive Constant
  | level (number : Nat)
  | form (text : String)
  | forms
  deriving DecidableEq, Repr

def usualForm : String := "%(levelname)s:%(name)s:%(message)s"

/-- What a text names, ignoring letter case; a text that names nothing stands for information. -/
def Constant.ofName (name : String) : Constant :=
  let capitals := Text.upper name
  if capitals = "BASIC_FORMAT" then .form usualForm
  else if capitals = "_STYLES" then .forms
  else .level ((levels.lookup capitals).getD infoLevel)

/-- `level` need not be one: that turns out when a handler is given it. -/
structure Settings where
  level : Constant
  file : String
  maxBytes : Int
  backups : Int

def performanceFile : String := "cliforge-perf.log"

/-- The file for the record of timings lies beside the log. -/
def Settings.timingFile (s : Settings) : String := Path.inside (Path.parent s.file) performanceFile

def levelSetting (w : Workspace) : Constant :=
  match w.environment.lookup "CLIFORGE_LOG_LEVEL" with
  | some name => .ofName name
  | none => .level infoLevel

/-- The level of a setting that names one. -/
def Constant.toLevel : Constant → Except Fault Nat
  | level number => .ok number
  | form text => .error (.unknownLevel text)
  | forms => .error .notLevel

/-- An integer setting; an absent one has a value of its own. -/
def integer (w : Workspace) (name : String) (absent : Int) : Except Fault Int :=
  match w.environment.lookup name with
  | none => .ok absent
  | some text =>
    match Integer.read? text with
    | some n => .ok n
    | none => .error (.badInteger text)

def bytesPerMegabyte : Int := 1024 * 1024

def settings (w : Workspace) : Except Fault Settings := do
  let home ← w.home
  let file := (w.environment.lookup "CLIFORGE_LOG_FILE").getD
    (Path.inside home ".cliforge/cliforge.log")
  let megabytes ← integer w "CLIFORGE_LOG_MAX_SIZE" 10
  let backups ← integer w "CLIFORGE_LOG_BACKUPS" 5
  return ⟨levelSetting w, Path.tidy file, megabytes * bytesPerMegabyte, backups⟩

inductive Sink
  | console
  | file (path : String) (maxBytes backups : Int)
  deriving DecidableEq, Repr

/-- A place to write to, and the least level of what is written there. -/
structure Handler where
  sink : Sink
  level : Nat
  deriving DecidableEq, Repr

/-- The handlers of the three loggers: of the program, of its timings, and of the library. -/
structure Log where
  program : List Handler := []
  timings : List Handler := []
  library : List Handler := []
  deriving DecidableEq, Repr

namespace Log

/-- A handler that adds to the file at a path, which is read by its spelling alone; with the
    workspace in which the file is there. -/
def openFile (w : Workspace) (s : Settings) (path : String) :
    Except Fault (Handler × Workspace) := do
  let file := Path.ofParts (Path.place path)
  return (⟨.file file s.maxBytes s.backups, debugLevel⟩, ← w.touch file)

/-- A log by its settings; with the workspace in which its files are there. -/
def ofSettings (w : Workspace) (s : Settings) : Except Fault (Log × Workspace) := do
  let w ← w.makeFolders (Path.parentParts (Path.parts s.file)).reverse
  let console : Handler := ⟨.console, ← s.level.toLevel⟩
  let (file, w) ← openFile w s s.file
  let (timings, w) ← openFile w s s.timingFile
  return ({ program := [console, file], timings := [timings], library := [console, file] }, w)

/-- A log that has been set up stays as it is. -/
def setUp (log : Log) (w : Workspace) : Except Fault (Log × Workspace) :=
  if log.program = [] then do ofSettings w (← settings w) else .ok (log, w)

def handlers (log : Log) : List Handler := log.program ++ log.timings ++ log.library

/-- The rotations in use: most bytes in a file, and number of older files that are kept. -/
def rotations (log : Log) : List (Int × Int) :=
  (log.handlers.filterMap fun h => match h.sink with
    | .console => none
    | .file _ maxBytes backups => some (maxBytes, backups)).eraseDups

end Log
end Netscribe.Logging
