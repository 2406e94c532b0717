import Netscribe.CommandLine.Command
import Netscribe.Dialect.Tables
import Netscribe.Inventory.Session
import Netscribe.Timing.Measure
/-!
Running a command: what it prints and writes, what the log shows of it, and how it ends.
-/
namespace Netscribe.CommandLine

/-- What is wrong with a text that is to be written as bytes. -/
def unencodable? (text : String) : Option Fault :=
  (Text.loneRun? text).map fun (unit, place, count) => .unencodable unit place count

/-- What is wrong with a text that is to be printed. -/
def unprintable? (w : Workspace) (text : String) : Option Fault :=
  match w.console with
  | .buffer => none
  | .bytes => unencodable? text

/-- A text as it stands among errors. -/
def errorText (w : Workspace) (text : String) : String :=
  match w.console with
  | .buffer => text
  | .bytes => Text.escapeSurrogates text

/-- The end of a run that was not cut short. `errors` is what the program itself prints among
    errors, behind the records of the log. -/
structure Result where
  code : Nat := 0
  output : String := ""
  errors : String := ""
  workspace : Workspace

namespace Result

def refuse (w : Workspace) (reason : String) : Result :=
  { code := 1, errors := errorText w reason ++ "\n", workspace := w }

def report (w : Workspace) (fault : Fault) : Result := refuse w s!"Error: {fault.message}"

/-- Some texts printed one below the other. The first one that cannot be printed ends the run. -/
def print (w : Workspace) : List String → Result
  | [] => { workspace := w }
  | text :: rest =>
    match unprintable? w text with
    | some fault => report w fault
    | none =>
      let after := print w rest
      { after with output := text ++ "\n" ++ after.output }

end Result

/-- A fragment and, if that is wanted and there is one, its explanation below an empty line. -/
def fragmentTexts (f : Fragment) (explain : Bool) : List String :=
  if explain ∧ f.explanation ≠ "" then [f.cli, "", f.explanation] else [f.cli]

/-- What the console shows of the log in a run without options for more: warnings and errors. The
    time in front of a record and the trace behind that of a section are left out. -/
inductive Record
  /-- A section of a device that could not be generated. -/
  | brokenSection (device title : String)
  /-- Measured work that failed. -/
  | failedWork (work : Timing.Work)

def Record.level : Record → String
  | brokenSection .. => "ERROR"
  | failedWork _ => "WARNING"

/-- The message of a record; `elapsed` is the time that the work took. -/
def Record.message (elapsed : String) : Record → Except Fault String
  | brokenSection device title => .ok s!"{device}: {title} generation failed"
  | failedWork work => work.line elapsed

/-- A text that is not empty. -/
def nonempty (text : Option String) : Option String := text.filter (· ≠ "")

/-- The devices that scripts are asked for. -/
def chosenNodes (inv : Inventory) (device : Option String) (vendor : Option Vendor) :
    Inventory.Session (List Node) :=
  match nonempty device, vendor with
  | some wanted, _ => do return [← inv.node (.text wanted)]
  | none, some v => inv.nodesOf (.text v.name)
  | none, none => inv.nodes

/-- Of several scripts, each starts with the name of its device. -/
def headed (several : Bool) (n : Node) (script : String) : String :=
  if several then s!"# ===== {n.label} ({n.vendor.name}) =====\n{script}" else script

/-- The records of compiling a device whose links are known: a list of VLANs that cannot be read
    fails the whole, else each of its sections may fail on its own. -/
def nodeRecords (n : Node) (links : List Connection) : List Record :=
  match n.compile links with
  | .error fault =>
    [.failedWork
      { operation := .text "compile_device"
        device := .text n.id
        failure := some fault.inlineMessage }]
  | .ok _ =>
    let broken := Section.all.filter fun s => s.enabled n && !(s.render n links).toBool
    broken.map fun s => .brokenSection n.id s.title

/-- The records of the scripts of devices in turn, up to the first that has none. -/
def scriptRecords (inv : Inventory) : List Node → Inventory.Cache → List Record
  | [], _ => []
  | n :: rest, cache =>
    match inv.nodeConnections (.text n.id) cache with
    | (.error _, _) => []
    | (.ok links, cache) =>
      nodeRecords n links ++
        match n.compile links with
        | .ok _ => scriptRecords inv rest cache
        | .error _ => []

def scripts (inv : Inventory) (nodes : List Node) : Inventory.Session String := do
  let texts ← nodes.mapM fun n => do return headed (1 < nodes.length) n (← inv.script n)
  return Text.join "\n\n" texts

/-- The text for the given devices; nothing if a vendor is given that none of them has. -/
def compileText (inv : Inventory) (device : Option String) (vendor : Option Vendor) :
    Inventory.Session (Option String) := do
  let nodes ← chosenNodes inv device vendor
  if nodes.isEmpty && (nonempty device).isNone && vendor.isSome then return none
  return some (← scripts inv nodes)

def compileRecords (inv : Inventory) (device : Option String) (vendor : Option Vendor) :
    List Record :=
  match chosenNodes inv device vendor {} with
  | (.ok nodes, cache) => scriptRecords inv nodes cache
  | (.error _, _) => []

/-- Where a text goes: to a file if one is named. Without a name there is nothing to write to. What
    cannot be written leaves the file empty. -/
def deliver (w : Workspace) (text : String) : Option (Option String) → Except Fault Result
  | none => .ok (.print w [text])
  | some none => .error (.noAttribute .list "write_text")
  | some (some path) => do
    let path := Path.tidy path
    match unencodable? text with
    | none => return { workspace := ← w.write path (text ++ "\n") }
    | some fault => return .report (← w.write path "") fault

def runCompile (w : Workspace) (topology device : Option String) (vendor : Option Vendor)
    (output : Option (Option String)) : Except Fault Result := do
  let inv ← Inventory.load w topology
  match ← (compileText inv device vendor {}).1 with
  | none => return .refuse w s!"No {(vendor.getD .generic).name} devices in topology"
  | some text => deliver w text output

/-- An option in its place among documents. One without a value is a list without words. -/
def optionDocument (value : Option String) : Document := (value.map .text).getD (.list [])

def runPreview (w : Workspace) (topology device feature : Option String) (explain : Bool) :
    Except Fault Result := do
  match feature.bind Feature.ofName? with
  | none => return .refuse w s!"Unknown feature: {(optionDocument feature).plain}"
  | some f =>
    let inv ← Inventory.load w topology
    let n ← (inv.node (optionDocument device) {}).1
    return .print w (fragmentTexts (← f.render n) explain)

/-- A script in another dialect. Where the dialects are not known, only a line that asks for no
    command of theirs passes. -/
def translated (source target : Option Vendor) (script : String) : Except Fault Fragment :=
  let commands := ((Text.lines script).map Text.trim).filter (!RuleTables.isPassedOver ·)
  let standard := RuleTables.standard
  match source, target with
  | some source, some target => .ok (standard.translateScript source target script)
  | none, _ =>
    if commands = [] then .ok (standard.translateScript .generic .generic script)
    else .error (.notHashable .list)
  | some source, none =>
    if commands.all fun line => (standard.findRule source line).isNone then
      .ok (standard.translateScript source .generic script)
    else .error (.notHashable .list)

/-- The commands to translate: a file, else the words given, else what is typed in. -/
def commandText (w : Workspace) (typed : String) (file : Option String) (line : List String) :
    Except Fault String :=
  match file with
  | some path => w.read (Path.tidy path)
  | none => .ok (if line = [] then typed else Text.unwords line)

def runTranslate (w : Workspace) (typed : String) (source target : Option Vendor)
    (file : Option String) (explain : Bool) (line : List String) : Except Fault Result := do
  let text ← commandText w typed file line
  return .print w (fragmentTexts (← translated source target text) explain)

def translateRecords (source target : Option Vendor) (text : String) : List Record :=
  match translated source target text with
  | .ok _ => []
  | .error fault =>
    [.failedWork
      { operation := .text "translate_script", failure := some fault.inlineMessage }]

def runCommand (w : Workspace) (typed : String) (i : Invocation) : Except Fault Result :=
  match i.command with
  | .compile device vendor output => runCompile w i.topology device vendor output
  | .preview device feature explain => runPreview w i.topology device feature explain
  | .translate source target file explain line =>
    runTranslate w typed source target file explain line
  | .features => .ok (.print w (Feature.all.map (·.name)))

/-- The records of a command, up to where it fails. -/
def records (w : Workspace) (typed : String) (i : Invocation) : List Record :=
  match i.command with
  | .compile device vendor _ =>
    match Inventory.load w i.topology with
    | .ok inv => compileRecords inv device vendor
    | .error _ => []
  | .translate source target file _ line =>
    match commandText w typed file line with
    | .ok text => translateRecords source target text
    | .error _ => []
  | .preview .. | .features => []

/-- The faults of what the program is given, which it reports; others end it. -/
def isReported : Fault → Bool
  | .badDocument cause => cause.complaint ≠ .nesting
  | .unreadable _ | .noWord | .notTemplate | .badPattern | .isFolder _ | .notFolder _
  | .fileInTheWay _ | .nameTooLong _ | .noHome | .noAttribute .. | .notIterable _ | .notLevel
  | .notHashable _ | .notOrdered | .notNumber _ | .tooLarge => false
  | _ => true

/-- How a run ends: with the words rejected, with a result, or with a fault. -/
inductive Ending
  | stopped (why : Stop)
  | finished (result : Result)
  | failed (fault : Fault)

/-- A run: the records that the console shows of it, and then its end. -/
structure Run where
  log : List Record := []
  ending : Ending

/-- How a command ends that has an outcome. -/
def endingOf (w : Workspace) : Except Fault Result → Ending
  | .ok result => .finished result
  | .error fault => if isReported fault then .finished (.report w fault) else .failed fault

def run (w : Workspace) (words : List String) (typed : String) : Run :=
  match Invocation.read words with
  | .error why => { ending := .stopped why }
  | .ok invocation =>
    { log := records w typed invocation
      ending := endingOf w (runCommand w typed invocation) }

end Netscribe.CommandLine
