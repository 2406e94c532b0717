import Netscribe.CommandLine.Arguments
import Netscribe.Device.Vendor
import Netscribe.Fault
/-!
The commands of the program and how they are given on the command line.
-/
namespace Netscribe.CommandLine

/-- The options that must be given may still have no value. -/
inductive Command
  /-- Scripts of one device, of those of a vendor, or of all. The output may be given without a
      value. -/
  | compile (device : Option String) (vendor : Option Vendor) (output : Option (Option String))
  | preview (device feature : Option String) (explain : Bool)
  | translate (source target : Option Vendor) (file : Option String) (explain : Bool)
      (line : List String)
  | features

/-- A command with the options of the program. -/
structure Invocation where
  topology : Option String
  command : Command
  /-- Whether the console shows the records below a warning too. -/
  verbose : Bool := false
  /-- Whether a table of the time that pieces of work took follows the output. -/
  timings : Bool := false

/-- The vendors whose commands can be translated. -/
def dialects : List Vendor := [.cisco, .huawei, .h3c]

/-- The dialect that free text names. -/
def dialect (text : String) : Except Fault Vendor :=
  match (Vendor.ofText? text).filter dialects.contains with
  | some v => .ok v
  | none => .error (.notDialect text (dialects.map (·.name)))

def isDialect (text : String) : Bool := (dialect text).toBool

def option (name : String) : Switch := { names := [name], takesValue := true }

def needed (name : String) : Switch := { option name with required := true }

def mode (name : String) : Switch := { names := [name], takesValue := false }

def programGrammar : Grammar where
  switches := [option "--topology", { mode "--verbose" with names := ["-v", "--verbose"] },
    mode "--timings"]
  positional := .command

def compileGrammar : Grammar where
  switches := [option "--device", { option "--vendor" with accepts := isDialect },
    option "--output"]
  positional := .nothing

def previewGrammar : Grammar where
  switches := [needed "--device", needed "--feature", mode "--explain"]
  positional := .nothing

def translateGrammar : Grammar where
  switches := [{ needed "--from" with accepts := isDialect },
    { needed "--to" with accepts := isDialect }, option "--file", mode "--explain"]
  positional := .words

def featuresGrammar : Grammar := ⟨[], .nothing⟩

/-- The dialect of an option. -/
def dialectOption (r : Reading) (name : String) : Option Vendor :=
  (r.value? name).bind fun text => (dialect text).toOption

/-- A command by its name, with the words behind the name. -/
def readCommand (name : String) (words : List String) : Except Stop Command :=
  match name with
  | "compile" => do
    let r ← complete (← compileGrammar.read words)
    return .compile (r.value? "--device") (dialectOption r "--vendor") (r.given? "--output")
  | "preview" => do
    let r ← complete (← previewGrammar.read words)
    return .preview (r.value? "--device") (r.value? "--feature") (r.has "--explain")
  | "translate" => do
    let r ← complete (← translateGrammar.read words)
    return .translate (dialectOption r "--from") (dialectOption r "--to") (r.value? "--file")
      (r.has "--explain") (r.positional.getD [])
  | "features" => do
    let _ ← complete (← featuresGrammar.read words)
    return .features
  | _ => .error .rejected
where
  /-- Nothing may be left over. -/
  complete (r : Reading) : Except Stop Reading :=
    if r.leftOver = [] then .ok r else .error .rejected

def Invocation.read (words : List String) : Except Stop Invocation := do
  let r ← programGrammar.read words
  match r.positional with
  | some (name :: rest) =>
    let command ← readCommand name rest
    if r.leftOver = [] then
      return ⟨r.value? "--topology", command, r.has "--verbose", r.has "--timings"⟩
    else throw .rejected
  | _ => throw .rejected

end Netscribe.CommandLine
