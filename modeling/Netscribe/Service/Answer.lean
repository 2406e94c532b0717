import Netscribe.Dialect.Tables
import Netscribe.Document.Writer
import Netscribe.Inventory.Session
import Netscribe.Service.Tool
import Netscribe.Timing.Measure
/-!
What the service answers. The inventory is loaded when a question first needs it; a question that
fails is answered with the reason, except that a device id must be able to stand in the record of
timings.
-/
open Netscribe.Document (Fields)

namespace Netscribe.Service

open Inventory (Session ofResult ofParsed)

/-- The inventory of the topology that the environment names, or of the first one that is found. -/
def inventory (w : Workspace) : Except Fault Inventory :=
  Inventory.load w (w.setting? "CLIFORGE_TOPOLOGY")

def argument (arguments : Fields) (name : String) : Except Fault Document :=
  match Fields.get? arguments name with
  | some d => .ok d
  | none => .error (.missingArgument name)

/-- A vendor by its name in free text, with or without a dialect. -/
def vendor (d : Document) : Except Fault Vendor :=
  match Vendor.ofText? d.plain with
  | some v => .ok v
  | none => .error (.unknownVendor d.plain)

/-- Free text whose lines are gone through. -/
def linesOf : Document → Except Fault String
  | .text s => .ok s
  | other => .error (.noAttribute other.kind "splitlines")

def deviceSummary (n : Node) : Document :=
  .object [("id", .text n.id), ("name", .text n.label), ("vendor", .text n.vendor.name),
    ("type", .text n.deviceType.name), ("ports", .int n.ports.length)]

def scriptAnswer (n : Node) (script : String) : Document :=
  .object [("device_id", .text n.id), ("vendor", .text n.vendor.name), ("cli", .text script)]

def fragmentFields (f : Fragment) : Fields :=
  [("cli", .text f.cli), ("explanation", .text f.explanation)]

def listDevices (w : Workspace) (arguments : Fields) : Session Document := do
  let inv ← ofResult (inventory w)
  let wanted := Document.ofOption (Fields.get? arguments "vendor")
  let nodes ←
    if wanted.isTrue then do inv.nodesOf (.text (← ofResult (vendor wanted)).name)
    else inv.nodes
  return .object [("devices", .list (nodes.map deviceSummary))]

def listFeatures : Document := .object [("features", Document.texts (Feature.all.map (·.name)))]

def compileDevice (w : Workspace) (arguments : Fields) : Session Document := do
  let inv ← ofResult (inventory w)
  let n ← inv.node (← ofResult (argument arguments "device_id"))
  return scriptAnswer n (← inv.script n)

/-- The feature of a name, which must be spelled as it is listed. -/
def knownFeature (d : Document) : Except Fault Feature :=
  match d with
  | .text name =>
    match Feature.ofName? name with
    | some feature => .ok feature
    | none => unknown
  | _ => unknown
where
  unknown : Except Fault Feature :=
    .error (.unknownFeature d.plain (Feature.all.map (·.name)))

def previewFeature (w : Workspace) (arguments : Fields) : Session Document := do
  let inv ← ofResult (inventory w)
  let wanted ← ofResult (argument arguments "device_id")
  let feature ← ofResult (do knownFeature (← argument arguments "feature"))
  let n ← inv.node wanted
  let fragment ← ofResult (feature.render n)
  return .object ([("device_id", .text n.id), ("feature", .text feature.name)]
    ++ fragmentFields fragment)

def compileNode (arguments : Fields) : Session Document := do
  let n ← ofParsed (Node.parse (← ofResult (argument arguments "node")))
  let connections ← ofParsed (Connection.parseList (Fields.get? arguments "connections"))
  return scriptAnswer n (← ofResult (n.compile connections))

def translateCommand (arguments : Fields) : Except Fault Document := do
  let command ← argument arguments "command"
  let source ← argument arguments "source_vendor"
  let target ← argument arguments "target_vendor"
  let source ← vendor source
  let target ← vendor target
  let fragment := RuleTables.standard.translateScript source target (← linesOf command)
  return .object ([("source_vendor", .text source.name), ("target_vendor", .text target.name)]
    ++ fragmentFields fragment)

def explainCommand (arguments : Fields) : Except Fault Document := do
  let command ← argument arguments "command"
  let dialect ← vendor (← argument arguments "vendor")
  let lines := ((Text.lines (← linesOf command)).map Text.trim).filter (· ≠ "")
  return .object [("vendor", .text dialect.name),
    ("explanations", .list (lines.map fun line =>
      .object [("command", .text line),
        ("explanation", .text (RuleTables.standard.explain dialect line))]))]

/-- The answer of a tool; nothing if there is no tool of that name. -/
def run? (w : Workspace) (tool : String) (arguments : Fields) : Option (Session Document) :=
  if tool = Tool.listDevices.name then some (listDevices w arguments)
  else if tool = Tool.listFeatures.name then some (pure listFeatures)
  else if tool = Tool.compileDevice.name then some (compileDevice w arguments)
  else if tool = Tool.previewFeature.name then some (previewFeature w arguments)
  else if tool = Tool.compileNode.name then some (compileNode arguments)
  else if tool = Tool.translateCommand.name then some (ofResult (translateCommand arguments))
  else if tool = Tool.explainCommand.name then some (ofResult (explainCommand arguments))
  else none

/-- A document as the text of an answer, or the reason why there is none. -/
def answerText (answer : Session Document) : Session String := fun cache =>
  match answer cache with
  | (.ok d, cache) => (.ok (d.writeIndented 0), cache)
  | (.error fault, cache) => (.ok s!"Error: {fault.inlineMessage}", cache)

/-- The arguments of a call by their names. -/
def namedArguments : Document → Except Fault Fields
  | .object fields => .ok fields
  | other => .error (.noAttribute other.kind "get")

/-- The text that a call of a tool is answered with. -/
def callTool (w : Workspace) (tool : String) (arguments : Document) : Session String := do
  let arguments ← ofResult (namedArguments arguments)
  let text ← match run? w tool arguments with
    | some answer => answerText answer
    | none => pure s!"Unknown tool: {tool}"
  let _ ← ofResult (Timing.deviceColumn (Document.ofOption (Fields.get? arguments "device_id")))
  return text

/-- The script of a device as something that can be read. -/
structure Resource where
  uri : String
  name : String
  description : String
  mime : String := "text/plain"

def scheme : String := "topology://"

def resourceOf (n : Node) : Resource where
  uri := s!"{scheme}{n.id}/cli"
  name := s!"{n.label} CLI Script"
  description := s!"Compiled {n.vendor.name} configuration for {n.id}"

def resources (w : Workspace) : Session (List Resource) := do
  let inv ← ofResult (inventory w)
  return (← inv.nodes).map resourceOf

/-- The id of the device whose script a text names. -/
def deviceOfUri? (uri : String) : Option String :=
  if Text.hasStart scheme uri then
    match Text.splitOn '/' (.ofList (uri.toList.drop scheme.toList.length)) with
    | id :: "cli" :: _ => some id
    | _ => none
  else none

def readResource (w : Workspace) (uri : String) : Session String := do
  match deviceOfUri? uri with
  | some id =>
    let inv ← ofResult (inventory w)
    inv.script (← inv.node (.text id))
  | none =>
    return (Document.object [("error", .text s!"Unknown resource: {uri}")]).writeCompact

end Netscribe.Service
