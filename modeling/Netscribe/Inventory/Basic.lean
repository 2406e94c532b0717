import Netscribe.Document.Basic
import Netscribe.Topology.Parse
import Netscribe.Workspace.Basic
/-!
Inventories: the devices and connections of a topology file, before they are read as such.
-/
open Netscribe.Document (Fields)

namespace Netscribe

/-- The entries for devices already have the defaults of the file. An entry need not be one of a
    device. -/
structure Inventory where
  path : String
  entries : List Document
  connections : Option Document

namespace Inventory

/-- A value whose items are gone through, or nothing at all when it counts as unset. -/
def itemsOf : Option Document → Except Fault (List Document)
  | none => .ok []
  | some d =>
    if !d.isTrue then .ok []
    else match d with
      | .list items => .ok items
      | .object fields => .ok (fields.map fun field => .text field.1)
      | .text s => .ok ((Text.pieces s).map .text)
      | other => .error (.notIterable other.kind)

/-- Fields that an object lacks, added behind its own. -/
def addMissing (defaults fields : Fields) : Fields :=
  defaults.foldl (fun found field =>
    if Fields.contains found field.1 then found else found ++ [field]) fields

/-- The entry of a device with the defaults; other entries have none. -/
def withDefaults (defaults : Document) : Document → Except Fault Document
  | .object fields =>
    match defaults with
    | .object missing => .ok (.object (addMissing missing fields))
    | other => .error (.noAttribute other.kind "items")
  | entry => .ok entry

def ofDocument (path : String) : Document → Except Fault Inventory
  | .object fields => do
    let defaults := Document.orEmpty (Fields.get? fields "defaults")
    let entries ← itemsOf (Fields.get? fields "nodes")
    return ⟨path, ← entries.mapM (withDefaults defaults), Fields.get? fields "connections"⟩
  | other => .error (.noAttribute other.kind "get")

/-- The document in a topology file. A file named `.json` has to hold a document. Others are of the
    looser format, which the workspace has a reader for; what counts as unset there is an empty
    object. -/
def readDocument (w : Workspace) (path text : String) : Except Fault Document :=
  if Text.hasEnd ".json" path then
    match Document.read (Text.plain text) with
    | .ok d => .ok d
    | .error e => .error (.badDocument e)
  else do return Document.orEmpty (some (← w.readLoose text))

/-- The places where a topology file is looked for, in order. -/
def candidates (w : Workspace) : Except Fault (List String) := do
  let named ← (w.setting? "CLIFORGE_TOPOLOGY").toList.mapM w.expandHome
  let home ← w.home
  return named ++ ["configs/topology.yaml", "topology.yaml",
    Path.inside home ".config/cliforge/topology.yaml", "/etc/cliforge/topology.yaml"]

/-- The first of some paths at which there is something. -/
def firstPresent (w : Workspace) : List String → Except Fault String
  | [] => .error .noTopologyFile
  | path :: rest => do if ← w.exists? path then return path else firstPresent w rest

def locate (w : Workspace) : Except Fault String := do firstPresent w (← candidates w)

/-- The inventory in a given file; without a file, in the first one that is found. -/
def load (w : Workspace) (path : Option String) : Except Fault Inventory := do
  let path ← match path.filter (· ≠ "") with
    | some path => .ok path
    | none => locate w
  ofDocument path (← readDocument w path (← w.read path))

/-- The id of a device as text; a missing one counts as null. -/
def idText (fields : Fields) : String :=
  (Document.ofOption (Fields.get? fields "id")).plain

def deviceFields (inv : Inventory) : List Fields := inv.entries.filterMap (·.fields?)

/-- The ids of the devices that have one, in file order. -/
def deviceIds (inv : Inventory) : List String :=
  (inv.deviceFields.filter (Fields.contains · "id")).map idText

/-- Whether a device answers to an id or a name. A missing name counts as null. -/
def isCalled (wanted : Document) (fields : Fields) : Bool :=
  wanted.equals (.text (idText fields))
    || (Document.ofOption (Fields.get? fields "name")).equals wanted

/-- The first device that answers to an id or a name. -/
def device (inv : Inventory) (wanted : Document) : Except Fault Fields :=
  match inv.deviceFields.find? (isCalled wanted) with
  | some fields => .ok fields
  | none => .error (.unknownDevice wanted.plain)

end Inventory
end Netscribe
