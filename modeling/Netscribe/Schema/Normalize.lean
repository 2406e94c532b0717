import Netscribe.Schema.Shape
/-!
Checking a document against a shape. The result is the same document in canonical form: every
field under its own name, every scalar of the type its place asks for, nothing else.
-/
open Netscribe.Document (Fields)

namespace Netscribe

/-- Why a document does not have the shape that its place asks for. -/
inductive ParseError
  | nodeNotObject (got : Document.Kind)
  | connectionNotObject (got : Document.Kind)
  | topologyNotObject
  | nodesNotList
  | connectionsNotList
  | expectedObject (path : String) (got : Document.Kind)
  | expectedList (path : String) (got : Document.Kind)
  | missingField (path : String) (key : String)
  | unknownMember (path : String) (label : String) (raw : String)
  deriving DecidableEq, Repr

def ParseError.message : ParseError → String
  | nodeNotObject got => s!"Node must be an object, got {got.name}"
  | connectionNotObject got => s!"Connection must be an object, got {got.name}"
  | topologyNotObject => "Topology must be an object"
  | nodesNotList => "nodes must be a list"
  | connectionsNotList => "connections must be a list"
  | expectedObject path got => s!"{path}: expected an object, got {got.name}"
  | expectedList path got => s!"{path}: expected a list, got {got.name}"
  | missingField path key => s!"{path}: missing required field '{key}'"
  | unknownMember path label raw => s!"{path}: unknown {label} '{raw}'"

/-- Texts that mean yes. -/
def affirmative : List String := ["true", "yes", "on", "1"]

def Document.asFlag : Document → Bool
  | .text s => affirmative.contains (Text.lower (Text.trim s))
  | other => other.isTrue

def Choice.read (choice : Choice) (path : String) (raw : Document) : Except ParseError Document :=
  match choice.find? raw.plain with
  | some value => .ok (.text value)
  | none => .error (.unknownMember path choice.label raw.plain)

/-- The fields of an object; null stands for the empty object. -/
def Document.asFields (path : String) : Document → Except ParseError Fields
  | .null => .ok []
  | .object fields => .ok fields
  | other => .error (.expectedObject path other.kind)

def Document.asItems (path : String) : Document → Except ParseError (List Document)
  | .null => .ok []
  | .list items => .ok items
  | other => .error (.expectedList path other.kind)

/-- The items of a list in order, each read with its own path. -/
def readEach (read : String → Document → Except ParseError Document) (path : String) :
    Nat → List Document → Except ParseError (List Document)
  | _, [] => .ok []
  | i, item :: rest => do
    let item ← read s!"{path}[{i}]" item
    let rest ← readEach read path (i + 1) rest
    return item :: rest

/-- A value that counts as unset stands for the empty object. -/
def Document.orEmpty : Option Document → Document
  | some d => if d.isTrue then d else .object []
  | none => .object []

mutual
/-- `vendor` is the value of the device's vendor, if there is a device. -/
def Shape.normalize (vendor : Option String) :
    Shape → String → Document → Except ParseError Document
  | .text, _, raw => .ok (.text raw.fieldText)
  | .flag, _, raw => .ok (.flag raw.asFlag)
  | .choice c, path, raw => c.read path raw
  | .list item, path, raw => do
    let items ← raw.asItems path
    return .list (← readEach (item.normalize vendor) path 0 items)
  | .optional inner, path, raw =>
    match raw with
    | .null => .ok .null
    | other => inner.normalize vendor path other
  | .record lift slots, path, raw => do
    let fields ← raw.asFields path
    return .object (← Shape.normalizeSlots vendor slots path (lift.apply fields))
  | .variant .., _, _ => .ok .null

def Shape.normalizeSlots (vendor : Option String) :
    List (Slot × Shape) → String → Fields → Except ParseError Fields
  | [], _, _ => .ok []
  | (slot, .variant h3cKind h3c huaweiKind huawei) :: rest, path, fields => do
    let value ←
      if vendor = some "H3C" then do
        pure (tagged h3cKind (← h3c.normalize vendor s!"{path}.{slot.name}.H3C" (.object fields)))
      else if vendor = some "Huawei" then do
        let subtree := Document.orEmpty (Fields.get? fields "huawei")
        pure (tagged huaweiKind (← huawei.normalize vendor s!"{path}.{slot.name}.Huawei" subtree))
      else pure .null
    let others ← Shape.normalizeSlots vendor rest path fields
    return (slot.name, value) :: others
  | (slot, shape) :: rest, path, fields =>
    match slot.find? fields with
    | some raw => do
      let value ← shape.normalize vendor s!"{path}.{slot.name}" raw
      let others ← Shape.normalizeSlots vendor rest path fields
      return (slot.name, value) :: others
    | none =>
      if slot.required then .error (.missingField path (camelCase slot.name))
      else Shape.normalizeSlots vendor rest path fields
end

end Netscribe
