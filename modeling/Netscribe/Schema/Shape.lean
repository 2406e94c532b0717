import Netscribe.Document.Writer
import Netscribe.Text.LetterCase
/-!
Shapes of documents: what each place of a document must hold, and under which keys a record's
fields are found.
-/
open Netscribe.Document (Fields)

namespace Netscribe

/-- A closed set of alternatives. Each has the text that stands for it in documents and a second
    name that is accepted as well; `label` is what messages call the set. -/
structure Choice where
  label : String
  members : List (String × String)

/-- The alternative that a text names, ignoring letter case and surrounding blanks. -/
def Choice.find? (choice : Choice) (raw : String) : Option String :=
  let wanted := Text.lower (Text.trim raw)
  (choice.members.find? fun (value, name) =>
    wanted == Text.lower value || wanted == Text.lower name).map (·.1)

/-- The key spelling of editors: words after the first start with a capital and are joined. -/
def camelCase (name : String) : String :=
  match Text.splitOn '_' name with
  | [] => ""
  | head :: rest => head ++ String.join (rest.map Text.capitalize)

/-- A field of a record: its name, a spelling of its own if it has one, and whether a document
    must give it. -/
structure Slot where
  name : String
  special : Option String
  required : Bool

/-- The accepted spellings of a field, in the order in which they are looked for. -/
def Slot.keys (slot : Slot) : List String := slot.special.toList ++ [camelCase slot.name, slot.name]

/-- The value of the first accepted spelling that an object has. -/
def Slot.find? (slot : Slot) (fields : Fields) : Option Document :=
  slot.keys.findSome? (Fields.get? fields)

/-- Older forms of an object that are brought into the current form before its fields are read. -/
inductive Lift
  | none
  /-- An object with the fields of a single aggregation group becomes a list of one group. -/
  | singleGroup
  /-- A port mapping type may be written as a name in capitals with underscores. -/
  | mappingType
  deriving DecidableEq, Repr

def Lift.apply : Lift → Fields → Fields
  | .none, fields => fields
  | .singleGroup, fields =>
    if Fields.contains fields "groups"
        || !(Fields.contains fields "groupId" || Fields.contains fields "members") then
      fields
    else
      [("enabled", (Fields.get? fields "enabled").getD (.flag false)),
       ("groups", .list [.object (Fields.erase fields "enabled")])]
  | .mappingType, fields =>
    match Fields.get? fields "mappingType" with
    | some (.text raw) =>
      Fields.set fields "mappingType"
        (.text (Text.replaceChar '_' "-" (Text.lower (Text.trim raw))))
    | _ => fields

/-- What a place of a document must hold. A `variant` is read from the enclosing object by the
    vendor of the device: the object's own keys for H3C, its `huawei` object for Huawei. -/
inductive Shape
  | text
  | flag
  | choice (c : Choice)
  | list (item : Shape)
  | optional (inner : Shape)
  | record (lift : Lift) (slots : List (Slot × Shape))
  | variant (h3cKind : String) (h3c : Shape) (huaweiKind : String) (huawei : Shape)

/-- A record that also says which kind of settings it holds. -/
def tagged (kind : String) : Document → Document
  | .object fields => .object (("kind", .text kind) :: fields)
  | other => other

end Netscribe
