import Netscribe.Schema.Shape
/-!
Types that documents describe. A record type is given by the list of its fields, from which its
shape, its reading and its listing follow.
-/
namespace Netscribe

/-- A type with its shape. `ofDocument` reads documents in canonical form, where it cannot fail;
    `toDocument` gives the canonical form with every field present. -/
class Described (α : Type) where
  shape : Shape
  ofDocument : Document → α
  toDocument : α → Document

export Described (ofDocument toDocument)

instance : Described String where
  shape := .text
  ofDocument
    | .text s => s
    | _ => ""
  toDocument := .text

instance : Described Bool where
  shape := .flag
  ofDocument
    | .flag b => b
    | _ => false
  toDocument := .flag

instance {α : Type} [Described α] : Described (List α) where
  shape := .list (Described.shape α)
  ofDocument
    | .list items => items.map ofDocument
    | _ => []
  toDocument xs := .list (xs.map toDocument)

instance {α : Type} [Described α] : Described (Option α) where
  shape := .optional (Described.shape α)
  ofDocument
    | .null => none
    | d => some (ofDocument d)
  toDocument
    | none => .null
    | some x => toDocument x

/-- Settings that the two vendors with settings of their own arrange differently. -/
inductive VendorVariant (α β : Type)
  | none
  | h3c (settings : α)
  | huawei (settings : β)

/-- A field of the record type `ρ`. -/
structure Field (ρ : Type) where
  slot : Slot
  shape : Shape
  put : Document → ρ → ρ
  get : ρ → Document

namespace Field

variable {ρ α : Type} [Described α]

def of (name : String) (get : ρ → α) (put : ρ → α → ρ) : Field ρ where
  slot := ⟨name, none, false⟩
  shape := Described.shape α
  put d r := put r (ofDocument d)
  get r := toDocument (get r)

/-- A field with a spelling that its name does not give. -/
def keyed (name key : String) (get : ρ → α) (put : ρ → α → ρ) : Field ρ :=
  { of name get put with slot := ⟨name, some key, false⟩ }

def required (name : String) (get : ρ → α) (put : ρ → α → ρ) : Field ρ :=
  { of name get put with slot := ⟨name, none, true⟩ }

/-- The settings of the device's vendor. `kind` names the sort of settings in listings. -/
def variant {β : Type} [Described β] (kind : String) (get : ρ → VendorVariant α β)
    (put : ρ → VendorVariant α β → ρ) : Field ρ where
  slot := ⟨"variant", none, false⟩
  shape := .variant ("H3C" ++ kind) (Described.shape α) ("Huawei" ++ kind) (Described.shape β)
  put d r := put r (match d.get? "kind" with
    | some (.text name) =>
      if name = "H3C" ++ kind then .h3c (ofDocument d) else .huawei (ofDocument d)
    | _ => .none)
  get r := match get r with
    | .none => .null
    | .h3c settings => tagged ("H3C" ++ kind) (toDocument settings)
    | .huawei settings => tagged ("Huawei" ++ kind) (toDocument settings)

end Field

/-- A record type: fields that a document lacks keep the value they have in `initial`. -/
@[reducible]
def Described.record {ρ : Type} (fields : List (Field ρ)) (initial : ρ) (lift : Lift) :
    Described ρ where
  shape := .record lift (fields.map fun f => (f.slot, f.shape))
  ofDocument d := fields.foldl (fun r f => match d.get? f.slot.name with
    | some v => f.put v r
    | none => r) initial
  toDocument r := .object (fields.map fun f => (f.slot.name, f.get r))

/-- A type of alternatives, each with its text. -/
@[reducible]
def Described.choice {α : Type} (c : Choice) (ofText : String → α) (toText : α → String) :
    Described α where
  shape := .choice c
  ofDocument
    | .text s => ofText s
    | _ => ofText ""
  toDocument x := .text (toText x)

end Netscribe
