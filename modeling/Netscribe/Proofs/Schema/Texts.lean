import Netscribe.Device.Node
import Netscribe.Proofs.Text.OneLine
import Netscribe.Topology.Connection
/-!
The texts that settings hold. They are those of the document that lists the settings, so that one
definition covers every record, down to the settings of a whole device.
-/
namespace Netscribe

open Text (IsOneLine)

mutual
/-- The texts that are values somewhere in a document, in the order in which they stand. -/
def Document.held : Document → List String
  | .text s => [s]
  | .list items => Document.heldItems items
  | .object fields => Document.heldFields fields
  | .null | .flag _ | .int _ | .float _ => []

def Document.heldItems : List Document → List String
  | [] => []
  | d :: rest => d.held ++ Document.heldItems rest

def Document.heldFields : List (String × Document) → List String
  | [] => []
  | (_, d) :: rest => d.held ++ Document.heldFields rest
end

/-- A document of which no text has a line feed. -/
def Document.IsPlain (d : Document) : Prop := ∀ text ∈ d.held, IsOneLine text

instance : DecidablePred Document.IsPlain :=
  fun d => inferInstanceAs (Decidable (∀ text ∈ d.held, IsOneLine text))

/-- A value of which no text has a line feed. -/
def IsPlain {α : Type} [Described α] (x : α) : Prop := (toDocument x).IsPlain

namespace Document

@[simp]
theorem isPlain_text (s : String) : (text s).IsPlain ↔ IsOneLine s := List.forall_mem_singleton

@[simp]
theorem isPlain_flag (b : Bool) : (flag b).IsPlain := fun _ h => nomatch h

@[simp]
theorem isPlain_null : null.IsPlain := fun _ h => nomatch h

@[simp]
theorem isPlain_list (items : List Document) : (list items).IsPlain ↔ ∀ d ∈ items, d.IsPlain := by
  change (∀ text ∈ heldItems items, IsOneLine text) ↔ _
  induction items with
  | nil => exact iff_of_true (fun _ h => nomatch h) (fun _ h => nomatch h)
  | cons d rest ih =>
    rw [heldItems, List.forall_mem_append, ih, List.forall_mem_cons]
    rfl

@[simp]
theorem isPlain_object (fields : Fields) :
    (object fields).IsPlain ↔ ∀ f ∈ fields, f.2.IsPlain := by
  change (∀ text ∈ heldFields fields, IsOneLine text) ↔ _
  induction fields with
  | nil => exact iff_of_true (fun _ h => nomatch h) (fun _ h => nomatch h)
  | cons f rest ih =>
    rw [heldFields, List.forall_mem_append, ih, List.forall_mem_cons]
    rfl

private theorem isPlain_of_isPlain_tagged {kind : String} {d : Document}
    (h : (tagged kind d).IsPlain) :
    d.IsPlain := by
  cases d with
  | object fields =>
    rw [tagged, isPlain_object] at h
    rw [isPlain_object]
    exact (List.forall_mem_cons.mp h).2
  | _ => exact h

end Document

section Described

variable {α β ρ : Type} [Described α] [Described β]

instance : DecidablePred (Netscribe.IsPlain (α := α)) :=
  fun x => inferInstanceAs (Decidable (toDocument x).IsPlain)

@[simp]
theorem isPlain_string (s : String) : IsPlain s ↔ IsOneLine s := Document.isPlain_text s

@[simp]
theorem isPlain_bool (b : Bool) : IsPlain b := Document.isPlain_flag b

@[simp]
theorem isPlain_list (xs : List α) : IsPlain xs ↔ ∀ x ∈ xs, IsPlain x := by
  change (Document.list (xs.map toDocument)).IsPlain ↔ _
  rw [Document.isPlain_list, List.forall_mem_map]
  rfl

@[simp]
theorem isPlain_option (o : Option α) : IsPlain o ↔ ∀ x ∈ o, IsPlain x := by
  cases o with
  | none => exact iff_of_true Document.isPlain_null fun _ h => nomatch h
  | some x => simp [IsPlain, toDocument]

/-- A field of a record of which no text has a line feed. -/
def Field.IsPlain (f : Field ρ) (r : ρ) : Prop := (f.get r).IsPlain

@[simp]
theorem Field.isPlain_of (name : String) (get : ρ → α) (put : ρ → α → ρ) (r : ρ) :
    (Field.of name get put).IsPlain r ↔ Netscribe.IsPlain (get r) := Iff.rfl

@[simp]
theorem Field.isPlain_keyed (name key : String) (get : ρ → α) (put : ρ → α → ρ) (r : ρ) :
    (Field.keyed name key get put).IsPlain r ↔ Netscribe.IsPlain (get r) := Iff.rfl

@[simp]
theorem Field.isPlain_required (name : String) (get : ρ → α) (put : ρ → α → ρ) (r : ρ) :
    (Field.required name get put).IsPlain r ↔ Netscribe.IsPlain (get r) := Iff.rfl

/-- Settings of either vendor are as plain as the field that holds them. -/
theorem Field.isPlain_variant {kind : String} {get : ρ → VendorVariant α β}
    {put : ρ → VendorVariant α β → ρ} {r : ρ} (h : (Field.variant kind get put).IsPlain r) :
    (∀ settings, get r = .h3c settings → Netscribe.IsPlain settings) ∧
      ∀ settings, get r = .huawei settings → Netscribe.IsPlain settings := by
  simp only [Field.IsPlain, Field.variant] at h
  constructor
  · intro settings hsettings
    rw [hsettings] at h
    exact Document.isPlain_of_isPlain_tagged h
  · intro settings hsettings
    rw [hsettings] at h
    exact Document.isPlain_of_isPlain_tagged h

/-- A record is plain exactly if each of its fields is. -/
theorem isPlain_record {fields : List (Field ρ)} {initial : ρ} {lift : Lift} (r : ρ) :
    @IsPlain ρ (Described.record fields initial lift) r ↔ ∀ f ∈ fields, f.IsPlain r := by
  change (Document.object (fields.map fun f => (f.slot.name, f.get r))).IsPlain ↔ _
  rw [Document.isPlain_object, List.forall_mem_map]
  rfl

end Described

end Netscribe
