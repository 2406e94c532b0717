import Netscribe.Proofs.Number.Decimal
import Netscribe.Proofs.Outcome
import Netscribe.Proofs.Schema.Keys
import Netscribe.Topology.Parse
/-!
The id of a device is the text of the id that its document gives. This is the plain form of the id,
under which an inventory keeps the device, unless the id is null or a whole number with a point.
-/
open Netscribe.Document (Fields)

namespace Netscribe

namespace Document

/-- Whether a text field takes a value in its plain form. It takes null as an empty text and a whole
    number without its point. -/
def isPlainField : Document → Bool
  | null => false
  | float value => value.toInt?.isNone
  | _ => true

/-- A field is shown as it stands exactly if it is plain. -/
theorem fieldText_eq_plain_iff (d : Document) : d.fieldText = d.plain ↔ d.isPlainField := by
  cases d with
  | null => simp [fieldText, plain, listing, isPlainField]
  | float value =>
    rw [fieldText, plain, listing, isPlainField]
    · cases hwhole : value.toInt? with
      | none => simp
      | some n =>
        have hfinite : ∃ negative mantissa exponent,
            value = .finite negative mantissa exponent := by
          cases value with
          | finite negative mantissa exponent => exact ⟨_, _, _, rfl⟩
          | infinite | nan => cases hwhole
        obtain ⟨negative, mantissa, exponent, rfl⟩ := hfinite
        exact iff_of_false
          (fun h => Binary64.write_finite_ne_toString negative mantissa exponent n h.symm)
          Bool.false_ne_true
    · intro _ htext
      cases htext
  | _ => simp [fieldText, plain, isPlainField]

end Document

private theorem Shape.normalizeSlots_text {vendor : Option String} {slot : Slot} {raw : Document}
    {rest : List (Slot × Shape)} {path : String} {fields : Fields}
    (h : slot.find? fields = some raw) :
    Shape.normalizeSlots vendor ((slot, .text) :: rest) path fields = do
      return (slot.name, .text raw.fieldText)
        :: (← Shape.normalizeSlots vendor rest path fields) := by
  rw [Shape.normalizeSlots]
  · rw [h]
    rfl
  · intro _ _ _ _ hshape
    cases hshape

/-- A document without a field that has to be there is refused. -/
theorem Shape.normalizeSlots_eq_error {vendor : Option String} {slot : Slot}
    {rest : List (Slot × Shape)} {path : String} {fields : Fields} (hrequired : slot.required)
    (h : slot.find? fields = none) :
    Shape.normalizeSlots vendor ((slot, .text) :: rest) path fields =
      .error (.missingField path (camelCase slot.name)) := by
  rw [Shape.normalizeSlots]
  · rw [h]
    exact if_pos hrequired
  · intro _ _ _ _ hshape
    cases hshape

namespace Node

def idSlot : Slot := ⟨"id", none, true⟩

/-- The id has one key. -/
theorem find?_idSlot (fields : Fields) : idSlot.find? fields = Fields.get? fields "id" := by
  have hkeys : idSlot.keys = ["id", "id"] := by decide
  exact Slot.find?_eq_get? hkeys fields

/-- Reading the other fields of a device leaves its id alone. -/
theorem id_foldl_put {fs : List (Field Node)} (hput : ∀ f ∈ fs, ∀ d n, (f.put d n).id = n.id)
    (d : Document) (n : Node) :
    (fs.foldl (fun r f => match d.get? f.slot.name with
      | some v => f.put v r
      | none => r) n).id = n.id := by
  induction fs generalizing n with
  | nil => rfl
  | cons f fs ih =>
    obtain ⟨hf, hrest⟩ := List.forall_mem_cons.mp hput
    rw [List.foldl_cons, ih hrest]
    split
    · exact hf _ _
    · rfl

private theorem id_ofDocument (id : String) (others : Fields) :
    (ofDocument (.object (("id", .text id) :: others)) : Node).id = id := by
  have hput : ∀ f ∈ Node.fields.tail, ∀ d n, (f.put d n).id = n.id := by
    intro f hf d n
    simp only [Node.fields, List.tail_cons, List.mem_cons, List.not_mem_nil, or_false] at hf
    obtain rfl | rfl | rfl | rfl | rfl := hf <;> rfl
  exact id_foldl_put hput _ _

/-- A device that can be read has an id, and that id as text is its own. -/
theorem id_eq_of_parse {fields : Fields} {n : Node} (h : Node.parse (.object fields) = .ok n) :
    ∃ raw, Fields.get? fields "id" = some raw ∧ n.id = raw.fieldText := by
  obtain ⟨vendor, _, hread⟩ := Outcome.bind_eq_ok_iff.mp h
  let rest := Node.fields.tail.map fun f => (f.slot, f.shape)
  let path := s!"node[{rawId fields}]"
  change Except.map ofDocument ((Shape.normalizeSlots (some vendor.name) ((idSlot, .text) :: rest)
    path fields).bind fun found => .ok (.object found)) = .ok n at hread
  cases hid : Fields.get? fields "id" with
  | none =>
    rw [Shape.normalizeSlots_eq_error rfl ((find?_idSlot fields).trans hid)] at hread
    cases hread
  | some raw =>
    refine ⟨raw, rfl, ?_⟩
    rw [Shape.normalizeSlots_text ((find?_idSlot fields).trans hid)] at hread
    cases hothers : Shape.normalizeSlots (some vendor.name) rest path fields with
    | error cause =>
      rw [hothers] at hread
      cases hread
    | ok others =>
      rw [hothers] at hread
      cases hread
      exact id_ofDocument _ _

end Node
end Netscribe
