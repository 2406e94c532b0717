import Netscribe.Proofs.Topology.WellShaped
/-!
The settings of a device that has been read: each field has the value that its place in the document
gives, read for the vendor of the device, and a field that the document leaves out has its initial
value.
-/
open Netscribe.Document (Fields)

namespace Netscribe

/-- The value of a field of a device: what the object sets, read for the vendor. -/
def Slot.setting {α : Type} [Described α] (slot : Slot) (vendor : Vendor) (path : String)
    (initial : α) (fields : Fields) : Except ParseError α :=
  match slot.find? fields with
  | some raw => Described.parse (some vendor.name) s!"{path}.{slot.name}" raw
  | none => .ok initial

/-- A setting depends on nothing but what is found for its slot. -/
theorem Slot.setting_congr {α : Type} [Described α] {slot : Slot} {before after : Fields}
    (h : slot.find? after = slot.find? before) (vendor : Vendor) (path : String) (initial : α) :
    slot.setting vendor path initial after = slot.setting vendor path initial before := by
  rw [setting, setting, h]

/-- What has been checked for a field is then read. -/
theorem Slot.setting_eq {α : Type} [Described α] {slot : Slot} {vendor : Vendor} {path : String}
    {fields : Fields} {value : Option Document}
    (h : (slot.find? fields).mapM ((Described.shape α).normalize (some vendor.name)
      s!"{path}.{slot.name}") = .ok value) (initial : α) :
    slot.setting vendor path initial fields = .ok ((value.map ofDocument).getD initial) := by
  rw [setting]
  cases hraw : slot.find? fields with
  | none =>
    rw [hraw] at h
    rw [← Except.ok.inj h]
    rfl
  | some raw =>
    rw [hraw, Option.mapM_some] at h
    dsimp only
    rw [Described.parse]
    cases hd : (Described.shape α).normalize (some vendor.name) s!"{path}.{slot.name}" raw with
    | error e =>
      rw [hd] at h
      cases h
    | ok d =>
      rw [hd] at h
      rw [← Except.ok.inj h]
      rfl

namespace Shape

variable {vendor : Option String} {path : String} {fields found : Fields}
  {slots : List (Slot × Shape)}

/-- What is read of an object has the names of its fields as keys, no others. -/
theorem get?_eq_none_of_normalizeSlots {name : String}
    (hplain : ∀ entry ∈ slots, entry.2.isVariant = false)
    (hname : ∀ entry ∈ slots, entry.1.name ≠ name)
    (h : normalizeSlots vendor slots path fields = .ok found) : Fields.get? found name = none := by
  induction slots generalizing found with
  | nil =>
    rw [normalizeSlots] at h
    cases h
    rfl
  | cons entry rest ih =>
    obtain ⟨slot, shape⟩ := entry
    obtain ⟨hshape, hplain⟩ := List.forall_mem_cons.mp hplain
    obtain ⟨hfirst, hname⟩ := List.forall_mem_cons.mp hname
    rw [normalizeSlots_cons hshape] at h
    cases hraw : slot.find? fields with
    | some raw =>
      rw [hraw] at h
      obtain ⟨value, _, hrest⟩ := Outcome.bind_eq_ok_iff.mp h
      obtain ⟨others, hothers, hpure⟩ := Outcome.bind_eq_ok_iff.mp hrest
      cases hpure
      rw [Fields.get?_cons, if_neg (Ne.symm hfirst), ih hplain hname hothers]
    | none =>
      rw [hraw] at h
      dsimp only at h
      split_ifs at h
      exact ih hplain hname h

/-- Under the name of a field stands what has been read for it. -/
theorem mapM_find?_of_normalizeSlots (hplain : ∀ entry ∈ slots, entry.2.isVariant = false)
    (hnames : (slots.map (·.1.name)).Nodup)
    (h : normalizeSlots vendor slots path fields = .ok found) {slot : Slot} {shape : Shape}
    (hentry : (slot, shape) ∈ slots) :
    (slot.find? fields).mapM (shape.normalize vendor s!"{path}.{slot.name}") =
      .ok (Fields.get? found slot.name) := by
  induction slots generalizing found with
  | nil => cases hentry
  | cons entry rest ih =>
    obtain ⟨first, firstShape⟩ := entry
    obtain ⟨hshape, hlater⟩ := List.forall_mem_cons.mp hplain
    obtain ⟨hfirst, hapart⟩ := List.nodup_cons.mp hnames
    have hother : ∀ entry ∈ rest, entry.1.name ≠ first.name := fun entry hmem hsame =>
      hfirst (List.mem_map.mpr ⟨entry, hmem, hsame⟩)
    rw [normalizeSlots_cons hshape] at h
    cases hraw : first.find? fields with
    | some raw =>
      rw [hraw] at h
      obtain ⟨value, hvalue, hrest⟩ := Outcome.bind_eq_ok_iff.mp h
      obtain ⟨others, hothers, hpure⟩ := Outcome.bind_eq_ok_iff.mp hrest
      cases hpure
      rw [Fields.get?_cons]
      obtain hsame | hmem := List.mem_cons.mp hentry
      · cases hsame
        rw [hraw, if_pos rfl, Option.mapM_some, hvalue]
        rfl
      · rw [if_neg (hother _ hmem), ih hlater hapart hothers hmem]
    | none =>
      rw [hraw] at h
      dsimp only at h
      split_ifs at h
      obtain hsame | hmem := List.mem_cons.mp hentry
      · cases hsame
        rw [hraw, get?_eq_none_of_normalizeSlots hlater hother h]
        rfl
      · exact ih hlater hapart h hmem

end Shape

namespace Node

def nameSlot : Slot := ⟨"name", none, false⟩

def vendorSlot : Slot := ⟨"vendor", none, false⟩

def deviceTypeSlot : Slot := ⟨"device_type", some "type", false⟩

def portsSlot : Slot := ⟨"ports", none, false⟩

def configSlot : Slot := ⟨"config", none, false⟩

/-- A device whose fields have the values that an object sets. -/
structure HasSettings (n : Node) (path : String) (fields : Fields) : Prop where
  id : idSlot.setting n.vendor path "" fields = .ok n.id
  name : nameSlot.setting n.vendor path "" fields = .ok n.name
  vendor : vendorSlot.setting n.vendor path .generic fields = .ok n.vendor
  deviceType : deviceTypeSlot.setting n.vendor path .l3Switch fields = .ok n.deviceType
  ports : portsSlot.setting n.vendor path [] fields = .ok n.ports
  config : configSlot.setting n.vendor path {} fields = .ok n.config

private theorem ofDocument_object (found : Fields) :
    (ofDocument (.object found) : Node) =
      { id := ((Fields.get? found "id").map ofDocument).getD ""
        name := ((Fields.get? found "name").map ofDocument).getD ""
        vendor := ((Fields.get? found "vendor").map ofDocument).getD .generic
        deviceType := ((Fields.get? found "device_type").map ofDocument).getD .l3Switch
        ports := ((Fields.get? found "ports").map ofDocument).getD []
        config := ((Fields.get? found "config").map ofDocument).getD {} } := by
  have hfields : (ofDocument (.object found) : Node) = Node.fields.foldl (fun r f =>
    match Fields.get? found f.slot.name with
    | some v => f.put v r
    | none => r) { id := "" } := rfl
  rw [hfields]
  generalize hid : Fields.get? found "id" = id
  generalize hname : Fields.get? found "name" = name
  generalize hvendor : Fields.get? found "vendor" = vendor
  generalize hdeviceType : Fields.get? found "device_type" = deviceType
  generalize hports : Fields.get? found "ports" = ports
  generalize hconfig : Fields.get? found "config" = config
  simp only [Node.fields, Field.required, Field.of, Field.keyed, List.foldl_cons, List.foldl_nil,
    hid, hname, hvendor, hdeviceType, hports, hconfig]
  cases id <;> cases name <;> cases vendor <;> cases deviceType <;> cases ports <;>
    cases config <;> rfl

private theorem find?_vendorSlot (fields : Fields) :
    vendorSlot.find? fields = Fields.get? fields "vendor" := by
  have hkeys : vendorSlot.keys = ["vendor", "vendor"] := by decide
  exact Slot.find?_eq_get? hkeys fields

/-- The vendor that decides how settings are read is the one that the device gets. -/
theorem setting_vendor {fields : Fields} {vendor : Vendor} (h : vendorOf fields = .ok vendor)
    (other : Vendor) (path : String) :
    vendorSlot.setting other path .generic fields = .ok vendor := by
  rw [vendorOf_eq, vendorDocument] at h
  rw [Slot.setting, find?_vendorSlot]
  cases hraw : Fields.get? fields "vendor" with
  | none =>
    rw [hraw] at h
    exact h
  | some raw =>
    rw [hraw, Option.getD_some, Choice.read] at h
    dsimp only
    change (Choice.read Vendor.choice s!"{path}.{vendorSlot.name}" raw).map ofDocument = .ok vendor
    rw [Choice.read]
    cases hfound : Vendor.choice.find? raw.plain with
    | none =>
      rw [hfound] at h
      cases h
    | some value =>
      rw [hfound] at h
      exact h

/-- A device that can be read has the settings that its object gives. -/
theorem hasSettings_of_parse {fields : Fields} {n : Node}
    (h : Node.parse (.object fields) = .ok n) : n.HasSettings s!"node[{rawId fields}]" fields := by
  obtain ⟨vendor, hvendor, hread⟩ := Outcome.bind_eq_ok_iff.mp h
  let slots := Node.fields.map fun f => (f.slot, f.shape)
  generalize hpath : s!"node[{rawId fields}]" = path at hread ⊢
  change ((Shape.normalizeSlots (some vendor.name) slots path fields).bind
    fun found => .ok (.object found)).map ofDocument = .ok n at hread
  cases hfound : Shape.normalizeSlots (some vendor.name) slots path fields with
  | error e =>
    rw [hfound] at hread
    cases hread
  | ok found =>
    rw [hfound] at hread
    obtain rfl : ofDocument (.object found) = n := Except.ok.inj hread
    have hplain : ∀ entry ∈ slots, entry.2.isVariant = false := fun entry hentry =>
      (mem_slots hentry).1
    have hnames : (slots.map (·.1.name)).Nodup := by decide
    have hsetting {α : Type} [Described α] (slot : Slot) (initial : α)
        (hentry : (slot, Described.shape α) ∈ slots) : slot.setting vendor path initial fields =
          .ok (((Fields.get? found slot.name).map ofDocument).getD initial) :=
      Slot.setting_eq (Shape.mapM_find?_of_normalizeSlots hplain hnames hfound hentry) initial
    have hid := hsetting idSlot "" (.head _)
    have hname := hsetting nameSlot "" (.tail _ (.head _))
    have hsame := hsetting vendorSlot Vendor.generic (.tail _ (.tail _ (.head _)))
    have htype := hsetting deviceTypeSlot DeviceType.l3Switch
      (.tail _ (.tail _ (.tail _ (.head _))))
    have hports := hsetting portsSlot ([] : List Port)
      (.tail _ (.tail _ (.tail _ (.tail _ (.head _)))))
    have hconfig := hsetting configSlot ({} : NodeConfig)
      (.tail _ (.tail _ (.tail _ (.tail _ (.tail _ (.head _))))))
    rw [ofDocument_object]
    obtain rfl := Except.ok.inj ((setting_vendor hvendor vendor path).symm.trans hsame)
    exact ⟨hid, hname, hsame, htype, hports, hconfig⟩

end Node
end Netscribe
