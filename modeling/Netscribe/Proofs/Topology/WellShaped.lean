import Netscribe.Proofs.Schema.Places
import Netscribe.Proofs.Topology.Identity
/-!
Which documents are those of a device. Apart from the ids of the device and of its ports nothing has
to be there; what is there must be of the kind that its place asks for.
-/
open Netscribe.Document (Fields)

namespace Netscribe

private theorem Vendor.isApart_choice : Vendor.choice.IsApart := by
  unfold Choice.IsApart
  decide

private theorem Vendor.eq_name_of_names {raw value : String} (h : Vendor.choice.Names raw value) :
    ∃ vendor : Vendor, value = vendor.name := by
  obtain ⟨name, hmem, _⟩ := h
  simp only [choice, List.mem_cons, List.not_mem_nil, or_false, Prod.mk.injEq] at hmem
  obtain ⟨rfl, -⟩ | ⟨rfl, -⟩ | ⟨rfl, -⟩ | ⟨rfl, -⟩ := hmem
  · exact ⟨cisco, rfl⟩
  · exact ⟨huawei, rfl⟩
  · exact ⟨h3c, rfl⟩
  · exact ⟨generic, rfl⟩

private theorem Vendor.ofName_name (vendor : Vendor) : ofName vendor.name = vendor := by
  cases vendor <;> decide

private theorem Vendor.name_injective : Function.Injective name :=
  Function.LeftInverse.injective ofName_name

namespace Node

/-- What a document says about its vendor. -/
def vendorDocument (fields : Fields) : Document :=
  (Fields.get? fields "vendor").getD (.text Vendor.generic.name)

/-- The document of a device as a place. -/
def place (fields : Fields) : Place :=
  ⟨Described.shape Node, s!"node[{rawId fields}]", .object fields⟩

/-- The vendor of a device is the choice that its document names. -/
theorem vendorOf_eq (fields : Fields) : vendorOf fields =
    (Vendor.choice.read "node.vendor" (vendorDocument fields)).map ofDocument := rfl

private theorem vendorOf_eq_ok_iff {fields : Fields} {vendor : Vendor} :
    vendorOf fields = .ok vendor ↔
      Vendor.choice.Names (vendorDocument fields).plain vendor.name := by
  rw [vendorOf_eq, Choice.read, ← Choice.find?_eq_some_iff Vendor.isApart_choice]
  cases hfound : Vendor.choice.find? (vendorDocument fields).plain with
  | none =>
    constructor
    · rintro ⟨⟩
    · rintro ⟨⟩
  | some value =>
    obtain ⟨other, rfl⟩ := Vendor.eq_name_of_names (Choice.names_of_find? hfound)
    have hread : (Except.ok (.text other.name)).map ofDocument =
        (.ok other : Except ParseError Vendor) := congrArg Except.ok (Vendor.ofName_name other)
    rw [hread, Except.ok.injEq, Option.some_inj, Vendor.name_injective.eq_iff]

private theorem vendorOf_eq_error {fields : Fields} {e : ParseError}
    (h : vendorOf fields = .error e) :
    (∀ value, ¬ Vendor.choice.Names (vendorDocument fields).plain value) ∧
      e = .unknownMember "node.vendor" "vendor" (vendorDocument fields).plain := by
  rw [vendorOf_eq, Choice.read] at h
  cases hfound : Vendor.choice.find? (vendorDocument fields).plain with
  | some value =>
    rw [hfound] at h
    cases h
  | none =>
    rw [hfound] at h
    cases h
    exact ⟨Choice.find?_eq_none_iff.mp hfound, rfl⟩

private theorem parse_object (fields : Fields) : parse (.object fields) = (do
    let vendor ← vendorOf fields
    ((place fields).read (some vendor.name)).map ofDocument) := rfl

section Reached

variable {vendor : Option String} {fields : Fields} {inner : Place}

private theorem shape_of_reaches_item {item : Shape} {place : Place} (h : place.shape = .list item)
    (hholds : place.Holds vendor inner) : inner.shape = item := by
  obtain ⟨shape, path, d⟩ := place
  obtain rfl : shape = .list item := h
  cases hholds with
  | item => rfl

private theorem exists_heldFor {lift : Lift} {slots : List (Slot × Shape)} {place : Place}
    (h : place.shape = .record lift slots) (hholds : place.Holds vendor inner) :
    ∃ path fields, ∃ entry ∈ slots, Place.HeldFor vendor path fields entry inner := by
  obtain ⟨shape, path, d⟩ := place
  obtain rfl : shape = .record lift slots := h
  cases hholds with
  | entry hfields hentry hheld => exact ⟨_, _, _, hentry, hheld⟩

private theorem requiresNothing_config : (Described.shape NodeConfig).requiresNothing := by
  decide +kernel

/-- The fields of a device are plain ones, and of these only the ports hold something that has to be
    there. -/
theorem mem_slots {entry : Slot × Shape} (h : entry ∈ Node.fields.map fun f => (f.slot, f.shape)) :
    entry.2.isVariant = false ∧
      (entry.2 = Described.shape (List Port) ∨ entry.2.requiresNothing) ∧
      (entry.1.required → entry.1 = idSlot) := by
  simp only [Node.fields, List.map_cons, List.map_nil, List.mem_cons, List.not_mem_nil,
    or_false] at h
  obtain rfl | rfl | rfl | rfl | rfl | rfl := h
  · exact ⟨rfl, .inr rfl, fun _ => rfl⟩
  · exact ⟨rfl, .inr rfl, fun hrequired => absurd hrequired Bool.false_ne_true⟩
  · exact ⟨rfl, .inr rfl, fun hrequired => absurd hrequired Bool.false_ne_true⟩
  · exact ⟨rfl, .inr rfl, fun hrequired => absurd hrequired Bool.false_ne_true⟩
  · exact ⟨rfl, .inl rfl, fun hrequired => absurd hrequired Bool.false_ne_true⟩
  · exact ⟨rfl, .inr requiresNothing_config, fun hrequired => absurd hrequired Bool.false_ne_true⟩

/-- The fields of a port are scalars, and only the id is required. -/
theorem mem_portSlots {entry : Slot × Shape}
    (h : entry ∈ Port.fields.map fun f => (f.slot, f.shape)) :
    entry.2.isScalar ∧ (entry.1.required → entry.1 = idSlot) := by
  simp only [Port.fields, List.map_cons, List.map_nil, List.mem_cons, List.not_mem_nil,
    or_false] at h
  obtain rfl | rfl | rfl := h
  · exact ⟨rfl, fun _ => rfl⟩
  · exact ⟨rfl, fun hrequired => absurd hrequired Bool.false_ne_true⟩
  · exact ⟨rfl, fun hrequired => absurd hrequired Bool.false_ne_true⟩

/-- Whether a place is the device, its list of ports, a port, or somewhere where nothing has to be
    there. -/
def IsKnown (fields : Fields) (inner : Place) : Prop :=
  inner = place fields ∨ inner.shape = Described.shape (List Port) ∨
    inner.shape = Described.shape Port ∨ inner.shape.requiresNothing

private theorem isKnown_of_holds {middle : Place} (h : IsKnown fields middle)
    (hholds : middle.Holds vendor inner) : IsKnown fields inner := by
  obtain rfl | hports | hport | hnothing := h
  · have hrecord : (place fields).shape =
        .record .none (Node.fields.map fun f => (f.slot, f.shape)) := rfl
    obtain ⟨path, found, ⟨slot, shape⟩, hentry, hheld⟩ := exists_heldFor hrecord hholds
    obtain ⟨hshape, hkind, -⟩ := mem_slots hentry
    rw [← Place.shape_of_heldFor hshape hheld] at hkind
    obtain hports | hnothing := hkind
    · exact .inr (.inl hports)
    · exact .inr (.inr (.inr hnothing))
  · exact .inr (.inr (.inl (shape_of_reaches_item hports hholds)))
  · have hrecord : middle.shape = .record .none (Port.fields.map fun f => (f.slot, f.shape)) :=
      hport
    obtain ⟨path, found, ⟨slot, shape⟩, hentry, hheld⟩ := exists_heldFor hrecord hholds
    have hscalar := (mem_portSlots hentry).1
    have hshape := Place.shape_of_heldFor (Shape.isVariant_of_isScalar hscalar) hheld
    refine .inr (.inr (.inr ?_))
    rw [hshape]
    exact Shape.requiresNothing_of_isScalar hscalar
  · exact .inr (.inr (.inr (Place.requiresNothing_of_holds hholds hnothing)))

private theorem isKnown_of_reaches (h : (place fields).Reaches vendor inner) :
    IsKnown fields inner := by
  induction h with
  | refl => exact .inl rfl
  | tail _ hholds ih => exact isKnown_of_holds ih hholds

/-- A place at which a field is missing that has to be there is the device or a port without an
    id. -/
theorem isKnown_of_lacks {lift : Lift} {slots : List (Slot × Shape)} {found : Fields}
    {entry : Slot × Shape} (hknown : IsKnown fields inner)
    (hshape : inner.shape = .record lift slots) (hfields : inner.document.HasFields found)
    (hentry : entry ∈ slots) (hlacks : Place.Lacks (lift.apply found) entry) :
    (inner = place fields ∧ Fields.get? fields "id" = none) ∨
      inner.shape = Described.shape Port ∧ Fields.get? found "id" = none := by
  have hid (hrequired : entry.1 = idSlot) (hlift : lift = .none) :
      Fields.get? found "id" = none := by
    have hmissing := hlacks.2.2
    rwa [hrequired, hlift, Lift.apply, find?_idSlot] at hmissing
  obtain rfl | hports | hport | hnothing := hknown
  · obtain ⟨hlift, rfl⟩ := Shape.record.inj hshape
    have hmissing := hid ((mem_slots hentry).2.2 hlacks.2.1) hlift.symm
    obtain hobject | ⟨hnull, -⟩ := hfields
    · rw [Document.object.inj hobject]
      exact .inl ⟨rfl, hmissing⟩
    · cases hnull
  · rw [hports] at hshape
    cases hshape
  · obtain ⟨hlift, rfl⟩ := Shape.record.inj (hport.symm.trans hshape)
    exact .inr ⟨hport, hid ((mem_portSlots hentry).2 hlacks.2.1) hlift.symm⟩
  · rw [hshape] at hnothing
    have hfree := (Shape.requireNothing_iff.mp hnothing entry hentry).1
    rw [hlacks.2.1] at hfree
    cases hfree

end Reached

/-- The document of a device is well shaped: it has an id and so has every port, it names its
    vendor, and every place that is reached for this vendor is of the kind that is asked for. -/
structure IsWellShaped (fields : Fields) (vendor : Vendor) : Prop where
  id : (Fields.get? fields "id").isSome
  names : Vendor.choice.Names (vendorDocument fields).plain vendor.name
  admits : ∀ inner, (place fields).Reaches (some vendor.name) inner →
    inner.shape.Admits inner.document
  ports : ∀ inner, (place fields).Reaches (some vendor.name) inner →
    inner.shape = Described.shape Port → (inner.document.get? "id").isSome

section Object

variable {fields : Fields} {vendor : Vendor}

private theorem lacks_id {found : Fields} (h : Fields.get? found "id" = none) :
    Place.Lacks (Lift.none.apply found) (idSlot, .text) :=
  ⟨rfl, rfl, (find?_idSlot found).trans h⟩

/-- A port without an id is wrong. -/
theorem id_isSome_of_port {inner : Place} (hright : ∀ e, ¬ inner.Complains e)
    (hport : inner.shape = Described.shape Port) : (inner.document.get? "id").isSome := by
  obtain ⟨shape, path, d⟩ := inner
  obtain rfl : shape = Described.shape Port := hport
  obtain ⟨found, hfound⟩ := Place.admits_of_not_complains hright
  cases hid : Fields.get? found "id" with
  | none => exact absurd (.missing hfound List.mem_cons_self (lacks_id hid)) (hright _)
  | some raw =>
    obtain rfl | ⟨-, rfl⟩ := hfound
    · exact Option.isSome_of_eq_some hid
    · cases hid

private theorem read_succeeds_iff (h : vendorOf fields = .ok vendor) :
    (∃ value, (place fields).read (some vendor.name) = .ok value) ↔
      IsWellShaped fields vendor := by
  rw [Place.read_succeeds_iff]
  constructor
  · intro hright
    refine ⟨?_, vendorOf_eq_ok_iff.mp h, fun inner hreaches =>
      Place.admits_of_not_complains (hright inner hreaches), fun inner hreaches =>
      id_isSome_of_port (hright inner hreaches)⟩
    rw [Option.isSome_iff_ne_none]
    intro hnone
    exact hright _ .refl _ (.missing (.inl rfl) List.mem_cons_self (lacks_id hnone))
  · intro hshaped inner hreaches e hwrong
    obtain ⟨lift, slots, found, entry, hshape, hfields, hentry, hlacks⟩ :=
      hwrong.lacks (hshaped.admits inner hreaches)
    obtain ⟨rfl, hnone⟩ | ⟨hport, hnone⟩ :=
      isKnown_of_lacks (isKnown_of_reaches hreaches) hshape hfields hentry hlacks
    · have hid := hshaped.id
      rw [hnone] at hid
      cases hid
    · have hid := hshaped.ports inner hreaches hport
      obtain hobject | ⟨hnull, -⟩ := hfields
      · rw [hobject, Document.get?, hnone] at hid
        cases hid
      · rw [hnull] at hid
        cases hid

/-- With a vendor, a device is what its place reads as. -/
theorem parse_of_vendor (h : vendorOf fields = .ok vendor) :
    parse (.object fields) = ((place fields).read (some vendor.name)).map ofDocument := by
  rw [parse_object, h]
  exact pure_bind vendor fun vendor => ((place fields).read (some vendor.name)).map ofDocument

/-- Without a vendor, a device fails as its vendor does. -/
theorem parse_of_vendor_error {e : ParseError} (h : vendorOf fields = .error e) :
    parse (.object fields) = .error e := by
  rw [parse_object, h]
  rfl

end Object

/-- A document is that of a device exactly if it is a well-shaped object. Otherwise the failure says
    that it is no object, that its vendor is unknown, or what is wrong at a place that is reached
    for its vendor. -/
theorem parse_succeeds_iff_isWellShaped (d : Document) :
    ((∃ n, parse d = .ok n) ↔
      ∃ fields vendor, d = .object fields ∧ IsWellShaped fields vendor) ∧
    ∀ e, parse d = .error e →
      ((∀ fields, d ≠ .object fields) ∧ e = .nodeNotObject d.kind) ∨
      ∃ fields, d = .object fields ∧
        (((∀ value, ¬ Vendor.choice.Names (vendorDocument fields).plain value) ∧
            e = .unknownMember "node.vendor" "vendor" (vendorDocument fields).plain) ∨
          ∃ (vendor : Vendor) (inner : Place),
            Vendor.choice.Names (vendorDocument fields).plain vendor.name ∧
            (place fields).Reaches (some vendor.name) inner ∧ inner.Complains e) := by
  cases d with
  | object fields =>
    cases hvendor : vendorOf fields with
    | error cause =>
      obtain ⟨hunknown, rfl⟩ := vendorOf_eq_error hvendor
      have hparse := parse_of_vendor_error hvendor
      refine ⟨⟨?_, ?_⟩, fun e he => .inr ⟨fields, rfl, .inl ⟨hunknown, ?_⟩⟩⟩
      · rintro ⟨n, hn⟩
        rw [hparse] at hn
        cases hn
      · rintro ⟨_, vendor, ⟨⟩, hshaped⟩
        exact absurd hshaped.names (hunknown vendor.name)
      · rw [hparse] at he
        exact (Except.error.inj he).symm
    | ok vendor =>
      have hnames := vendorOf_eq_ok_iff.mp hvendor
      rw [parse_of_vendor hvendor, Outcome.map_succeeds_iff]
      refine ⟨⟨?_, ?_⟩, fun e he => .inr ⟨fields, rfl, .inr ⟨vendor, ?_⟩⟩⟩
      · exact fun hread => ⟨fields, vendor, rfl, (read_succeeds_iff hvendor).mp hread⟩
      · rintro ⟨_, other, ⟨⟩, hshaped⟩
        obtain rfl := Except.ok.inj
          (hvendor.symm.trans (vendorOf_eq_ok_iff.mpr hshaped.names))
        exact (read_succeeds_iff hvendor).mpr hshaped
      · obtain ⟨inner, hreaches, hwrong⟩ :=
          Place.exists_complaint_of_read_eq_error (Outcome.map_eq_error_iff.mp he)
        exact ⟨inner, hnames, hreaches, hwrong⟩
  | null | flag | int | float | text | list =>
    refine ⟨⟨?_, ?_⟩, ?_⟩
    · rintro ⟨n, ⟨⟩⟩
    · rintro ⟨_, _, ⟨⟩, _⟩
    · rintro e ⟨⟩
      exact .inl ⟨fun _ => nofun, rfl⟩

end Node
end Netscribe
