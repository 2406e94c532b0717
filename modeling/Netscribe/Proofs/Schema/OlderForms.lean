import Netscribe.Proofs.Schema.Alike
/-!
Older forms of an object, which are recognised by keys of editors before any field is looked for.
Two objects that are in the older form alike, and whose fields are found alike, are read alike.
-/
open Netscribe.Document (Fields)

namespace Netscribe

namespace Shape

/-- The text that stands for a port mapping type. -/
def canonicalType (raw : String) : String :=
  Text.replaceChar '_' "-" (Text.lower (Text.trim raw))

/-- Whether an object is taken for a single aggregation group. -/
def isSingleGroup (fields : Fields) : Bool :=
  !Fields.contains fields "groups"
    && (Fields.contains fields "groupId" || Fields.contains fields "members")

/-- Objects that are in the older form of their record alike, where the record has one. -/
def AgreeOn : Lift → Fields → Fields → Prop
  | .none, _, _ => True
  | .singleGroup, before, after => isSingleGroup after = isSingleGroup before
  | .mappingType, before, after =>
    Fields.get? after "mappingType" = Fields.get? before "mappingType" ∨
      Fields.get? before "mappingType" = none ∧
        ∀ raw, Fields.get? after "mappingType" = some (.text raw) → canonicalType raw = raw

section MappingType

/-- The value of a port mapping type, brought into its usual form. -/
def canonical : Document → Document
  | .text raw => .text (canonicalType raw)
  | other => other

private theorem get?_apply_mappingType (fields : Fields) (wanted : String) :
    Fields.get? (Lift.mappingType.apply fields) wanted =
      if wanted = "mappingType" then (Fields.get? fields "mappingType").map canonical
      else Fields.get? fields wanted := by
  rw [Lift.apply]
  by_cases hwanted : wanted = "mappingType"
  · rw [if_pos hwanted, hwanted]
    split
    next raw htext =>
      rw [Fields.get?_set, if_pos rfl, htext]
      rfl
    next hother =>
      cases hfound : Fields.get? fields "mappingType" with
      | none => rfl
      | some value =>
        cases value with
        | text raw => exact absurd hfound (hother raw)
        | null | flag | int | float | list | object => rfl
  · rw [if_neg hwanted]
    split
    · rw [Fields.get?_set, if_neg hwanted]
    · rfl

variable {slots : List (Slot × Shape)}

/-- Scalars bring no fields of their own. -/
theorem readFields_of_scalar (lift : Lift) (h : ∀ entry ∈ slots, entry.2.isScalar) :
    readFields lift slots = slots := by
  have hsingle : ∀ entry ∈ slots, fieldsOf lift entry = [entry] := by
    rintro ⟨slot, shape⟩ hentry
    have hscalar : shape.isScalar := h _ hentry
    cases shape with
    | text | flag | choice => rfl
    | list | optional | record | variant => cases hscalar
  rw [readFields, List.flatMap_congr hsingle, List.flatMap_singleton']

/-- A mapping type is lifted among scalars only. -/
theorem scalar_of_fits (h : fits .mappingType slots) : ∀ entry ∈ slots, entry.2.isScalar := by
  rw [fits, Bool.and_eq_true, List.all_eq_true] at h
  exact h.1

/-- Where a mapping type is lifted, there is a field for it, with both spellings. -/
theorem exists_of_fits_mappingType (h : fits .mappingType slots) :
    ∃ field ∈ slots, field.1.name = "mapping_type" ∧
      field.1.keys = ["mappingType", "mapping_type"] := by
  rw [fits, Bool.and_eq_true, List.any_eq_true] at h
  obtain ⟨-, field, hfield, hplain⟩ := h
  exact ⟨field, hfield, name_of_isPlain hplain, keys_of_isPlain hplain⟩

private theorem find?_of_mappingType {slot : Slot}
    (hkeys : slot.keys = ["mappingType", "mapping_type"])
    (fields : Fields) : slot.find? fields =
      (Fields.get? fields "mappingType").or (Fields.get? fields "mapping_type") := by
  rw [Slot.find?, hkeys, List.findSome?_cons, List.findSome?_cons, List.findSome?_nil]
  cases Fields.get? fields "mappingType" <;> cases Fields.get? fields "mapping_type" <;> rfl

/-- The type of a port mapping that is in its usual form stays as it is. -/
theorem map_canonical_eq {value : Option Document}
    (h : ∀ raw, value = some (.text raw) → canonicalType raw = raw) :
    value.map canonical = value := by
  cases value with
  | none => rfl
  | some value =>
    cases value with
    | text raw => rw [Option.map_some, canonical, h raw rfl]
    | null | flag | int | float | list | object => rfl

/-- Fields other than the type of a port mapping stay as they are. -/
theorem find?_apply_mappingType {slot : Slot} (h : "mappingType" ∉ slot.keys) (fields : Fields) :
    slot.find? (Lift.mappingType.apply fields) = slot.find? fields := by
  refine find?_congr fun key hkey => ?_
  rw [get?_apply_mappingType, if_neg]
  rintro rfl
  exact h hkey

/-- Types of port mappings that are found alike are so in their usual form. -/
theorem find?_apply_mappingType_congr {slot : Slot} {before after : Fields}
    (hkeys : slot.keys = ["mappingType", "mapping_type"])
    (hagree : AgreeOn .mappingType before after) (h : slot.find? after = slot.find? before) :
    slot.find? (Lift.mappingType.apply after) = slot.find? (Lift.mappingType.apply before) := by
  have hother : ¬ "mapping_type" = "mappingType" := by decide
  rw [find?_of_mappingType hkeys, find?_of_mappingType hkeys] at h
  rw [find?_of_mappingType hkeys, find?_of_mappingType hkeys, get?_apply_mappingType,
    get?_apply_mappingType, get?_apply_mappingType, get?_apply_mappingType, if_pos rfl, if_pos rfl,
    if_neg hother, if_neg hother]
  obtain hequal | ⟨hnone, hcanonical⟩ := hagree
  · rw [hequal] at h ⊢
    cases hvalue : Fields.get? before "mappingType" with
    | some value => rfl
    | none =>
      rw [hvalue, Option.none_or, Option.none_or] at h
      rw [Option.map_none, Option.none_or, Option.none_or, h]
  · rw [map_canonical_eq hcanonical, h, hnone]
    rfl

/-- Bringing port mapping types into their usual form leaves what is found alike. -/
theorem IsLikeness.foundBy_apply_mappingType {r : Shape → Document → Document → Prop}
    (hr : IsLikeness r) {before after : Fields} (happart : keysApart slots)
    (hfits : fits .mappingType slots) (hagree : AgreeOn .mappingType before after)
    (h : ∀ entry ∈ slots, FoundBy r before after entry) :
    ∀ entry ∈ slots,
      FoundBy r (Lift.mappingType.apply before) (Lift.mappingType.apply after) entry := by
  intro entry hentry
  have hsame := hr.eq_of_foundBy (scalar_of_fits hfits entry hentry) (h entry hentry)
  apply hr.rel_of_eq
  by_cases hkey : "mappingType" ∈ entry.1.keys
  · obtain ⟨field, hfield, -, hkeys⟩ := exists_of_fits_mappingType hfits
    obtain rfl : entry = field :=
      eq_of_mem_keys happart hentry hfield hkey (Slot.mem_keys_of_keys_eq hkeys)
    exact find?_apply_mappingType_congr hkeys hagree hsame
  · rw [find?_apply_mappingType hkey, find?_apply_mappingType hkey, hsame]

end MappingType

section SingleGroup

/-- The record of a list of groups, which the fields of a single group may stand for. -/
structure IsGroupList (enabled groups : Slot × Shape) (group slots : List (Slot × Shape)) :
    Prop where
  slots_eq : slots = [enabled, groups]
  groups_eq : groups.2 = .list (.record .none group)
  scalar : enabled.2.isScalar
  flat : ∀ entry ∈ group, entry.2.isVariant = false
  enabled_keys : enabled.1.keys = ["enabled", "enabled"]
  groups_keys : groups.1.keys = ["groups", "groups"]
  exists_id : ∃ field ∈ group, field.1.name = "group_id" ∧ field.1.keys = ["groupId", "group_id"]
  exists_members : ∃ field ∈ group, field.1.keys = ["members", "members"]

/-- What a single group is lifted into is a list of groups. -/
theorem exists_isGroupList {slots : List (Slot × Shape)} (h : fits .singleGroup slots) :
    ∃ enabled groups group, IsGroupList enabled groups group slots := by
  unfold fits at h
  split at h
  next hlift => cases hlift
  next enabled groups group hlift =>
    rw [Bool.and_eq_true, Bool.and_eq_true, Bool.and_eq_true, Bool.and_eq_true, Bool.and_eq_true,
      List.all_eq_true, List.any_eq_true, List.any_eq_true] at h
    obtain ⟨⟨⟨⟨⟨henabled, hscalar⟩, hgroups⟩, hflat⟩, id, hid, hidPlain⟩, members, hmembers,
      hmembersPlain⟩ := h
    exact ⟨enabled, (groups, .list (.record .none group)), group,
      { slots_eq := rfl
        groups_eq := rfl
        scalar := hscalar
        flat := fun entry hentry => by simpa using hflat entry hentry
        enabled_keys := keys_of_isPlain henabled
        groups_keys := keys_of_isPlain hgroups
        exists_id := ⟨id, hid, name_of_isPlain hidPlain, keys_of_isPlain hidPlain⟩
        exists_members := ⟨members, hmembers, keys_of_isPlain hmembersPlain⟩ }⟩
  next hlift => cases hlift
  next => cases h

variable {enabled groups : Slot × Shape} {group slots : List (Slot × Shape)}

private theorem IsGroupList.readFields_eq (h : IsGroupList enabled groups group slots) :
    readFields .singleGroup slots = enabled :: groups :: group := by
  obtain ⟨slot, shape⟩ := enabled
  obtain ⟨groupsSlot, groupsShape⟩ := groups
  obtain rfl : groupsShape = .list (.record .none group) := h.groups_eq
  have hscalar : shape.isScalar := h.scalar
  rw [h.slots_eq]
  cases shape with
  | text | flag | choice => simp [readFields, fieldsOf]
  | list | optional | record | variant => cases hscalar

/-- The list of groups is read. -/
theorem IsGroupList.groups_mem (h : IsGroupList enabled groups group slots) :
    groups ∈ readFields .singleGroup slots := by
  rw [h.readFields_eq]
  exact List.mem_cons_of_mem enabled List.mem_cons_self

/-- The fields of a single group are read beside the list. -/
theorem IsGroupList.mem_readFields (h : IsGroupList enabled groups group slots)
    {field : Slot × Shape} (hfield : field ∈ group) : field ∈ readFields .singleGroup slots := by
  rw [h.readFields_eq]
  exact List.mem_cons_of_mem enabled (List.mem_cons_of_mem groups hfield)

/-- A list of groups has no variants. -/
theorem IsGroupList.isVariant_eq_false (h : IsGroupList enabled groups group slots) :
    ∀ entry ∈ slots, entry.2.isVariant = false := by
  have hgroups : groups.2.isVariant = false := by
    rw [h.groups_eq]
    rfl
  rw [h.slots_eq]
  exact List.forall_mem_cons.mpr
    ⟨isVariant_of_isScalar h.scalar, List.forall_mem_singleton.mpr hgroups⟩

private theorem apply_singleGroup (fields : Fields) :
    Lift.singleGroup.apply fields =
      if isSingleGroup fields then
        [("enabled", (Fields.get? fields "enabled").getD (.flag false)),
          ("groups", .list [.object (Fields.erase fields "enabled")])]
      else fields := by
  rw [Lift.apply, isSingleGroup]
  cases Fields.contains fields "groups" <;>
    cases Fields.contains fields "groupId" || Fields.contains fields "members" <;> rfl

/-- A list that is made of a single group is read alike if the fields of the group are. -/
theorem IsGroupList.readsSame_singleton (hgroup : IsGroupList enabled groups group slots)
    {vendor : Option String} {before after : Fields}
    (h : ∀ field ∈ group, FoundBy (ReadsSame vendor) before after field) :
    groups.2.ReadsSame vendor (.list [.object before]) (.list [.object after]) := by
  have hsame (path : String) : normalize vendor (.list (.record .none group)) path
      (.list [.object after]) =
        normalize vendor (.list (.record .none group)) path (.list [.object before]) :=
    normalize_list_congr (normalize_flat_congr hgroup.flat h) path [] []
  rw [hgroup.groups_eq]
  exact ⟨hsame, hsame, fun hscalar => by cases hscalar⟩

/-- Bringing the fields of a single group into the form of a list leaves what is found alike. -/
theorem foundBy_apply_singleGroup {vendor : Option String} {before after : Fields}
    (happart : keysApart (readFields .singleGroup slots))
    (hgroup : IsGroupList enabled groups group slots) (hagree : AgreeOn .singleGroup before after)
    (h : ∀ field ∈ readFields .singleGroup slots,
      FoundBy (ReadsSame vendor) before after field) :
    ∀ entry ∈ slots, FoundBy (ReadsSame vendor) (Lift.singleGroup.apply before)
      (Lift.singleGroup.apply after) entry := by
  have hlike := isLikeness_readsSame vendor
  have hagree' : isSingleGroup after = isSingleGroup before := hagree
  rw [hgroup.readFields_eq] at happart h
  obtain ⟨henabled, hrest⟩ := List.forall_mem_cons.mp h
  obtain ⟨hgroups, hfields⟩ := List.forall_mem_cons.mp hrest
  rw [apply_singleGroup, apply_singleGroup, hagree', hgroup.slots_eq]
  split_ifs with hsingle
  · refine List.forall_mem_cons.mpr ⟨?_, List.forall_mem_singleton.mpr ?_⟩
    · have hsame := hlike.eq_of_foundBy hgroup.scalar henabled
      rw [Slot.find?_eq_get? hgroup.enabled_keys, Slot.find?_eq_get? hgroup.enabled_keys] at hsame
      apply hlike.rel_of_eq
      rw [Slot.find?_eq_get? hgroup.enabled_keys, Slot.find?_eq_get? hgroup.enabled_keys,
        Fields.get?_cons, Fields.get?_cons, hsame]
      rfl
    · rw [FoundBy, Slot.find?_eq_get? hgroup.groups_keys, Slot.find?_eq_get? hgroup.groups_keys]
      refine .some (hgroup.readsSame_singleton fun field hfield => ?_)
      have hkept (fields : Fields) :
          field.1.find? (Fields.erase fields "enabled") = field.1.find? fields := by
        refine find?_congr fun key hkey => Fields.get?_erase fields ?_
        rintro rfl
        exact not_mem_keys_of_keysApart_cons happart (List.mem_cons_of_mem _ hfield)
          (Slot.mem_keys_of_keys_eq hgroup.enabled_keys) hkey
      rw [FoundBy, hkept, hkept]
      exact hfields field hfield
  · exact List.forall_mem_cons.mpr ⟨henabled, List.forall_mem_singleton.mpr hgroups⟩

end SingleGroup

/-- Records are read alike if they are in an older form alike and the fields that are read for the
    vendor are found alike. -/
theorem normalize_record_same {lift : Lift} {slots : List (Slot × Shape)} {before after : Fields}
    {vendor : Option String} (hclear : (Shape.record lift slots).isClear)
    (hagree : AgreeOn lift before after)
    (h : ∀ field ∈ readFor vendor lift slots, FoundBy (ReadsSame vendor) before after field)
    (path : String) :
    normalize vendor (.record lift slots) path (.object after) =
      normalize vendor (.record lift slots) path (.object before) := by
  have happart := keysApart_of_isClear hclear
  have hfits := fits_of_isClear hclear
  have hentries : ∀ entry ∈ slots,
      EntrySame vendor (lift.apply before) (lift.apply after) entry := by
    cases lift with
    | none =>
      intro entry hentry
      have hfields : ∀ field ∈ fieldsFor vendor .none entry,
          FoundBy (ReadsSame vendor) before after field :=
        fun field hfield => h field (List.mem_flatMap.mpr ⟨entry, hentry, hfield⟩)
      exact entrySame_of_foundBy (forall_isClear_of_isClear hclear entry hentry) hfields
    | singleGroup =>
      obtain ⟨enabled, groups, group, hgroup⟩ := exists_isGroupList hfits
      rw [readFor_eq hgroup.isVariant_eq_false] at h
      intro entry hentry
      exact (entrySame_iff (hgroup.isVariant_eq_false entry hentry)).mpr
        (foundBy_apply_singleGroup happart hgroup hagree h entry hentry)
    | mappingType =>
      have hscalar := scalar_of_fits hfits
      have hflat : ∀ entry ∈ slots, entry.2.isVariant = false :=
        fun entry hentry => isVariant_of_isScalar (hscalar entry hentry)
      rw [readFor_eq hflat, readFields_of_scalar .mappingType hscalar] at h
      rw [readFields_of_scalar .mappingType hscalar] at happart
      intro entry hentry
      exact (entrySame_iff (hflat entry hentry)).mpr
        ((isLikeness_readsSame vendor).foundBy_apply_mappingType happart hfits hagree h entry
          hentry)
  rw [normalize_object, normalize_object, normalizeSlots_congr hentries]

/-- Records are read alike if they are in an older form alike and their fields are found alike. -/
theorem normalize_record_congr {lift : Lift} {slots : List (Slot × Shape)} {before after : Fields}
    (hclear : (Shape.record lift slots).isClear) (hagree : AgreeOn lift before after)
    (h : ∀ field ∈ readFields lift slots, FoundAlike before after field) (vendor : Option String)
    (path : String) :
    normalize vendor (.record lift slots) path (.object after) =
      normalize vendor (.record lift slots) path (.object before) := by
  refine normalize_record_same hclear hagree (fun field hfield => ?_) path
  exact FoundAlike.same (h field (readFor_subset vendor lift slots hfield)) vendor

end Shape
end Netscribe
