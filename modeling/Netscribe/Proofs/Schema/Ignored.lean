import Netscribe.Proofs.Schema.Respelling
/-!
Documents that differ in what is not read. Of an object only what stands under the keys of its
fields counts, and of settings that depend on the vendor only those of the device's own vendor. What
is left out may be of any kind, also of one that would be refused.
-/
open Netscribe.Document (Fields)

namespace Netscribe

private theorem Document.orEmpty_object (fields : Fields) :
    Document.orEmpty (some (.object fields)) = .object fields := by
  cases fields <;> rfl

private theorem Document.orEmpty_list (front back : List Document) (item : Document) :
    Document.orEmpty (some (.list (front ++ item :: back))) = .list (front ++ item :: back) := by
  cases front <;> rfl

private theorem Document.ne_null_of_orEmpty_eq {d : Document} (h : Document.orEmpty (some d) = d) :
    d ≠ .null := by
  rintro rfl
  cases h

namespace Shape

variable {vendor : Option String}

/-- Two objects of a record that give the same under every key of the fields that are read for a
    vendor. -/
def AgreeOnKeys (vendor : Option String) (lift : Lift) (slots : List (Slot × Shape))
    (before after : Fields) : Prop :=
  ∀ field ∈ readFor vendor lift slots, ∀ key ∈ field.1.keys,
    Fields.get? after key = Fields.get? before key

/-- `Altered vendor shape before after`: two documents that are read by a shape, for devices of one
    vendor, differ in one place, at whatever depth, and only in what is not read there. This may be
    what stands under other keys of an object, a value of a field that is given under a spelling
    that comes first, an object where a list is asked for, or the items of a list where an object
    is asked for. -/
inductive Altered (vendor : Option String) : Shape → Document → Document → Prop
  | keys {lift : Lift} {slots : List (Slot × Shape)} {before after : Fields}
      (hagree : AgreeOnKeys vendor lift slots before after) :
      Altered vendor (.record lift slots) (.object before) (.object after)
  | field {lift : Lift} {slots : List (Slot × Shape)} {field : Slot × Shape} {key : String}
      {before after : Document} {front back : Fields}
      (hfield : field ∈ readFor vendor lift slots) (hkey : key ∈ field.1.keys)
      (hvalue : Altered vendor field.2 before after) :
      Altered vendor (.record lift slots) (.object (front ++ (key, before) :: back))
        (.object (front ++ (key, after) :: back))
  | overridden {lift : Lift} {slots : List (Slot × Shape)} {field : Slot × Shape} {key : String}
      {before after : Document} {front back : Fields}
      (hfield : field ∈ readFor vendor lift slots) (hkey : key ∈ field.1.keys)
      (hfound : field.1.find? (front ++ (key, after) :: back) =
        field.1.find? (front ++ (key, before) :: back)) :
      Altered vendor (.record lift slots) (.object (front ++ (key, before) :: back))
        (.object (front ++ (key, after) :: back))
  | item {shape : Shape} {before after : Document} {front back : List Document}
      (hitem : Altered vendor shape before after) :
      Altered vendor (.list shape) (.list (front ++ before :: back))
        (.list (front ++ after :: back))
  | optional {shape : Shape} {before after : Document}
      (hvalue : Altered vendor shape before after) :
      Altered vendor (.optional shape) before after
  | misplacedObject {item : Shape} {before after : Fields} :
      Altered vendor (.list item) (.object before) (.object after)
  | misplacedList {lift : Lift} {slots : List (Slot × Shape)} {before after : Document}
      {front back : List Document} :
      Altered vendor (.record lift slots) (.list (front ++ before :: back))
        (.list (front ++ after :: back))

section Keys

variable {lift : Lift} {slots : List (Slot × Shape)} {key : String}

/-- A key that is no spelling of a field that is read may be given any value. -/
theorem altered_set (h : ∀ field ∈ readFor vendor lift slots, key ∉ field.1.keys) (fields : Fields)
    (value : Document) :
    Altered vendor (.record lift slots) (.object fields)
      (.object (Fields.set fields key value)) := by
  refine .keys fun field hfield wanted hwanted => ?_
  rw [Fields.get?_set, if_neg]
  rintro rfl
  exact h field hfield hwanted

/-- A key that is no spelling of a field that is read may be left out. -/
theorem altered_erase (h : ∀ field ∈ readFor vendor lift slots, key ∉ field.1.keys)
    (fields : Fields) :
    Altered vendor (.record lift slots) (.object fields) (.object (Fields.erase fields key)) := by
  refine .keys fun field hfield wanted hwanted => Fields.get?_erase fields ?_
  rintro rfl
  exact h field hfield hwanted

end Keys

section AgreeOn

variable {lift : Lift} {slots : List (Slot × Shape)}

/-- Objects that give the same under every key that is read are in an older form alike. -/
theorem AgreeOnKeys.agreeOn {before after : Fields} (h : AgreeOnKeys vendor lift slots before after)
    (hclear : (Shape.record lift slots).isClear) : AgreeOn lift before after := by
  have hfits := fits_of_isClear hclear
  cases lift with
  | none => trivial
  | singleGroup =>
    obtain ⟨enabled, groups, group, hgroup⟩ := exists_isGroupList hfits
    obtain ⟨id, hid, -, hidKeys⟩ := hgroup.exists_id
    obtain ⟨members, hmembers, hmembersKeys⟩ := hgroup.exists_members
    rw [AgreeOnKeys, readFor_eq hgroup.isVariant_eq_false] at h
    have hcontains {field : Slot × Shape} {wanted : String} {others : List String}
        (hfield : field ∈ readFields .singleGroup slots) (hkeys : field.1.keys = wanted :: others) :
        Fields.contains after wanted = Fields.contains before wanted := by
      rw [Fields.contains_eq_isSome, Fields.contains_eq_isSome,
        h field hfield wanted (Slot.mem_keys_of_keys_eq hkeys)]
    rw [AgreeOn, isSingleGroup, isSingleGroup, hcontains hgroup.groups_mem hgroup.groups_keys,
      hcontains (hgroup.mem_readFields hid) hidKeys,
      hcontains (hgroup.mem_readFields hmembers) hmembersKeys]
  | mappingType =>
    obtain ⟨type, htype, -, hkeys⟩ := exists_of_fits_mappingType hfits
    have hvariant := isVariant_of_isScalar (scalar_of_fits hfits type htype)
    exact .inl (h type (mem_readFor htype hvariant) "mappingType" (Slot.mem_keys_of_keys_eq hkeys))

/-- A value that is not what its field is read from leaves the older form of its object alone. -/
theorem agreeOn_of_find? {field : Slot × Shape} {key : String} {before after : Document}
    {front back : Fields} (hclear : (Shape.record lift slots).isClear)
    (hfield : field ∈ readFields lift slots) (hkey : key ∈ field.1.keys)
    (hfound : field.1.find? (front ++ (key, after) :: back) =
      field.1.find? (front ++ (key, before) :: back)) :
    AgreeOn lift (front ++ (key, before) :: back) (front ++ (key, after) :: back) := by
  cases lift with
  | none => trivial
  | singleGroup => exact isSingleGroup_of_value front back key before after
  | mappingType =>
    left
    by_cases hmapping : "mappingType" = key
    · subst hmapping
      have hfits := fits_of_isClear hclear
      obtain ⟨type, htype, -, hkeys⟩ := exists_of_fits_mappingType hfits
      have hread : type ∈ readFields .mappingType slots :=
        mem_readFields htype (isVariant_of_isScalar (scalar_of_fits hfits type htype))
      obtain rfl : field = type := eq_of_mem_keys (keysApart_of_isClear hclear) hfield hread hkey
        (Slot.mem_keys_of_keys_eq hkeys)
      have hget (value : Document) :
          Fields.get? (front ++ ("mappingType", value) :: back) "mappingType" =
            some ((Fields.get? front "mappingType").getD value) := by
        rw [Fields.get?_append_cons, if_pos rfl, Option.or_some]
      have hfind (value : Document) :
          field.1.find? (front ++ ("mappingType", value) :: back) =
            some ((Fields.get? front "mappingType").getD value) := by
        rw [Slot.find?, hkeys, List.findSome?_cons, hget]
      rw [hget, hget, ← hfind, ← hfind, hfound]
    · rw [Fields.get?_append_cons, Fields.get?_append_cons, if_neg hmapping, if_neg hmapping]

end AgreeOn

/-- What is altered counts as set, or is an empty object. -/
theorem Altered.orEmpty_eq {shape : Shape} {before after : Document}
    (h : shape.Altered vendor before after) :
    Document.orEmpty (some before) = before ∧ Document.orEmpty (some after) = after := by
  induction h with
  | keys | field | overridden | misplacedObject =>
    exact ⟨Document.orEmpty_object _, Document.orEmpty_object _⟩
  | item | misplacedList => exact ⟨Document.orEmpty_list _ _ _, Document.orEmpty_list _ _ _⟩
  | optional _ ih => exact ih

/-- What is altered at the place of a record is an object or a list. -/
theorem Altered.objects_or_lists {lift : Lift} {slots : List (Slot × Shape)}
    {before after : Document} (h : Altered vendor (.record lift slots) before after) :
    (∃ first second, before = .object first ∧ after = .object second) ∨
      ∃ first second, before = .list first ∧ after = .list second := by
  cases h with
  | keys | field | overridden => exact .inl ⟨_, _, rfl, rfl⟩
  | misplacedList => exact .inr ⟨_, _, rfl, rfl⟩

private theorem Altered.not_isScalar {shape : Shape} {before after : Document}
    (h : shape.Altered vendor before after) : ¬ shape.isScalar := by
  cases h <;> exact Bool.false_ne_true

private theorem Altered.readsSame_of_normalize {shape : Shape} {before after : Document}
    (h : shape.Altered vendor before after)
    (hnormalize : ∀ path, shape.normalize vendor path after = shape.normalize vendor path before) :
    shape.ReadsSame vendor before after := by
  obtain ⟨hbefore, hafter⟩ := h.orEmpty_eq
  refine ⟨hnormalize, ?_, fun hscalar => absurd hscalar h.not_isScalar⟩
  rw [hbefore, hafter]
  exact hnormalize

/-- What is not read changes nothing in what is read, and nothing in why it is refused. -/
theorem Altered.readsSame {shape : Shape} {before after : Document}
    (h : shape.Altered vendor before after) (hclear : shape.isClear) :
    shape.ReadsSame vendor before after := by
  have hlike := isLikeness_readsSame vendor
  induction h with
  | keys hagree =>
    apply (Altered.keys hagree).readsSame_of_normalize
    exact normalize_record_same hclear (hagree.agreeOn hclear) fun field hfield =>
      hlike.foundBy_of_get? (hagree field hfield)
  | field hfield hkey hvalue ih =>
    apply (Altered.field hfield hkey hvalue).readsSame_of_normalize
    have hmem := readFor_subset vendor _ _ hfield
    have hsame := ih (isClear_of_mem_readFields hclear hmem)
    refine normalize_record_same hclear (hlike.agreeOn_of_value hclear hmem hsame)
      fun other hother => ?_
    exact hlike.foundBy_of_value (keysApart_of_isClear hclear) hmem hkey hsame
      (readFor_subset vendor _ _ hother)
  | overridden hfield hkey hfound =>
    apply (Altered.overridden hfield hkey hfound).readsSame_of_normalize
    have hmem := readFor_subset vendor _ _ hfield
    refine normalize_record_same hclear (agreeOn_of_find? hclear hmem hkey hfound)
      fun other hother => ?_
    exact hlike.foundBy_of_find? (keysApart_of_isClear hclear) hmem hkey hfound
      (readFor_subset vendor _ _ hother)
  | item hitem ih =>
    apply (Altered.item hitem).readsSame_of_normalize
    rw [isClear] at hclear
    exact fun path => normalize_list_congr (ih hclear).normalize path _ _
  | optional hvalue ih =>
    apply (Altered.optional hvalue).readsSame_of_normalize
    rw [isClear] at hclear
    obtain ⟨hbefore, hafter⟩ := hvalue.orEmpty_eq
    intro path
    rw [normalize_optional (Document.ne_null_of_orEmpty_eq hbefore),
      normalize_optional (Document.ne_null_of_orEmpty_eq hafter), (ih hclear).normalize]
  | misplacedObject =>
    apply Altered.misplacedObject.readsSame_of_normalize
    intro path
    rw [normalize, normalize]
    rfl
  | misplacedList =>
    apply Altered.misplacedList.readsSame_of_normalize
    intro path
    rw [normalize, normalize]
    rfl

/-- A scalar that is read is the same in an altered object. -/
theorem Altered.find?_eq {lift : Lift} {slots : List (Slot × Shape)} {before after : Fields}
    (h : Altered vendor (.record lift slots) (.object before) (.object after))
    (hclear : (Shape.record lift slots).isClear) {slot : Slot} {shape : Shape}
    (hentry : (slot, shape) ∈ slots) (hscalar : shape.isScalar) :
    slot.find? after = slot.find? before := by
  have hvariant := isVariant_of_isScalar hscalar
  have hother : (slot, shape) ∈ readFields lift slots := mem_readFields hentry hvariant
  cases h with
  | keys hagree => exact find?_congr (hagree (slot, shape) (mem_readFor hentry hvariant))
  | field hfield hkey hvalue =>
    refine find?_congr fun wanted hwanted => ?_
    refine get?_of_value (keysApart_of_isClear hclear) (readFor_subset vendor _ _ hfield) hkey
      hother ?_ hwanted
    rintro rfl
    exact hvalue.not_isScalar hscalar
  | overridden hfield hkey hfound =>
    have hlike := isLikeness_readsSame vendor
    have hmem := readFor_subset vendor _ _ hfield
    exact hlike.eq_of_foundBy hscalar
      (hlike.foundBy_of_find? (keysApart_of_isClear hclear) hmem hkey hfound hother)

end Shape
end Netscribe
