import Netscribe.Proofs.Schema.OlderForms
/-!
Documents that differ in the spelling of keys. A field may stand under its name or under a key of
editors, so that respelling a key changes nothing in what is read. The exceptions are older forms:
they are recognised by the keys of editors alone, before any field is looked for, and so a document
that gives such a form by the names of its fields is overlooked.
-/
open Netscribe.Document (Fields)

namespace Netscribe

namespace Shape

/-- `Respelled shape before after`: of two documents that are read by a shape, the second has one
    key of a field, at whatever depth, in a spelling of editors where the first has the name of the
    field. The field must not be given under another spelling as well. -/
inductive Respelled : Shape → Document → Document → Prop
  | key {lift : Lift} {slots : List (Slot × Shape)} {field : Slot × Shape} {key : String}
      {value : Document} {front back : Fields} (hfield : field ∈ readFields lift slots)
      (hkey : key ∈ field.1.editorKeys)
      (halone : ∀ entry ∈ front ++ back, entry.1 ∉ field.1.keys) :
      Respelled (.record lift slots) (.object (front ++ (field.1.name, value) :: back))
        (.object (front ++ (key, value) :: back))
  | field {lift : Lift} {slots : List (Slot × Shape)} {field : Slot × Shape} {key : String}
      {before after : Document} {front back : Fields} (hfield : field ∈ readFields lift slots)
      (hkey : key ∈ field.1.keys) (hvalue : Respelled field.2 before after) :
      Respelled (.record lift slots) (.object (front ++ (key, before) :: back))
        (.object (front ++ (key, after) :: back))
  | item {shape : Shape} {before after : Document} {front back : List Document}
      (hitem : Respelled shape before after) :
      Respelled (.list shape) (.list (front ++ before :: back)) (.list (front ++ after :: back))
  | optional {shape : Shape} {before after : Document} (hvalue : Respelled shape before after) :
      Respelled (.optional shape) before after

/-- Whether some object of a document is in an older form that is not recognised: a single
    aggregation group that neither its id nor its members give away, or a port mapping type that is
    written as a name but under the name of its field. -/
inductive Overlooked : Shape → Document → Prop
  | group {slots : List (Slot × Shape)} {fields : Fields}
      (hid : Fields.contains fields "group_id") (hgroups : ¬ Fields.contains fields "groups")
      (hkey : ¬ Fields.contains fields "groupId") (hmembers : ¬ Fields.contains fields "members") :
      Overlooked (.record .singleGroup slots) (.object fields)
  | mappingType {slots : List (Slot × Shape)} {fields : Fields} {raw : String}
      (hname : Fields.get? fields "mapping_type" = some (.text raw))
      (hkey : ¬ Fields.contains fields "mappingType") (hraw : canonicalType raw ≠ raw) :
      Overlooked (.record .mappingType slots) (.object fields)
  | field {lift : Lift} {slots : List (Slot × Shape)} {field : Slot × Shape} {key : String}
      {value : Document} {fields : Fields} (hfield : field ∈ readFields lift slots)
      (hkey : key ∈ field.1.keys) (hentry : (key, value) ∈ fields)
      (hvalue : Overlooked field.2 value) :
      Overlooked (.record lift slots) (.object fields)
  | item {shape : Shape} {value : Document} {items : List Document} (hitem : value ∈ items)
      (hvalue : Overlooked shape value) : Overlooked (.list shape) (.list items)
  | optional {shape : Shape} {value : Document} (hvalue : Overlooked shape value) :
      Overlooked (.optional shape) value

/-- In a scalar nothing is overlooked. -/
theorem not_overlooked_of_isScalar {shape : Shape} (h : shape.isScalar) (d : Document) :
    ¬ shape.Overlooked d := by
  intro hlost
  cases hlost <;> cases h

/-- An object without an older form overlooks nothing if none of its fields does. -/
theorem not_overlooked_object {slots : List (Slot × Shape)} {fields : Fields}
    (hclear : (Shape.record .none slots).isClear)
    (h : ∀ entry ∈ fields, ∃ field ∈ readFields .none slots,
      entry.1 ∈ field.1.keys ∧ ¬ field.2.Overlooked entry.2) :
    ¬ Overlooked (.record .none slots) (.object fields) := by
  intro hlost
  cases hlost with
  | field hother hkey hentry hvalue =>
    obtain ⟨field, hfield, hsame, hnot⟩ := h _ hentry
    obtain rfl := eq_of_mem_keys (keysApart_of_isClear hclear) hother hfield hkey hsame
    exact hnot hvalue

/-- The fields that a clear record reads are clear. -/
theorem isClear_of_mem_readFields {lift : Lift} {slots : List (Slot × Shape)}
    {field : Slot × Shape} (hclear : (Shape.record lift slots).isClear)
    (hfield : field ∈ readFields lift slots) : field.2.isClear := by
  obtain ⟨⟨slot, shape⟩, hentry, hmem⟩ := List.mem_flatMap.mp hfield
  have hshape : shape.isClear := forall_isClear_of_isClear hclear _ hentry
  cases shape with
  | variant h3cKind h3c huaweiKind huawei =>
    rw [isClear, Bool.and_eq_true, Bool.and_eq_true] at hshape
    obtain ⟨⟨hflat, hh3c⟩, hhuawei⟩ := hshape
    obtain ⟨own, rfl, -⟩ := exists_of_isFlat hflat
    obtain rfl | hown := List.mem_cons.mp hmem
    · exact hhuawei
    · exact forall_isClear_of_isClear hh3c field hown
  | list item =>
    cases item with
    | record inner group =>
      obtain rfl | hgroup := List.mem_cons.mp hmem
      · exact hshape
      · split_ifs at hgroup
        · rw [isClear] at hshape
          exact forall_isClear_of_isClear hshape field hgroup
        · cases hgroup
    | text | flag | choice | list | optional | variant =>
      obtain rfl := List.mem_singleton.mp hmem
      exact hshape
  | text | flag | choice | optional | record =>
    obtain rfl := List.mem_singleton.mp hmem
    exact hshape

/-- A field without a spelling of its own has one key besides its name. -/
theorem eq_of_mem_editorKeys {slot : Slot} {key other name : String}
    (hkeys : slot.keys = [other, name]) (hkey : key ∈ slot.editorKeys) : key = other := by
  have hsplit : slot.editorKeys ++ [slot.name] = [other] ++ [name] := by
    rw [← Slot.keys_eq, hkeys]
    rfl
  rw [(List.append_inj' hsplit rfl).1] at hkey
  exact List.mem_singleton.mp hkey

private theorem eq_or_mem_of_mem {α : Type} {a b x : α} {front back : List α}
    (h : x ∈ front ++ b :: back) : x = b ∨ x ∈ front ++ a :: back := by
  obtain hfront | hmem := List.mem_append.mp h
  · exact .inr (List.mem_append_left _ hfront)
  · obtain rfl | hback := List.mem_cons.mp hmem
    · exact .inl rfl
    · exact .inr (List.mem_append_right _ (List.mem_cons_of_mem _ hback))

section Object

variable {lift : Lift} {slots : List (Slot × Shape)} {field other : Slot × Shape} {key : String}
  {value : Document} {front back : Fields}

/-- A key that is its field's only one stays where it is. -/
theorem get?_of_only_key (happart : keysApart (readFields lift slots))
    (hfield : field ∈ readFields lift slots) (hkey : key ∈ field.1.editorKeys)
    (hother : other ∈ readFields lift slots) {wanted : String}
    (hkeys : other.1.keys = [wanted, wanted]) :
    Fields.get? (front ++ (key, value) :: back) wanted =
      Fields.get? (front ++ (field.1.name, value) :: back) wanted := by
  by_cases hsame : other = field
  · subst hsame
    have hname : other.1.name = wanted := by
      have hmem := other.1.name_mem_keys
      rw [hkeys] at hmem
      simpa using hmem
    rw [eq_of_mem_editorKeys hkeys hkey, hname]
  · exact get?_of_key happart hfield (Slot.mem_keys_of_mem_editorKeys hkey) hother hsame
      (Slot.mem_keys_of_keys_eq hkeys)

/-- A field with one key besides its name moves from its name to that key, or is left alone. -/
theorem get?_of_two_keys (happart : keysApart (readFields lift slots))
    (hfield : field ∈ readFields lift slots) (hkey : key ∈ field.1.editorKeys)
    (halone : ∀ entry ∈ front ++ back, entry.1 ∉ field.1.keys)
    (hother : other ∈ readFields lift slots) {editor name : String} (hname : other.1.name = name)
    (hkeys : other.1.keys = [editor, name]) (hne : editor ≠ name) :
    (Fields.get? (front ++ (field.1.name, value) :: back) editor = none ∧
        Fields.get? (front ++ (field.1.name, value) :: back) name = some value ∧
        Fields.get? (front ++ (key, value) :: back) editor = some value) ∨
      (Fields.get? (front ++ (key, value) :: back) editor =
          Fields.get? (front ++ (field.1.name, value) :: back) editor ∧
        Fields.get? (front ++ (key, value) :: back) name =
          Fields.get? (front ++ (field.1.name, value) :: back) name) := by
  have heditorMem := Slot.mem_keys_of_keys_eq hkeys
  have hnameMem : name ∈ other.1.keys := hname ▸ other.1.name_mem_keys
  by_cases hsame : other = field
  · subst hsame
    left
    rw [hname, eq_of_mem_editorKeys hkeys hkey, get?_of_alone halone heditorMem,
      get?_of_alone halone hnameMem, get?_of_alone halone heditorMem, if_neg hne, if_pos rfl,
      if_pos rfl]
    exact ⟨rfl, rfl, rfl⟩
  · right
    have hkeyMem := Slot.mem_keys_of_mem_editorKeys hkey
    exact ⟨get?_of_key happart hfield hkeyMem hother hsame heditorMem,
      get?_of_key happart hfield hkeyMem hother hsame hnameMem⟩

/-- Of the keys that tell a single group, respelling moves that of the id at most. -/
theorem IsGroupList.contains_of_key {enabled groups : Slot × Shape}
    {group : List (Slot × Shape)} (hgroup : IsGroupList enabled groups group slots)
    (value : Document) (happart : keysApart (readFields .singleGroup slots))
    (hfield : field ∈ readFields .singleGroup slots) (hkey : key ∈ field.1.editorKeys)
    (halone : ∀ entry ∈ front ++ back, entry.1 ∉ field.1.keys) :
    Fields.contains (front ++ (key, value) :: back) "groups" =
        Fields.contains (front ++ (field.1.name, value) :: back) "groups" ∧
      Fields.contains (front ++ (key, value) :: back) "members" =
        Fields.contains (front ++ (field.1.name, value) :: back) "members" ∧
      ((Fields.contains (front ++ (field.1.name, value) :: back) "group_id" ∧
          Fields.contains (front ++ (key, value) :: back) "groupId") ∨
        (Fields.contains (front ++ (key, value) :: back) "groupId" =
            Fields.contains (front ++ (field.1.name, value) :: back) "groupId" ∧
          Fields.contains (front ++ (key, value) :: back) "group_id" =
            Fields.contains (front ++ (field.1.name, value) :: back) "group_id")) := by
  obtain ⟨id, hid, hname, hkeys⟩ := hgroup.exists_id
  obtain ⟨members, hmembers, hmembersKeys⟩ := hgroup.exists_members
  simp only [Fields.contains_eq_isSome]
  refine ⟨?_, ?_, ?_⟩
  · rw [get?_of_only_key happart hfield hkey hgroup.groups_mem hgroup.groups_keys]
  · rw [get?_of_only_key happart hfield hkey (hgroup.mem_readFields hmembers) hmembersKeys]
  · obtain ⟨-, hbefore, hafter⟩ | ⟨heditor, hsnake⟩ := get?_of_two_keys happart hfield hkey
      halone (hgroup.mem_readFields hid) hname hkeys (by decide)
    · left
      rw [hbefore, hafter]
      exact ⟨rfl, rfl⟩
    · right
      rw [heditor, hsnake]
      exact ⟨rfl, rfl⟩

/-- Respelling a key keeps an object in an older form if that form is not overlooked. -/
theorem agreeOn_of_key (hclear : (Shape.record lift slots).isClear)
    (hfield : field ∈ readFields lift slots) (hkey : key ∈ field.1.editorKeys)
    (halone : ∀ entry ∈ front ++ back, entry.1 ∉ field.1.keys)
    (hseen : ¬ Overlooked (.record lift slots)
      (.object (front ++ (field.1.name, value) :: back))) :
    AgreeOn lift (front ++ (field.1.name, value) :: back) (front ++ (key, value) :: back) := by
  have happart := keysApart_of_isClear hclear
  have hfits := fits_of_isClear hclear
  cases lift with
  | none => trivial
  | singleGroup =>
    obtain ⟨enabled, groups, group, hgroup⟩ := exists_isGroupList hfits
    obtain ⟨hgroups, hmembers, hid⟩ :=
      hgroup.contains_of_key value happart hfield hkey halone
    rw [AgreeOn, isSingleGroup, isSingleGroup, hgroups, hmembers]
    obtain ⟨hbefore, hafter⟩ | ⟨hsame, -⟩ := hid
    · rw [hafter]
      by_contra hdiffers
      refine hseen (.group hbefore ?_ ?_ ?_) <;> intro hcontains <;> simp [hcontains] at hdiffers
    · rw [hsame]
  | mappingType =>
    obtain ⟨type, htype, hname, hkeys⟩ := exists_of_fits_mappingType hfits
    rw [← readFields_of_scalar .mappingType (scalar_of_fits hfits)] at htype
    obtain ⟨hnone, hbefore, hafter⟩ | ⟨hsame, -⟩ := get?_of_two_keys happart hfield hkey halone
      htype hname hkeys (by decide)
    · right
      refine ⟨hnone, fun raw hraw => ?_⟩
      by_contra hne
      refine hseen (.mappingType (hbefore.trans (hafter.symm.trans hraw)) ?_ hne)
      rw [Fields.contains_eq_isSome, hnone]
      exact Bool.false_ne_true
    · exact .inl hsame

private theorem contains_of_value (front back : Fields) (key : String) (before after : Document)
    (wanted : String) :
    Fields.contains (front ++ (key, after) :: back) wanted =
      Fields.contains (front ++ (key, before) :: back) wanted := by
  simp only [Fields.contains, List.any_append, List.any_cons]

/-- Whether an object is taken for a single group depends on its keys alone. -/
theorem isSingleGroup_of_value (front back : Fields) (key : String) (before after : Document) :
    isSingleGroup (front ++ (key, after) :: back) =
      isSingleGroup (front ++ (key, before) :: back) := by
  simp only [isSingleGroup, contains_of_value front back key before after]

/-- Whether an object is in an older form does not depend on what is in its values. -/
theorem IsLikeness.agreeOn_of_value {r : Shape → Document → Document → Prop} (hr : IsLikeness r)
    {before after : Document} (hclear : (Shape.record lift slots).isClear)
    (hfield : field ∈ readFields lift slots) (hvalue : r field.2 before after) :
    AgreeOn lift (front ++ (key, before) :: back) (front ++ (key, after) :: back) := by
  cases lift with
  | none => trivial
  | singleGroup => exact isSingleGroup_of_value front back key before after
  | mappingType =>
    have hscalar := scalar_of_fits (fits_of_isClear hclear)
    rw [readFields_of_scalar .mappingType hscalar] at hfield
    obtain rfl := hr.scalar hvalue (hscalar field hfield)
    exact .inl rfl

/-- An older form that is overlooked was so before the key was respelled: a key of editors is one
    more by which a form can be recognised. -/
theorem Overlooked.of_key (hclear : (Shape.record lift slots).isClear)
    (hfield : field ∈ readFields lift slots) (hkey : key ∈ field.1.editorKeys)
    (halone : ∀ entry ∈ front ++ back, entry.1 ∉ field.1.keys)
    (hlost : Overlooked (.record lift slots) (.object (front ++ (key, value) :: back))) :
    Overlooked (.record lift slots) (.object (front ++ (field.1.name, value) :: back)) := by
  have happart := keysApart_of_isClear hclear
  have hfits := fits_of_isClear hclear
  cases hlost with
  | group hid hgroups hkeyless hmembers =>
    obtain ⟨enabled, groups, group, hgroup⟩ := exists_isGroupList hfits
    obtain ⟨hgroupsSame, hmembersSame, hidMoves⟩ :=
      hgroup.contains_of_key _ happart hfield hkey halone
    rw [hgroupsSame] at hgroups
    rw [hmembersSame] at hmembers
    obtain ⟨-, hmoved⟩ | ⟨hkeySame, hidSame⟩ := hidMoves
    · exact absurd hmoved hkeyless
    · rw [hkeySame] at hkeyless
      rw [hidSame] at hid
      exact .group hid hgroups hkeyless hmembers
  | mappingType htext hkeyless hraw =>
    obtain ⟨type, htype, hname, hkeys⟩ := exists_of_fits_mappingType hfits
    rw [← readFields_of_scalar .mappingType (scalar_of_fits hfits)] at htype
    rw [Fields.contains_eq_isSome] at hkeyless
    obtain ⟨-, -, hmoved⟩ | ⟨hkeySame, htypeSame⟩ := get?_of_two_keys happart hfield hkey halone
      htype hname hkeys (by decide)
    · rw [hmoved] at hkeyless
      exact absurd rfl hkeyless
    · rw [hkeySame, ← Fields.contains_eq_isSome] at hkeyless
      rw [htypeSame] at htext
      exact .mappingType htext hkeyless hraw
  | field hother hotherKey hentry hvalue =>
    obtain hmoved | hkept := eq_or_mem_of_mem hentry
    · obtain ⟨rfl, rfl⟩ := Prod.mk.inj hmoved
      obtain rfl := eq_of_mem_keys happart hother hfield hotherKey
        (Slot.mem_keys_of_mem_editorKeys hkey)
      exact .field hother (Slot.name_mem_keys _) List.mem_append_cons_self hvalue
    · exact .field hother hotherKey hkept hvalue

/-- An older form that is overlooked in an object after the value of a field has changed was
    overlooked before: a value with fields of its own takes no part in how the object is read. -/
theorem Overlooked.of_value {before after : Document} (hclear : (Shape.record lift slots).isClear)
    (hfield : field ∈ readFields lift slots) (hkey : key ∈ field.1.keys)
    (hfields : ¬ field.2.isScalar) (hvalue : field.2.Overlooked after → field.2.Overlooked before)
    (hlost : Overlooked (.record lift slots) (.object (front ++ (key, after) :: back))) :
    Overlooked (.record lift slots) (.object (front ++ (key, before) :: back)) := by
  cases hlost with
  | group hid hgroups hkeyless hmembers =>
    rw [contains_of_value front back key before after] at hid hgroups hkeyless hmembers
    exact .group hid hgroups hkeyless hmembers
  | mappingType htext hkeyless hraw =>
    have hscalar := scalar_of_fits (fits_of_isClear hclear)
    rw [readFields_of_scalar .mappingType hscalar] at hfield
    exact absurd (hscalar field hfield) hfields
  | field hother hotherKey hentry hlost =>
    obtain hchanged | hkept := eq_or_mem_of_mem hentry
    · obtain ⟨rfl, rfl⟩ := Prod.mk.inj hchanged
      obtain rfl := eq_of_mem_keys (keysApart_of_isClear hclear) hother hfield hotherKey hkey
      exact .field hfield hkey List.mem_append_cons_self (hvalue hlost)
    · exact .field hother hotherKey hkept hlost

end Object

/-- What is respelled is an object or a list with something in it. -/
theorem Respelled.isTrue {shape : Shape} {before after : Document}
    (h : shape.Respelled before after) : before.isTrue ∧ after.isTrue := by
  induction h with
  | key | field | item => simp [Document.isTrue]
  | optional _ ih => exact ih

private theorem not_isScalar_of_respelled {shape : Shape} {before after : Document}
    (h : shape.Respelled before after) : ¬ shape.isScalar := by
  cases h <;> exact Bool.false_ne_true

private theorem Respelled.readsAlike_of_normalize {shape : Shape} {before after : Document}
    (h : shape.Respelled before after)
    (hnormalize : ∀ vendor path,
      shape.normalize vendor path after = shape.normalize vendor path before) :
    shape.ReadsAlike before after := by
  refine ⟨hnormalize, ?_, fun hscalar => absurd hscalar (not_isScalar_of_respelled h)⟩
  rw [h.isTrue.1, h.isTrue.2]

private theorem ne_null_of_isTrue {d : Document} (h : d.isTrue) : d ≠ .null := by
  rintro rfl
  cases h

/-- A respelled document is read alike unless an older form in it is overlooked. -/
theorem Respelled.readsAlike {shape : Shape} {before after : Document}
    (h : shape.Respelled before after) (hclear : shape.isClear)
    (hseen : ¬ shape.Overlooked before) : shape.ReadsAlike before after := by
  induction h with
  | key hfield hkey halone =>
    apply (Respelled.key hfield hkey halone).readsAlike_of_normalize
    have hagree := agreeOn_of_key hclear hfield hkey halone hseen
    refine normalize_record_congr hclear hagree fun other hother => ?_
    exact foundAlike_of_key (keysApart_of_isClear hclear) hfield
      (Slot.mem_keys_of_mem_editorKeys hkey) halone hother
  | field hfield hkey hvalue ih =>
    apply (Respelled.field hfield hkey hvalue).readsAlike_of_normalize
    have halike := ih (isClear_of_mem_readFields hclear hfield) fun hlost =>
      hseen (.field hfield hkey List.mem_append_cons_self hlost)
    refine normalize_record_congr hclear
      (isLikeness_readsAlike.agreeOn_of_value hclear hfield halike) fun other hother => ?_
    exact isLikeness_readsAlike.foundBy_of_value (keysApart_of_isClear hclear) hfield hkey halike
      hother
  | item hitem ih =>
    apply (Respelled.item hitem).readsAlike_of_normalize
    rw [isClear] at hclear
    have halike := ih hclear fun hlost => hseen (.item List.mem_append_cons_self hlost)
    exact fun vendor path => normalize_list_congr (halike.normalize vendor) path _ _
  | optional hvalue ih =>
    apply (Respelled.optional hvalue).readsAlike_of_normalize
    rw [isClear] at hclear
    have halike := ih hclear fun hlost => hseen (.optional hlost)
    intro vendor path
    rw [normalize_optional (ne_null_of_isTrue hvalue.isTrue.1),
      normalize_optional (ne_null_of_isTrue hvalue.isTrue.2), halike.normalize]

/-- Every field of a respelled object is found alike. -/
theorem Respelled.foundAlike {lift : Lift} {slots : List (Slot × Shape)} {before after : Fields}
    (h : Respelled (.record lift slots) (.object before) (.object after))
    (hclear : (Shape.record lift slots).isClear)
    (hseen : ¬ Overlooked (.record lift slots) (.object before)) {other : Slot × Shape}
    (hother : other ∈ readFields lift slots) : FoundAlike before after other := by
  cases h with
  | key hfield hkey halone =>
    exact foundAlike_of_key (keysApart_of_isClear hclear) hfield
      (Slot.mem_keys_of_mem_editorKeys hkey) halone hother
  | field hfield hkey hvalue =>
    have halike := hvalue.readsAlike (isClear_of_mem_readFields hclear hfield) fun hlost =>
      hseen (.field hfield hkey List.mem_append_cons_self hlost)
    exact isLikeness_readsAlike.foundBy_of_value (keysApart_of_isClear hclear) hfield hkey halike
      hother

/-- Respelling brings no older form about that is overlooked. -/
theorem Respelled.overlooked {shape : Shape} {before after : Document}
    (h : shape.Respelled before after) (hclear : shape.isClear) (hlost : shape.Overlooked after) :
    shape.Overlooked before := by
  induction h with
  | key hfield hkey halone => exact hlost.of_key hclear hfield hkey halone
  | field hfield hkey hvalue ih =>
    exact hlost.of_value hclear hfield hkey (not_isScalar_of_respelled hvalue)
      (ih (isClear_of_mem_readFields hclear hfield))
  | item hitem ih =>
    rw [isClear] at hclear
    cases hlost with
    | item hmem hvalue =>
      obtain rfl | hkept := eq_or_mem_of_mem hmem
      · exact .item List.mem_append_cons_self (ih hclear hvalue)
      · exact .item hkept hvalue
  | optional hvalue ih =>
    rw [isClear] at hclear
    cases hlost with
    | optional hlost => exact .optional (ih hclear hlost)

end Shape
end Netscribe
