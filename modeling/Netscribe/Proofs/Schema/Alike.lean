import Mathlib.Data.Option.Basic
import Netscribe.Proofs.Document.Fields
import Netscribe.Proofs.Outcome
import Netscribe.Proofs.Schema.Keys
import Netscribe.Schema.Normalize
/-!
Objects whose fields are found alike. A record looks for each of its fields under the keys of that
field alone, so that two objects in which every field is found alike are read alike as a whole.
-/
open Netscribe.Document (Fields)

namespace Netscribe

namespace Shape

/-- The settings of Huawei devices stand under a key of their own. -/
def huaweiSlot : Slot := ⟨"huawei", none, false⟩

/-- The settings of Huawei have one key, which is the same in both spellings. -/
theorem keys_huaweiSlot : huaweiSlot.keys = ["huawei", "huawei"] := by
  decide

/-- The fields that an object gives for an entry of its record. The settings of H3C devices stand in
    the object itself, and so do those of a single aggregation group in the older form. -/
def fieldsOf (lift : Lift) : Slot × Shape → List (Slot × Shape)
  | (_, .variant _ (.record _ h3c) _ huawei) => (huaweiSlot, huawei) :: h3c
  | (slot, .list (.record inner group)) =>
    (slot, .list (.record inner group)) :: if lift = .singleGroup then group else []
  | entry => [entry]

/-- The fields of an object that is read as a record, for devices of whatever vendor. -/
def readFields (lift : Lift) (slots : List (Slot × Shape)) : List (Slot × Shape) :=
  slots.flatMap (fieldsOf lift)

/-- The fields that an object gives for an entry of its record, for devices of one vendor. -/
def fieldsFor (vendor : Option String) (lift : Lift) : Slot × Shape → List (Slot × Shape)
  | (_, .variant _ (.record _ h3c) _ huawei) =>
    if vendor = some "H3C" then h3c
    else if vendor = some "Huawei" then [(huaweiSlot, huawei)]
    else []
  | entry => fieldsOf lift entry

/-- The fields of an object that is read as a record, for devices of one vendor. -/
def readFor (vendor : Option String) (lift : Lift) (slots : List (Slot × Shape)) :
    List (Slot × Shape) :=
  slots.flatMap (fieldsFor vendor lift)

def isVariant : Shape → Bool
  | .variant .. => true
  | _ => false

/-- Whether a shape is a plain record, with no older form and nothing that depends on the vendor. -/
def isFlat : Shape → Bool
  | .record .none slots => slots.all (!·.2.isVariant)
  | _ => false

def isScalar : Shape → Bool
  | .text | .flag | .choice _ => true
  | _ => false

/-- Whether a field has the given name and no spelling of its own. -/
def isPlain (name : String) (field : Slot × Shape) : Bool :=
  field.1.name == name && field.1.special.isNone

/-- A plain field has the name that it is declared with. -/
theorem name_of_isPlain {name : String} {field : Slot × Shape} (h : isPlain name field) :
    field.1.name = name := by
  rw [isPlain, Bool.and_eq_true, beq_iff_eq] at h
  exact h.1

/-- A plain field is found in both of its spellings. -/
theorem keys_of_isPlain {name : String} {field : Slot × Shape} (h : isPlain name field) :
    field.1.keys = [camelCase name, name] := by
  rw [isPlain, Bool.and_eq_true, beq_iff_eq, Option.isNone_iff_eq_none] at h
  rw [Slot.keys, h.1, h.2]
  rfl

/-- Whether a record has the fields that its older form is about. -/
def fits : Lift → List (Slot × Shape) → Bool
  | .none, _ => true
  | .singleGroup, [enabled, (groups, .list (.record .none group))] =>
    isPlain "enabled" enabled && enabled.2.isScalar
      && isPlain "groups" (groups, .list (.record .none group))
      && group.all (!·.2.isVariant) && group.any (isPlain "group_id")
      && group.any (isPlain "members")
  | .mappingType, slots => slots.all (·.2.isScalar) && slots.any (isPlain "mapping_type")
  | _, _ => false

/-- A scalar does not depend on the vendor. -/
theorem isVariant_of_isScalar {shape : Shape} (h : shape.isScalar) : shape.isVariant = false := by
  cases shape with
  | text | flag | choice => rfl
  | list | optional | record | variant => cases h

mutual
/-- Whether each key of an object can belong to one field only, in all records of a shape. -/
def isClear : Shape → Bool
  | .text | .flag | .choice _ => true
  | .list item => item.isClear
  | .optional inner => inner.isClear
  | .record lift slots => keysApart (readFields lift slots) && fits lift slots && areClear slots
  | .variant _ h3c _ huawei => h3c.isFlat && h3c.isClear && huawei.isClear

def areClear : List (Slot × Shape) → Bool
  | [] => true
  | (_, shape) :: rest => shape.isClear && areClear rest
end

private theorem areClear_iff {slots : List (Slot × Shape)} :
    areClear slots ↔ ∀ entry ∈ slots, entry.2.isClear := by
  induction slots with
  | nil => simp [areClear]
  | cons entry rest ih =>
    rw [areClear, Bool.and_eq_true, ih, List.forall_mem_cons]

/-- The keys of a clear record are apart from one another. -/
theorem keysApart_of_isClear {lift : Lift} {slots : List (Slot × Shape)}
    (h : (Shape.record lift slots).isClear) : keysApart (readFields lift slots) := by
  rw [isClear, Bool.and_eq_true, Bool.and_eq_true] at h
  exact h.1.1

/-- A clear record fits what is lifted into it. -/
theorem fits_of_isClear {lift : Lift} {slots : List (Slot × Shape)}
    (h : (Shape.record lift slots).isClear) : fits lift slots := by
  rw [isClear, Bool.and_eq_true, Bool.and_eq_true] at h
  exact h.1.2

/-- The fields of a clear record are clear. -/
theorem forall_isClear_of_isClear {lift : Lift} {slots : List (Slot × Shape)}
    (h : (Shape.record lift slots).isClear) : ∀ entry ∈ slots, entry.2.isClear := by
  rw [isClear, Bool.and_eq_true] at h
  exact areClear_iff.mp h.2

/-- Two documents that are read alike by a shape, on every path and for devices of whatever
    vendor. -/
structure ReadsAlike (shape : Shape) (before after : Document) : Prop where
  normalize : ∀ vendor path,
    shape.normalize vendor path after = shape.normalize vendor path before
  isTrue : after.isTrue = before.isTrue
  scalar : shape.isScalar → after = before

private theorem ReadsAlike.refl (shape : Shape) (d : Document) : shape.ReadsAlike d d :=
  ⟨fun _ _ => rfl, rfl, fun _ => rfl⟩

/-- Two documents that are read alike by a shape for devices of one vendor, on every path, also
    where a value that counts as unset stands for an empty object. -/
structure ReadsSame (vendor : Option String) (shape : Shape) (before after : Document) : Prop where
  normalize : ∀ path, shape.normalize vendor path after = shape.normalize vendor path before
  orEmpty : ∀ path, shape.normalize vendor path (Document.orEmpty (some after)) =
    shape.normalize vendor path (Document.orEmpty (some before))
  scalar : shape.isScalar → after = before

private theorem ReadsSame.refl (vendor : Option String) (shape : Shape) (d : Document) :
    shape.ReadsSame vendor d d :=
  ⟨fun _ => rfl, fun _ => rfl, fun _ => rfl⟩

private theorem ReadsAlike.same {shape : Shape} {before after : Document}
    (h : shape.ReadsAlike before after) (vendor : Option String) :
    shape.ReadsSame vendor before after := by
  refine ⟨h.normalize vendor, fun path => ?_, h.scalar⟩
  rw [Document.orEmpty, Document.orEmpty, h.isTrue]
  split_ifs
  · exact h.normalize vendor path
  · rfl

/-- A relation between documents by which every document is like itself, and a scalar like itself
    alone. -/
structure IsLikeness (r : Shape → Document → Document → Prop) : Prop where
  refl : ∀ shape d, r shape d d
  scalar : ∀ {shape before after}, r shape before after → shape.isScalar → after = before

/-- Documents that read alike are a likeness. -/
theorem isLikeness_readsAlike : IsLikeness ReadsAlike := ⟨.refl, fun h => h.scalar⟩

/-- Documents that read the same for a vendor are a likeness. -/
theorem isLikeness_readsSame (vendor : Option String) : IsLikeness (ReadsSame vendor) :=
  ⟨.refl vendor, fun h => h.scalar⟩

/-- A field under which two objects give documents that are alike in some way, or nothing. -/
abbrev FoundBy (r : Shape → Document → Document → Prop) (before after : Fields)
    (field : Slot × Shape) : Prop :=
  Option.Rel (r field.2) (field.1.find? before) (field.1.find? after)

/-- A field under which two objects give documents that are read alike, or nothing. -/
abbrev FoundAlike (before after : Fields) (field : Slot × Shape) : Prop :=
  Option.Rel field.2.ReadsAlike (field.1.find? before) (field.1.find? after)

/-- A field that is found alike reads the same for every vendor. -/
theorem FoundAlike.same {before after : Fields} {field : Slot × Shape}
    (h : FoundAlike before after field) (vendor : Option String) :
    FoundBy (ReadsSame vendor) before after field := by
  rw [FoundAlike] at h
  rw [FoundBy]
  generalize field.1.find? before = first at h ⊢
  generalize field.1.find? after = second at h ⊢
  cases h with
  | none => exact .none
  | some hvalue => exact .some (hvalue.same vendor)

private theorem rel_findSome? {α β : Type} {r : β → β → Prop} {f g : α → Option β} {xs : List α}
    (h : ∀ x ∈ xs, Option.Rel r (f x) (g x)) :
    Option.Rel r (xs.findSome? f) (xs.findSome? g) := by
  induction xs with
  | nil => exact .none
  | cons x xs ih =>
    obtain ⟨hx, hxs⟩ := List.forall_mem_cons.mp h
    rw [List.findSome?_cons, List.findSome?_cons]
    generalize f x = before at hx ⊢
    generalize g x = after at hx ⊢
    cases hx with
    | none => exact ih hxs
    | some hvalue => exact .some hvalue

/-- What is found equal is found alike. -/
theorem IsLikeness.rel_of_eq {r : Shape → Document → Document → Prop} (hr : IsLikeness r)
    {shape : Shape} {before after : Option Document} (h : after = before) :
    Option.Rel (r shape) before after := by
  subst h
  cases after with
  | none => exact .none
  | some value => exact .some (hr.refl shape value)

/-- A field depends on nothing but the values of its keys. -/
theorem find?_congr {slot : Slot} {before after : Fields}
    (h : ∀ key ∈ slot.keys, Fields.get? after key = Fields.get? before key) :
    slot.find? after = slot.find? before := by
  rw [Slot.find?, Slot.find?]
  revert h
  generalize slot.keys = keys
  intro h
  induction keys with
  | nil => rfl
  | cons key rest ih =>
    obtain ⟨hkey, hrest⟩ := List.forall_mem_cons.mp h
    rw [List.findSome?_cons, List.findSome?_cons, hkey, ih hrest]

section Found

variable {r : Shape → Document → Document → Prop} (hr : IsLikeness r) {before after : Fields}
  {field : Slot × Shape}

include hr

/-- A field is found alike if every key of it is. -/
theorem IsLikeness.foundBy_of_get?
    (h : ∀ key ∈ field.1.keys, Fields.get? after key = Fields.get? before key) :
    FoundBy r before after field :=
  hr.rel_of_eq (find?_congr h)

/-- Scalars that are alike are equal. -/
theorem IsLikeness.eq_of_foundBy (hscalar : field.2.isScalar) (h : FoundBy r before after field) :
    field.1.find? after = field.1.find? before := by
  rw [FoundBy] at h
  generalize field.1.find? before = first at h ⊢
  generalize field.1.find? after = second at h ⊢
  cases h with
  | none => rfl
  | some hvalue => rw [hr.scalar hvalue hscalar]

end Found

/-- Where no other entry has a key of the slot, the entry in the middle answers for it. -/
theorem get?_of_alone {slot : Slot} {key : String} {value : Document} {front back : Fields}
    (halone : ∀ entry ∈ front ++ back, entry.1 ∉ slot.keys) {wanted : String}
    (hwanted : wanted ∈ slot.keys) :
    Fields.get? (front ++ (key, value) :: back) wanted =
      if wanted = key then some value else none := by
  obtain ⟨hfront, hback⟩ := List.forall_mem_append.mp halone
  have hnone {entries : Fields} (hentries : ∀ entry ∈ entries, entry.1 ∉ slot.keys) :
      Fields.get? entries wanted = none :=
    Fields.get?_eq_none fun entry hentry heq => hentries entry hentry (heq ▸ hwanted)
  rw [Fields.get?_append_cons, hnone hfront, hnone hback, Option.none_or]

/-- A field that stands alone under one of its keys is found there. -/
theorem find?_of_alone {slot : Slot} {key : String} {value : Document} {front back : Fields}
    (hkey : key ∈ slot.keys) (halone : ∀ entry ∈ front ++ back, entry.1 ∉ slot.keys) :
    slot.find? (front ++ (key, value) :: back) = some value := by
  rw [Slot.find?]
  cases hfound : slot.keys.findSome? (Fields.get? (front ++ (key, value) :: back)) with
  | none =>
    have hmissing := List.findSome?_eq_none_iff.mp hfound key hkey
    rw [get?_of_alone halone hkey, if_pos rfl] at hmissing
    cases hmissing
  | some found =>
    obtain ⟨wanted, hwanted, hvalue⟩ := List.exists_of_findSome?_eq_some hfound
    rw [get?_of_alone halone hwanted] at hvalue
    split_ifs at hvalue
    exact hvalue.symm

section Object

variable {lift : Lift} {slots : List (Slot × Shape)} {field : Slot × Shape} {key : String}
  {front back : Fields}

/-- Respelling a key of one field leaves the keys of the others alone. -/
theorem get?_of_key {value : Document} (happart : keysApart (readFields lift slots))
    (hfield : field ∈ readFields lift slots) (hkey : key ∈ field.1.keys) {other : Slot × Shape}
    (hother : other ∈ readFields lift slots) (hne : other ≠ field) {wanted : String}
    (hwanted : wanted ∈ other.1.keys) :
    Fields.get? (front ++ (key, value) :: back) wanted =
      Fields.get? (front ++ (field.1.name, value) :: back) wanted := by
  have hapart {spelling : String} (hspelling : spelling ∈ field.1.keys) : wanted ≠ spelling := by
    rintro rfl
    exact hne (eq_of_mem_keys happart hother hfield hwanted hspelling)
  rw [Fields.get?_append_cons, Fields.get?_append_cons, if_neg (hapart hkey),
    if_neg (hapart field.1.name_mem_keys)]

/-- Respelling a key of one field leaves every field of the object found alike. -/
theorem foundAlike_of_key {value : Document} (happart : keysApart (readFields lift slots))
    (hfield : field ∈ readFields lift slots) (hkey : key ∈ field.1.keys)
    (halone : ∀ entry ∈ front ++ back, entry.1 ∉ field.1.keys) {other : Slot × Shape}
    (hother : other ∈ readFields lift slots) :
    FoundAlike (front ++ (field.1.name, value) :: back) (front ++ (key, value) :: back) other := by
  by_cases hsame : other = field
  · subst hsame
    rw [FoundAlike, find?_of_alone other.1.name_mem_keys halone, find?_of_alone hkey halone]
    exact .some (.refl _ _)
  · exact isLikeness_readsAlike.foundBy_of_get? fun wanted hwanted =>
      get?_of_key happart hfield hkey hother hsame hwanted

/-- Another value under a key of one field leaves the keys of the others alone. -/
theorem get?_of_value {before after : Document} (happart : keysApart (readFields lift slots))
    (hfield : field ∈ readFields lift slots) (hkey : key ∈ field.1.keys) {other : Slot × Shape}
    (hother : other ∈ readFields lift slots) (hne : other ≠ field) {wanted : String}
    (hwanted : wanted ∈ other.1.keys) :
    Fields.get? (front ++ (key, after) :: back) wanted =
      Fields.get? (front ++ (key, before) :: back) wanted := by
  have hapart : wanted ≠ key := by
    rintro rfl
    exact hne (eq_of_mem_keys happart hother hfield hwanted hkey)
  rw [Fields.get?_append_cons, Fields.get?_append_cons, if_neg hapart, if_neg hapart]

/-- A value that is alike leaves every field of its object found alike. -/
theorem IsLikeness.foundBy_of_value {r : Shape → Document → Document → Prop} (hr : IsLikeness r)
    {before after : Document} (happart : keysApart (readFields lift slots))
    (hfield : field ∈ readFields lift slots) (hkey : key ∈ field.1.keys)
    (hvalue : r field.2 before after) {other : Slot × Shape}
    (hother : other ∈ readFields lift slots) :
    FoundBy r (front ++ (key, before) :: back) (front ++ (key, after) :: back) other := by
  by_cases hsame : other = field
  · subst hsame
    refine rel_findSome? fun wanted _ => ?_
    rw [Fields.get?_append_cons, Fields.get?_append_cons]
    cases Fields.get? front wanted with
    | some found => exact hr.rel_of_eq rfl
    | none =>
      rw [Option.none_or, Option.none_or]
      by_cases hwanted : wanted = key
      · rw [if_pos hwanted, if_pos hwanted]
        exact .some hvalue
      · rw [if_neg hwanted, if_neg hwanted]
        exact hr.rel_of_eq rfl
  · exact hr.foundBy_of_get? fun wanted hwanted =>
      get?_of_value happart hfield hkey hother hsame hwanted

/-- A value that is not what its field is read from leaves every field of its object found alike. -/
theorem IsLikeness.foundBy_of_find? {r : Shape → Document → Document → Prop} (hr : IsLikeness r)
    {before after : Document} (happart : keysApart (readFields lift slots))
    (hfield : field ∈ readFields lift slots) (hkey : key ∈ field.1.keys)
    (hfound : field.1.find? (front ++ (key, after) :: back) =
      field.1.find? (front ++ (key, before) :: back))
    {other : Slot × Shape} (hother : other ∈ readFields lift slots) :
    FoundBy r (front ++ (key, before) :: back) (front ++ (key, after) :: back) other := by
  by_cases hsame : other = field
  · subst hsame
    exact hr.rel_of_eq hfound
  · exact hr.foundBy_of_get? fun wanted hwanted =>
      get?_of_value happart hfield hkey hother hsame hwanted

end Object

/-- What two objects must have in common for an entry of their record to be read alike for devices
    of one vendor. -/
def EntrySame (vendor : Option String) (before after : Fields) : Slot × Shape → Prop
  | (_, .variant _ h3c _ huawei) =>
    (vendor = some "H3C" → ∀ path, h3c.normalize vendor path (.object after) =
      h3c.normalize vendor path (.object before)) ∧
    (vendor = some "Huawei" → ∀ path,
      huawei.normalize vendor path (Document.orEmpty (Fields.get? after "huawei")) =
        huawei.normalize vendor path (Document.orEmpty (Fields.get? before "huawei")))
  | entry => FoundBy (ReadsSame vendor) before after entry

/-- Apart from settings that depend on the vendor, a field is looked for under its keys. -/
theorem normalizeSlots_cons {vendor : Option String} {slot : Slot} {shape : Shape}
    (hshape : shape.isVariant = false) (rest : List (Slot × Shape)) (path : String)
    (fields : Fields) :
    normalizeSlots vendor ((slot, shape) :: rest) path fields =
      match slot.find? fields with
      | some raw => do
        let value ← shape.normalize vendor s!"{path}.{slot.name}" raw
        let others ← normalizeSlots vendor rest path fields
        return (slot.name, value) :: others
      | none =>
        if slot.required then .error (.missingField path (camelCase slot.name))
        else normalizeSlots vendor rest path fields := by
  cases shape with
  | variant => cases hshape
  | text | flag | choice | list | optional | record =>
    exact normalizeSlots.eq_def vendor _ path fields

/-- Without variants an entry reads the same if it is found so. -/
theorem entrySame_iff {vendor : Option String} {before after : Fields} {slot : Slot} {shape : Shape}
    (hshape : shape.isVariant = false) :
    EntrySame vendor before after (slot, shape) ↔
      FoundBy (ReadsSame vendor) before after (slot, shape) := by
  cases shape with
  | variant => cases hshape
  | text | flag | choice | list | optional | record => exact Iff.rfl

/-- Objects whose entries are read alike are read alike as a whole. -/
theorem normalizeSlots_congr {vendor : Option String} {before after : Fields}
    {slots : List (Slot × Shape)} (h : ∀ entry ∈ slots, EntrySame vendor before after entry)
    (path : String) :
    normalizeSlots vendor slots path after = normalizeSlots vendor slots path before := by
  induction slots with
  | nil => rw [normalizeSlots, normalizeSlots]
  | cons entry rest ih =>
    obtain ⟨hentry, hrest⟩ := List.forall_mem_cons.mp h
    obtain ⟨slot, shape⟩ := entry
    cases hshape : shape.isVariant with
    | false =>
      have hfound := (entrySame_iff hshape).mp hentry
      rw [normalizeSlots_cons hshape, normalizeSlots_cons hshape, ih hrest]
      rw [FoundBy] at hfound
      generalize slot.find? before = first at hfound ⊢
      generalize slot.find? after = second at hfound ⊢
      cases hfound with
      | none => rfl
      | some hvalue =>
        dsimp only
        rw [hvalue.normalize]
    | true =>
      cases shape with
      | variant h3cKind h3c huaweiKind huawei =>
        obtain ⟨hh3c, hhuawei⟩ := hentry
        rw [normalizeSlots, normalizeSlots, ih hrest]
        dsimp only
        split_ifs with hisH3c hisHuawei
        · rw [hh3c hisH3c]
        · rw [hhuawei hisHuawei]
        · rfl
      | text | flag | choice | list | optional | record => cases hshape

/-- A record is normalized by what it has after lifting, field by field. -/
theorem normalize_object {lift : Lift} {slots : List (Slot × Shape)} (vendor : Option String)
    (path : String) (fields : Fields) :
    normalize vendor (.record lift slots) path (.object fields) = do
      return .object (← normalizeSlots vendor slots path (lift.apply fields)) := by
  rw [normalize]
  rfl

private theorem readEach_congr {read : String → Document → Except ParseError Document}
    {before after : Document} (h : ∀ path, read path after = read path before) (path : String)
    (i : Nat) (front back : List Document) :
    readEach read path i (front ++ after :: back) =
      readEach read path i (front ++ before :: back) := by
  induction front generalizing i with
  | nil => rw [List.nil_append, List.nil_append, readEach, h, ← readEach]
  | cons item rest ih => rw [List.cons_append, List.cons_append, readEach, ih, ← readEach]

/-- A list is normalized item by item. -/
theorem normalize_list {item : Shape} (vendor : Option String) (path : String)
    (items : List Document) :
    normalize vendor (.list item) path (.list items) = do
      return .list (← readEach (item.normalize vendor) path 0 items) := by
  rw [normalize]
  rfl

/-- A list is read alike if the one item that changes is. -/
theorem normalize_list_congr {item : Shape} {vendor : Option String} {before after : Document}
    (h : ∀ path, item.normalize vendor path after = item.normalize vendor path before)
    (path : String) (front back : List Document) :
    normalize vendor (.list item) path (.list (front ++ after :: back)) =
      normalize vendor (.list item) path (.list (front ++ before :: back)) := by
  rw [normalize_list, normalize_list, readEach_congr h]

/-- What is not null is normalized as the shape inside. -/
theorem normalize_optional {inner : Shape} {d : Document} (h : d ≠ .null)
    (vendor : Option String) (path : String) :
    normalize vendor (.optional inner) path d = inner.normalize vendor path d := by
  rw [normalize]
  exact h

/-- A plain record is read alike if its fields are found alike. -/
theorem normalize_flat_congr {vendor : Option String} {slots : List (Slot × Shape)}
    {before after : Fields} (hflat : ∀ entry ∈ slots, entry.2.isVariant = false)
    (h : ∀ entry ∈ slots, FoundBy (ReadsSame vendor) before after entry) (path : String) :
    normalize vendor (.record .none slots) path (.object after) =
      normalize vendor (.record .none slots) path (.object before) := by
  have hentries : ∀ entry ∈ slots, EntrySame vendor before after entry :=
    fun entry hentry => (entrySame_iff (hflat entry hentry)).mpr (h entry hentry)
  rw [normalize_object, normalize_object, Lift.apply, Lift.apply, normalizeSlots_congr hentries]

/-- A flat shape is a record without lifting and without variants. -/
theorem exists_of_isFlat {shape : Shape} (h : shape.isFlat) :
    ∃ slots, shape = .record .none slots ∧ ∀ entry ∈ slots, entry.2.isVariant = false := by
  cases shape with
  | record lift slots =>
    cases lift with
    | none =>
      refine ⟨slots, rfl, fun entry hentry => ?_⟩
      rw [isFlat, List.all_eq_true] at h
      simpa using h entry hentry
    | singleGroup | mappingType => cases h
  | text | flag | choice | list | optional | variant => cases h

private theorem mem_fieldsOf (lift : Lift) (slot : Slot) {shape : Shape}
    (h : shape.isVariant = false) :
    (slot, shape) ∈ fieldsOf lift (slot, shape) := by
  cases shape with
  | variant => cases h
  | text | flag | choice | optional | record => exact List.mem_singleton_self _
  | list item => cases item <;> exact List.mem_cons_self

/-- The own fields of a record are among those that are read. -/
theorem mem_readFields {lift : Lift} {slots : List (Slot × Shape)} {entry : Slot × Shape}
    (hentry : entry ∈ slots) (h : entry.2.isVariant = false) : entry ∈ readFields lift slots :=
  List.mem_flatMap.mpr ⟨entry, hentry, mem_fieldsOf lift entry.1 h⟩

private theorem fieldsFor_eq {vendor : Option String} {lift : Lift} {entry : Slot × Shape}
    (h : entry.2.isVariant = false) : fieldsFor vendor lift entry = fieldsOf lift entry := by
  obtain ⟨slot, shape⟩ := entry
  cases shape with
  | variant => cases h
  | text | flag | choice | list | optional | record => rfl

/-- Without settings that depend on the vendor the same fields are read for all of them. -/
theorem readFor_eq {vendor : Option String} {lift : Lift} {slots : List (Slot × Shape)}
    (h : ∀ entry ∈ slots, entry.2.isVariant = false) :
    readFor vendor lift slots = readFields lift slots :=
  List.flatMap_congr fun entry hentry => fieldsFor_eq (h entry hentry)

private theorem fieldsFor_subset (vendor : Option String) (lift : Lift) (entry : Slot × Shape) :
    fieldsFor vendor lift entry ⊆ fieldsOf lift entry := by
  obtain ⟨slot, shape⟩ := entry
  cases shape with
  | variant h3cKind h3c huaweiKind huawei =>
    cases h3c with
    | record inner own =>
      intro field hfield
      rw [fieldsFor] at hfield
      split_ifs at hfield
      · exact List.mem_cons_of_mem _ hfield
      · rw [List.mem_singleton.mp hfield]
        exact List.mem_cons_self
      · cases hfield
    | text | flag | choice | list | optional | variant => exact List.Subset.refl _
  | text | flag | choice | list | optional | record => exact List.Subset.refl _

/-- What is read for a vendor is among all that is read. -/
theorem readFor_subset (vendor : Option String) (lift : Lift) (slots : List (Slot × Shape)) :
    readFor vendor lift slots ⊆ readFields lift slots := by
  intro field hfield
  obtain ⟨entry, hentry, hmem⟩ := List.mem_flatMap.mp hfield
  exact List.mem_flatMap.mpr ⟨entry, hentry, fieldsFor_subset vendor lift entry hmem⟩

/-- The own fields of a record are read for every vendor. -/
theorem mem_readFor {vendor : Option String} {lift : Lift} {slots : List (Slot × Shape)}
    {entry : Slot × Shape} (hentry : entry ∈ slots) (h : entry.2.isVariant = false) :
    entry ∈ readFor vendor lift slots := by
  refine List.mem_flatMap.mpr ⟨entry, hentry, ?_⟩
  rw [fieldsFor_eq h]
  exact mem_fieldsOf lift entry.1 h

/-- An entry of a record is read alike if the fields are found alike that are read for it. -/
theorem entrySame_of_foundBy {vendor : Option String} {lift : Lift} {before after : Fields}
    {entry : Slot × Shape} (hclear : entry.2.isClear)
    (h : ∀ field ∈ fieldsFor vendor lift entry, FoundBy (ReadsSame vendor) before after field) :
    EntrySame vendor before after entry := by
  obtain ⟨slot, shape⟩ := entry
  cases hshape : shape.isVariant with
  | false =>
    rw [entrySame_iff hshape]
    rw [fieldsFor_eq hshape] at h
    exact h _ (mem_fieldsOf lift slot hshape)
  | true =>
    cases shape with
    | variant h3cKind h3c huaweiKind huawei =>
      rw [isClear, Bool.and_eq_true, Bool.and_eq_true] at hclear
      obtain ⟨own, rfl, hflat⟩ := exists_of_isFlat hclear.1.1
      rw [fieldsFor] at h
      constructor
      · intro hvendor
        rw [if_pos hvendor] at h
        exact normalize_flat_congr hflat h
      · intro hvendor path
        rw [hvendor, if_neg (by decide), if_pos rfl, List.forall_mem_singleton] at h
        rw [FoundBy, Slot.find?_eq_get? keys_huaweiSlot, Slot.find?_eq_get? keys_huaweiSlot] at h
        rw [hvendor]
        generalize Fields.get? before "huawei" = first at h ⊢
        generalize Fields.get? after "huawei" = second at h ⊢
        cases h with
        | none => rfl
        | some hvalue => exact hvalue.orEmpty path
    | text | flag | choice | list | optional | record => cases hshape

end Shape
end Netscribe
