import Mathlib.Logic.Relation
import Netscribe.Proofs.Outcome
import Netscribe.Proofs.Schema.Alike
/-!
The places of a document that are looked at when it is read, and what can be wrong at each of them.
A document is read if nothing is wrong at any place that is reached in it; otherwise the failure is
what is wrong at one of them. Settings that depend on the vendor are reached for that vendor only.
-/
open Netscribe.Document (Fields)

namespace Netscribe

/-- Whether a text names an alternative, by the text that stands for it or by its second name. -/
def Choice.Names (choice : Choice) (raw value : String) : Prop :=
  ∃ name, (value, name) ∈ choice.members ∧
    (Text.lower (Text.trim raw) = Text.lower value ∨
      Text.lower (Text.trim raw) = Text.lower name)

/-- A choice finds nothing exactly if the text names none of its values. -/
theorem Choice.find?_eq_none_iff {choice : Choice} {raw : String} :
    choice.find? raw = none ↔ ∀ value, ¬ choice.Names raw value := by
  simp only [find?, Option.map_eq_none_iff, List.find?_eq_none, Bool.or_eq_true, beq_iff_eq, Names]
  constructor
  · rintro h value ⟨name, hmem, hnamed⟩
    exact h _ hmem hnamed
  · rintro h ⟨value, name⟩ hmem hnamed
    exact h value ⟨name, hmem, hnamed⟩

/-- What a choice finds is named by the text. -/
theorem Choice.names_of_find? {choice : Choice} {raw value : String}
    (h : choice.find? raw = some value) : choice.Names raw value := by
  obtain ⟨⟨_, name⟩, hfound, rfl⟩ := Option.map_eq_some_iff.mp h
  have hnamed := List.find?_some hfound
  rw [Bool.or_eq_true, beq_iff_eq, beq_iff_eq] at hnamed
  exact ⟨name, List.mem_of_find?_eq_some hfound, hnamed⟩

/-- Whether no two alternatives have a name in common. -/
def Choice.IsApart (choice : Choice) : Prop :=
  ∀ first ∈ choice.members, ∀ second ∈ choice.members,
    (∃ name ∈ [Text.lower first.1, Text.lower first.2],
      name ∈ [Text.lower second.1, Text.lower second.2]) → first.1 = second.1

/-- A text that names an alternative leads to that one. -/
theorem Choice.find?_eq_some_iff {choice : Choice} (h : choice.IsApart) {raw value : String} :
    choice.find? raw = some value ↔ choice.Names raw value := by
  refine ⟨names_of_find?, fun hnames => ?_⟩
  cases hfound : choice.find? raw with
  | none => exact absurd hnames (find?_eq_none_iff.mp hfound value)
  | some other =>
    obtain ⟨name, hmem, hnamed⟩ := hnames
    obtain ⟨otherName, hother, hotherNamed⟩ := names_of_find? hfound
    have hshared := h (other, otherName) hother (value, name) hmem
      ⟨Text.lower (Text.trim raw), List.mem_pair.mpr hotherNamed, List.mem_pair.mpr hnamed⟩
    exact congrArg some hshared

/-- The fields of an object, or none of null. -/
def Document.HasFields (d : Document) (fields : Fields) : Prop :=
  d = .object fields ∨ d = .null ∧ fields = []

private theorem Document.asFields_eq_ok_iff {d : Document} {path : String} {fields : Fields} :
    d.asFields path = .ok fields ↔ d.HasFields fields := by
  cases d <;> simp [asFields, HasFields, eq_comm]

private theorem Document.asFields_eq_error {d : Document} {path : String} {e : ParseError}
    (h : d.asFields path = .error e) :
    (∀ fields, ¬ d.HasFields fields) ∧ e = .expectedObject path d.kind := by
  refine ⟨fun fields hfields => ?_, ?_⟩
  · rw [asFields_eq_ok_iff.mpr hfields] at h
    cases h
  · cases d <;> cases h <;> rfl

/-- The items of a list, or none of null. -/
def Document.HasItems (d : Document) (items : List Document) : Prop :=
  d = .list items ∨ d = .null ∧ items = []

private theorem Document.asItems_eq_ok_iff {d : Document} {path : String} {items : List Document} :
    d.asItems path = .ok items ↔ d.HasItems items := by
  cases d <;> simp [asItems, HasItems, eq_comm]

private theorem Document.asItems_eq_error {d : Document} {path : String} {e : ParseError}
    (h : d.asItems path = .error e) :
    (∀ items, ¬ d.HasItems items) ∧ e = .expectedList path d.kind := by
  refine ⟨fun items hitems => ?_, ?_⟩
  · rw [asItems_eq_ok_iff.mpr hitems] at h
    cases h
  · cases d <;> cases h <;> rfl

/-- A place of a document, with what is read there. -/
structure Place where
  shape : Shape
  path : String
  document : Document

namespace Place

/-- The document of a place in canonical form. -/
def read (vendor : Option String) (place : Place) : Except ParseError Document :=
  place.shape.normalize vendor place.path place.document

/-- What an object holds for an entry of its record. The settings of the vendor's own kind stand in
    the object itself for H3C and under a key of their own for Huawei, where a value that counts as
    unset is an empty object; for other vendors there are none. -/
inductive HeldFor (vendor : Option String) (path : String) (fields : Fields) :
    Slot × Shape → Place → Prop
  | field {slot : Slot} {shape : Shape} {d : Document} (hshape : shape.isVariant = false)
      (hfound : slot.find? fields = some d) :
      HeldFor vendor path fields (slot, shape) ⟨shape, s!"{path}.{slot.name}", d⟩
  | h3c {slot : Slot} {h3cKind huaweiKind : String} {h3c huawei : Shape}
      (hvendor : vendor = some "H3C") :
      HeldFor vendor path fields (slot, .variant h3cKind h3c huaweiKind huawei)
        ⟨h3c, s!"{path}.{slot.name}.H3C", .object fields⟩
  | huawei {slot : Slot} {h3cKind huaweiKind : String} {h3c huawei : Shape}
      (hvendor : vendor = some "Huawei") :
      HeldFor vendor path fields (slot, .variant h3cKind h3c huaweiKind huawei)
        ⟨huawei, s!"{path}.{slot.name}.Huawei", Document.orEmpty (Fields.get? fields "huawei")⟩

/-- What the document of a place holds directly: the items of a list, and of an object what it holds
    for the entries of its record. -/
inductive Holds (vendor : Option String) : Place → Place → Prop
  | item {item : Shape} {path : String} {items : List Document} {i : Nat} {d : Document}
      (hitem : items[i]? = some d) :
      Holds vendor ⟨.list item, path, .list items⟩ ⟨item, s!"{path}[{i}]", d⟩
  | optional {inner : Shape} {path : String} {d : Document} (hset : d ≠ .null) :
      Holds vendor ⟨.optional inner, path, d⟩ ⟨inner, path, d⟩
  | entry {lift : Lift} {slots : List (Slot × Shape)} {path : String} {d : Document}
      {fields : Fields} {entry : Slot × Shape} {inner : Place} (hfields : d.HasFields fields)
      (hentry : entry ∈ slots) (hheld : HeldFor vendor path (lift.apply fields) entry inner) :
      Holds vendor ⟨.record lift slots, path, d⟩ inner

/-- Whether an object does not give a field that has to be there. -/
def Lacks (fields : Fields) : Slot × Shape → Prop
  | (slot, shape) => shape.isVariant = false ∧ slot.required ∧ slot.find? fields = none

/-- What is wrong at a place. -/
inductive Complains : Place → ParseError → Prop
  | member {c : Choice} {path : String} {d : Document} (h : ∀ value, ¬ c.Names d.plain value) :
      Complains ⟨.choice c, path, d⟩ (.unknownMember path c.label d.plain)
  | list {item : Shape} {path : String} {d : Document} (h : ∀ items, ¬ d.HasItems items) :
      Complains ⟨.list item, path, d⟩ (.expectedList path d.kind)
  | record {lift : Lift} {slots : List (Slot × Shape)} {path : String} {d : Document}
      (h : ∀ fields, ¬ d.HasFields fields) :
      Complains ⟨.record lift slots, path, d⟩ (.expectedObject path d.kind)
  | missing {lift : Lift} {slots : List (Slot × Shape)} {path : String} {d : Document}
      {fields : Fields} {entry : Slot × Shape} (hfields : d.HasFields fields)
      (hentry : entry ∈ slots) (hlacks : Lacks (lift.apply fields) entry) :
      Complains ⟨.record lift slots, path, d⟩ (.missingField path (camelCase entry.1.name))

end Place

namespace Shape

section Items

variable {read : String → Document → Except ParseError Document} {path : String}
  {items : List Document}

private theorem readEach_eq_error {i : Nat} {e : ParseError}
    (h : readEach read path i items = .error e) :
    ∃ j d, items[j]? = some d ∧ read s!"{path}[{i + j}]" d = .error e := by
  induction items generalizing i with
  | nil => cases h
  | cons item rest ih =>
    rw [readEach, Outcome.bind_eq_error_iff] at h
    obtain hitem | ⟨first, _, hrest⟩ := h
    · exact ⟨0, item, rfl, hitem⟩
    · obtain ⟨j, d, hd, hread⟩ := ih (Outcome.bind_pure_eq_error_iff.mp hrest)
      refine ⟨j + 1, d, hd, ?_⟩
      rwa [Nat.add_assoc, Nat.add_comm 1 j] at hread

private theorem exists_of_readEach_eq_ok {i : Nat} {found : List Document}
    (h : readEach read path i items = .ok found) {j : Nat} {d : Document}
    (hd : items[j]? = some d) : ∃ value, read s!"{path}[{i + j}]" d = .ok value := by
  induction items generalizing i j found with
  | nil => cases hd
  | cons item rest ih =>
    rw [readEach, Outcome.bind_eq_ok_iff] at h
    obtain ⟨first, hfirst, hrest⟩ := h
    obtain ⟨others, hothers, _⟩ := Outcome.bind_eq_ok_iff.mp hrest
    cases j with
    | zero =>
      obtain rfl := Option.some.inj hd
      exact ⟨first, hfirst⟩
    | succ j =>
      obtain ⟨value, hvalue⟩ := ih hothers hd
      refine ⟨value, ?_⟩
      rwa [Nat.add_assoc, Nat.add_comm 1 j] at hvalue

end Items

private theorem normalize_of_hasFields {vendor : Option String} {lift : Lift}
    {slots : List (Slot × Shape)}
    {path : String} {d : Document} {fields : Fields} (h : d.HasFields fields) :
    normalize vendor (.record lift slots) path d = do
      return .object (← normalizeSlots vendor slots path (lift.apply fields)) := by
  rw [normalize, Document.asFields_eq_ok_iff.mpr h]
  rfl

section Slots

variable {vendor : Option String} {path : String} {fields : Fields} {slots : List (Slot × Shape)}

/-- What comes of an entry that depends on the vendor. -/
theorem normalizeSlots_variant {slot : Slot} {h3cKind huaweiKind : String} {h3c huawei : Shape}
    (rest : List (Slot × Shape)) :
    normalizeSlots vendor ((slot, .variant h3cKind h3c huaweiKind huawei) :: rest) path fields =
      (if vendor = some "H3C" then do
        return tagged h3cKind
          (← h3c.normalize vendor s!"{path}.{slot.name}.H3C" (.object fields))
      else if vendor = some "Huawei" then do
        return tagged huaweiKind (← huawei.normalize vendor s!"{path}.{slot.name}.Huawei"
          (Document.orEmpty (Fields.get? fields "huawei")))
      else return .null) >>= fun value => do
        return (slot.name, value) :: (← normalizeSlots vendor rest path fields) := by
  rw [normalizeSlots]
  split_ifs
  · exact (bind_assoc _ _ _).symm
  · exact (bind_assoc _ _ _).symm
  · rfl

variable {entry : Slot × Shape} {rest : List (Slot × Shape)}

/-- An object fails in the first field, which it lacks or cannot read, or in a later one. -/
theorem first_or_later_of_eq_error {e : ParseError}
    (h : normalizeSlots vendor (entry :: rest) path fields = .error e) :
    (Place.Lacks fields entry ∧ e = .missingField path (camelCase entry.1.name)) ∨
      (∃ inner, Place.HeldFor vendor path fields entry inner ∧ inner.read vendor = .error e) ∨
      normalizeSlots vendor rest path fields = .error e := by
  obtain ⟨slot, shape⟩ := entry
  cases hshape : shape.isVariant with
  | false =>
    rw [normalizeSlots_cons hshape] at h
    cases hfound : slot.find? fields with
    | some raw =>
      rw [hfound] at h
      obtain hvalue | ⟨value, _, hrest⟩ := Outcome.bind_eq_error_iff.mp h
      · exact .inr (.inl ⟨_, .field hshape hfound, hvalue⟩)
      · exact .inr (.inr (Outcome.bind_pure_eq_error_iff.mp hrest))
    | none =>
      rw [hfound] at h
      dsimp only at h
      split_ifs at h with hrequired
      · exact .inl ⟨⟨hshape, hrequired, hfound⟩, (Except.error.inj h).symm⟩
      · exact .inr (.inr h)
  | true =>
    cases shape with
    | variant h3cKind h3c huaweiKind huawei =>
      rw [normalizeSlots_variant, Outcome.bind_eq_error_iff] at h
      obtain hvalue | ⟨value, _, hrest⟩ := h
      · split_ifs at hvalue with hh3c hhuawei
        · have hfail := Outcome.bind_pure_eq_error_iff.mp hvalue
          exact .inr (.inl ⟨_, .h3c hh3c, hfail⟩)
        · have hfail := Outcome.bind_pure_eq_error_iff.mp hvalue
          exact .inr (.inl ⟨_, .huawei hhuawei, hfail⟩)
        · cases hvalue
      · exact .inr (.inr (Outcome.bind_pure_eq_error_iff.mp hrest))
    | text | flag | choice | list | optional | record => cases hshape

/-- What is wrong with an object is that it lacks a field, or wrong with something that it holds. -/
theorem exists_of_normalizeSlots_eq_error {e : ParseError}
    (h : normalizeSlots vendor slots path fields = .error e) :
    (∃ entry ∈ slots, Place.Lacks fields entry ∧
      e = .missingField path (camelCase entry.1.name)) ∨
    ∃ entry ∈ slots, ∃ inner, Place.HeldFor vendor path fields entry inner ∧
      inner.read vendor = .error e := by
  induction slots with
  | nil =>
    rw [normalizeSlots] at h
    cases h
  | cons entry rest ih =>
    obtain hlacks | hheld | hrest := first_or_later_of_eq_error h
    · exact .inl ⟨entry, List.mem_cons_self, hlacks⟩
    · exact .inr ⟨entry, List.mem_cons_self, hheld⟩
    · obtain ⟨other, hother, hlacks⟩ | ⟨other, hother, hheld⟩ := ih hrest
      · exact .inl ⟨other, List.mem_cons_of_mem entry hother, hlacks⟩
      · exact .inr ⟨other, List.mem_cons_of_mem entry hother, hheld⟩

/-- An object that is read does not lack the first field and reads what it holds for it, and the
    later ones are read as well. -/
theorem first_and_later_of_eq_ok {found : Fields}
    (h : normalizeSlots vendor (entry :: rest) path fields = .ok found) :
    (¬ Place.Lacks fields entry ∧ ∀ inner, Place.HeldFor vendor path fields entry inner →
      ∃ value, inner.read vendor = .ok value) ∧
    ∃ others, normalizeSlots vendor rest path fields = .ok others := by
  obtain ⟨slot, shape⟩ := entry
  cases hshape : shape.isVariant with
  | false =>
    rw [normalizeSlots_cons hshape] at h
    cases hfound : slot.find? fields with
    | some raw =>
      rw [hfound] at h
      obtain ⟨value, hvalue, hrest⟩ := Outcome.bind_eq_ok_iff.mp h
      obtain ⟨others, hothers, _⟩ := Outcome.bind_eq_ok_iff.mp hrest
      refine ⟨⟨fun hlacks => ?_, fun inner hheld => ?_⟩, others, hothers⟩
      · rw [hlacks.2.2] at hfound
        cases hfound
      · cases hheld with
        | field _ hsame =>
          obtain rfl := Option.some.inj (hfound.symm.trans hsame)
          exact ⟨value, hvalue⟩
        | h3c | huawei => cases hshape
    | none =>
      rw [hfound] at h
      dsimp only at h
      split_ifs at h with hrequired
      refine ⟨⟨fun hlacks => hrequired hlacks.2.1, fun inner hheld => ?_⟩, found, h⟩
      cases hheld with
      | field _ hsame =>
        rw [hfound] at hsame
        cases hsame
      | h3c | huawei => cases hshape
  | true =>
    cases shape with
    | variant h3cKind h3c huaweiKind huawei =>
      rw [normalizeSlots_variant, Outcome.bind_eq_ok_iff] at h
      obtain ⟨value, hvalue, hrest⟩ := h
      obtain ⟨others, hothers, _⟩ := Outcome.bind_eq_ok_iff.mp hrest
      refine ⟨⟨fun hlacks => (nomatch hlacks.1), fun inner hheld => ?_⟩, others, hothers⟩
      cases hheld with
      | field hnot => cases hnot
      | h3c hvendor =>
        rw [if_pos hvendor] at hvalue
        obtain ⟨settings, hsettings, _⟩ := Outcome.bind_eq_ok_iff.mp hvalue
        exact ⟨settings, hsettings⟩
      | huawei hvendor =>
        rw [hvendor, if_neg (by decide), if_pos rfl] at hvalue
        obtain ⟨settings, hsettings, _⟩ := Outcome.bind_eq_ok_iff.mp hvalue
        rw [hvendor]
        exact ⟨settings, hsettings⟩
    | text | flag | choice | list | optional | record => cases hshape

/-- An object that is read lacks no field, and everything that it holds is read. -/
theorem forall_of_normalizeSlots_eq_ok {found : Fields}
    (h : normalizeSlots vendor slots path fields = .ok found) :
    ∀ entry ∈ slots, ¬ Place.Lacks fields entry ∧
      ∀ inner, Place.HeldFor vendor path fields entry inner →
        ∃ value, inner.read vendor = .ok value := by
  induction slots generalizing found with
  | nil => exact fun entry hentry => nomatch hentry
  | cons entry rest ih =>
    obtain ⟨hfirst, others, hothers⟩ := first_and_later_of_eq_ok h
    exact List.forall_mem_cons.mpr ⟨hfirst, ih hothers⟩

end Slots

end Shape

namespace Place

variable {vendor : Option String} {place : Place}

/-- A place that cannot be read is wrong itself, or holds one that cannot be read. -/
theorem complains_or_holds_of_read_eq_error {e : ParseError} (h : place.read vendor = .error e) :
    place.Complains e ∨ ∃ inner, place.Holds vendor inner ∧ inner.read vendor = .error e := by
  obtain ⟨shape, path, d⟩ := place
  rw [read] at h
  cases shape with
  | text => cases h
  | flag => cases h
  | choice c =>
    rw [Shape.normalize, Choice.read] at h
    split at h
    next => cases h
    next hnone =>
      cases h
      exact .inl (.member (Choice.find?_eq_none_iff.mp hnone))
  | list item =>
    rw [Shape.normalize, Outcome.bind_eq_error_iff] at h
    obtain hitems | ⟨items, hitems, hrest⟩ := h
    · obtain ⟨hnot, rfl⟩ := Document.asItems_eq_error hitems
      exact .inl (.list hnot)
    · have heach := Outcome.bind_pure_eq_error_iff.mp hrest
      obtain ⟨i, inner, hinner, hread⟩ := Shape.readEach_eq_error heach
      obtain rfl | ⟨_, rfl⟩ := Document.asItems_eq_ok_iff.mp hitems
      · rw [Nat.zero_add] at hread
        exact .inr ⟨_, .item hinner, hread⟩
      · cases hinner
  | optional inner =>
    by_cases hset : d = .null
    · rw [hset, Shape.normalize] at h
      cases h
    · rw [Shape.normalize_optional hset] at h
      exact .inr ⟨_, .optional hset, h⟩
  | record lift slots =>
    rw [Shape.normalize, Outcome.bind_eq_error_iff] at h
    obtain hfields | ⟨fields, hfields, hrest⟩ := h
    · obtain ⟨hnot, rfl⟩ := Document.asFields_eq_error hfields
      exact .inl (.record hnot)
    · have hhas := Document.asFields_eq_ok_iff.mp hfields
      have hslots := Outcome.bind_pure_eq_error_iff.mp hrest
      obtain ⟨entry, hentry, hlacks, rfl⟩ | ⟨entry, hentry, inner, hheld, hread⟩ :=
        Shape.exists_of_normalizeSlots_eq_error hslots
      · exact .inl (.missing hhas hentry hlacks)
      · exact .inr ⟨inner, .entry hhas hentry hheld, hread⟩
  | variant => cases h

/-- At a place that can be read nothing is wrong, and everything that it holds can be read. -/
theorem not_complains_of_read_eq_ok {value : Document} (h : place.read vendor = .ok value) :
    (∀ e, ¬ place.Complains e) ∧
      ∀ inner, place.Holds vendor inner → ∃ value, inner.read vendor = .ok value := by
  constructor
  · intro e hwrong
    cases hwrong with
    | member hnone =>
      rw [read, Shape.normalize, Choice.read, Choice.find?_eq_none_iff.mpr hnone] at h
      cases h
    | list hnot =>
      rw [read, Shape.normalize] at h
      obtain ⟨items, hitems, _⟩ := Outcome.bind_eq_ok_iff.mp h
      exact hnot items (Document.asItems_eq_ok_iff.mp hitems)
    | record hnot =>
      rw [read, Shape.normalize] at h
      obtain ⟨fields, hfields, _⟩ := Outcome.bind_eq_ok_iff.mp h
      exact hnot fields (Document.asFields_eq_ok_iff.mp hfields)
    | missing hfields hentry hlacks =>
      rw [read, Shape.normalize_of_hasFields hfields] at h
      obtain ⟨found, hslots, _⟩ := Outcome.bind_eq_ok_iff.mp h
      exact (Shape.forall_of_normalizeSlots_eq_ok hslots _ hentry).1 hlacks
  · intro inner hholds
    cases hholds with
    | item hitem =>
      rw [read, Shape.normalize_list] at h
      obtain ⟨found, heach, _⟩ := Outcome.bind_eq_ok_iff.mp h
      have hread := Shape.exists_of_readEach_eq_ok heach hitem
      rwa [Nat.zero_add] at hread
    | optional hset =>
      rw [read, Shape.normalize_optional hset] at h
      exact ⟨value, h⟩
    | entry hfields hentry hheld =>
      rw [read, Shape.normalize_of_hasFields hfields] at h
      obtain ⟨found, hslots, _⟩ := Outcome.bind_eq_ok_iff.mp h
      exact (Shape.forall_of_normalizeSlots_eq_ok hslots _ hentry).2 inner hheld

/-- Whether a place is reached from another one by going inside any number of times. -/
def Reaches (vendor : Option String) : Place → Place → Prop :=
  Relation.ReflTransGen (Holds vendor)

private theorem sizeOf_lt_of_holds {inner : Place} (h : place.Holds vendor inner) :
    sizeOf inner.shape < sizeOf place.shape := by
  cases h with
  | item => simp
  | optional => simp
  | @entry lift slots path d fields entry inner hfields hentry hheld =>
    have hlt := List.sizeOf_lt_of_mem hentry
    cases hheld with
    | field | h3c | huawei => simp at hlt ⊢; omega

/-- Every failure is what is wrong at some place that is reached. -/
theorem exists_complaint_of_read_eq_error {place : Place} {e : ParseError}
    (h : place.read vendor = .error e) :
    ∃ inner, place.Reaches vendor inner ∧ inner.Complains e := by
  obtain hwrong | ⟨inner, hholds, hread⟩ := complains_or_holds_of_read_eq_error h
  · exact ⟨place, .refl, hwrong⟩
  · have := sizeOf_lt_of_holds hholds
    obtain ⟨last, hreaches, hwrong⟩ := exists_complaint_of_read_eq_error hread
    exact ⟨last, .head hholds hreaches, hwrong⟩
termination_by sizeOf place.shape

/-- Everything that is reached in a document that can be read can be read as well. -/
theorem Reaches.read_eq_ok {inner : Place} (h : place.Reaches vendor inner)
    (hread : ∃ value, place.read vendor = .ok value) :
    ∃ value, inner.read vendor = .ok value := by
  induction h with
  | refl => exact hread
  | tail _ hholds ih =>
    obtain ⟨value, hvalue⟩ := ih
    exact (not_complains_of_read_eq_ok hvalue).2 _ hholds

/-- A document is read exactly if nothing is wrong at any place that is reached in it. -/
theorem read_succeeds_iff :
    (∃ value, place.read vendor = .ok value) ↔
      ∀ inner, place.Reaches vendor inner → ∀ e, ¬ inner.Complains e := by
  constructor
  · intro hread inner hreaches
    obtain ⟨value, hvalue⟩ := hreaches.read_eq_ok hread
    exact (not_complains_of_read_eq_ok hvalue).1
  · intro hnone
    cases hread : place.read vendor with
    | ok value => exact ⟨value, rfl⟩
    | error e =>
      obtain ⟨inner, hreaches, hwrong⟩ := exists_complaint_of_read_eq_error hread
      exact absurd hwrong (hnone inner hreaches e)

end Place

namespace Shape

/-- Whether a document is of the kind that its shape asks for: one that names an alternative, a list
    or an object. Null stands for an empty list or object. -/
def Admits : Shape → Document → Prop
  | .choice c, d => ∃ value, c.Names d.plain value
  | .list _, d => ∃ items, d.HasItems items
  | .record .., d => ∃ fields, d.HasFields fields
  | .text, _ | .flag, _ | .optional _, _ | .variant .., _ => True

mutual
/-- Whether no record of a shape has a field that has to be there. -/
def requiresNothing : Shape → Bool
  | .text | .flag | .choice _ => true
  | .list item => item.requiresNothing
  | .optional inner => inner.requiresNothing
  | .record _ slots => requireNothing slots
  | .variant _ h3c _ huawei => h3c.requiresNothing && huawei.requiresNothing

def requireNothing : List (Slot × Shape) → Bool
  | [] => true
  | (slot, shape) :: rest => !slot.required && shape.requiresNothing && requireNothing rest
end

/-- A scalar requires no field. -/
theorem requiresNothing_of_isScalar {shape : Shape} (h : shape.isScalar) :
    shape.requiresNothing := by
  cases shape with
  | text | flag | choice => rfl
  | list | optional | record | variant => cases h

/-- A record requires nothing exactly if none of its fields does. -/
theorem requireNothing_iff {slots : List (Slot × Shape)} :
    requireNothing slots ↔
      ∀ entry ∈ slots, entry.1.required = false ∧ entry.2.requiresNothing := by
  induction slots with
  | nil => simp [requireNothing]
  | cons entry rest ih => simp [requireNothing, ih]

end Shape

namespace Place

variable {vendor : Option String} {place inner : Place}

/-- A place of the right kind is wrong only in what it lacks. -/
theorem Complains.lacks {e : ParseError} (h : place.Complains e)
    (hadmits : place.shape.Admits place.document) :
    ∃ lift slots fields entry, place.shape = .record lift slots ∧
      place.document.HasFields fields ∧ entry ∈ slots ∧ Lacks (lift.apply fields) entry := by
  cases h with
  | member hnone =>
    obtain ⟨value, hnamed⟩ := hadmits
    exact absurd hnamed (hnone value)
  | list hnot =>
    obtain ⟨items, hitems⟩ := hadmits
    exact absurd hitems (hnot items)
  | record hnot =>
    obtain ⟨fields, hfields⟩ := hadmits
    exact absurd hfields (hnot fields)
  | missing hfields hentry hlacks => exact ⟨_, _, _, _, rfl, hfields, hentry, hlacks⟩

/-- A document that is not complained about is admitted. -/
theorem admits_of_not_complains (h : ∀ e, ¬ place.Complains e) :
    place.shape.Admits place.document := by
  obtain ⟨shape, path, d⟩ := place
  cases shape with
  | choice c =>
    by_contra hnone
    exact h _ (.member fun value hnamed => hnone ⟨value, hnamed⟩)
  | list item =>
    by_contra hnone
    exact h _ (.list fun items hitems => hnone ⟨items, hitems⟩)
  | record lift slots =>
    by_contra hnone
    exact h _ (.record fun fields hfields => hnone ⟨fields, hfields⟩)
  | text | flag | optional | variant => trivial

/-- What is held for a field without variants has the shape of the field. -/
theorem shape_of_heldFor {path : String} {fields : Fields} {slot : Slot} {shape : Shape}
    (hshape : shape.isVariant = false) (h : HeldFor vendor path fields (slot, shape) inner) :
    inner.shape = shape := by
  cases h with
  | field => rfl
  | h3c | huawei => cases hshape

/-- Where a record requires nothing, the places inside it require nothing. -/
theorem requiresNothing_of_holds (h : place.Holds vendor inner)
    (hplace : place.shape.requiresNothing) : inner.shape.requiresNothing := by
  cases h with
  | item => exact hplace
  | optional => exact hplace
  | entry hfields hentry hheld =>
    have hshape := (Shape.requireNothing_iff.mp hplace _ hentry).2
    cases hheld with
    | field => exact hshape
    | h3c =>
      rw [Shape.requiresNothing, Bool.and_eq_true] at hshape
      exact hshape.1
    | huawei =>
      rw [Shape.requiresNothing, Bool.and_eq_true] at hshape
      exact hshape.2

end Place
end Netscribe
