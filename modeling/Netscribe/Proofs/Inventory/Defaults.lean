import Netscribe.Proofs.Inventory.Reached
import Netscribe.Proofs.Topology.Settings
/-!
Devices against the defaults of their file. The defaults are put behind the fields of an object key
by key, before spellings are looked for. What an object sets itself therefore stays, unless the
defaults give a spelling that is looked for earlier than the object's own; what it does not set is
taken from the defaults, and so may be the vendor that its settings are read for.
-/
open Netscribe.Document (Fields)

namespace Netscribe

/-- Whether settings are those of an H3C device. -/
def VendorVariant.isH3c {α β : Type} : VendorVariant α β → Bool
  | .h3c _ => true
  | _ => false

namespace Shape

variable {slots : List (Slot × Shape)}

private theorem normalize_of_isScalar {shape : Shape} (h : shape.isScalar)
    (vendor other : Option String)
    (path : String) (raw : Document) :
    shape.normalize vendor path raw = shape.normalize other path raw := by
  cases shape with
  | text => rfl
  | flag => rfl
  | choice c => rfl
  | list | optional | record | variant => cases h

/-- The vendor plays no part where all fields are texts, flags and choices. -/
theorem normalizeSlots_of_scalars (h : ∀ entry ∈ slots, entry.2.isScalar)
    (vendor other : Option String) (path : String) (fields : Fields) :
    normalizeSlots vendor slots path fields = normalizeSlots other slots path fields := by
  induction slots with
  | nil => rw [normalizeSlots, normalizeSlots]
  | cons entry rest ih =>
    obtain ⟨slot, shape⟩ := entry
    obtain ⟨hfirst, hrest⟩ := List.forall_mem_cons.mp h
    have hscalar : shape.isScalar := hfirst
    have hshape := isVariant_of_isScalar hscalar
    rw [normalizeSlots_cons hshape, normalizeSlots_cons hshape, ih hrest]
    cases slot.find? fields with
    | none => rfl
    | some raw =>
      dsimp only
      rw [normalize_of_isScalar hscalar vendor other]

end Shape

/-- Ports are read alike for every vendor. -/
theorem Port.parseList_eq (vendor other : Option String) (path : String) (raw : Document) :
    (Described.parse vendor path raw : Except ParseError (List Port)) =
      Described.parse other path raw := by
  have hscalar : ∀ entry ∈ Port.fields.map fun f => (f.slot, f.shape), entry.2.isScalar :=
    fun entry hentry => (Node.mem_portSlots hentry).1
  have hport :
      (Described.shape Port).normalize vendor = (Described.shape Port).normalize other := by
    funext path raw
    change (Shape.record .none _).normalize vendor path raw =
      (Shape.record .none _).normalize other path raw
    rw [Shape.normalize, Shape.normalize]
    simp only [Shape.normalizeSlots_of_scalars hscalar vendor other]
  change ((Shape.list (Described.shape Port)).normalize vendor path raw).map _ =
    ((Shape.list (Described.shape Port)).normalize other path raw).map _
  rw [Shape.normalize, Shape.normalize, hport]

namespace Inventory

/-- Behind the fields of an object stand those of the defaults that it lacks. -/
theorem get?_addMissing_eq (defaults fields : Fields) (key : String) :
    Fields.get? (addMissing defaults fields) key =
      (Fields.get? fields key).or (Fields.get? defaults key) := by
  rw [addMissing]
  induction defaults generalizing fields with
  | nil => exact Option.or_none.symm
  | cons field rest ih =>
    rw [List.foldl_cons, Fields.get?_cons]
    split
    next hcontains =>
      rw [ih]
      split
      next hkey =>
        rw [Fields.contains_eq_isSome, ← hkey] at hcontains
        rw [Option.or_of_isSome hcontains, Option.or_of_isSome hcontains]
      next => rfl
    next =>
      rw [ih, Fields.get?_append_cons, Option.or_assoc]
      split
      · rfl
      · rfl

end Inventory

/-- Whether the defaults give a spelling of a field that is looked for before any of those that the
    object gives. -/
def Slot.IsOvertaken (slot : Slot) (defaults item : Fields) : Prop :=
  ∃ front key back, slot.keys = front ++ key :: back ∧ Fields.contains defaults key ∧
    (∀ other ∈ front ++ [key], Fields.contains item other = false) ∧
    ∃ other ∈ back, Fields.contains item other

/-- Along some keys, what is found first of two sources is what is found of the one source, or else
    of the other, if no key of the other comes before all those of the one. -/
theorem findSome?_or {keys : List String} {own missing : String → Option Document}
    (h : ∀ front key back, keys = front ++ key :: back → (missing key).isSome →
      (∀ other ∈ front ++ [key], own other = none) → ∀ other ∈ back, own other = none) :
    keys.findSome? (fun key => (own key).or (missing key)) =
      (keys.findSome? own).or (keys.findSome? missing) := by
  induction keys with
  | nil => rfl
  | cons key rest ih =>
    rw [List.findSome?_cons, List.findSome?_cons, List.findSome?_cons]
    cases hown : own key with
    | some value => rfl
    | none =>
      rw [Option.none_or]
      cases hmissing : missing key with
      | some value =>
        have hlater : ∀ other ∈ rest, own other = none :=
          h [] key rest rfl (Option.isSome_of_eq_some hmissing) (by simpa using hown)
        dsimp only
        rw [List.findSome?_eq_none_iff.mpr hlater, Option.none_or]
      | none =>
        refine ih fun front later back hsplit hlater hbefore => ?_
        refine h (key :: front) later back (by rw [hsplit, List.cons_append]) hlater ?_
        exact List.forall_mem_cons.mpr ⟨hown, hbefore⟩

private theorem Slot.find?_addMissing {slot : Slot} {defaults item : Fields}
    (h : ¬ slot.IsOvertaken defaults item) :
    slot.find? (Inventory.addMissing defaults item) =
      (slot.find? item).or (slot.find? defaults) := by
  have hkey : Fields.get? (Inventory.addMissing defaults item) =
      fun key => (Fields.get? item key).or (Fields.get? defaults key) :=
    funext fun key => Inventory.get?_addMissing_eq defaults item key
  have hlacks {key : String} : Fields.contains item key = false ↔ Fields.get? item key = none := by
    rw [Fields.contains_eq_isSome, Option.isSome_eq_false_iff, Option.isNone_iff_eq_none]
  rw [find?, find?, find?, hkey]
  refine findSome?_or fun front key back hsplit hmissing hbefore other hother => ?_
  by_contra hset
  refine h ⟨front, key, back, hsplit, ?_, fun other hmem => hlacks.mpr (hbefore other hmem),
    other, hother, ?_⟩
  · rw [Fields.contains_eq_isSome]
    exact hmissing
  · rw [← hlacks] at hset
    simpa using hset

/-- A field that stands under one key only is never overtaken. -/
theorem Slot.not_isOvertaken {slot : Slot} {key : String} (h : slot.keys = [key, key])
    (defaults item : Fields) : ¬ slot.IsOvertaken defaults item := by
  rintro ⟨front, first, back, hsplit, -, hbefore, other, hother, hset⟩
  have hkeys : ∀ k ∈ front ++ first :: back, k = key := by
    rw [← hsplit, h]
    simp
  have hfirst : first = key := hkeys first (by simp)
  have hlater : other = key := hkeys other (by simp [hother])
  have hlacks := hbefore first (by simp)
  rw [hfirst, ← hlater, hset] at hlacks
  cases hlacks

/-- Defaults under spellings that the object has as well overtake nothing. -/
theorem Slot.not_isOvertaken_of_given {slot : Slot} {defaults item : Fields}
    (h : ∀ key ∈ slot.keys, Fields.contains defaults key → Fields.contains item key) :
    ¬ slot.IsOvertaken defaults item := by
  rintro ⟨front, key, back, hsplit, hdefault, hbefore, -⟩
  have hkey : key ∈ slot.keys := by
    rw [hsplit]
    exact List.mem_append_right _ List.mem_cons_self
  have hlacks := hbefore key (List.mem_append_right _ (List.mem_singleton_self key))
  rw [h key hkey hdefault] at hlacks
  cases hlacks

/-- The value of a field of a device: what the object sets, or else what the defaults set. -/
structure Slot.TakesOwn {α : Type} [Described α] (slot : Slot) (item defaults : Fields)
    (vendor : Vendor) (path : String) (initial value : α) : Prop where
  own : (slot.find? item).isSome → slot.setting vendor path initial item = .ok value
  missing : slot.find? item = none → slot.setting vendor path initial defaults = .ok value

private theorem Slot.takesOwn {α : Type} [Described α] {slot : Slot} {item defaults : Fields}
    {vendor : Vendor} {path : String} {initial value : α} (h : ¬ slot.IsOvertaken defaults item)
    (hvalue : slot.setting vendor path initial (Inventory.addMissing defaults item) = .ok value) :
    slot.TakesOwn item defaults vendor path initial value := by
  have hfound := find?_addMissing h
  constructor
  · intro hset
    rw [Option.or_of_isSome hset] at hfound
    rw [← setting_congr hfound, hvalue]
  · intro hunset
    rw [hunset, Option.none_or] at hfound
    rw [← setting_congr hfound, hvalue]

private theorem Slot.takesOwn_of_key {α : Type} [Described α] {slot : Slot} {key : String}
    (h : slot.keys = [key, key]) {item defaults : Fields} {vendor : Vendor} {path : String}
    {initial value : α}
    (hvalue : slot.setting vendor path initial (Inventory.addMissing defaults item) = .ok value) :
    slot.TakesOwn item defaults vendor path initial value :=
  takesOwn (not_isOvertaken h defaults item) hvalue

namespace Node

/-- A device with the settings of an object, and with those of the defaults where the object has
    none. Nothing is said of a type of device for which the defaults give an earlier spelling. -/
structure TakesOwn (n : Node) (path : String) (item defaults : Fields) : Prop where
  id : idSlot.TakesOwn item defaults n.vendor path "" n.id
  name : nameSlot.TakesOwn item defaults n.vendor path "" n.name
  vendor : vendorSlot.TakesOwn item defaults n.vendor path .generic n.vendor
  deviceType : ¬ deviceTypeSlot.IsOvertaken defaults item →
    deviceTypeSlot.TakesOwn item defaults n.vendor path .l3Switch n.deviceType
  ports : portsSlot.TakesOwn item defaults n.vendor path [] n.ports
  config : configSlot.TakesOwn item defaults n.vendor path {} n.config

/-- A device that agrees with the reading of an object in everything that the object sets. The
    settings of the features are those of the object only if the vendor is. -/
structure SharesOwn (n m : Node) (item defaults : Fields) : Prop where
  id : n.id = m.id
  name : (nameSlot.find? item).isSome → n.name = m.name
  vendor : (vendorSlot.find? item).isSome → n.vendor = m.vendor
  deviceType : (deviceTypeSlot.find? item).isSome → ¬ deviceTypeSlot.IsOvertaken defaults item →
    n.deviceType = m.deviceType
  ports : (portsSlot.find? item).isSome → n.ports = m.ports
  config : (configSlot.find? item).isSome → n.vendor = m.vendor → n.config = m.config

variable {item defaults : Fields} {n m : Node}

private theorem takesOwn_of_parse
    (h : Node.parse (.object (Inventory.addMissing defaults item)) = .ok n) :
    n.TakesOwn s!"node[{rawId (Inventory.addMissing defaults item)}]" item defaults := by
  have hread := hasSettings_of_parse h
  have hid : idSlot.keys = ["id", "id"] := by decide
  have hname : nameSlot.keys = ["name", "name"] := by decide
  have hvendor : vendorSlot.keys = ["vendor", "vendor"] := by decide
  have hports : portsSlot.keys = ["ports", "ports"] := by decide
  have hconfig : configSlot.keys = ["config", "config"] := by decide
  exact ⟨Slot.takesOwn_of_key hid hread.id, Slot.takesOwn_of_key hname hread.name,
    Slot.takesOwn_of_key hvendor hread.vendor, fun h => Slot.takesOwn h hread.deviceType,
    Slot.takesOwn_of_key hports hread.ports, Slot.takesOwn_of_key hconfig hread.config⟩

/-- A setting that does not depend on the vendor. -/
theorem setting_of_vendors {α : Type} [Described α]
    (hfree : ∀ vendor other path raw, (Described.parse vendor path raw : Except ParseError α) =
      Described.parse other path raw) (slot : Slot) (vendor other : Vendor) (path : String)
    (initial : α) (fields : Fields) :
    slot.setting vendor path initial fields = slot.setting other path initial fields := by
  rw [Slot.setting, Slot.setting]
  cases slot.find? fields with
  | none => rfl
  | some raw => exact hfree _ _ _ raw

private theorem sharesOwn_of_parse
    (hn : Node.parse (.object (Inventory.addMissing defaults item)) = .ok n)
    (hm : Node.parse (.object item) = .ok m) : n.SharesOwn m item defaults := by
  have hid : Fields.contains item "id" := Inventory.contains_id_of_parse hm
  have hpath : rawId (Inventory.addMissing defaults item) = rawId item := by
    rw [rawId, rawId, Inventory.get?_addMissing hid]
  have hown := takesOwn_of_parse hn
  have hread := hasSettings_of_parse hm
  rw [hpath] at hown
  have hset : (idSlot.find? item).isSome := by
    rw [find?_idSlot, ← Fields.contains_eq_isSome]
    exact hid
  have hsame {α : Type} [Described α] {slot : Slot} {path : String} {initial value other : α}
      (hfree : ∀ vendor other path raw, (Described.parse vendor path raw : Except ParseError α) =
        Described.parse other path raw)
      (hvalue : slot.TakesOwn item defaults n.vendor path initial value)
      (hother : slot.setting m.vendor path initial item = .ok other)
      (hset : (slot.find? item).isSome) : value = other := by
    have hboth := hvalue.own hset
    rw [setting_of_vendors hfree slot n.vendor m.vendor, hother] at hboth
    exact (Except.ok.inj hboth).symm
  constructor
  · exact hsame (fun _ _ _ _ => rfl) hown.id hread.id hset
  · exact hsame (fun _ _ _ _ => rfl) hown.name hread.name
  · exact hsame (fun _ _ _ _ => rfl) hown.vendor hread.vendor
  · exact fun hset hclear =>
      hsame (fun _ _ _ _ => rfl) (hown.deviceType hclear) hread.deviceType hset
  · exact hsame Port.parseList_eq hown.ports hread.ports
  · intro hset hvendor
    have hboth := hown.config.own hset
    rw [hvendor, hread.config] at hboth
    exact (Except.ok.inj hboth).symm

end Node

namespace Inventory

variable {path : String} {file fields : Fields} {inv : Inventory}

/-- An object among the nodes of a file, and the entry that it becomes with the defaults. -/
structure IsEntryOf (file fields item defaults : Fields) : Prop where
  ofDefaults : Document.orEmpty (Fields.get? file "defaults") = .object defaults
  ofNodes : ∃ items, itemsOf (Fields.get? file "nodes") = .ok items ∧ .object item ∈ items
  eq : fields = addMissing defaults item

private theorem exists_isEntryOf (h : ofDocument path (.object file) = .ok inv)
    (hfields : fields ∈ inv.deviceFields) :
    ∃ item defaults, IsEntryOf file fields item defaults := by
  obtain ⟨items, hitems, hrest⟩ := Outcome.bind_eq_ok_iff.mp h
  obtain ⟨entries, hentries, hinv⟩ := Outcome.bind_eq_ok_iff.mp hrest
  obtain rfl := Except.ok.inj hinv
  obtain ⟨entry, hentry, hobject⟩ := List.mem_filterMap.mp hfields
  obtain ⟨raw, hraw, hread⟩ :=
    Outcome.exists_of_forall₂_right (Outcome.mapM_eq_ok_iff.mp hentries) hentry
  cases raw with
  | object item =>
    cases hdefaults : Document.orEmpty (Fields.get? file "defaults") with
    | object defaults =>
      rw [hdefaults] at hread
      obtain rfl := Except.ok.inj hread
      exact ⟨item, defaults, hdefaults, ⟨items, hitems, hraw⟩, (Option.some.inj hobject).symm⟩
    | _ =>
      rw [hdefaults] at hread
      cases hread
  | _ =>
    obtain rfl := Except.ok.inj hread
    cases hobject

/-- The device that is given out for an id or a name, whatever has been asked before. Each field
    that its object sets is read from there, for the vendor of the device, and only what the object
    does not set is read from the defaults. So the device agrees with the reading of the object
    alone, in the settings of its features as long as the defaults do not change the vendor. A type
    of device is left aside where the defaults give a spelling of it that is looked for earlier. -/
theorem node_takes_own_settings (hinv : ofDocument path (.object file) = .ok inv)
    {cache after : Cache} (hcache : inv.Reached cache) {wanted : Document} {n : Node}
    (hanswer : (inv.node wanted).answer cache = (.ok n, after)) :
    ∃ fields, inv.IsReading wanted fields n ∧
      (inv.HasOneReading → inv.device wanted = .ok fields) ∧
      (∃ item defaults, IsEntryOf file fields item defaults) ∧
      ∀ item defaults, IsEntryOf file fields item defaults →
        n.TakesOwn s!"node[{rawId fields}]" item defaults ∧
        ∀ m, Node.parse (.object item) = .ok m → n.SharesOwn m item defaults := by
  obtain ⟨fields, hreading, hfound⟩ := hcache.exists_isReading hanswer
  refine ⟨fields, hreading, hfound, exists_isEntryOf hinv hreading.mem, ?_⟩
  intro item defaults hentry
  obtain rfl := hentry.eq
  exact ⟨Node.takesOwn_of_parse hreading.parse,
    fun m hm => Node.sharesOwn_of_parse hreading.parse hm⟩

/-- A type of device given by both the defaults and the object, under one spelling. -/
theorem node_takes_own_type_over_default : ∃ inv n after,
    ofDocument "t.json" (.object [
      ("defaults", .object [("vendor", .text "H3C"), ("deviceType", .text "Firewall")]),
      ("nodes", .list [.object [("id", .text "edge"), ("deviceType", .text "Router")]])]) =
        .ok inv ∧
    inv.Reached {} ∧ (inv.node (.text "edge")).answer {} = (.ok n, after) ∧
    n.vendor = .h3c ∧ n.deviceType = .router := by
  have hparse : Node.parse (.object [("id", .text "edge"), ("deviceType", .text "Router"),
      ("vendor", .text "H3C")]) = .ok { id := "edge", vendor := .h3c, deviceType := .router } := rfl
  have hinv : ofDocument "t.json" (.object [
      ("defaults", .object [("vendor", .text "H3C"), ("deviceType", .text "Firewall")]),
      ("nodes", .list [.object [("id", .text "edge"), ("deviceType", .text "Router")]])]) =
        .ok ⟨"t.json", [.object [("id", .text "edge"), ("deviceType", .text "Router"),
          ("vendor", .text "H3C")]], none⟩ := rfl
  have hanswer := @answer_node_of_new ⟨"t.json", [.object [("id", .text "edge"),
    ("deviceType", .text "Router"), ("vendor", .text "H3C")]], none⟩ {} (.text "edge") _ _ rfl rfl
      hparse
  obtain ⟨fields, hreading, -, -, htakes⟩ := node_takes_own_settings hinv .start hanswer
  obtain rfl := List.mem_singleton.mp hreading.mem
  obtain ⟨hown, -⟩ := htakes [("id", .text "edge"), ("deviceType", .text "Router")]
    [("vendor", .text "H3C"), ("deviceType", .text "Firewall")] ⟨rfl, ⟨_, rfl, .head _⟩, rfl⟩
  have hclear : ¬ Node.deviceTypeSlot.IsOvertaken
      [("vendor", .text "H3C"), ("deviceType", .text "Firewall")]
      [("id", .text "edge"), ("deviceType", .text "Router")] :=
    Slot.not_isOvertaken_of_given (by decide)
  exact ⟨_, _, _, hinv, .start, hanswer, Except.ok.inj (hown.vendor.missing rfl).symm,
    (Except.ok.inj ((hown.deviceType hclear).own rfl)).symm⟩

/-- Settings for address translation, in a file whose defaults name the vendor: they are read for
    that vendor, and for no vendor without the defaults. -/
theorem node_reads_config_for_default_vendor : ∃ inv n m after,
    ofDocument "t.json" (.object [("defaults", .object [("vendor", .text "H3C")]),
      ("nodes", .list [.object [("id", .text "a"),
        ("config", .object [("nat", .object [("enabled", .flag true)])])]])]) = .ok inv ∧
    (inv.node (.text "a")).answer {} = (.ok n, after) ∧
    Node.parse (.object [("id", .text "a"),
      ("config", .object [("nat", .object [("enabled", .flag true)])])]) = .ok m ∧
    n.config ≠ m.config := by
  have hread : (Node.parse (.object [("id", .text "a"),
      ("config", .object [("nat", .object [("enabled", .flag true)])]),
      ("vendor", .text "H3C")])).map (·.config.nat.variant.isH3c) = .ok true := rfl
  have halone : (Node.parse (.object [("id", .text "a"),
      ("config", .object [("nat", .object [("enabled", .flag true)])])])).map
        (·.config.nat.variant.isH3c) = .ok false := rfl
  obtain ⟨n, hn, hh3c⟩ := Outcome.map_eq_ok_iff.mp hread
  obtain ⟨m, hm, hnone⟩ := Outcome.map_eq_ok_iff.mp halone
  refine ⟨_, n, m, _, rfl, answer_node_of_new rfl rfl hn, hm, fun hsame => ?_⟩
  rw [hsame, hnone] at hh3c
  cases hh3c

end Inventory

end Netscribe
