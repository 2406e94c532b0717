import Mathlib.Logic.Relation
import Netscribe.Proofs.Schema.Ignored
import Netscribe.Proofs.Topology.Respelling
import Netscribe.Proofs.Topology.WellShaped
/-!
A device does not depend on what is not read of its document: keys that no field has, and the
settings of vendors other than its own. An object in the place of a scalar is the exception, since
it is taken as a whole.
-/
open Netscribe.Document (Fields)

namespace Netscribe

namespace Node

/-- The vendor that a document names, if it names one. -/
def namedVendor : Document → Option String
  | .object fields => (vendorOf fields).toOption.map (·.name)
  | _ => none

/-- An alteration leaves the device as it is, or the failure, and so the vendor that decides what is
    read. -/
theorem parse_of_altered {before after : Document}
    (h : (Described.shape Node).Altered (namedVendor before) before after) :
    parse after = parse before ∧ namedVendor after = namedVendor before := by
  have hsame := h.readsSame isClear_shape
  obtain ⟨first, second, rfl, rfl⟩ | ⟨first, second, rfl, rfl⟩ := h.objects_or_lists
  · have hid : Fields.get? second "id" = Fields.get? first "id" := by
      rw [← find?_idSlot, ← find?_idSlot]
      exact h.find?_eq isClear_shape List.mem_cons_self rfl
    have hvendor : Fields.get? second "vendor" = Fields.get? first "vendor" := by
      have hkeys : (⟨"vendor", none, false⟩ : Slot).keys = ["vendor", "vendor"] := by decide
      rw [← Slot.find?_eq_get? hkeys, ← Slot.find?_eq_get? hkeys]
      exact h.find?_eq isClear_shape (List.mem_of_getElem? (i := 2) rfl) rfl
    have hvendorOf : vendorOf second = vendorOf first := by rw [vendorOf, vendorOf, hvendor]
    refine ⟨?_, by rw [namedVendor, namedVendor, hvendorOf]⟩
    cases hfound : vendorOf first with
    | error e => rw [parse_of_vendor_error (hvendorOf.trans hfound), parse_of_vendor_error hfound]
    | ok vendor =>
      have hnamed : namedVendor (.object first) = some vendor.name := by
        rw [namedVendor, hfound]
        rfl
      rw [hnamed] at hsame
      have hread : (place second).read (some vendor.name) =
          (place first).read (some vendor.name) := by
        rw [place, place, rawId, rawId, hid]
        exact hsame.normalize _
      rw [parse_of_vendor (hvendorOf.trans hfound), parse_of_vendor hfound, hread]
  · exact ⟨rfl, rfl⟩

/-- Any number of alterations leave the device as it is, or the failure. -/
theorem parse_of_altered_run {before after : Document}
    (h : Relation.ReflTransGen ((Described.shape Node).Altered (namedVendor before)) before after) :
    parse after = parse before := by
  -- every step is one for the vendor of the first document, since no step changes the vendor
  have hrun : parse after = parse before ∧ namedVendor after = namedVendor before := by
    induction h with
    | refl => exact ⟨rfl, rfl⟩
    | tail _ hstep ih =>
      obtain ⟨hparse, hnamed⟩ := ih
      rw [← hnamed] at hstep
      obtain ⟨hsame, hkept⟩ := parse_of_altered hstep
      exact ⟨hsame.trans hparse, hkept.trans hnamed⟩
  exact hrun.1

section Settings

/-- The shape of an object that says whether a service is on and gives the settings of the device's
    vendor. -/
def settingsShape (h3cKind : String) (own : List (Slot × Shape)) (huaweiKind : String)
    (huawei : Shape) : Shape :=
  .record .none [(⟨"enabled", none, false⟩, .flag),
    (⟨"variant", none, false⟩, .variant h3cKind (.record .none own) huaweiKind huawei)]

/-- The keys of such an object that count for a vendor. -/
def Counts : Vendor → String → Prop
  | .huawei, key => key = "enabled" ∨ key = "huawei"
  | .h3c, key => key ≠ "huawei"
  | .cisco, key | .generic, key => key = "enabled"

/-- The services whose settings depend on the vendor. -/
def settingsKeys : List String := ["nat", "ha", "mlag"]

/-- The object of a device with the settings of one service. -/
def withSettings (front configFront : Fields) (key : String) (settings : Fields)
    (configBack back : Fields) : Fields :=
  front ++ ("config", .object (configFront ++ (key, .object settings) :: configBack)) :: back

private theorem altered_settings {h3cKind huaweiKind : String} {own : List (Slot × Shape)}
    {huawei : Shape}
    {vendor : Vendor} {before after : Fields}
    (hclear : (settingsShape h3cKind own huaweiKind huawei).isClear)
    (h : ∀ key, Counts vendor key → Fields.get? after key = Fields.get? before key) :
    (settingsShape h3cKind own huaweiKind huawei).Altered (some vendor.name) (.object before)
      (.object after) := by
  have henabled : (⟨"enabled", none, false⟩ : Slot).keys = ["enabled", "enabled"] := by decide
  refine .keys fun field hfield key hkey => h key ?_
  cases vendor with
  | cisco | generic =>
    obtain rfl := List.mem_singleton.mp hfield
    rw [henabled] at hkey
    simpa [Counts] using hkey
  | huawei =>
    obtain rfl | rfl := List.mem_pair.mp hfield
    · rw [henabled] at hkey
      exact .inl (by simpa using hkey)
    · rw [Shape.keys_huaweiSlot] at hkey
      exact .inr (by simpa using hkey)
  | h3c =>
    -- the object's own keys are those of H3C, and the key of Huawei's settings is apart from them
    rintro rfl
    have happart : keysApart ((⟨"enabled", none, false⟩, .flag) :: (Shape.huaweiSlot, huawei) ::
        (own ++ [])) := Shape.keysApart_of_isClear hclear
    obtain rfl | hown := List.mem_cons.mp hfield
    · exact not_mem_keys_of_keysApart_cons happart List.mem_cons_self hkey
        (Slot.mem_keys_of_keys_eq Shape.keys_huaweiSlot)
    · exact not_mem_keys_of_keysApart_cons (keysApart_of_keysApart_cons happart) hown
        (Slot.mem_keys_of_keys_eq Shape.keys_huaweiSlot) hkey

private theorem exists_settingsShape {key : String} (h : key ∈ settingsKeys) :
    ∃ slot h3cKind own huaweiKind huawei,
      (slot, settingsShape h3cKind own huaweiKind huawei) ∈
        (NodeConfig.fields.map fun f => (f.slot, f.shape)) ∧ key ∈ slot.keys := by
  rw [settingsKeys] at h
  simp only [List.mem_cons, List.not_mem_nil, or_false] at h
  obtain rfl | rfl | rfl := h
  · exact ⟨⟨"nat", none, false⟩, _, _, _, _, List.mem_of_getElem? (i := 13) rfl, by decide⟩
  · exact ⟨⟨"ha", none, false⟩, _, _, _, _, List.mem_of_getElem? (i := 19) rfl, by decide⟩
  · exact ⟨⟨"mlag", none, false⟩, _, _, _, _, List.mem_of_getElem? (i := 9) rfl, by decide⟩

private theorem altered_config {vendor : Option String} {before after : Document}
    (h : (Described.shape NodeConfig).Altered vendor before after) (front back : Fields) :
    (Described.shape Node).Altered vendor (.object (front ++ ("config", before) :: back))
      (.object (front ++ ("config", after) :: back)) :=
  @Shape.Altered.field vendor .none (Node.fields.map fun f => (f.slot, f.shape))
    (⟨"config", none, false⟩, Described.shape NodeConfig) "config" before after front back
    (Shape.mem_readFor (List.mem_of_getElem? (i := 5) rfl) rfl) (by decide) h

/-- The settings of a service matter no further than they count for the vendor of the device. -/
theorem parse_withSettings {front configFront own other configBack back : Fields} {key : String}
    {vendor : Vendor} (hkey : key ∈ settingsKeys)
    (hvendor : vendorOf (withSettings front configFront key own configBack back) = .ok vendor)
    (h : ∀ wanted, Counts vendor wanted → Fields.get? other wanted = Fields.get? own wanted) :
    parse (.object (withSettings front configFront key other configBack back)) =
      parse (.object (withSettings front configFront key own configBack back)) := by
  obtain ⟨slot, h3cKind, h3c, huaweiKind, huawei, hentry, hmem⟩ := exists_settingsShape hkey
  have hconfigClear : (Described.shape NodeConfig).isClear :=
    Shape.isClear_of_mem_readFields isClear_shape
      (Shape.mem_readFields (List.mem_of_getElem? (i := 5) rfl) rfl)
  have hclear := Shape.forall_isClear_of_isClear hconfigClear _ hentry
  have hsettings : (settingsShape h3cKind h3c huaweiKind huawei).Altered (some vendor.name)
      (.object own) (.object other) := altered_settings hclear h
  have hconfig : (Described.shape NodeConfig).Altered (some vendor.name)
      (.object (configFront ++ (key, .object own) :: configBack))
      (.object (configFront ++ (key, .object other) :: configBack)) :=
    .field (Shape.mem_readFor hentry rfl) hmem hsettings
  refine (parse_of_altered ?_).1
  rw [namedVendor, hvendor]
  exact altered_config hconfig front back

end Settings

/-- Whatever is altered that is not read, the device is the same, and so is the failure if the
    document is refused. Of the settings whose form depends on the vendor only those of the own
    vendor count. -/
theorem parse_of_alterations :
    (∀ {before after : Document},
      Relation.ReflTransGen ((Described.shape Node).Altered (namedVendor before)) before after →
        parse after = parse before) ∧
    ∀ {front configFront own other configBack back : Fields} {key : String} {vendor : Vendor},
      key ∈ settingsKeys →
      vendorOf (withSettings front configFront key own configBack back) = .ok vendor →
      (∀ wanted, Counts vendor wanted → Fields.get? other wanted = Fields.get? own wanted) →
        parse (.object (withSettings front configFront key other configBack back)) =
          parse (.object (withSettings front configFront key own configBack back)) :=
  ⟨parse_of_altered_run, parse_withSettings⟩

/-- The document of a firewall with settings for address translation and what else it says. -/
def firewallFields (vendor : String) (settings others : Fields) : Fields :=
  withSettings [("id", .text "fw"), ("vendor", .text vendor)] [] "nat" settings [] others

private theorem altered_firewallFields :
    Relation.ReflTransGen ((Described.shape Node).Altered (some "Cisco"))
      (.object (firewallFields "Cisco" [("enabled", .flag true), ("portMapping", .int 1)] []))
      (.object (firewallFields "Cisco" [("enabled", .flag true)] [("remark", .list [])])) := by
  have hforeign : ∀ field ∈ Shape.readFor (some "Cisco") .none
      (NatSettings.fields.map fun f => (f.slot, f.shape)), "portMapping" ∉ field.1.keys := by
    decide +kernel
  have hunread : ∀ field ∈ Shape.readFor (some "Cisco") .none
      (Node.fields.map fun f => (f.slot, f.shape)), "remark" ∉ field.1.keys := by
    decide +kernel
  have hmapping : (Described.shape NatSettings).Altered (some "Cisco")
      (.object [("enabled", .flag true), ("portMapping", .int 1)])
      (.object [("enabled", .flag true)]) :=
    Shape.altered_erase hforeign _
  have hnat : (Described.shape NodeConfig).Altered (some "Cisco")
      (.object [("nat", .object [("enabled", .flag true), ("portMapping", .int 1)])])
      (.object [("nat", .object [("enabled", .flag true)])]) :=
    @Shape.Altered.field _ .none (NodeConfig.fields.map fun f => (f.slot, f.shape))
      (⟨"nat", none, false⟩, Described.shape NatSettings) "nat" _ _ [] []
      (Shape.mem_readFor (List.mem_of_getElem? (i := 13) rfl) rfl) (by decide) hmapping
  have hremark : (Described.shape Node).Altered (some "Cisco")
      (.object (firewallFields "Cisco" [("enabled", .flag true)] []))
      (.object (firewallFields "Cisco" [("enabled", .flag true)] [("remark", .list [])])) :=
    Shape.altered_set hunread _ _
  exact .tail (.single (altered_config hnat _ _)) hremark

theorem parse_of_alterations_malformed_settings :
    parse (.object (firewallFields "Cisco" [("enabled", .flag true)] [("remark", .list [])])) =
      parse (.object (firewallFields "Cisco" [("enabled", .flag true), ("portMapping", .int 1)]
        [])) ∧
    parse (.object (firewallFields "H3C" [("enabled", .flag true), ("huawei", .text "off")] [])) =
      parse (.object (firewallFields "H3C" [("enabled", .flag true)] [])) ∧
    (parse (.object (firewallFields "H3C" [("enabled", .flag true)] []))).map
      (·.config.nat.enabled) = .ok true := by
  refine ⟨parse_of_alterations.1 altered_firewallFields, ?_, rfl⟩
  have hvendor : vendorOf (firewallFields "H3C" [("enabled", .flag true)] []) = .ok .h3c := rfl
  refine parse_of_alterations.2 List.mem_cons_self hvendor fun wanted hwanted => ?_
  have hother : ¬ wanted = "huawei" := hwanted
  simp only [Fields.get?_cons, if_neg hother]

/-- The document of a device that has an object in the place of its name. -/
def namedDocument (name : Fields) : Document :=
  .object [("id", .text "n1"), ("name", .object name)]

/-- An object in the place of a scalar is taken as a whole, so that all of its keys show in the
    name. -/
theorem parse_differs_of_object_as_name :
    (parse (namedDocument [("a", .int 1)])).map (·.name) = .ok "\x7b'a': 1\x7d" ∧
    (parse (namedDocument [("a", .int 1), ("b", .int 2)])).map (·.name) =
      .ok "\x7b'a': 1, 'b': 2\x7d" ∧
    parse (namedDocument [("a", .int 1), ("b", .int 2)]) ≠
      parse (namedDocument [("a", .int 1)]) := by
  have hone : (parse (namedDocument [("a", .int 1)])).map (·.name) = .ok "\x7b'a': 1\x7d" := rfl
  have htwo : (parse (namedDocument [("a", .int 1), ("b", .int 2)])).map (·.name) =
      .ok "\x7b'a': 1, 'b': 2\x7d" := rfl
  refine ⟨hone, htwo, fun hsame => ?_⟩
  rw [hsame, hone] at htwo
  exact absurd (Except.ok.inj htwo) (by decide)

end Node
end Netscribe
