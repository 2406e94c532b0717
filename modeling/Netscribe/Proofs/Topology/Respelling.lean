import Mathlib.Logic.Relation
import Netscribe.Proofs.Schema.Respelling
import Netscribe.Proofs.Topology.Identity
/-!
Devices whose documents differ in the spelling of keys are the same, unless a document holds an
older form that is overlooked.
-/
open Netscribe.Document (Fields)

namespace Netscribe

namespace Node

/-- In the records of a device each key can belong to one field only. -/
theorem isClear_shape : (Described.shape Node).isClear := by
  decide +kernel

/-- A scalar that is read ahead of the other fields, under the only key it has. -/
theorem get?_of_respelled {before after : Fields} {slot : Slot} {shape : Shape} {key : String}
    (h : (Described.shape Node).Respelled (.object before) (.object after))
    (hseen : ¬ (Described.shape Node).Overlooked (.object before))
    (hslot : (slot, shape) ∈ Node.fields.map fun f => (f.slot, f.shape))
    (hscalar : shape.isScalar) (hkeys : slot.keys = [key, key]) :
    Fields.get? after key = Fields.get? before key := by
  have hsame := Shape.isLikeness_readsAlike.eq_of_foundBy hscalar (h.foundAlike isClear_shape hseen
    (Shape.mem_readFields hslot (Shape.isVariant_of_isScalar hscalar)))
  rw [Slot.find?_eq_get? hkeys, Slot.find?_eq_get? hkeys] at hsame
  exact hsame

/-- Respelling one key of its document leaves a device as it is. -/
theorem parse_of_respelled {before after : Document}
    (h : (Described.shape Node).Respelled before after)
    (hseen : ¬ (Described.shape Node).Overlooked before) : parse after = parse before := by
  have halike := h.readsAlike isClear_shape hseen
  obtain ⟨before, after, rfl, rfl⟩ :
      ∃ first second, before = .object first ∧ after = .object second := by
    cases h <;> exact ⟨_, _, rfl, rfl⟩
  have hid : Fields.get? after "id" = Fields.get? before "id" :=
    get?_of_respelled h hseen List.mem_cons_self rfl (by decide)
  have hvendor : Fields.get? after "vendor" = Fields.get? before "vendor" :=
    get?_of_respelled h hseen
      (List.mem_cons_of_mem _ (List.mem_cons_of_mem _ List.mem_cons_self)) rfl (by decide)
  rw [parse, parse, vendorOf, vendorOf, rawId, rawId, hid, hvendor]
  simp only [Described.parse, halike.normalize]

/-- The device is the same however the keys of its document are spelled, at whatever depth, if no
    older form in the document is overlooked. -/
theorem parse_of_respellings {before after : Document}
    (h : Relation.ReflTransGen (Described.shape Node).Respelled before after)
    (hseen : ¬ (Described.shape Node).Overlooked before) : parse after = parse before := by
  have hrun : parse after = parse before ∧ ¬ (Described.shape Node).Overlooked after := by
    induction h with
    | refl => exact ⟨rfl, hseen⟩
    | tail _ hstep ih =>
      obtain ⟨hsame, hmiddle⟩ := ih
      exact ⟨(parse_of_respelled hstep hmiddle).trans hsame,
        fun hlost => hmiddle (hstep.overlooked isClear_shape hlost)⟩
  exact hrun.1

private theorem respelled_config {before after : Document}
    (h : (Described.shape NodeConfig).Respelled before after) (front : Fields) :
    (Described.shape Node).Respelled (.object (front ++ [("config", before)]))
      (.object (front ++ [("config", after)])) :=
  @Shape.Respelled.field .none (Node.fields.map fun f => (f.slot, f.shape))
    (⟨"config", none, false⟩, Described.shape NodeConfig) "config" before after front []
    (List.mem_of_getElem? (i := 5) rfl) (by decide) h

/-- The document of a device of the given type, with one feature on. -/
def deviceDocument (typeKey featureKey : String) : Document :=
  .object [("id", .text "fw"), (typeKey, .text "Firewall"),
    ("config", .object [(featureKey, .object [("enabled", .flag true)])])]

private theorem respellings_deviceDocument :
    Relation.ReflTransGen (Described.shape Node).Respelled
      (deviceDocument "device_type" "interface_ip") (deviceDocument "type" "interfaceIP") := by
  have hconfig := @Shape.Respelled.key .none (NodeConfig.fields.map fun f => (f.slot, f.shape))
    (⟨"interface_ip", some "interfaceIP", false⟩, Described.shape RoutedPorts) "interfaceIP"
    (.object [("enabled", .flag true)]) [] [] (List.mem_of_getElem? (i := 4) rfl) (by decide)
    (by decide)
  have hfirst : (Described.shape Node).Respelled (deviceDocument "device_type" "interface_ip")
      (deviceDocument "device_type" "interfaceIP") :=
    respelled_config hconfig [("id", .text "fw"), ("device_type", .text "Firewall")]
  have hsecond : (Described.shape Node).Respelled (deviceDocument "device_type" "interfaceIP")
      (deviceDocument "type" "interfaceIP") :=
    @Shape.Respelled.key .none (Node.fields.map fun f => (f.slot, f.shape))
      (⟨"device_type", some "type", false⟩, Described.shape DeviceType) "type" (.text "Firewall")
      [("id", .text "fw")]
      [("config", .object [("interfaceIP", .object [("enabled", .flag true)])])]
      (List.mem_of_getElem? (i := 3) rfl) (by decide) (by decide)
  exact .tail (.single hfirst) hsecond

private theorem not_overlooked_deviceDocument :
    ¬ (Described.shape Node).Overlooked (deviceDocument "device_type" "interface_ip") := by
  have hconfigMem : (⟨"config", none, false⟩, Described.shape NodeConfig) ∈
      Shape.readFields .none (Node.fields.map fun f => (f.slot, f.shape)) :=
    List.mem_of_getElem? (i := 5) rfl
  have hportsMem : (⟨"interface_ip", some "interfaceIP", false⟩, Described.shape RoutedPorts) ∈
      Shape.readFields .none (NodeConfig.fields.map fun f => (f.slot, f.shape)) :=
    List.mem_of_getElem? (i := 4) rfl
  have hconfigClear := Shape.isClear_of_mem_readFields isClear_shape hconfigMem
  have hportsClear := Shape.isClear_of_mem_readFields hconfigClear hportsMem
  have hports : ¬ (Described.shape RoutedPorts).Overlooked
      (.object [("enabled", .flag true)]) := by
    refine Shape.not_overlooked_object hportsClear (List.forall_mem_singleton.mpr ?_)
    exact ⟨(⟨"enabled", none, false⟩, .flag), List.mem_of_getElem? (i := 0) rfl, by decide,
      Shape.not_overlooked_of_isScalar rfl _⟩
  have hconfig : ¬ (Described.shape NodeConfig).Overlooked
      (.object [("interface_ip", .object [("enabled", .flag true)])]) :=
    Shape.not_overlooked_object hconfigClear
      (List.forall_mem_singleton.mpr ⟨_, hportsMem, by decide, hports⟩)
  refine Shape.not_overlooked_object isClear_shape (List.forall_mem_cons.mpr ⟨?_,
    List.forall_mem_cons.mpr ⟨?_, List.forall_mem_singleton.mpr ?_⟩⟩)
  · exact ⟨(⟨"id", none, true⟩, .text), List.mem_of_getElem? (i := 0) rfl, by decide,
      Shape.not_overlooked_of_isScalar rfl _⟩
  · exact ⟨(⟨"device_type", some "type", false⟩, Described.shape DeviceType),
      List.mem_of_getElem? (i := 3) rfl, by decide, Shape.not_overlooked_of_isScalar rfl _⟩
  · exact ⟨_, hconfigMem, by decide, hconfig⟩

theorem parse_of_respellings_special_keys :
    parse (deviceDocument "type" "interfaceIP") =
        parse (deviceDocument "device_type" "interface_ip") ∧
      (parse (deviceDocument "device_type" "interface_ip")).map (·.config.interfaceIp.enabled) =
        .ok true :=
  ⟨parse_of_respellings respellings_deviceDocument not_overlooked_deviceDocument, rfl⟩

/-- The document of a device with one group of ports, where the key of the group id is given. -/
def aggregationDocument (key : String) : Document :=
  .object [("id", .text "sw"), ("config", .object [("linkAggregation",
    .object [("enabled", .flag true), (key, .text "1")])])]

private theorem respelled_aggregationDocument : (Described.shape Node).Respelled
    (aggregationDocument "group_id") (aggregationDocument "groupId") := by
  have hgroup := @Shape.Respelled.key .singleGroup
    (LinkAggregation.fields.map fun f => (f.slot, f.shape)) (⟨"group_id", none, false⟩, .text)
    "groupId" (.text "1") [("enabled", .flag true)] [] (List.mem_of_getElem? (i := 2) rfl)
    (by decide) (by decide)
  have hconfig := @Shape.Respelled.field .none (NodeConfig.fields.map fun f => (f.slot, f.shape))
    (⟨"link_aggregation", none, false⟩, Described.shape LinkAggregation) "linkAggregation" _ _ [] []
    (List.mem_of_getElem? (i := 5) rfl) (by decide) hgroup
  exact respelled_config hconfig [("id", .text "sw")]

/-- The document of a firewall with one port mapping, where the key of its type is given. -/
def mappingDocument (key : String) : Document :=
  .object [("id", .text "fw"), ("vendor", .text "H3C"), ("config", .object [("nat",
    .object [("portMapping", .object [("rules",
      .list [.object [(key, .text "LOAD_BALANCING")]])])])])]

private theorem respelled_mappingDocument : (Described.shape Node).Respelled
    (mappingDocument "mapping_type") (mappingDocument "mappingType") := by
  have hrule := @Shape.Respelled.key .mappingType
    (PortMapping.fields.map fun f => (f.slot, f.shape)) (⟨"mapping_type", none, false⟩, .text)
    "mappingType" (.text "LOAD_BALANCING") [] [] (List.mem_of_getElem? (i := 1) rfl)
    (by decide) (by decide)
  have hrules := @Shape.Respelled.field .none (PortMappings.fields.map fun f => (f.slot, f.shape))
    (⟨"rules", none, false⟩, Described.shape (List PortMapping)) "rules" _ _ [] []
    (List.mem_of_getElem? (i := 1) rfl) (by decide) (@Shape.Respelled.item _ _ _ [] [] hrule)
  have hmapping := @Shape.Respelled.field .none (NatSettings.fields.map fun f => (f.slot, f.shape))
    (⟨"port_mapping", none, false⟩, Described.shape PortMappings) "portMapping" _ _ [] []
    (List.mem_of_getElem? (i := 3) rfl) (by decide) hrules
  have hconfig := @Shape.Respelled.field .none (NodeConfig.fields.map fun f => (f.slot, f.shape))
    (⟨"nat", none, false⟩, Described.shape NatSettings) "nat" _ _ [] []
    (List.mem_of_getElem? (i := 13) rfl) (by decide) hmapping
  exact respelled_config hconfig [("id", .text "fw"), ("vendor", .text "H3C")]

def mappingTypes (n : Node) : List String :=
  match n.config.nat.variant with
  | .h3c settings => settings.portMapping.rules.map (·.mappingType)
  | _ => []

/-- A group of ports is lost and the type of a port mapping kept as it is written, where the keys
    of editors would have given both away. -/
theorem parse_differs_of_respelled :
    ((Described.shape Node).Respelled (aggregationDocument "group_id")
        (aggregationDocument "groupId") ∧
      (parse (aggregationDocument "group_id")).map (·.config.linkAggregation.groups.length) =
        .ok 0 ∧
      (parse (aggregationDocument "groupId")).map (·.config.linkAggregation.groups.length) =
        .ok 1) ∧
    (Described.shape Node).Respelled (mappingDocument "mapping_type")
        (mappingDocument "mappingType") ∧
      (parse (mappingDocument "mapping_type")).map mappingTypes = .ok ["LOAD_BALANCING"] ∧
      (parse (mappingDocument "mappingType")).map mappingTypes = .ok ["load-balancing"] :=
  ⟨⟨respelled_aggregationDocument, rfl, rfl⟩, respelled_mappingDocument, rfl, rfl⟩

end Node
end Netscribe
