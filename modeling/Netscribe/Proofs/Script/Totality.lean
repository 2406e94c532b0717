import Netscribe.Proofs.Vlan.Readable
import Netscribe.Script.Compile
/-!
When a device has a script. Sections that fail become comments, so that only the VLAN database can
fail: it reads the lists of allowed VLANs of all trunks. The main statement says exactly which lists
it does not survive, and with which fault.
-/
namespace Netscribe

namespace Vlan

private theorem modeIds_succeeds_iff (mode access native allowed : String) :
    (∃ ids, modeIds mode access native allowed = .ok ids) ↔
      (mode = InterfaceMode.trunk.name → IsReadable allowed) := by
  rw [modeIds]
  split
  next haccess =>
    have hmode : mode ≠ InterfaceMode.trunk.name := by rw [haccess]; decide
    simp [hmode, pure, Except.pure]
  next =>
    split
    next htrunk =>
      simp only [htrunk, forall_const, ← parseIds_succeeds_iff]
      constructor
      · rintro ⟨_, hids⟩
        obtain ⟨ids, hids, _⟩ := Outcome.bind_eq_ok_iff.mp hids
        exact ⟨ids, hids⟩
      · rintro ⟨ids, hids⟩
        exact ⟨_, Outcome.bind_eq_ok_iff.mpr ⟨ids, hids, rfl⟩⟩
    next htrunk => simp [htrunk, pure, Except.pure]

private theorem parseIds_eq_error_of_modeIds {mode access native allowed : String} {fault : Fault}
    (h : modeIds mode access native allowed = .error fault) :
    mode = InterfaceMode.trunk.name ∧ parseIds allowed = .error fault := by
  rw [modeIds] at h
  split at h
  · cases h
  · split at h
    next htrunk =>
      obtain hlist | ⟨ids, _, hrest⟩ := Outcome.bind_eq_error_iff.mp h
      · exact ⟨htrunk, hlist⟩
      · cases hrest
    next => cases h

end Vlan

private theorem InterfaceMode.name_injective : Function.Injective InterfaceMode.name := by
  intro a b h
  cases a <;> cases b <;> first | rfl | exact absurd h (by decide)

namespace Node

/-- The allowed VLANs of every trunk of a device, as they were entered: those of the aggregation
    groups, if aggregation is enabled, and those of the links that touch the device. -/
def trunkLists (node : Node) (connections : List Connection) : List String :=
  let aggregation := node.config.linkAggregation
  let groups := aggregation.groups.filter fun g =>
    aggregation.enabled ∧ g.interfaceMode = InterfaceMode.trunk.name
  let links := connections.filter fun c => c.touches node.id ∧ c.config.mode = .trunk
  groups.map (·.trunkAllowedVlans) ++ links.map (·.config.trunkAllowedVlans)

/-- The lists of trunks are those of the groups and those of the links at the device. -/
theorem forall_mem_trunkLists {node : Node} {connections : List Connection} {p : String → Prop} :
    (∀ list ∈ node.trunkLists connections, p list) ↔
      (node.config.linkAggregation.enabled → ∀ g ∈ node.config.linkAggregation.groups,
        g.interfaceMode = InterfaceMode.trunk.name → p g.trunkAllowedVlans) ∧
      ∀ c ∈ connections, c.touches node.id → c.config.mode = .trunk →
        p c.config.trunkAllowedVlans := by
  simp only [trunkLists, List.forall_mem_append, List.forall_mem_map, List.mem_filter,
    decide_eq_true_eq, and_imp]
  constructor
  · rintro ⟨hgroups, hlinks⟩
    exact ⟨fun henabled g hg => hgroups g hg henabled, hlinks⟩
  · rintro ⟨hgroups, hlinks⟩
    exact ⟨fun g hg henabled => hgroups henabled g hg, hlinks⟩

private theorem groupIds_succeeds_iff (node : Node) :
    (∃ ids, node.groupIds = .ok ids) ↔
      (node.config.linkAggregation.enabled → ∀ g ∈ node.config.linkAggregation.groups,
        g.interfaceMode = InterfaceMode.trunk.name → Vlan.IsReadable g.trunkAllowedVlans) := by
  rw [groupIds]
  split
  next henabled =>
    simp only [henabled, forall_const, Outcome.mapM_succeeds_iff, AggregationGroup.vlanIds,
      Vlan.modeIds_succeeds_iff]
  next henabled => simp [henabled]

private theorem linkIds_succeeds_iff (node : Node) (connections : List Connection) :
    (∃ ids, node.linkIds connections = .ok ids) ↔
      ∀ c ∈ connections, c.touches node.id → c.config.mode = .trunk →
        Vlan.IsReadable c.config.trunkAllowedVlans := by
  simp only [linkIds, Outcome.mapM_succeeds_iff, LinkConfig.vlanIds, Vlan.modeIds_succeeds_iff,
    InterfaceMode.name_injective.eq_iff, List.mem_filter, and_imp]

/-- The ids that the settings refer to are found exactly if every list can be read. -/
theorem referencedIds_succeeds_iff (node : Node) (connections : List Connection) :
    (∃ ids, node.referencedIds connections = .ok ids) ↔
      ∀ list ∈ node.trunkLists connections, Vlan.IsReadable list := by
  rw [forall_mem_trunkLists, ← groupIds_succeeds_iff, ← linkIds_succeeds_iff, referencedIds_eq]
  simp only [Outcome.bind_eq_ok_iff]
  constructor
  · rintro ⟨_, groups, hgroups, links, hlinks, _⟩
    exact ⟨⟨groups, hgroups⟩, links, hlinks⟩
  · rintro ⟨⟨groups, hgroups⟩, links, hlinks⟩
    exact ⟨_, groups, hgroups, links, hlinks, rfl⟩

private theorem parseIds_eq_error_of_groupIds {node : Node} {fault : Fault}
    (h : node.groupIds = .error fault) :
    node.config.linkAggregation.enabled ∧ ∃ g ∈ node.config.linkAggregation.groups,
      g.interfaceMode = InterfaceMode.trunk.name ∧
        Vlan.parseIds g.trunkAllowedVlans = .error fault := by
  rw [groupIds] at h
  split at h
  next henabled =>
    obtain ⟨g, hg, hfail⟩ := Outcome.exists_of_mapM_eq_error h
    exact ⟨henabled, g, hg, Vlan.parseIds_eq_error_of_modeIds hfail⟩
  next => cases h

private theorem parseIds_eq_error_of_linkIds {node : Node} {connections : List Connection}
    {fault : Fault}
    (h : node.linkIds connections = .error fault) :
    ∃ c ∈ connections, c.touches node.id ∧ c.config.mode = .trunk ∧
      Vlan.parseIds c.config.trunkAllowedVlans = .error fault := by
  obtain ⟨c, hc, hfail⟩ := Outcome.exists_of_mapM_eq_error h
  obtain ⟨hmode, hlist⟩ := Vlan.parseIds_eq_error_of_modeIds hfail
  obtain ⟨hmem, htouches⟩ := List.mem_filter.mp hc
  exact ⟨c, hmem, htouches, InterfaceMode.name_injective hmode, hlist⟩

private theorem parseIds_eq_error_of_referencedIds {node : Node} {connections : List Connection}
    {fault : Fault} (h : node.referencedIds connections = .error fault) :
    ∃ list ∈ node.trunkLists connections, Vlan.parseIds list = .error fault := by
  simp only [trunkLists, List.mem_append, List.mem_map, List.mem_filter, decide_eq_true_eq]
  rw [referencedIds_eq] at h
  obtain hgroups | ⟨_, _, hrest⟩ := Outcome.bind_eq_error_iff.mp h
  · obtain ⟨henabled, g, hg, hmode, hlist⟩ := parseIds_eq_error_of_groupIds hgroups
    exact ⟨_, .inl ⟨g, ⟨hg, henabled, hmode⟩, rfl⟩, hlist⟩
  · have hlinks := Outcome.bind_pure_eq_error_iff.mp hrest
    obtain ⟨c, hc, htouches, hmode, hlist⟩ := parseIds_eq_error_of_linkIds hlinks
    exact ⟨_, .inr ⟨c, ⟨hc, htouches, hmode⟩, rfl⟩, hlist⟩

/-- The script fails exactly as the look-up of the VLANs does. -/
theorem compile_eq_error_iff {node : Node} {connections : List Connection} {fault : Fault} :
    node.compile connections = .error fault ↔ node.referencedIds connections = .error fault := by
  simp [compile, vlanDatabase, vlanIds, Outcome.bind_eq_error_iff, pure, Except.pure]

/-- A script comes out exactly if the referenced ids are found. -/
theorem compile_succeeds_iff_referencedIds (node : Node) (connections : List Connection) :
    (∃ script, node.compile connections = .ok script) ↔
      ∃ ids, node.referencedIds connections = .ok ids := by
  simp [compile, vlanDatabase, vlanIds, Outcome.bind_eq_ok_iff, pure, Except.pure]

/-- Nothing but digits that denote no number keeps a device from having a script. -/
theorem exists_badInteger_of_compile_eq_error {node : Node} {connections : List Connection}
    {fault : Fault} (h : node.compile connections = .error fault) :
    ∃ text, fault = .badInteger text := by
  obtain ⟨list, _, hfail⟩ := parseIds_eq_error_of_referencedIds (compile_eq_error_iff.mp h)
  obtain ⟨_, _, _, part, _, _, hfault⟩ := Vlan.parseIds_eq_error hfail
  exact ⟨part, hfault⟩

/-- A device has a script exactly when every list of allowed VLANs of its trunks can be read.
    Otherwise the fault shows an end of an item that looks like a number and is none; no other
    setting can make it fail. -/
theorem compile_succeeds_iff_trunkLists_readable (node : Node) (connections : List Connection) :
    ((∃ script, node.compile connections = .ok script) ↔
      ∀ list ∈ node.trunkLists connections, Vlan.IsReadable list) ∧
    ∀ fault, node.compile connections = .error fault →
      ∃ list ∈ node.trunkLists connections, ∃ item ∈ Vlan.items list, Vlan.IsUnreadable item ∧
        ∃ part ∈ Text.splitOn '-' item, Vlan.IsFalseNumber part ∧ fault = .badInteger part := by
  refine ⟨?_, fun fault hfault => ?_⟩
  · rw [compile_succeeds_iff_referencedIds, referencedIds_succeeds_iff]
  · obtain ⟨list, hlist, hfail⟩ :=
      parseIds_eq_error_of_referencedIds (compile_eq_error_iff.mp hfault)
    exact ⟨list, hlist, Vlan.parseIds_eq_error hfail⟩

/-- A superscript digit among the allowed VLANs of a link leaves its device without a script. -/
theorem compile_fails_at_superscript : ∃ node connections,
    Node.parse (.object [("id", .text "sw1"), ("vendor", .text "Cisco")]) = .ok node ∧
    Connection.parseList (some (.list [.object [
      ("from", .object [("nodeId", .text "sw1")]),
      ("config", .object [("mode", .text "trunk"), ("trunkAllowedVlans", .text "10,²")])]])) =
        .ok connections ∧
    node.compile connections = .error (.badInteger "²") := by
  refine ⟨_, _, rfl, rfl, ?_⟩
  decide +kernel

end Node
end Netscribe
