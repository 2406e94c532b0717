import Netscribe.PortIsolation.Commands
import Netscribe.Proofs.Fault.Reading
import Netscribe.Proofs.Schema.Texts
import Netscribe.Proofs.View.Translation
import Netscribe.SpanningTree.Commands
/-!
The views of switched ports: which of them are kept apart, and how spanning tree treats them.
-/
namespace Netscribe

open Outcome (Ensures)
open Text (IsOneLine opensCommand opensIndented)

namespace PortIsolation

section Ports

variable {id port : String}

private theorem settled_huaweiPort (hid : IsOneLine id) (hport : IsOneLine port) :
    Settled .huawei (huaweiPort id port) := by
  have hopens : Opens [command s!"interface {port}",
      command s!" port-isolate enable group {id}" s!"Isolates {port} in group {id}."] := by
    simp +decide [hid, hport]
  exact .block hopens

private theorem settled_h3cPort {g : IsolationGroup} (h : IsPlain g) (hport : IsOneLine port) :
    Settled .h3c (h3cPort g port) := by
  rw [isPlain_record] at h
  simp [IsolationGroup.fields] at h
  have hopens : Opens [command s!"interface {port}",
      command s!" port-isolate enable group {g.groupId}"] := by
    simp +decide [hport, h]
  exact .block hopens

end Ports

private theorem isOneLine_interfaces {g : IsolationGroup} (h : IsPlain g) {port : String}
    (hport : port ∈ g.interfaces) : IsOneLine port := by
  rw [isPlain_record] at h
  simp [IsolationGroup.fields] at h
  simp [h, hport]

private theorem ensures_h3cGroup {g : IsolationGroup} (h : IsPlain g) :
    Ensures (Settled .h3c) Fault.IsOneLine (h3cGroup g) := by
  rw [isPlain_record] at h
  simp [IsolationGroup.fields] at h
  refine (Vlan.ensures_normalList g.communityVlans).bind fun community hcommunity => .pure ?_
  refine .close ?_ (.cons_aside Entry.isAside_blank .nil) ""
  simp +decide [hcommunity, h]

variable {p : PortIsolation}

/-- Ports are told apart by the ids that were given. -/
theorem of_mem_portsById (h : IsPlain p) {id : String} {ports : List String}
    (hports : (id, ports) ∈ p.portsById) : IsOneLine id ∧ ∀ port ∈ ports, IsOneLine port := by
  rw [isPlain_record] at h
  simp [fields] at h
  obtain ⟨⟨other, groups⟩, hgroup, heq⟩ := List.mem_map.mp hports
  obtain ⟨rfl, rfl⟩ := Prod.mk.inj heq
  obtain ⟨⟨first, hfirst, rfl⟩, hmembers⟩ := of_mem_groupByKey hgroup
  refine ⟨?_, fun port hport => ?_⟩
  · have hplain : IsPlain first := by simp [h, hfirst]
    rw [isPlain_record] at hplain
    simp [IsolationGroup.fields] at hplain
    simp [hplain]
  · obtain ⟨g, hg, hport⟩ := List.mem_flatMap.mp (List.mem_of_mem_filter hport)
    exact isOneLine_interfaces (by simp [h, hmembers g hg]) hport

private theorem settled_huaweiPorts (h : IsPlain p) : Settled .huawei
    (p.portsById.flatMap fun (id, ports) => ports.flatMap (huaweiPort id)) := by
  refine .flatMap fun group hgroup => .flatMap fun port hport => ?_
  obtain ⟨hid, hnames⟩ := of_mem_portsById h hgroup
  exact settled_huaweiPort hid (hnames port hport)

/-- The entries of plain port isolation are settled, and its faults are told in one line. -/
theorem ensures_huaweiEntries (h : IsPlain p) :
    Ensures (Settled .huawei) Fault.IsOneLine p.huaweiEntries := by
  have hports := settled_huaweiPorts h
  unfold huaweiEntries
  refine (Vlan.ensures_normalList p.excludedVlans).bind fun excluded hexcluded => .pure ?_
  refine .append (.of_areOuter ?_) hports
  simp +decide [hexcluded]

private theorem ensures_h3cEntries (h : IsPlain p) :
    Ensures (Settled .h3c) Fault.IsOneLine p.h3cEntries := by
  rw [isPlain_record] at h
  simp [fields] at h
  have hgroups : Ensures (∀ block ∈ ·, Settled .h3c block) Fault.IsOneLine
      (p.groups.mapM h3cGroup) :=
    .mapM fun g hg => ensures_h3cGroup (by simp [h, hg])
  have hports : Settled .h3c
      (p.groups.flatMap fun g => (g.interfaces.filter (· ≠ "")).flatMap (h3cPort g)) := by
    refine .flatMap fun g hg => .flatMap fun port hport => ?_
    have hplain : IsPlain g := by simp [h, hg]
    exact settled_h3cPort hplain (isOneLine_interfaces hplain (List.mem_of_mem_filter hport))
  exact hgroups.bind fun blocks hblocks => .pure (.append (.flatten hblocks) hports)

/-- Guidance is given in comments. -/
theorem settled_ciscoEntries : Settled .cisco ciscoEntries := by
  have hguidance : ∀ line ∈ privateVlanGuidance, IsOneLine line := by decide
  have hremarks : AreOuter (privateVlanGuidance.map remark) := by
    refine .map fun line hline => ?_
    simp [hguidance line hline]
  exact .append (.of_areOuter hremarks) (.cons_aside (Entry.isAside_note _) .nil)

/-- The port isolation of plain settings is tidy, and so are its faults. -/
theorem ensures_render (h : IsPlain p) (vendor : Vendor) :
    Ensures (Fragment.IsTidy vendor) Fault.IsOneLine (p.render vendor) := by
  unfold render
  split
  · exact .pure (Fragment.isTidy_nothing vendor _)
  · cases vendor with
    | huawei =>
      exact (ensures_huaweiEntries h).bind fun entries hentries =>
        .pure (hentries.isTidy_ofEntries _ _)
    | h3c =>
      exact (ensures_h3cEntries h).bind fun entries hentries =>
        .pure (hentries.isTidy_ofEntries _ _)
    | cisco => exact .pure (settled_ciscoEntries.isTidy_ofEntries _ _)
    | generic => exact .pure (Fragment.isTidy_unsupported _ (by decide) (by decide))

end PortIsolation

namespace SpanningTree

section Parts

variable {start : String}

private theorem areOuter_roleOrPriority {role priority usual : String} (hopens : opensCommand start)
    (hstart : IsOneLine start) (hrole : IsOneLine role) (hpriority : IsOneLine priority)
    (why : String) :
    AreOuter ((roleOrPriority start role priority usual).map (command · why)) := by
  rw [roleOrPriority]
  split
  · simp +decide [hopens, hstart, hrole]
  · split
    · exact areOuter_nil
    · simp +decide [hopens, hstart, hpriority]

private theorem areOuter_timerEntries {timers : List (String × String)}
    (hopens : opensCommand start)
    (hstart : IsOneLine start) (h : ∀ timer ∈ timers, IsOneLine timer.1 ∧ IsOneLine timer.2) :
    AreOuter (timerEntries start timers) := by
  refine .map fun timer htimer => ?_
  obtain ⟨hvalue, hname⟩ := h timer (List.mem_of_mem_filter htimer)
  simp +decide [hopens, hstart, hvalue, hname]

private theorem isOuter_modeEntry {mode : String} (hopens : opensCommand start)
    (hstart : IsOneLine start)
    (hmode : IsOneLine mode) : (modeEntry start mode).IsOuter := by
  rw [modeEntry]
  simp +decide [hopens, hstart, hmode]

private theorem settled_portBlock {p : StpPort} (h : IsPlain p) (vendor : Vendor)
    {body : List Entry}
    (hbody : AreInside body) : Settled vendor (portBlock vendor p body) := by
  rw [isPlain_record] at h
  simp [StpPort.fields] at h
  refine .onlyIf fun _ => .block ?_
  simp +decide [hbody, h]

private theorem ensures_ciscoVlans (raw : String) :
    Ensures IsOneLine Fault.IsOneLine (ciscoVlans raw) :=
  (Vlan.ensures_parseIds raw).bind fun ids _ => .pure (Vlan.linefeed_not_mem_dashedList ids)

private theorem areOuter_instanceRoles {instances : List MstpInstance} (hopens : opensCommand start)
    (hstart : IsOneLine start) (h : ∀ i ∈ instances, IsPlain i) :
    AreOuter (instanceRoles start instances) := by
  refine .flatMap fun i hi => ?_
  have hplain := h i (List.mem_of_mem_filter hi)
  rw [isPlain_record] at hplain
  simp [MstpInstance.fields] at hplain
  refine areOuter_roleOrPriority ?_ ?_ ?_ ?_ ""
  · simp +decide [hopens]
  · simp +decide [hstart, hplain]
  · simp [hplain]
  · simp [hplain]

variable {list : String → Except Fault String}

private theorem ensures_instanceEntries {instances : List MstpInstance}
    (hlist : ∀ raw, Ensures IsOneLine Fault.IsOneLine (list raw))
    (h : ∀ i ∈ instances, IsPlain i) :
    Ensures AreInside Fault.IsOneLine (instanceEntries list instances) := by
  have hmapping : Ensures (∀ entries ∈ ·, AreInside entries) Fault.IsOneLine
      (instances.mapM fun i => do
        let vlans ← list i.vlanList
        return onlyIf (i.instanceId ≠ "" ∧ vlans ≠ "")
          [command s!" instance {i.instanceId} vlan {vlans}"]) := by
    refine .mapM fun i hi => (hlist i.vlanList).bind fun vlans hvlans => .pure ?_
    have hplain := h i hi
    rw [isPlain_record] at hplain
    simp [MstpInstance.fields] at hplain
    simp +decide [hvlans, hplain]
  exact hmapping.bind fun blocks hblocks => .pure (.flatten hblocks)

private theorem ensures_vlanRoles {vlans : List PvstVlan} (hopens : opensCommand start)
    (hstart : IsOneLine start) (hlist : ∀ raw, Ensures IsOneLine Fault.IsOneLine (list raw))
    (h : ∀ v ∈ vlans, IsPlain v) :
    Ensures AreOuter Fault.IsOneLine (vlanRoles start list vlans) := by
  have hroles : Ensures (∀ entries ∈ ·, AreOuter entries) Fault.IsOneLine
      (vlans.mapM fun v => do
        let ids ← list v.vlanList
        return onlyIf (ids ≠ "")
          ((roleOrPriority s!"{start} {ids}" v.rootBridge v.priority "").map (command ·))) := by
    refine .mapM fun v hv => (hlist v.vlanList).bind fun ids hids => .pure ?_
    have hplain := h v hv
    rw [isPlain_record] at hplain
    simp [PvstVlan.fields] at hplain
    refine areOuter_onlyIf.mpr fun _ => areOuter_roleOrPriority ?_ ?_ ?_ ?_ ""
    · simp +decide [hopens]
    · simp +decide [hstart, hids]
    · simp [hplain]
    · simp [hplain]
  exact hroles.bind fun blocks hblocks => .pure (.flatten hblocks)

private theorem ensures_vlanCosts {costs : List VlanCost} (hopens : opensIndented start)
    (hstart : IsOneLine start) (hlist : ∀ raw, Ensures IsOneLine Fault.IsOneLine (list raw))
    (h : ∀ c ∈ costs, IsPlain c) :
    Ensures AreInside Fault.IsOneLine (vlanCosts start list costs) := by
  have hcosts : Ensures (∀ entries ∈ ·, AreInside entries) Fault.IsOneLine
      (costs.mapM fun c => do
        let ids ← list c.vlanList
        return onlyIf (ids ≠ "" ∧ c.cost ≠ "") [command s!"{start} {ids} cost {c.cost}"]) := by
    refine .mapM fun c hc => (hlist c.vlanList).bind fun ids hids => .pure ?_
    have hplain := h c hc
    rw [isPlain_record] at hplain
    simp [VlanCost.fields] at hplain
    simp +decide [hopens, hstart, hids, hplain]
  exact hcosts.bind fun blocks hblocks => .pure (.flatten hblocks)

end Parts

section Ports

variable {p : StpPort}

private theorem isOneLine_portCost (h : IsPlain p) : IsOneLine (portCost p) := by
  rw [isPlain_record] at h
  simp [StpPort.fields] at h
  rw [portCost]
  simp [h]

private theorem isOneLine_instanceCost (h : IsPlain p) {c : InstanceCost}
    (hc : c ∈ p.mstpInstanceCosts) :
    IsOneLine c.instanceList ∧ IsOneLine c.cost := by
  rw [isPlain_record] at h
  simp [StpPort.fields] at h
  have hplain : IsPlain c := by simp [h, hc]
  rw [isPlain_record] at hplain
  simp [InstanceCost.fields] at hplain
  simp [hplain]

private theorem isOneLine_instancePriority (h : IsPlain p) {c : InstancePriority}
    (hc : c ∈ p.mstpInstancePriorities) : IsOneLine c.instanceList ∧ IsOneLine c.priority := by
  rw [isPlain_record] at h
  simp [StpPort.fields] at h
  have hplain : IsPlain c := by simp [h, hc]
  rw [isPlain_record] at hplain
  simp [InstancePriority.fields] at hplain
  simp [hplain]

private theorem ensures_ciscoPortBody (h : IsPlain p) (mst : Bool) :
    Ensures AreInside Fault.IsOneLine (ciscoPortBody mst p) := by
  have hcost := isOneLine_portCost h
  have hcosts : AreInside ((p.mstpInstanceCosts.filter fun c =>
      c.instanceList ≠ "" ∧ c.cost ≠ "").map fun c =>
        command s!" spanning-tree mst {c.instanceList} cost {c.cost}") := by
    refine .map fun c hc => ?_
    obtain ⟨hinstances, hvalue⟩ := isOneLine_instanceCost h (List.mem_of_mem_filter hc)
    simp +decide [hinstances, hvalue]
  have hpriorities : AreInside ((p.mstpInstancePriorities.filter fun c =>
      c.instanceList ≠ "" ∧ c.priority ≠ "").map fun c =>
        command s!" spanning-tree mst {c.instanceList} port-priority {c.priority}") := by
    refine .map fun c hc => ?_
    obtain ⟨hinstances, hvalue⟩ := isOneLine_instancePriority h (List.mem_of_mem_filter hc)
    simp +decide [hinstances, hvalue]
  rw [isPlain_record] at h
  simp [StpPort.fields] at h
  cases mst with
  | true =>
    refine .pure ?_
    simp +decide [↓hcosts, ↓hpriorities, hcost, h]
  | false =>
    have hperVlan : Ensures AreInside Fault.IsOneLine
        (vlanCosts " spanning-tree vlan" ciscoVlans p.pvstVlanCosts) :=
      ensures_vlanCosts (by decide) (by decide) ensures_ciscoVlans fun c hc => by simp [h, hc]
    refine hperVlan.bind fun perVlan hentries => .pure ?_
    simp +decide [↓hentries, hcost, h]

private theorem ensures_vrpPortBody (h : IsPlain p) (vendor : Vendor) :
    Ensures AreInside Fault.IsOneLine (vrpPortBody vendor p) := by
  have hcost := isOneLine_portCost h
  have hcosts : AreInside ((p.mstpInstanceCosts.filter fun c =>
      c.instanceList ≠ "" ∧ c.cost ≠ "").map fun c =>
        command s!" stp instance {Vlan.spelledList c.instanceList} cost {c.cost}") := by
    refine .map fun c hc => ?_
    obtain ⟨-, hvalue⟩ := isOneLine_instanceCost h (List.mem_of_mem_filter hc)
    simp +decide [Vlan.isOneLine_spelledList, hvalue]
  have hpriorities : AreInside ((p.mstpInstancePriorities.filter fun c =>
      c.instanceList ≠ "" ∧ c.priority ≠ "").map fun c =>
        command
          s!" stp instance {Vlan.spelledList c.instanceList} port priority {c.priority}") := by
    refine .map fun c hc => ?_
    obtain ⟨-, hvalue⟩ := isOneLine_instancePriority h (List.mem_of_mem_filter hc)
    simp +decide [Vlan.isOneLine_spelledList, hvalue]
  rw [isPlain_record] at h
  simp [StpPort.fields] at h
  have hperVlan : Ensures AreInside Fault.IsOneLine
      (vlanCosts " stp vlan" Vlan.normalList p.pvstVlanCosts) :=
    ensures_vlanCosts (by decide) (by decide) Vlan.ensures_normalList fun c hc => by simp [h, hc]
  unfold vrpPortBody
  refine hperVlan.bind fun perVlan hentries => .pure ?_
  simp +decide [↓hcosts, ↓hpriorities, ↓hentries, hcost, h]

end Ports

variable {s : SpanningTree}

private theorem ensures_ports {vendor : Vendor} {body : StpPort → Except Fault (List Entry)}
    (h : IsPlain s) (hbody : ∀ p, IsPlain p → Ensures AreInside Fault.IsOneLine (body p)) :
    Ensures (∀ block ∈ ·, Settled vendor block) Fault.IsOneLine
      (s.namedPorts.mapM fun p => do return portBlock vendor p (← body p)) := by
  rw [isPlain_record] at h
  simp [fields] at h
  refine .mapM fun p hp => ?_
  have hplain : IsPlain p := by simp [h, List.mem_of_mem_filter hp]
  exact (hbody p hplain).bind fun entries hentries =>
    .pure (settled_portBlock hplain vendor hentries)

private theorem isOneLine_region (h : IsPlain s) :
    IsOneLine s.mstpRegion.regionName ∧ IsOneLine s.mstpRegion.revisionLevel ∧
      IsOneLine s.mstpRegion.moduloValue := by
  rw [isPlain_record] at h
  simp [fields] at h
  have hregion : IsPlain s.mstpRegion := by simp [h]
  rw [isPlain_record] at hregion
  simp [MstpRegion.fields] at hregion
  simp [hregion]

private theorem ensures_ciscoRegion (h : IsPlain s) :
    Ensures (Settled .cisco) Fault.IsOneLine s.ciscoRegion := by
  obtain ⟨hname, hlevel, -⟩ := isOneLine_region h
  rw [isPlain_record] at h
  simp [fields] at h
  have hinstances : ∀ i ∈ s.mstpInstances, IsPlain i := fun i hi => by simp [h, hi]
  have hroles : AreOuter (instanceRoles "spanning-tree mst" s.mstpInstances) :=
    areOuter_instanceRoles (by decide) (by decide) hinstances
  unfold ciscoRegion
  refine (ensures_instanceEntries ensures_ciscoVlans hinstances).bind
    fun mapping hmapping => .pure (.close ?_ (.of_areOuter hroles) "")
  simp +decide [↓hmapping, hname, hlevel]

private theorem ensures_ciscoRoles (h : IsPlain s) :
    Ensures (Settled .cisco) Fault.IsOneLine s.ciscoRoles := by
  rw [isPlain_record] at h
  simp [fields] at h
  rw [ciscoRoles]
  split
  · refine .pure (.of_areOuter (areOuter_roleOrPriority (by decide) (by decide) ?_ ?_ _))
    · simp [h]
    · simp [h]
  · have hroles : Ensures AreOuter Fault.IsOneLine
        (vlanRoles "spanning-tree vlan" ciscoVlans s.pvstVlans) :=
      ensures_vlanRoles (by decide) (by decide) ensures_ciscoVlans fun v hv => by simp [h, hv]
    exact hroles.imp fun _ => .of_areOuter

private theorem areOuter_ciscoPathCost (standard : String) : AreOuter (ciscoPathCost standard) := by
  rw [ciscoPathCost]
  simp +decide

private theorem ensures_ciscoEntries (h : IsPlain s) :
    Ensures (Settled .cisco) Fault.IsOneLine s.ciscoEntries := by
  have hports (mst : Bool) : Ensures (∀ block ∈ ·, Settled .cisco block) Fault.IsOneLine
      (s.namedPorts.mapM fun p => do return portBlock .cisco p (← ciscoPortBody mst p)) :=
    ensures_ports h fun p hp => ensures_ciscoPortBody hp mst
  have hregion := ensures_ciscoRegion h
  have hbridge := ensures_ciscoRoles h
  rw [isPlain_record] at h
  simp [fields] at h
  have hmode : IsOneLine (ciscoModeName s.mode) := by
    rw [ciscoModeName]
    simp +decide
  have hsettings : AreOuter (modeEntry "spanning-tree" (ciscoModeName s.mode)
      :: ciscoPathCost s.pathCostStandard) := by
    simp +decide [isOuter_modeEntry, hmode, areOuter_ciscoPathCost]
  have htimers {start : String} (hopens : opensCommand start) (hstart : IsOneLine start) :
      AreOuter (timerEntries start
        [(s.helloTime, "hello-time"), (s.forwardDelay, "forward-time"),
          (s.maxAge, "max-age")]) := by
    refine areOuter_timerEntries hopens hstart ?_
    simp +decide [h]
  unfold ciscoEntries
  dsimp only
  split
  · refine hregion.bind fun roles hroles => (hports _).bind fun ports hblocks => .pure ?_
    exact .append (.append (.append (.of_areOuter hsettings) hroles)
      (.of_areOuter (htimers (by decide) (by decide)))) (.flatten hblocks)
  · refine hbridge.bind fun roles hroles => (hports _).bind fun ports hblocks => .pure ?_
    exact .append (.append (.append (.of_areOuter hsettings) hroles)
      (.of_areOuter (htimers (by decide) (by decide)))) (.flatten hblocks)

private theorem ensures_vrpRegion (h : IsPlain s) {vendor : Vendor} (hvendor : vendor.isVrp) :
    Ensures (Settled vendor) Fault.IsOneLine s.vrpRegion := by
  obtain ⟨hname, hlevel, hmodulo⟩ := isOneLine_region h
  rw [isPlain_record] at h
  simp [fields] at h
  have hinstances : ∀ i ∈ s.mstpInstances, IsPlain i := fun i hi => by simp [h, hi]
  have hroles : AreOuter (instanceRoles "stp instance" s.mstpInstances) :=
    areOuter_instanceRoles (by decide) (by decide) hinstances
  have hcloser : vendor.closer = "quit" := if_pos hvendor
  have hregion {mapping : List Entry} (hmapping : AreInside mapping) : Settled vendor
      (command "stp region-configuration" "Enters MST region configuration."
        :: onlyIf (s.mstpRegion.regionName ≠ "")
          [command s!" region-name {s.mstpRegion.regionName}"]
        ++ onlyIf (s.mstpRegion.revisionLevel ≠ "")
          [command s!" revision-level {s.mstpRegion.revisionLevel}"]
        ++ mapping
        ++ [command " active region-configuration" "Activates the region settings.", command "quit"]
        ++ instanceRoles "stp instance" s.mstpInstances) := by
    rw [List.append_cons, ← hcloser]
    refine .append (.block ?_) (.of_areOuter hroles)
    simp +decide [↓hmapping, hname, hlevel]
  unfold vrpRegion
  dsimp only
  split
  · refine .pure (hregion ?_)
    simp +decide [hmodulo]
  · exact (ensures_instanceEntries Vlan.ensures_normalList hinstances).bind
      fun mapping hmapping => .pure (hregion hmapping)

private theorem ensures_vrpRoles (h : IsPlain s) {vendor : Vendor} (hvendor : vendor.isVrp)
    (mode : String) :
    Ensures (Settled vendor) Fault.IsOneLine (s.vrpRoles mode) := by
  have hregion := ensures_vrpRegion h hvendor
  rw [isPlain_record] at h
  simp [fields] at h
  rw [vrpRoles]
  split
  · exact hregion
  · split
    · have hroles : Ensures AreOuter Fault.IsOneLine
          (vlanRoles "stp vlan" Vlan.normalList s.pvstVlans) :=
        ensures_vlanRoles (by decide) (by decide) Vlan.ensures_normalList fun v hv => by
          simp [h, hv]
      exact hroles.imp fun _ => .of_areOuter
    · refine .pure (.of_areOuter (areOuter_roleOrPriority (by decide) (by decide) ?_ ?_ _))
      · simp [h]
      · simp [h]

private theorem ensures_vrpEntries (h : IsPlain s) {vendor : Vendor} (hvendor : vendor.isVrp) :
    Ensures (Settled vendor) Fault.IsOneLine (s.vrpEntries vendor) := by
  have hroles := ensures_vrpRoles h hvendor (vrpModeName vendor s.mode)
  have hports : Ensures (∀ block ∈ ·, Settled vendor block) Fault.IsOneLine
      (s.namedPorts.mapM fun p => do return portBlock vendor p (← vrpPortBody vendor p)) :=
    ensures_ports h fun p hp => ensures_vrpPortBody hp vendor
  rw [isPlain_record] at h
  simp [fields] at h
  have hmode : IsOneLine (vrpModeName vendor s.mode) := by
    rw [vrpModeName]
    simp +decide [h]
  have htimers : AreOuter (timerEntries "stp timer"
      [(s.helloTime, "hello"), (s.forwardDelay, "forward-delay"), (s.maxAge, "max-age")]) := by
    refine areOuter_timerEntries (by decide) (by decide) ?_
    simp +decide [h]
  have hsettings : AreOuter (modeEntry "stp" (vrpModeName vendor s.mode)
      :: onlyIf (s.pathCostStandard ≠ "")
        [command s!"stp pathcost-standard {s.pathCostStandard}"]) := by
    simp +decide [isOuter_modeEntry, hmode, h]
  unfold vrpEntries
  refine hroles.bind fun roles hsettled => hports.bind fun ports hblocks => .pure ?_
  exact .append (.append (.append (.of_areOuter hsettings) hsettled) (.of_areOuter htimers))
    (.flatten hblocks)

/-- The spanning tree of plain settings is tidy, and so are its faults. -/
theorem ensures_render (h : IsPlain s) (vendor : Vendor) :
    Ensures (Fragment.IsTidy vendor) Fault.IsOneLine (s.render vendor) := by
  unfold render
  split
  · exact .pure (Fragment.isTidy_nothing vendor _)
  · cases vendor with
    | cisco =>
      exact (ensures_ciscoEntries h).bind fun entries hentries => .pure (hentries.isTidy_build _)
    | huawei =>
      exact (ensures_vrpEntries h rfl).bind fun entries hentries => .pure (hentries.isTidy_build _)
    | h3c =>
      exact (ensures_vrpEntries h rfl).bind fun entries hentries => .pure (hentries.isTidy_build _)
    | generic => exact .pure (Fragment.isTidy_unsupported _ (by decide) (by decide))

end SpanningTree

end Netscribe
