import Netscribe.HotStandby.Commands
import Netscribe.Interface.Commands
import Netscribe.Proofs.Acl.Headers
import Netscribe.Proofs.Schema.Texts
import Netscribe.Proofs.View.Entries
import Netscribe.Proofs.View.Services
import Netscribe.Routing.Commands
import Netscribe.Vrrp.Commands
/-!
The views of what forwards packets: routed interfaces, routes, and the groups of devices that stand
in for each other.
-/
namespace Netscribe

open Text (IsOneLine opensCommand opensIndented)

/-- The fields that name and number an ACL take one line. -/
theorem Acls.isOneLine_of_find? {acls : Acls} (h : IsPlain acls) {id : String} {a : Acl}
    (ha : acls.find? id = some a) : IsOneLine a.name ∧ IsOneLine a.number := by
  rw [isPlain_record] at h
  simp [fields] at h
  have hplain : IsPlain a := h a (mem_of_find? ha)
  rw [isPlain_record] at hplain
  simp [Acl.fields] at hplain
  simp [hplain]

namespace Acl

private theorem isOneLine_filterLine {a : Acl} (hname : IsOneLine a.name)
    (hnumber : IsOneLine a.number)
    (vendor : Vendor) (direction : Direction) : IsOneLine (a.filterLine vendor direction) := by
  have hdirection : IsOneLine direction.name := by cases direction <;> decide
  have hreference : IsOneLine (a.reference vendor) := by
    rw [reference, label]
    simp +decide [hname, hnumber]
  unfold filterLine
  cases vendor <;> simp +decide [hdirection, hreference]

private theorem opensIndented_filterLine (a : Acl) (vendor : Vendor) (direction : Direction) :
    opensIndented (a.filterLine vendor direction) := by
  unfold filterLine
  cases vendor <;> simp +decide

end Acl

/-- A pool of one interface writes single lines into its view. -/
theorem InterfacePool.areInside_entries {p : InterfacePool} (h : IsPlain p) :
    AreInside p.entries := by
  rw [isPlain_record] at h
  simp [fields] at h
  unfold entries
  simp +decide [isOneLine_orZero, h]

namespace RoutedInterface

/-- A routed interface of which no text has a line feed. -/
structure IsPlain (i : RoutedInterface) : Prop where
  name : IsOneLine i.name
  description : IsOneLine i.description
  ipAddress : IsOneLine i.ipAddress
  subnetMask : IsOneLine i.subnetMask
  selectedPool : IsOneLine i.selectedPool
  pool : ∀ p ∈ i.pool, Netscribe.IsPlain p

variable {i : RoutedInterface} {acls : Acls} {ipsec : Ipsec}

private theorem areInside_addressEntries (h : i.IsPlain) : AreInside i.addressEntries := by
  rw [addressEntries]
  simp +decide [h.description, h.ipAddress, h.subnetMask]

private theorem areInside_dhcpEntries (h : i.IsPlain) (vendor : Vendor) :
    AreInside (i.dhcpEntries vendor) := by
  have hpool : AreInside (i.pool.toList.flatMap InterfacePool.entries) :=
    .flatMap fun p hp => InterfacePool.areInside_entries (h.pool p (Option.mem_toList.mp hp))
  unfold dhcpEntries
  split
  · exact areInside_nil
  · cases vendor with
    | huawei =>
      change AreInside i.huaweiDhcp
      rw [huaweiDhcp]
      simp +decide [↓hpool]
    | h3c =>
      change AreInside i.h3cDhcp
      rw [h3cDhcp]
      simp +decide [h.selectedPool]
    | cisco => simp
    | generic => simp

private theorem areInside_filterEntries (h : Netscribe.IsPlain acls) (vendor : Vendor)
    (direction : Direction) (id : String) :
    AreInside (filterEntries vendor acls direction id) := by
  refine .map fun a ha => ?_
  obtain ⟨hname, hnumber⟩ := Acls.isOneLine_of_find? h (Option.mem_toList.mp ha)
  simp [Acl.isOneLine_filterLine hname hnumber, Acl.opensIndented_filterLine]

private theorem areInside_ipsecEntries (h : Netscribe.IsPlain ipsec) (vendor : Vendor)
    (i : RoutedInterface) : AreInside (i.ipsecEntries vendor ipsec) := by
  rw [isPlain_record] at h
  simp [Ipsec.fields] at h
  have hpolicy : AreInside ((ipsec.findPolicy? i.ipsecPolicy).toList.map fun p =>
      command (policyLine p.name vendor) s!"Applies IPsec policy {p.name}.") := by
    refine .map fun p hp => ?_
    have hplain : Netscribe.IsPlain p := by
      simp [h, List.mem_of_find?_eq_some (Option.mem_toList.mp hp)]
    rw [isPlain_record] at hplain
    simp [IpsecPolicy.fields] at hplain
    unfold policyLine
    cases vendor <;> simp +decide [hplain]
  rw [ipsecEntries]
  simp [↓hpolicy]

private theorem areInside_natEntries (vendor : Vendor) (i : RoutedInterface) :
    AreInside (i.natEntries vendor) := by
  rw [natEntries]
  simp +decide

/-- The body of a plain interface is inside its view. -/
theorem areInside_body (h : i.IsPlain) (hacls : Netscribe.IsPlain acls)
    (hipsec : Netscribe.IsPlain ipsec) (vendor : Vendor) :
    AreInside (i.body vendor acls ipsec) := by
  rw [body]
  simp [areInside_addressEntries h, areInside_dhcpEntries h, areInside_filterEntries hacls,
    areInside_ipsecEntries hipsec, areInside_natEntries]

/-- The block of a routed interface, whatever stands inside. -/
theorem settled_block {body : List Entry} (h : i.IsPlain) (hbody : AreInside body)
    (vendor : Vendor) : Settled vendor (i.block vendor body) := by
  refine .block ?_
  simp +decide [hbody, h.name]

end RoutedInterface

private theorem VlanInterface.isPlain_routed {i : VlanInterface} (h : IsPlain i) (vendor : Vendor) :
    (i.routed vendor).IsPlain := by
  have hstart : IsOneLine (vlanInterfaceName vendor) := by cases vendor <;> decide
  rw [isPlain_record] at h
  simp [fields] at h
  exact {
    name := by simp [routed, hstart, h]
    description := by simp [routed, h]
    ipAddress := by simp [routed, h]
    subnetMask := by simp [routed, h]
    selectedPool := by simp [routed, h]
    pool := fun p hp => by simp [h, show i.interfacePoolConfig = some p from hp] }

namespace VlanInterfaces

variable {v : VlanInterfaces} {acls : Acls} {ipsec : Ipsec}

/-- A VLAN interface of plain settings is plain as a routed one. -/
theorem isPlain_routed (h : IsPlain v) {i : VlanInterface} (hi : i ∈ v.addressed)
    (vendor : Vendor) : (i.routed vendor).IsPlain := by
  rw [isPlain_record] at h
  simp [fields] at h
  exact VlanInterface.isPlain_routed (by simp [h, List.mem_of_mem_filter hi]) vendor

/-- The blocks of plain VLAN interfaces are settled. -/
theorem settled_blocks (h : IsPlain v) (hacls : IsPlain acls) (hipsec : IsPlain ipsec)
    (vendor : Vendor) : Settled vendor (v.addressed.flatMap fun i =>
      (i.routed vendor).block vendor ((i.routed vendor).body vendor acls ipsec)) := by
  refine .flatMap fun i hi => ?_
  have hrouted := isPlain_routed h hi vendor
  exact RoutedInterface.settled_block hrouted
    (RoutedInterface.areInside_body hrouted hacls hipsec vendor) vendor

/-- The VLAN interfaces of plain settings are tidy. -/
theorem isTidy_render (h : IsPlain v) (hacls : IsPlain acls) (hipsec : IsPlain ipsec)
    (vendor : Vendor) : (v.render vendor acls ipsec).IsTidy vendor := by
  unfold render
  split
  · exact Fragment.isTidy_nothing vendor _
  · split
    · exact Fragment.isTidy_unsupported _ (by decide) vendor.isOneLine_name
    · exact (settled_blocks h hacls hipsec vendor).isTidy_ofEntries _ _

end VlanInterfaces

private theorem RoutedPort.isPlain_routed {p : RoutedPort} (h : IsPlain p) : p.routed.IsPlain := by
  rw [isPlain_record] at h
  simp [fields] at h
  exact {
    name := by simp [routed, h]
    description := by simp [routed, h]
    ipAddress := by simp [routed, h]
    subnetMask := by simp [routed, h]
    selectedPool := by simp [routed, h]
    pool := fun pool hpool => by simp [h, show p.interfacePoolConfig = some pool from hpool] }

/-- The routed ports of plain settings are tidy. -/
theorem RoutedPorts.isTidy_render {r : RoutedPorts} {acls : Acls} {ipsec : Ipsec}
    (h : IsPlain r) (hacls : IsPlain acls) (hipsec : IsPlain ipsec) (vendor : Vendor) :
    (r.render vendor acls ipsec).IsTidy vendor := by
  rw [isPlain_record] at h
  simp [fields] at h
  unfold render
  split
  · exact Fragment.isTidy_nothing vendor _
  · split
    · exact Fragment.isTidy_unsupported _ (by decide) vendor.isOneLine_name
    · refine Settled.isTidy_ofEntries (.flatMap fun p hp => .onlyIf fun _ => ?_) _ _
      have hrouted : p.routed.IsPlain := RoutedPort.isPlain_routed (by simp [h, hp])
      exact RoutedInterface.settled_block hrouted
        (RoutedInterface.areInside_body hrouted hacls hipsec vendor) vendor

namespace StaticRoute

variable {r : StaticRoute}

private theorem isOuter_entry (h : IsPlain r) (vendor : Vendor) : (r.entry vendor).IsOuter := by
  rw [isPlain_record] at h
  simp [fields] at h
  have hopens : opensCommand (r.line vendor) := by
    unfold line
    simp +decide
  have hline : IsOneLine (r.line vendor) := by
    unfold line
    simp +decide [distance, h]
  rw [entry]
  simp [hopens, hline]

end StaticRoute

namespace OspfArea

variable {a : OspfArea}

private theorem isOneLine_network (h : IsPlain a) {n : OspfNetwork} (hn : n ∈ a.namedNetworks) :
    IsOneLine n.network ∧ IsOneLine n.wildcardMask := by
  rw [isPlain_record] at h
  simp [fields] at h
  have hplain : IsPlain n := by simp [h, List.mem_of_mem_filter hn]
  rw [isPlain_record] at hplain
  simp [OspfNetwork.fields] at hplain
  simp [hplain]

private theorem areInside_ciscoEntries (h : IsPlain a) : AreInside a.ciscoEntries := by
  have hplain := h
  rw [isPlain_record] at hplain
  simp [fields] at hplain
  have hnetworks : AreInside (a.namedNetworks.map fun n =>
      command s!" network {n.network} {n.wildcardMask} area {a.areaId}" (a.announcement n)) := by
    refine .map fun n hn => ?_
    obtain ⟨hnetwork, hmask⟩ := isOneLine_network h hn
    simp +decide [hnetwork, hmask, hplain]
  have hkind : IsOneLine a.typeKeyword := by
    rw [typeKeyword]
    simp +decide [hplain]
  rw [ciscoEntries]
  simp +decide [↓hnetworks, hkind, hplain]

private theorem areInside_vrpEntries (h : IsPlain a) : AreInside a.vrpEntries := by
  have hplain := h
  rw [isPlain_record] at hplain
  simp [fields] at hplain
  have hnetworks : AreInside (a.namedNetworks.map fun n =>
      command s!"  network {n.network} {n.wildcardMask}" (a.announcement n)) := by
    refine .map fun n hn => ?_
    obtain ⟨hnetwork, hmask⟩ := isOneLine_network h hn
    simp +decide [hnetwork, hmask]
  have hkind : IsOneLine a.typeKeyword := by
    rw [typeKeyword]
    simp +decide [hplain]
  rw [vrpEntries]
  simp +decide [↓hnetworks, hkind, hplain]

end OspfArea

namespace Ospf

variable {o : Ospf}

private theorem settled_ciscoEntries (h : IsPlain o) : Settled .cisco o.ciscoEntries := by
  rw [isPlain_record] at h
  simp [fields] at h
  have hareas : AreInside (o.areas.flatMap OspfArea.ciscoEntries) :=
    .flatMap fun a ha => OspfArea.areInside_ciscoEntries (by simp [h, ha])
  refine .block ?_
  simp +decide [↓hareas, h]

private theorem settled_vrpEntries (h : IsPlain o) {vendor : Vendor} (hvendor : vendor.isVrp) :
    Settled vendor o.vrpEntries := by
  rw [isPlain_record] at h
  simp [fields] at h
  have hareas : AreInside (o.areas.flatMap OspfArea.vrpEntries) :=
    .flatMap fun a ha => OspfArea.areInside_vrpEntries (by simp [h, ha])
  have hcloser : vendor.closer = "quit" := if_pos hvendor
  rw [vrpEntries, ← hcloser]
  refine .block ?_
  simp +decide [↓hareas, h]

private theorem settled_priorityEntries {i : OspfInterface} (h : IsPlain i) (vendor : Vendor) :
    Settled vendor (priorityEntries vendor i) := by
  rw [isPlain_record] at h
  simp [OspfInterface.fields] at h
  let keyword := if vendor = .cisco then "ip ospf priority" else "ospf dr-priority"
  have hopens : Opens [command s!"interface {i.interfaceName}",
      command s!" {keyword} {i.priority}" "DR election priority."] := by
    simp +decide [keyword, h]
  exact .onlyIf fun _ => .block hopens

private theorem settled_entries (h : IsPlain o) {vendor : Vendor} (hvendor : vendor ≠ .generic) :
    Settled vendor (o.entries vendor) := by
  have hprocess : Settled vendor (if vendor = .cisco then o.ciscoEntries else o.vrpEntries) := by
    cases vendor with
    | cisco => exact settled_ciscoEntries h
    | huawei => exact settled_vrpEntries h rfl
    | h3c => exact settled_vrpEntries h rfl
    | generic => exact absurd rfl hvendor
  rw [isPlain_record] at h
  simp [fields] at h
  refine .append (hprocess.cons_aside Entry.isAside_blank) (.flatMap fun i hi => ?_)
  exact settled_priorityEntries (by simp [h, hi]) vendor

end Ospf

namespace Routing

variable {r : Routing}

/-- The entries of plain routing settings are settled. -/
theorem settled_entries (h : IsPlain r) {vendor : Vendor} (hvendor : vendor ≠ .generic) :
    Settled vendor (r.entries vendor) := by
  rw [isPlain_record] at h
  simp [fields] at h
  have hroutes : AreOuter ((r.staticRoutes.filter (·.isComplete)).map (·.entry vendor)) :=
    .map fun route hroute =>
      StaticRoute.isOuter_entry (by simp [h, List.mem_of_mem_filter hroute]) vendor
  exact .append (.of_areOuter hroutes) (.onlyIf fun _ => Ospf.settled_entries h.2 hvendor)

/-- The routing of plain settings is tidy. -/
theorem isTidy_render (h : IsPlain r) (vendor : Vendor) : (r.render vendor).IsTidy vendor := by
  unfold render
  split
  · exact Fragment.isTidy_nothing vendor _
  · split
    next => exact Fragment.isTidy_unsupported _ (by decide) (Vendor.isOneLine_name _)
    next hvendor => exact (settled_entries h hvendor).isTidy_ofEntries _ _

end Routing

namespace VrrpGroup

variable {g : VrrpGroup} {start keyword value : String}

private theorem areInside_setting (hopens : opensIndented start) (hstart : IsOneLine start)
    (hkeyword : IsOneLine keyword) (hvalue : IsOneLine value) :
    AreInside (setting start keyword value) := by
  rw [setting]
  simp +decide [hopens, hstart, hkeyword, hvalue]

private theorem areInside_authentication {simple md5 : String} (h : IsPlain g)
    (hopens : opensIndented start) (hstart : IsOneLine start) (hsimple : IsOneLine simple)
    (hmd5 : IsOneLine md5) : AreInside (g.authentication start simple md5) := by
  rw [isPlain_record] at h
  simp [fields] at h
  have hkey {keyword : String} (hkeyword : IsOneLine keyword) :
      AreInside (setting start keyword g.authKey) :=
    areInside_setting hopens hstart hkeyword (by simp [h])
  rw [authentication]
  simp [hkey hsimple, hkey hmd5]

private theorem isOneLine_delay (h : IsPlain g) : IsOneLine g.delay := by
  rw [isPlain_record] at h
  simp [fields] at h
  simp +decide [delay, h]

private theorem areInside_ciscoEntries (h : IsPlain g) : AreInside g.ciscoEntries := by
  have hplain := h
  rw [isPlain_record] at hplain
  simp [fields] at hplain
  have hopens : opensIndented s!" vrrp {g.groupId}" := by simp +decide
  have hstart : IsOneLine s!" vrrp {g.groupId}" := by simp +decide [hplain]
  have hpriority : AreInside (setting s!" vrrp {g.groupId}" "priority" g.priority) :=
    areInside_setting hopens hstart (by decide) (by simp [hplain])
  have hinterval : AreInside
      (setting s!" vrrp {g.groupId}" "timers advertise" g.advertisementInterval) :=
    areInside_setting hopens hstart (by decide) (by simp [hplain])
  have hdescription : AreInside (setting s!" vrrp {g.groupId}" "description" g.description) :=
    areInside_setting hopens hstart (by decide) (by simp [hplain])
  have hauthentication : AreInside (g.authentication s!" vrrp {g.groupId}" "authentication text"
      "authentication md5 key-string") :=
    areInside_authentication h hopens hstart (by decide) (by decide)
  unfold ciscoEntries
  simp +decide [↓hpriority, ↓hinterval, ↓hdescription, ↓hauthentication, isOneLine_delay h, hplain]

private theorem areInside_vrpEntries (h : IsPlain g) (vendor : Vendor) :
    AreInside (g.vrpEntries vendor) := by
  have hplain := h
  rw [isPlain_record] at hplain
  simp [fields] at hplain
  have hopens : opensIndented s!" vrrp vrid {g.groupId}" := by simp +decide
  have hstart : IsOneLine s!" vrrp vrid {g.groupId}" := by simp +decide [hplain]
  have hpriority : AreInside (setting s!" vrrp vrid {g.groupId}" "priority" g.priority) :=
    areInside_setting hopens hstart (by decide) (by simp [hplain])
  have hinterval : AreInside
      (setting s!" vrrp vrid {g.groupId}" "timer advertise" g.advertisementInterval) :=
    areInside_setting hopens hstart (by decide) (by simp [hplain])
  have hdescription : AreInside (setting s!" vrrp vrid {g.groupId}" "description" g.description) :=
    areInside_setting hopens hstart (by decide) (by simp [hplain])
  have hauthentication : AreInside (g.authentication s!" vrrp vrid {g.groupId}"
      "authentication-mode simple plain" "authentication-mode md5") :=
    areInside_authentication h hopens hstart (by decide) (by decide)
  unfold vrpEntries
  simp +decide [↓hpriority, ↓hinterval, ↓hdescription, ↓hauthentication, isOneLine_delay h, hplain]

end VrrpGroup

private theorem VrrpInterface.settled_entries {i : VrrpInterface} (h : IsPlain i)
    (vendor : Vendor) :
    Settled vendor (i.entries vendor) := by
  rw [isPlain_record] at h
  simp [fields] at h
  have hgroups : AreInside (i.completeGroups.flatMap fun g =>
      if vendor = .cisco then g.ciscoEntries else g.vrpEntries vendor) := by
    refine .flatMap fun g hg => ?_
    have hplain : IsPlain g := by simp [h, List.mem_of_mem_filter hg]
    simp [VrrpGroup.areInside_ciscoEntries hplain, VrrpGroup.areInside_vrpEntries hplain]
  refine .onlyIf fun _ => .block ?_
  simp +decide [↓hgroups, h]

/-- The VRRP of plain settings is tidy. -/
theorem Vrrp.isTidy_render {v : Vrrp} (h : IsPlain v) (vendor : Vendor) :
    (v.render vendor).IsTidy vendor := by
  rw [isPlain_record] at h
  simp [fields] at h
  unfold render
  split
  · exact Fragment.isTidy_nothing vendor _
  · split
    · exact Fragment.isTidy_unsupported _ (by decide) vendor.isOneLine_name
    · refine Settled.isTidy_ofEntries (.flatMap fun i hi => ?_) _ _
      exact VrrpInterface.settled_entries (by simp [h, hi]) vendor

namespace RemoteBackup

private theorem isOneLine_orElse {value default : String} (hvalue : IsOneLine value)
    (hdefault : IsOneLine default) : IsOneLine (orElse value default) := by
  simp [orElse, hvalue, hdefault]

private theorem isPlain_of_mem_tracks {m : Monitoring} (h : IsPlain m) {t : TrackItem}
    (ht : t ∈ m.tracks) :
    IsPlain t := by
  rw [isPlain_record] at h
  simp [Monitoring.fields] at h
  rw [Monitoring.tracks] at ht
  split at ht
  · simp [h, ht]
  · exact absurd ht List.not_mem_nil

private theorem settled_declaration {t : TrackItem} (h : IsPlain t) :
    Settled .h3c (declaration t) := by
  rw [isPlain_record] at h
  simp [TrackItem.fields] at h
  have hopens : Opens [command s!"track {t.id} interface {t.value}"
      s!"Track {t.id} follows {t.value}."] := by
    simp +decide [h]
  exact .onlyIf fun _ => .block hopens

private theorem areInside_reference {t : TrackItem} (h : IsPlain t) : AreInside (reference t) := by
  rw [isPlain_record] at h
  simp [TrackItem.fields] at h
  rw [reference]
  simp +decide [h]

private theorem isInside_toggle {text : String} (h : IsOneLine text) (enabled : Bool) :
    (toggle enabled text).IsInside := by
  rw [toggle]
  simp +decide [h]

private theorem areInside_channelEntries {c : ControlChannel} (h : IsPlain c) :
    AreInside (channelEntries c) := by
  rw [isPlain_record] at h
  simp [ControlChannel.fields] at h
  have hport : IsOneLine (orElse c.port "1026") := isOneLine_orElse (by simp [h]) (by decide)
  unfold channelEntries
  simp +decide [hport, h]

/-- The entries of plain remote backup settings are settled. -/
theorem settled_entries {b : RemoteBackup} (h : IsPlain b) : Settled .h3c b.entries := by
  rw [isPlain_record] at h
  simp [fields] at h
  obtain ⟨hrole, -, hchannel, hdata, hfailback, hmonitoring⟩ := h
  rw [isPlain_record] at hfailback
  simp [Failback.fields] at hfailback
  have hdeclarations : Settled .h3c (b.monitoring.tracks.flatMap declaration) :=
    .flatMap fun t ht => settled_declaration (isPlain_of_mem_tracks hmonitoring ht)
  have hreferences : AreInside (b.monitoring.tracks.flatMap reference) :=
    .flatMap fun t ht => areInside_reference (isPlain_of_mem_tracks hmonitoring ht)
  have hdelay : IsOneLine (orElse b.failback.delayTime "30") :=
    isOneLine_orElse hfailback (by decide)
  have hchannelEntries := areInside_channelEntries hchannel
  unfold entries
  simp only [List.append_assoc]
  refine .append hdeclarations ?_
  simp only [← List.append_assoc]
  refine .block ?_
  simp +decide [↓hreferences, ↓hchannelEntries, isInside_toggle, hdelay, hrole, hdata]

end RemoteBackup

namespace HuaweiHotStandby

private theorem areOuter_monitoringEntries {t : TrackItem} (h : IsPlain t) :
    AreOuter (monitoringEntries t) := by
  rw [isPlain_record] at h
  simp [TrackItem.fields] at h
  rw [monitoringEntries]
  simp +decide [h]

private theorem areOuter_heartbeatEntries {i : HeartbeatInterface} (h : IsPlain i) :
    AreOuter (heartbeatEntries i) := by
  rw [isPlain_record] at h
  simp [HeartbeatInterface.fields] at h
  rw [heartbeatEntries]
  simp +decide [h]

private theorem isOneLine_priorityByte (level : String) : IsOneLine (priorityByte level) := by
  rw [priorityByte]
  split
  · exact Text.isOneLine_toString_nat _
  · decide

variable {s : HuaweiHotStandby}

private theorem areOuter_packetEntries (h : IsPlain s) : AreOuter s.packetEntries := by
  rw [isPlain_record] at h
  simp [fields] at h
  unfold packetEntries
  simp +decide [isOneLine_priorityByte, h]

/-- The commands of the backup methods are fixed. -/
theorem areOuter_backupEntries (s : HuaweiHotStandby) : AreOuter s.backupEntries := by
  have hall : ∀ text ∈ ["hrp auto-sync connection-status", "hrp mirror session enable",
      "hrp auto-sync config", "undo hrp auto-sync config dns-transparent-policy",
      "hrp auto-sync config static-route", "hrp auto-sync config policy-based-route"],
      opensCommand text ∧ IsOneLine text := by decide
  refine .map fun choice hchoice => ?_
  obtain ⟨hopens, hline⟩ :=
    hall _ (List.mem_map_of_mem (f := Prod.snd) (List.mem_of_mem_filter hchoice))
  exact (Entry.isOuter_command "" hopens).mpr hline

private theorem areOuter_preemptionEntries (h : IsPlain s) : AreOuter s.preemptionEntries := by
  rw [isPlain_record] at h
  simp [fields] at h
  rw [preemptionEntries]
  simp +decide [h]

private theorem areOuter_finalEntries (h : IsPlain s) : AreOuter s.finalEntries := by
  rw [isPlain_record] at h
  simp [fields] at h
  rw [finalEntries]
  simp +decide [h]

private theorem settled_entries (h : IsPlain s) (vendor : Vendor) : Settled vendor s.entries := by
  have hplain := h
  rw [isPlain_record] at hplain
  simp [fields] at hplain
  have hmonitoring : AreOuter (s.monitoringItems.flatMap monitoringEntries) :=
    .flatMap fun t ht => areOuter_monitoringEntries (by simp [hplain, ht])
  have hheartbeat : AreOuter (s.heartbeatInterfaces.flatMap heartbeatEntries) :=
    .flatMap fun i hi => areOuter_heartbeatEntries (by simp [hplain, hi])
  have hsection {title : String} {body : List Entry} (htitle : IsOneLine title)
      (hbody : AreOuter body) : Settled vendor (titled title body) :=
    .titled htitle (.of_areOuter hbody)
  have hlast : AreOuter [.blank, command "hrp enable" "Starts hot standby."] := by
    simp +decide
  rw [entries]
  refine .append (.append (.append (.append (.append (.append ?_ ?_) ?_) ?_) ?_) ?_) ?_
  · exact hsection (by decide) hmonitoring
  · exact hsection (by decide) hheartbeat
  · exact hsection (by decide) (areOuter_packetEntries h)
  · exact hsection (by decide) (areOuter_backupEntries s)
  · exact hsection (by decide) (areOuter_preemptionEntries h)
  · exact hsection (by decide) (areOuter_finalEntries h)
  · exact .of_areOuter hlast

end HuaweiHotStandby

/-- The hot standby of plain settings is tidy. -/
theorem HotStandby.isTidy_render {h : HotStandby} (hplain : IsPlain h) (vendor : Vendor) :
    (h.render vendor).IsTidy vendor := by
  rw [isPlain_record] at hplain
  simp [fields] at hplain
  obtain ⟨hh3c, hhuawei⟩ := Field.isPlain_variant hplain
  unfold render
  split
  · exact Fragment.isTidy_nothing vendor _
  · split
    next backup hbackup => exact (RemoteBackup.settled_entries (hh3c _ hbackup)).isTidy_build _
    next standby hstandby =>
      exact (HuaweiHotStandby.settled_entries (hhuawei _ hstandby) .huawei).isTidy_build _
    next => exact Fragment.isTidy_unsupported _ (by decide) (Vendor.isOneLine_name _)

end Netscribe
