import Netscribe.Proofs.Address.Readable
import Netscribe.Proofs.Script.Preview
/-!
What a feature reads of its settings, and when it can be rendered. Most settings are copied into the
commands as they are; only lists of VLANs, the address in option 43 and the addresses of IKE peers
are taken apart, and a feature fails exactly if one of those that it reads cannot be taken apart.
-/
namespace Netscribe

/-- A setting that is taken apart on the way to the commands. -/
inductive Reading
  | vlanList (text : String)
  /-- The address in option 43. -/
  | address (text : String)
  /-- The address of an IKE peer, of which the first word counts. -/
  | peer (text : String)

namespace Reading

/-- The faults that taking a setting apart can end in. -/
inductive FailsWith : Reading → Fault → Prop
  /-- One end of an item looks like a number and is none. -/
  | list {text item part : String} (hitem : item ∈ Vlan.items text)
      (hunreadable : Vlan.IsUnreadable item) (hpart : part ∈ Text.splitOn '-' item)
      (hfalse : Vlan.IsFalseNumber part) : FailsWith (.vlanList text) (.badInteger part)
  /-- Of four parts, the first one that is no octet looks like a number and is none. -/
  | address {text part : String} (hfour : (Text.splitOn '.' (Text.trim text)).length = 4)
      (hpart : Ipv4.FailsAt (Text.splitOn '.' (Text.trim text)) part) :
      FailsWith (.address text) (.badInteger part)
  /-- The text is there, but there is no word in it. -/
  | peer {text : String} (hset : text ≠ "") (hwords : Text.words text = []) :
      FailsWith (.peer text) .noWord

def IsReadable (r : Reading) : Prop := ∀ fault, ¬ r.FailsWith fault

end Reading

/-- A step that succeeds exactly if all its readings can be read, and fails as one of them does. -/
structure Needs {α : Type} (readings : List Reading) (x : Except Fault α) : Prop where
  ok : ∀ {a}, x = .ok a → ∀ r ∈ readings, r.IsReadable
  error : ∀ {fault}, x = .error fault → ∃ r ∈ readings, r.FailsWith fault

namespace Needs

variable {α β : Type} {readings more : List Reading} {x y : Except Fault α}

private theorem succeeds_iff (h : Needs readings x) :
    (∃ a, x = .ok a) ↔ ∀ r ∈ readings, r.IsReadable := by
  constructor
  · rintro ⟨a, ha⟩
    exact h.ok ha
  · intro hreadable
    cases hx : x with
    | ok a => exact ⟨a, rfl⟩
    | error fault =>
      obtain ⟨r, hr, hfails⟩ := h.error hx
      exact absurd hfails (hreadable r hr fault)

private theorem nothing (a : α) :
    Needs [] (.ok a) := ⟨fun _ _ hr => (nomatch hr), fun h => nomatch h⟩

/-- Of two steps in a row the second must not fail before the first has succeeded. -/
theorem bind {f : α → Except Fault β} (hx : Needs readings x) (hf : ∀ a, Needs more (f a)) :
    Needs (readings ++ more) (x >>= f) := by
  constructor
  · intro b hb
    obtain ⟨a, ha, hb⟩ := Outcome.bind_eq_ok_iff.mp hb
    exact List.forall_mem_append.mpr ⟨hx.ok ha, (hf a).ok hb⟩
  · intro fault hfault
    obtain hfault | ⟨a, ha, hfault⟩ := Outcome.bind_eq_error_iff.mp hfault
    · obtain ⟨r, hr, hfails⟩ := hx.error hfault
      exact ⟨r, List.mem_append_left _ hr, hfails⟩
    · obtain ⟨r, hr, hfails⟩ := (hf a).error hfault
      exact ⟨r, List.mem_append_right _ hr, hfails⟩

/-- What is made of a result without failing needs no further reading. -/
theorem map (hx : Needs readings x) (f : α → β) :
    Needs readings (x >>= fun a => .ok (f a)) := by
  have hboth := hx.bind fun a => nothing (f a)
  rwa [List.append_nil] at hboth

private theorem mapM {xs : List α} {readings : α → List Reading} {f : α → Except Fault β}
    (h : ∀ x, Needs (readings x) (f x)) : Needs (xs.flatMap readings) (xs.mapM f) := by
  induction xs with
  | nil => exact nothing []
  | cons x xs ih =>
    rw [List.mapM_cons, List.flatMap_cons]
    exact (h x).bind fun y => ih.map fun ys => y :: ys

private theorem ite {c : Prop} [Decidable c] (hx : c → Needs readings x) (hy : ¬ c → Needs more y) :
    Needs (if c then readings else more) (if c then x else y) := by
  by_cases hc : c
  · rw [if_pos hc, if_pos hc]
    exact hx hc
  · rw [if_neg hc, if_neg hc]
    exact hy hc

end Needs

section Primitives

private theorem needs_parseIds (text : String) : Needs [.vlanList text] (Vlan.parseIds text) := by
  constructor
  · intro ids hids r hr fault hfails
    obtain rfl := List.mem_singleton.mp hr
    cases hfails with
    | list hitem hunreadable =>
      exact (Vlan.parseIds_succeeds_iff text).mp ⟨ids, hids⟩ _ hitem hunreadable
  · intro fault hfault
    obtain ⟨item, hitem, hunreadable, part, hpart, hfalse, rfl⟩ := Vlan.parseIds_eq_error hfault
    exact ⟨_, List.mem_singleton_self _, .list hitem hunreadable hpart hfalse⟩

private theorem needs_normalList (text : String) : Needs [.vlanList text] (Vlan.normalList text) :=
  (needs_parseIds text).map _

private theorem needs_toHex (text : String) (capital : Bool) :
    Needs [.address text] (Ipv4.toHex text capital) := by
  constructor
  · intro encoded hencoded r hr fault hfails
    obtain rfl := List.mem_singleton.mp hr
    cases hfails with
    | address hfour hpart =>
      rw [Ipv4.toHex_eq_error_iff.mpr ⟨hfour, _, hpart, rfl⟩] at hencoded
      cases hencoded
  · intro fault hfault
    obtain ⟨hfour, part, hpart, rfl⟩ := Ipv4.toHex_eq_error_iff.mp hfault
    exact ⟨_, List.mem_singleton_self _, .address hfour hpart⟩

private theorem needs_remoteAddress (p : IkeProfile) :
    Needs [.peer p.matchRemoteAddress] (Ipsec.remoteAddress p) := by
  have hwords {entries : List Entry} (h : Ipsec.remoteAddress p = .ok entries) :
      p.matchRemoteAddress = "" ∨ Text.words p.matchRemoteAddress ≠ [] := by
    rw [Ipsec.remoteAddress] at h
    by_cases hempty : p.matchRemoteAddress = ""
    · exact .inl hempty
    · rw [if_neg hempty] at h
      refine .inr fun hnone => ?_
      rw [hnone] at h
      cases h
  constructor
  · intro entries hentries r hr fault hfails
    obtain rfl := List.mem_singleton.mp hr
    cases hfails with
    | peer hset hnone => exact (hwords hentries).elim hset fun hsome => hsome hnone
  · intro fault hfault
    refine ⟨_, List.mem_singleton_self _, ?_⟩
    rw [Ipsec.remoteAddress] at hfault
    split at hfault
    next => cases hfault
    next hset =>
      split at hfault
      next hnone =>
        obtain rfl := Except.error.inj hfault
        exact .peer hset hnone
      next => cases hfault

end Primitives

section LinkAggregation

def AggregationGroup.readings (g : AggregationGroup) : List Reading :=
  if g.interfaceMode = "trunk" then [.vlanList g.trunkAllowedVlans] else []

/-- The lists of the trunks among the complete groups. -/
def LinkAggregation.readings (vendor : Vendor) (l : LinkAggregation) : List Reading :=
  if !l.enabled then []
  else match vendor with
    | .cisco | .huawei | .h3c => l.completeGroups.flatMap (·.readings)
    | .generic => []

namespace AggregationGroup

variable (g : AggregationGroup)

/-- The list of a trunk is read, and no list of any other group is. -/
theorem needs_mode {α : Type} (keyword : String) (form : List Int → String) (f : List Entry → α) :
    Needs g.readings (if g.interfaceMode = "trunk" then do
      return f (← g.allowedEntries keyword form) else return f []) :=
  .ite (fun _ => ((needs_parseIds g.trunkAllowedVlans).map _).map f) fun _ => .nothing (f [])

/-- A routed group is no trunk. -/
theorem needs_routed {α : Type} {x : Except Fault α} (a : α) (h : Needs g.readings x) :
    Needs g.readings (if g.interfaceMode = "l3" then .ok a else x) := by
  by_cases hrouted : g.interfaceMode = "l3"
  · have htrunk : ¬ g.interfaceMode = "trunk" := by
      rw [hrouted]
      decide
    rw [if_pos hrouted, readings, if_neg htrunk]
    exact .nothing a
  · rwa [if_neg hrouted]

private theorem needs_ciscoParts : Needs g.readings g.ciscoParts :=
  (show Needs g.readings g.ciscoMode from g.needs_routed _ (g.needs_mode _ _ _)).map _

private theorem needs_huaweiParts : Needs g.readings g.huaweiParts :=
  (show Needs g.readings g.huaweiMode from g.needs_routed _ (g.needs_mode _ _ _)).map _

private theorem needs_h3cParts : Needs g.readings g.h3cParts :=
  (show Needs g.readings g.h3cMode from g.needs_mode _ _ _).map _

end AggregationGroup

private theorem LinkAggregation.needs_render (vendor : Vendor) (l : LinkAggregation) :
    Needs (l.readings vendor) (l.render vendor) := by
  refine .ite (fun _ => .nothing _) fun _ => ?_
  cases vendor with
  | cisco => exact (Needs.mapM AggregationGroup.needs_ciscoParts).map _
  | huawei => exact (Needs.mapM AggregationGroup.needs_huaweiParts).map _
  | h3c => exact (Needs.mapM AggregationGroup.needs_h3cParts).map _
  | generic => exact .nothing _

end LinkAggregation

section PortIsolation

def PortIsolation.readings (vendor : Vendor) (p : PortIsolation) : List Reading :=
  if !p.enabled || p.groups.isEmpty then []
  else match vendor with
    | .huawei => [.vlanList p.excludedVlans]
    | .h3c => p.groups.flatMap fun g => [.vlanList g.communityVlans]
    | .cisco | .generic => []

private theorem PortIsolation.needs_render (vendor : Vendor) (p : PortIsolation) :
    Needs (p.readings vendor) (p.render vendor) := by
  have hgroup (g : IsolationGroup) : Needs [.vlanList g.communityVlans] (h3cGroup g) :=
    (needs_normalList g.communityVlans).map _
  refine .ite (fun _ => .nothing _) fun _ => ?_
  cases vendor with
  | huawei => exact ((needs_normalList p.excludedVlans).map _).map _
  | h3c => exact ((Needs.mapM hgroup).map _).map _
  | cisco => exact .nothing _
  | generic => exact .nothing _

end PortIsolation

section Dhcp

def DhcpServer.readings (vendor : Vendor) (s : DhcpServer) : List Reading :=
  if !s.enabled || s.namedPools.isEmpty then []
  else match vendor with
    | .cisco | .h3c => s.namedPools.flatMap fun p => [.address p.option43]
    | .huawei | .generic => []

private theorem DhcpServer.needs_render (vendor : Vendor) (s : DhcpServer) :
    Needs (s.readings vendor) (s.render vendor) := by
  have hcisco (p : DhcpPool) : Needs [.address p.option43] p.ciscoEntries :=
    ((needs_toHex p.option43 _).map _).map _
  have hh3c (p : DhcpPool) : Needs [.address p.option43] p.h3cEntries :=
    ((needs_toHex p.option43 _).map _).map _
  refine .ite (fun _ => .nothing _) fun _ => ?_
  cases vendor with
  | cisco => exact (Needs.mapM hcisco).map _
  | huawei => exact .nothing _
  | h3c => exact (Needs.mapM hh3c).map _
  | generic => exact .nothing _

def DhcpSnooping.readings (vendor : Vendor) (s : DhcpSnooping) : List Reading :=
  if !s.enabled then []
  else match vendor with
    | .huawei => [.vlanList s.huawei.enabledOnVlans]
    | .cisco | .h3c | .generic => []

private theorem DhcpSnooping.needs_render (vendor : Vendor) (s : DhcpSnooping) :
    Needs (s.readings vendor) (s.render vendor) := by
  refine .ite (fun _ => .nothing _) fun _ => ?_
  cases vendor with
  | huawei => exact ((needs_normalList s.huawei.enabledOnVlans).map _).map _
  | cisco => exact .nothing _
  | h3c => exact .nothing _
  | generic => exact .nothing _

end Dhcp

section SpanningTree

namespace SpanningTree

def instanceReadings (instances : List MstpInstance) : List Reading :=
  instances.flatMap fun i => [.vlanList i.vlanList]

def vlanReadings (vlans : List PvstVlan) : List Reading :=
  vlans.flatMap fun v => [.vlanList v.vlanList]

/-- The lists of VLANs that have a cost of their own at a port. -/
def costReadings (p : StpPort) : List Reading :=
  p.pvstVlanCosts.flatMap fun c => [.vlanList c.vlanList]

/-- In a region the instances have VLANs; without one, the VLANs have roles, and costs at ports. -/
def ciscoReadings (s : SpanningTree) : List Reading :=
  let mst : Bool := ciscoModeName s.mode = "mst"
  (if mst then instanceReadings s.mstpInstances else vlanReadings s.pvstVlans)
    ++ s.namedPorts.flatMap fun p => if mst then [] else costReadings p

def vrpRoleReadings (mode : String) (s : SpanningTree) : List Reading :=
  if mode = "mstp" then
    if s.mstpRegion.vlanMappingMode = "modulo" ∧ s.mstpRegion.moduloValue ≠ "" then []
    else instanceReadings s.mstpInstances
  else if (mode = "pvst" ∨ mode = "vbst") ∧ !s.pvstVlans.isEmpty then vlanReadings s.pvstVlans
  else []

def readings (vendor : Vendor) (s : SpanningTree) : List Reading :=
  if !s.enabled then []
  else match vendor with
    | .cisco => s.ciscoReadings
    | .huawei | .h3c =>
      s.vrpRoleReadings (vrpModeName vendor s.mode) ++ s.namedPorts.flatMap costReadings
    | .generic => []

section Lists

variable {list : String → Except Fault String} (hlist : ∀ raw, Needs [.vlanList raw] (list raw))

include hlist

private theorem needs_instanceEntries (instances : List MstpInstance) :
    Needs (instanceReadings instances) (instanceEntries list instances) :=
  (Needs.mapM fun i : MstpInstance => (hlist i.vlanList).map _).map _

private theorem needs_vlanRoles (start : String) (vlans : List PvstVlan) :
    Needs (vlanReadings vlans) (vlanRoles start list vlans) :=
  (Needs.mapM fun v : PvstVlan => (hlist v.vlanList).map _).map _

private theorem needs_vlanCosts (start : String) (costs : List VlanCost) :
    Needs (costs.flatMap fun c => [.vlanList c.vlanList]) (vlanCosts start list costs) :=
  (Needs.mapM fun c : VlanCost => (hlist c.vlanList).map _).map _

end Lists

private theorem needs_ciscoVlans (raw : String) : Needs [.vlanList raw] (ciscoVlans raw) :=
  (needs_parseIds raw).map _

variable (s : SpanningTree)

private theorem needs_ports {readings : StpPort → List Reading} (vendor : Vendor)
    {body : StpPort → Except Fault (List Entry)} (hbody : ∀ p, Needs (readings p) (body p)) :
    Needs (s.namedPorts.flatMap readings)
      (s.namedPorts.mapM fun p => do return portBlock vendor p (← body p)) :=
  .mapM fun p => (hbody p).map _

private theorem needs_ciscoEntries : Needs s.ciscoReadings s.ciscoEntries := by
  have hregion : Needs (instanceReadings s.mstpInstances) s.ciscoRegion :=
    (needs_instanceEntries needs_ciscoVlans s.mstpInstances).map _
  have hroles : Needs (vlanReadings s.pvstVlans) s.ciscoRoles := by
    rw [ciscoRoles]
    split
    next hnone =>
      rw [List.isEmpty_iff.mp hnone]
      exact .nothing _
    next => exact needs_vlanRoles needs_ciscoVlans _ s.pvstVlans
  have hbody (mst : Bool) (p : StpPort) :
      Needs (if mst then [] else costReadings p) (ciscoPortBody mst p) :=
    .ite (fun _ => .nothing _) fun _ =>
      (needs_vlanCosts needs_ciscoVlans _ p.pvstVlanCosts).map _
  unfold ciscoEntries ciscoReadings
  dsimp only
  generalize decide (ciscoModeName s.mode = "mst") = mst
  have hports := s.needs_ports .cisco (hbody mst)
  cases mst with
  | true => exact hregion.bind fun roles => hports.map _
  | false => exact hroles.bind fun roles => hports.map _

private theorem needs_vrpRoles (mode : String) :
    Needs (s.vrpRoleReadings mode) (s.vrpRoles mode) := by
  have hinstances := needs_instanceEntries needs_normalList s.mstpInstances
  refine .ite (fun _ => ?_) fun _ => .ite (fun _ => ?_) fun _ => .nothing _
  · exact .ite (fun _ => .nothing _) fun _ => hinstances.map _
  · exact needs_vlanRoles needs_normalList _ s.pvstVlans

private theorem needs_vrpEntries (vendor : Vendor) :
    Needs (s.vrpRoleReadings (vrpModeName vendor s.mode) ++ s.namedPorts.flatMap costReadings)
      (s.vrpEntries vendor) := by
  have hbody (p : StpPort) : Needs (costReadings p) (vrpPortBody vendor p) :=
    (needs_vlanCosts needs_normalList _ p.pvstVlanCosts).map _
  exact (s.needs_vrpRoles _).bind fun roles => (s.needs_ports vendor hbody).map _

private theorem needs_render (vendor : Vendor) : Needs (s.readings vendor) (s.render vendor) := by
  refine .ite (fun _ => .nothing _) fun _ => ?_
  cases vendor with
  | cisco => exact s.needs_ciscoEntries.map _
  | huawei => exact (s.needs_vrpEntries .huawei).map _
  | h3c => exact (s.needs_vrpEntries .h3c).map _
  | generic => exact .nothing _

end SpanningTree

end SpanningTree

section Ipsec

def Ipsec.readings (vendor : Vendor) (s : Ipsec) : List Reading :=
  if !s.enabled then []
  else match vendor with
    | .huawei => s.namedProfiles.flatMap fun p => [.peer p.matchRemoteAddress]
    | .cisco | .h3c | .generic => []

private theorem Ipsec.needs_render (vendor : Vendor) (acls : Acls) (s : Ipsec) :
    Needs (s.readings vendor) (s.render vendor acls) := by
  have hpeer (p : IkeProfile) : Needs [.peer p.matchRemoteAddress] (s.huaweiPeer p) :=
    (needs_remoteAddress p).map _
  refine .ite (fun _ => .nothing _) fun _ => ?_
  cases vendor with
  | huawei => exact ((Needs.mapM hpeer).map _).map _
  | cisco => exact .nothing _
  | h3c => exact .nothing _
  | generic => exact .nothing _

end Ipsec

namespace Feature

/-- What a feature takes apart of the settings of a device, which are those of features that the
    vendor has and that are switched on. -/
def readings (node : Node) : Feature → List Reading :=
  let v := node.vendor
  let c := node.config
  fun
  | linkAggregation => c.linkAggregation.readings v
  | portIsolation => c.portIsolation.readings v
  | dhcp => c.dhcp.readings v
  | dhcpSnooping => c.dhcpSnooping.readings v
  | stp => c.stp.readings v
  | ipsec => c.ipsec.readings v
  | stacking | mlag | dhcpRelay | vlan | interface | routing | vrrp | ha | acl | nat | wireless
  | ssh | security | objectGroups | gre => []

private theorem needs_render (node : Node) (feature : Feature) :
    Needs (feature.readings node) (feature.render node) := by
  cases feature with
  | linkAggregation => exact node.config.linkAggregation.needs_render node.vendor
  | portIsolation => exact node.config.portIsolation.needs_render node.vendor
  | dhcp => exact node.config.dhcp.needs_render node.vendor
  | dhcpSnooping => exact node.config.dhcpSnooping.needs_render node.vendor
  | stp => exact node.config.stp.needs_render node.vendor
  | ipsec => exact node.config.ipsec.needs_render node.vendor node.config.acl
  | stacking | mlag | dhcpRelay | vlan | interface | routing | vrrp | ha | acl | nat | wireless
  | ssh | security | objectGroups | gre => exact .nothing _

/-- A feature has a preview exactly if every setting that it takes apart can be taken apart.
    Otherwise it fails as one of these settings does; nothing else can go wrong. -/
theorem preview_succeeds_iff_readable (node : Node) (feature : Feature) :
    ((∃ fragment, preview node feature.name = .ok fragment) ↔
      ∀ r ∈ feature.readings node, r.IsReadable) ∧
    ∀ fault, preview node feature.name = .error fault →
      ∃ r ∈ feature.readings node, r.FailsWith fault := by
  rw [preview_eq]
  have hneeds := needs_render node feature
  exact ⟨hneeds.succeeds_iff, fun fault hfault => hneeds.error hfault⟩

/-- The document of a device with one feature on. -/
def featureDocument (vendor key : String) (settings : Document.Fields) : Document :=
  .object [("id", .text "n1"), ("vendor", .text vendor),
    ("config", .object [(key, .object (("enabled", .flag true) :: settings))])]

/-- An IKE peer whose address is one blank, a superscript among the VLANs of a spanning tree and one
    in the address of a wireless controller leave three features without a preview. -/
theorem preview_fails_at_unreadable_settings :
    (∃ node, Node.parse (featureDocument "Huawei" "ipsec" [("ikeProfiles",
        .list [.object [("name", .text "PEER"), ("matchRemoteAddress", .text " ")]])]) = .ok node ∧
      preview node "IPsec" = .error .noWord) ∧
    (∃ node, Node.parse (featureDocument "Cisco" "stp" [("mode", .text "pvst"), ("pvstVlans",
        .list [.object [("vlanList", .text "10,²"), ("priority", .text "4096")]])]) = .ok node ∧
      preview node "STP" = .error (.badInteger "²")) ∧
    ∃ node, Node.parse (featureDocument "Cisco" "dhcp" [("pools",
        .list [.object [("poolName", .text "AP"), ("option43", .text "10.0.0.²")]])]) = .ok node ∧
      preview node "DHCP" = .error (.badInteger "²") := by
  refine ⟨⟨_, rfl, ?_⟩, ⟨_, rfl, ?_⟩, _, rfl, ?_⟩
  · decide +kernel
  · decide +kernel
  · decide +kernel

end Feature

end Netscribe
