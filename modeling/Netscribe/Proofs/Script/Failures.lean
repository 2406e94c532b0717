import Mathlib.Tactic.FinCases
import Netscribe.Proofs.Fault.Reading
import Netscribe.Script.Section
/-!
How a section can fail. A feature that fails has come upon a list, an address or a range that it
cannot read; nothing else stops it. So the message of a failed section takes one line, whatever the
settings of the device are.
-/
namespace Netscribe

open Outcome (Ensures)

namespace OnlyReads

variable {α β : Type} {x : Except Fault α} {f : α → Except Fault β}

private theorem bind (hx : OnlyReads x) (hf : ∀ a, OnlyReads (f a)) : OnlyReads (x >>= f) :=
  Ensures.bind hx fun a _ => hf a

private theorem mapM (xs : List α) (hf : ∀ x ∈ xs, OnlyReads (f x)) : OnlyReads (xs.mapM f) :=
  (Ensures.mapM hf).imp fun _ _ => trivial

/-- Of two steps one of which is taken. -/
theorem ite {c : Prop} [Decidable c] {y : Except Fault α} (hx : OnlyReads x) (hy : OnlyReads y) :
    OnlyReads (if c then x else y) := by
  by_cases hc : c
  · rwa [if_pos hc]
  · rwa [if_neg hc]

end OnlyReads

namespace AggregationGroup

variable (g : AggregationGroup)

private theorem onlyReads_allowedEntries (keyword : String) (form : List Int → String) :
    OnlyReads (g.allowedEntries keyword form) :=
  (Vlan.onlyReads_parseIds g.trunkAllowedVlans).bind fun _ => .pure trivial

private theorem onlyReads_ciscoParts : OnlyReads g.ciscoParts := by
  have hmode : OnlyReads g.ciscoMode := by
    refine OnlyReads.ite (.pure trivial) (OnlyReads.ite ?_ (.pure trivial))
    exact (g.onlyReads_allowedEntries _ _).bind fun _ => .pure trivial
  exact hmode.bind fun _ => .pure trivial

private theorem onlyReads_huaweiParts : OnlyReads g.huaweiParts := by
  have hmode : OnlyReads g.huaweiMode := by
    refine OnlyReads.ite (.pure trivial) (OnlyReads.ite ?_ (.pure trivial))
    exact (g.onlyReads_allowedEntries _ _).bind fun _ => .pure trivial
  exact hmode.bind fun _ => .pure trivial

private theorem onlyReads_h3cParts : OnlyReads g.h3cParts := by
  have hmode : OnlyReads g.h3cMode := by
    refine OnlyReads.ite ?_ (.pure trivial)
    exact (g.onlyReads_allowedEntries _ _).bind fun _ => .pure trivial
  exact hmode.bind fun _ => .pure trivial

end AggregationGroup

private theorem LinkAggregation.onlyReads_render (vendor : Vendor) (l : LinkAggregation) :
    OnlyReads (l.render vendor) := by
  unfold render
  split
  · exact .pure trivial
  · cases vendor with
    | cisco =>
      exact (OnlyReads.mapM _ fun g _ => g.onlyReads_ciscoParts).bind fun _ => .pure trivial
    | huawei =>
      exact (OnlyReads.mapM _ fun g _ => g.onlyReads_huaweiParts).bind fun _ => .pure trivial
    | h3c =>
      exact (OnlyReads.mapM _ fun g _ => g.onlyReads_h3cParts).bind fun _ => .pure trivial
    | generic => exact .pure trivial

private theorem PortIsolation.onlyReads_render (vendor : Vendor) (p : PortIsolation) :
    OnlyReads (p.render vendor) := by
  have hhuawei : OnlyReads p.huaweiEntries :=
    (Vlan.onlyReads_normalList p.excludedVlans).bind fun _ => .pure trivial
  have hgroup (g : IsolationGroup) : OnlyReads (h3cGroup g) :=
    (Vlan.onlyReads_normalList g.communityVlans).bind fun _ => .pure trivial
  have hh3c : OnlyReads p.h3cEntries :=
    (OnlyReads.mapM p.groups fun g _ => hgroup g).bind fun _ => .pure trivial
  unfold render
  split
  · exact .pure trivial
  · cases vendor with
    | huawei => exact hhuawei.bind fun _ => .pure trivial
    | h3c => exact hh3c.bind fun _ => .pure trivial
    | cisco => exact .pure trivial
    | generic => exact .pure trivial

namespace DhcpPool

variable (p : DhcpPool)

private theorem onlyReads_encodeOption43 (header : String) (capital : Bool) :
    OnlyReads (p.encodeOption43 header capital) :=
  (Ipv4.onlyReads_toHex p.option43 capital).bind fun _ => .pure trivial

private theorem onlyReads_ciscoEntries : OnlyReads p.ciscoEntries :=
  (p.onlyReads_encodeOption43 _ _).bind fun _ => .pure trivial

private theorem onlyReads_h3cEntries : OnlyReads p.h3cEntries :=
  (p.onlyReads_encodeOption43 _ _).bind fun _ => .pure trivial

end DhcpPool

private theorem DhcpServer.onlyReads_render (vendor : Vendor) (s : DhcpServer) :
    OnlyReads (s.render vendor) := by
  unfold render
  dsimp only
  split
  · exact .pure trivial
  · cases vendor with
    | cisco =>
      exact (OnlyReads.mapM _ fun p _ => p.onlyReads_ciscoEntries).bind fun _ => .pure trivial
    | huawei => exact .pure trivial
    | h3c => exact (OnlyReads.mapM _ fun p _ => p.onlyReads_h3cEntries).bind fun _ => .pure trivial
    | generic => exact .pure trivial

private theorem DhcpSnooping.onlyReads_render (vendor : Vendor) (s : DhcpSnooping) :
    OnlyReads (s.render vendor) := by
  have hhuawei : OnlyReads (huaweiEntries s.huawei) :=
    (Vlan.onlyReads_normalList s.huawei.enabledOnVlans).bind fun _ => .pure trivial
  unfold render
  split
  · exact .pure trivial
  · cases vendor with
    | huawei => exact hhuawei.bind fun _ => .pure trivial
    | h3c => exact .pure trivial
    | cisco => exact .pure trivial
    | generic => exact .pure trivial

namespace SpanningTree

private theorem onlyReads_ciscoVlans (raw : String) : OnlyReads (ciscoVlans raw) :=
  (Vlan.onlyReads_parseIds raw).bind fun _ => .pure trivial

section Lists

variable {list : String → Except Fault String} (hlist : ∀ raw, OnlyReads (list raw))

include hlist

private theorem onlyReads_instanceEntries (instances : List MstpInstance) :
    OnlyReads (instanceEntries list instances) :=
  (OnlyReads.mapM instances fun i _ => (hlist i.vlanList).bind fun _ => .pure trivial).bind
    fun _ => .pure trivial

private theorem onlyReads_vlanRoles (start : String) (vlans : List PvstVlan) :
    OnlyReads (vlanRoles start list vlans) :=
  (OnlyReads.mapM vlans fun v _ => (hlist v.vlanList).bind fun _ => .pure trivial).bind
    fun _ => .pure trivial

private theorem onlyReads_vlanCosts (start : String) (costs : List VlanCost) :
    OnlyReads (vlanCosts start list costs) :=
  (OnlyReads.mapM costs fun c _ => (hlist c.vlanList).bind fun _ => .pure trivial).bind
    fun _ => .pure trivial

end Lists

variable (s : SpanningTree)

private theorem onlyReads_ports (vendor : Vendor) {body : StpPort → Except Fault (List Entry)}
    (hbody : ∀ p, OnlyReads (body p)) :
    OnlyReads (s.namedPorts.mapM fun p => do return portBlock vendor p (← body p)) :=
  OnlyReads.mapM _ fun p _ => (hbody p).bind fun _ => .pure trivial

private theorem onlyReads_ciscoEntries : OnlyReads s.ciscoEntries := by
  have hregion : OnlyReads s.ciscoRegion :=
    (onlyReads_instanceEntries onlyReads_ciscoVlans s.mstpInstances).bind fun _ => .pure trivial
  have hroles : OnlyReads s.ciscoRoles :=
    OnlyReads.ite (.pure trivial) (onlyReads_vlanRoles onlyReads_ciscoVlans _ s.pvstVlans)
  have hbody (mst : Bool) (p : StpPort) : OnlyReads (ciscoPortBody mst p) := by
    refine OnlyReads.ite (.pure trivial) ?_
    exact (onlyReads_vlanCosts onlyReads_ciscoVlans _ p.pvstVlanCosts).bind
      fun _ => .pure trivial
  have hports (mst : Bool) := s.onlyReads_ports .cisco (hbody mst)
  refine OnlyReads.ite (hregion.bind fun roles => ?_) (hroles.bind fun roles => ?_)
  · exact (hports _).bind fun _ => .pure trivial
  · exact (hports _).bind fun _ => .pure trivial

private theorem onlyReads_vrpEntries (vendor : Vendor) : OnlyReads (s.vrpEntries vendor) := by
  have hregion : OnlyReads s.vrpRegion := by
    refine OnlyReads.ite (.pure trivial) ?_
    exact (onlyReads_instanceEntries Vlan.onlyReads_normalList s.mstpInstances).bind
      fun _ => .pure trivial
  have hroles (mode : String) : OnlyReads (s.vrpRoles mode) := by
    refine hregion.ite (OnlyReads.ite ?_ (.pure trivial))
    exact onlyReads_vlanRoles Vlan.onlyReads_normalList _ s.pvstVlans
  have hbody (p : StpPort) : OnlyReads (vrpPortBody vendor p) :=
    (onlyReads_vlanCosts Vlan.onlyReads_normalList _ p.pvstVlanCosts).bind fun _ => .pure trivial
  refine (hroles _).bind fun roles => ?_
  exact (s.onlyReads_ports vendor hbody).bind fun _ => .pure trivial

private theorem onlyReads_render (vendor : Vendor) : OnlyReads (s.render vendor) := by
  unfold render
  split
  · exact .pure trivial
  · cases vendor with
    | cisco => exact s.onlyReads_ciscoEntries.bind fun _ => .pure trivial
    | huawei => exact (s.onlyReads_vrpEntries .huawei).bind fun _ => .pure trivial
    | h3c => exact (s.onlyReads_vrpEntries .h3c).bind fun _ => .pure trivial
    | generic => exact .pure trivial

end SpanningTree

namespace Ipsec

/-- An address of blanks alone has no first word, and nothing else about a peer can fail. -/
theorem onlyReads_remoteAddress (profile : IkeProfile) : OnlyReads (remoteAddress profile) := by
  rw [remoteAddress]
  split
  · exact .pure trivial
  · split
    · exact .throw .noWord
    · exact .pure trivial

private theorem onlyReads_render (vendor : Vendor) (acls : Acls) (s : Ipsec) :
    OnlyReads (s.render vendor acls) := by
  have hpeer (profile : IkeProfile) : OnlyReads (s.huaweiPeer profile) :=
    (onlyReads_remoteAddress profile).bind fun _ => .pure trivial
  have hhuawei : OnlyReads (s.huaweiEntries acls) :=
    (OnlyReads.mapM _ fun profile _ => hpeer profile).bind fun _ => .pure trivial
  unfold render
  split
  · exact .pure trivial
  · cases vendor with
    | huawei => exact hhuawei.bind fun _ => .pure trivial
    | h3c => exact .pure trivial
    | cisco => exact .pure trivial
    | generic => exact .pure trivial

end Ipsec

namespace LinkConfig

private theorem onlyReads_body (vendor : Vendor) (c : LinkConfig) : OnlyReads (c.body vendor) := by
  have hallowed : OnlyReads c.allowedIds :=
    (Vlan.onlyReads_parseIds c.trunkAllowedVlans).bind fun _ => .pure trivial
  rw [body]
  cases c.mode with
  | trunk => exact hallowed.bind fun _ => .pure trivial
  | unconfigured | l3 | access => exact .pure trivial

private theorem onlyReads_portNames (port : String) (c : LinkConfig) :
    OnlyReads (c.portNames port) := by
  refine (Port.onlyReads_parseRange c.applyToPortRange).bind fun numbers => ?_
  cases numbers with
  | nil => exact .pure trivial
  | cons n rest => exact .pure trivial

/-- Only the lists of a link can be unreadable. -/
theorem onlyReads_render (vendor : Vendor) (port : String) (skip : String → Bool)
    (c : LinkConfig) : OnlyReads (c.render vendor port skip) := by
  unfold render
  split
  · exact .pure trivial
  · refine (c.onlyReads_body vendor).bind fun lines => ?_
    split
    · exact .pure trivial
    · exact (c.onlyReads_portNames port).bind fun _ => .pure trivial

end LinkConfig

private theorem Node.onlyReads_linkMode (node : Node) (c : Connection) :
    OnlyReads (node.linkMode c) := by
  rw [linkMode]
  exact OnlyReads.ite (.pure trivial) (c.config.onlyReads_render _ _ _)

/-- The link modes fail with a fault of reading only. -/
theorem Node.onlyReads_linkModes (node : Node) (connections : List Connection) :
    OnlyReads (node.linkModes connections) :=
  (OnlyReads.mapM connections fun c _ => node.onlyReads_linkMode c).bind fun _ => .pure trivial

/-- What a feature fails in is reading its settings. -/
theorem Feature.onlyReads_render (node : Node) (feature : Feature) :
    OnlyReads (feature.render node) := by
  cases feature with
  | linkAggregation => exact node.config.linkAggregation.onlyReads_render node.vendor
  | portIsolation => exact node.config.portIsolation.onlyReads_render node.vendor
  | dhcp => exact node.config.dhcp.onlyReads_render node.vendor
  | dhcpSnooping => exact node.config.dhcpSnooping.onlyReads_render node.vendor
  | stp => exact node.config.stp.onlyReads_render node.vendor
  | ipsec => exact node.config.ipsec.onlyReads_render node.vendor node.config.acl
  | stacking | mlag | dhcpRelay | vlan | interface | routing | vrrp | ha | acl | nat | wireless
  | ssh | security | objectGroups | gre => exact .pure trivial

namespace Section

/-- Where a section has its commands from: the modes of links, the time ranges or the ACLs alone,
    or a feature, as which only the section on stacking has those of stacking. -/
theorem render_cases {s : Section} (hs : s ∈ all) :
    s.render = Node.linkModes ∨
    (s.render = fun node _ => .ok (TimeRange.render node.vendor node.config.timeRanges)) ∨
    (s.render = fun node _ => .ok (node.config.acl.render node.vendor)) ∨
    ∃ feature : Feature, (s.render = fun node _ => feature.render node) ∧ feature ≠ .acl ∧
      (feature = .stacking → s.title = "Stacking (IRF)") := by
  have hfeature {title : String} {feature : Feature} {enabled : Node → Bool} (hacl : feature ≠ .acl)
      (hstacking : feature = .stacking → title = "Stacking (IRF)") :
      ∃ other : Feature, ((ofFeature title feature enabled).render = fun node _ =>
        other.render node) ∧ other ≠ .acl ∧ (other = .stacking → title = "Stacking (IRF)") :=
    ⟨feature, rfl, hacl, hstacking⟩
  rw [all] at hs
  fin_cases hs
  all_goals first
    | exact .inr (.inr (.inr (hfeature (by decide) (by decide))))
    | exact .inr (.inr (.inl rfl))
    | exact .inr (.inl rfl)
    | exact .inl rfl

/-- Only the modes of links and features can fail. -/
theorem onlyReads_of_mem_all {s : Section} (hs : s ∈ all) (node : Node)
    (connections : List Connection) : OnlyReads (s.render node connections) := by
  obtain hrender | hrender | hrender | ⟨feature, hrender, -⟩ := render_cases hs
  · rw [hrender]
    exact node.onlyReads_linkModes connections
  · rw [hrender]
    exact .pure trivial
  · rw [hrender]
    exact .pure trivial
  · rw [hrender]
    exact feature.onlyReads_render node

/-- Every title is one line. -/
theorem isOneLine_title : ∀ s ∈ all, Text.IsOneLine s.title := by
  decide

/-- The comment on a failure is one line, if the fault is told in one. -/
theorem isOneLine_failure {title : String} {fault : Fault} (htitle : Text.IsOneLine title)
    (h : fault.IsOneLine) : Text.IsOneLine s!"# {title} generation failed: {fault.message}" := by
  have hmessage : Text.IsOneLine fault.message := h
  simp +decide [htitle, hmessage]

end Section

end Netscribe
