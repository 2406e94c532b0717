import Netscribe.Proofs.Script.Totality
import Netscribe.Proofs.View.Declarations
import Netscribe.Proofs.View.Filters
import Netscribe.Proofs.View.Services
import Netscribe.Proofs.View.Switching
import Netscribe.Proofs.View.Tunnels
/-!
The views of a whole script. Every section but stacking leaves what it enters before the next
command, and so does the comment in place of a section that failed.
-/
namespace Netscribe

open Outcome (Ensures)
open Text (IsOneLine)

/-- Every feature other than stacking and the list that is shown together with its time ranges. -/
theorem Feature.ensures_render {node : Node} (h : IsPlain node) {feature : Feature}
    (hstacking : feature ≠ .stacking) (hacl : feature ≠ .acl) :
    Ensures (Fragment.IsTidy node.vendor) Fault.IsOneLine (feature.render node) := by
  have hconfig := Node.isPlain_config h
  rw [isPlain_record] at hconfig
  simp [NodeConfig.fields] at hconfig
  have hacls : IsPlain node.config.acl := by simp [hconfig]
  have hipsec : IsPlain node.config.ipsec := by simp [hconfig]
  cases feature with
  | linkAggregation => exact LinkAggregation.ensures_render (by simp [hconfig]) node.vendor
  | portIsolation => exact PortIsolation.ensures_render (by simp [hconfig]) node.vendor
  | stacking => exact absurd rfl hstacking
  | mlag => exact .pure (Mlag.isTidy_render (by simp [hconfig]) node.vendor)
  | dhcp => exact DhcpServer.ensures_render (by simp [hconfig]) node.vendor
  | dhcpRelay => exact .pure (DhcpRelay.isTidy_render (by simp [hconfig]) node.vendor)
  | dhcpSnooping => exact DhcpSnooping.ensures_render (by simp [hconfig]) node.vendor
  | vlan => exact .pure (VlanInterfaces.isTidy_render (by simp [hconfig]) hacls hipsec node.vendor)
  | interface =>
    exact .pure (RoutedPorts.isTidy_render (by simp [hconfig]) hacls hipsec node.vendor)
  | stp => exact SpanningTree.ensures_render (by simp [hconfig]) node.vendor
  | routing => exact .pure (Routing.isTidy_render (by simp [hconfig]) node.vendor)
  | vrrp => exact .pure (Vrrp.isTidy_render (by simp [hconfig]) node.vendor)
  | ha => exact .pure (HotStandby.isTidy_render (by simp [hconfig]) node.vendor)
  | acl => exact absurd rfl hacl
  | nat =>
    exact .pure (NatSettings.isTidy_render (by simp [hconfig]) hacls node.vendor node.deviceType)
  | wireless => exact .pure (Wireless.isTidy_render (by simp [hconfig]) node.vendor)
  | ssh => exact .pure (SshServer.isTidy_render (by simp [hconfig]) node.vendor)
  | security => exact .pure (ZoneSecurity.isTidy_render (by simp [hconfig]) node.vendor)
  | objectGroups => exact .pure (ObjectGroups.isTidy_render (by simp [hconfig]) node.vendor)
  | ipsec => exact Ipsec.ensures_render hipsec hacls node.vendor
  | gre => exact .pure (GreVpn.isTidy_render (by simp [hconfig]) node.vendor node.deviceType)

namespace Section

/-- What a section gives, whether it succeeds or fails. -/
def IsTidy (node : Node) (connections : List Connection) (s : Section) : Prop :=
  Ensures (Fragment.IsTidy node.vendor) Fault.IsOneLine (s.render node connections)

variable {node : Node} {connections : List Connection}

/-- Every section but the runbook is tidy for a plain device. -/
theorem isTidy_of_mem_all (h : IsPlain node) (hconnections : ∀ c ∈ connections, IsPlain c)
    {s : Section} (hs : s ∈ all) (htitle : s.title ≠ "Stacking (IRF)") :
    s.IsTidy node connections := by
  have hconfig := Node.isPlain_config h
  rw [isPlain_record] at hconfig
  simp [NodeConfig.fields] at hconfig
  rw [IsTidy]
  obtain hrender | hrender | hrender | ⟨feature, hrender, hacl, hstacking⟩ := render_cases hs
  · rw [hrender]
    exact Node.ensures_linkModes h hconnections
  · rw [hrender]
    exact .pure (TimeRange.isTidy_render (fun r hr => by simp [hconfig, hr]) node.vendor)
  · rw [hrender]
    exact .pure (Acls.isTidy_render (by simp [hconfig]) node.vendor)
  · rw [hrender]
    exact Feature.ensures_render h (fun hfeature => htitle (hstacking hfeature)) hacl

/-- The comment on a failure is a remark. -/
theorem startsRemark_failure (title : String) (fault : Fault) :
    Text.startsRemark s!"# {title} generation failed: {fault.message}" :=
  Text.startsRemark_append (Text.startsRemark_append (Text.startsRemark_append
    (by decide) _) _) _

/-- The headed text of a section leaves every view, also where it is a comment on a failure. -/
theorem leavesViews_headed {s : Section} (hs : s ∈ all) (h : s.IsTidy node connections) :
    LeavesViews node.vendor.closer (Text.shownLines (s.headed node connections)) := by
  have htitle := isOneLine_title s hs
  cases hrender : s.render node connections with
  | ok fragment =>
    rw [headed_eq hrender]
    exact (h.ok hrender).leavesViews s.title htitle
  | error fault =>
    rw [headed, text, hrender]
    exact View.leavesViews_remark htitle (isOneLine_failure htitle (h.error hrender))
      (startsRemark_failure s.title fault)

/-- The headed text of a section has no two empty lines in a row, also where it is a comment on a
    failure. -/
theorem isSpaced_headed {s : Section} (hs : s ∈ all) (h : s.IsTidy node connections) :
    Text.IsSpaced (Text.splitOn '\n' (s.headed node connections)) := by
  have htitle := isOneLine_title s hs
  cases hrender : s.render node connections with
  | ok fragment =>
    rw [headed_eq hrender]
    exact (h.ok hrender).isSpaced s.title htitle
  | error fault =>
    rw [headed, text, hrender]
    exact View.isSpaced_remark htitle (isOneLine_failure htitle (h.error hrender))
      (startsRemark_failure s.title fault)

end Section

namespace Node

/-- Where no setting of a device or of its links holds a line feed, the VLAN database of its script
    and every headed section but the one on stacking enter views only to leave them before the next
    command at the outermost level. -/
theorem leavesViews_compile {node : Node} {connections : List Connection} {script : String}
    (hnode : IsPlain node) (hconnections : ∀ c ∈ connections, IsPlain c)
    (h : node.compile connections = .ok script) :
    ∃ database, node.vlanDatabase connections = .ok database ∧
      script = assemble node.preamble (database :: node.sectionBlocks connections) ∧
      LeavesViews node.vendor.closer (Text.shownLines database) ∧
      ∀ s ∈ Section.all, s.title ≠ "Stacking (IRF)" →
        LeavesViews node.vendor.closer
          (Text.shownLines (Section.block s.title (s.text node connections))) := by
  obtain ⟨database, hdatabase, hscript⟩ := Outcome.bind_eq_ok_iff.mp h
  refine ⟨database, hdatabase, (Except.ok.inj hscript).symm,
    leavesViews_vlanDatabase hnode hdatabase, fun s hs htitle => ?_⟩
  exact Section.leavesViews_headed hs (Section.isTidy_of_mem_all hnode hconnections hs htitle)

/-- A device with a described VLAN, an interface in it and a port that carries it: the views that
    are entered are left again. -/
theorem leavesViews_compile_access :
    let interface : VlanInterface :=
      { vlanId := "10", ipAddress := "10.0.0.1", subnetMask := "24", vlanDescription := "Users" }
    let node : Node :=
      { id := "sw1", vendor := .huawei, ports := [{ id := "p1", name := "GE0/0/1" }]
        config := { vlan := { enabled := true, vlanInterfaces := [interface] } } }
    let link : Connection :=
      { source := { nodeId := "sw1", portId := "p1" }
        config := { mode := .access, accessVlan := "10" } }
    let interfaces := Section.block "VLAN Interfaces" (Section.vlanInterfaces.text node [link])
    let modes := Section.block "Interface Link Modes" (Section.linkModes.text node [link])
    IsPlain node ∧ IsPlain link ∧
      Text.shownLines interfaces = ["interface Vlanif10", " ip address 10.0.0.1 24", "quit"] ∧
      Text.shownLines modes = ["interface GE0/0/1", " port link-type access",
        " port default vlan 10", "quit"] ∧
      ∃ database, node.vlanDatabase [link] = .ok database ∧
        LeavesViews "quit" (Text.shownLines database) ∧
        LeavesViews "quit" (Text.shownLines interfaces) ∧
        LeavesViews "quit" (Text.shownLines modes) := by
  intro interface node link interfaces modes
  have hnode : IsPlain node := by decide +kernel
  have hlink : IsPlain link := by decide +kernel
  obtain ⟨script, hscript⟩ := (compile_succeeds_iff_referencedIds node [link]).mpr ⟨_, rfl⟩
  obtain ⟨database, hdatabase, -, hviews, hsections⟩ :=
    leavesViews_compile hnode (List.forall_mem_singleton.mpr hlink) hscript
  exact ⟨hnode, hlink, by decide +kernel, by decide +kernel, database, hdatabase, hviews,
    hsections _ Section.vlanInterfaces_mem_all (by decide),
    hsections _ Section.linkModes_mem_all (by decide)⟩

end Node
end Netscribe
