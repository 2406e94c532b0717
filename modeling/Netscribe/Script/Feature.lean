import Netscribe.Acl.Commands
import Netscribe.Dhcp.Commands
import Netscribe.DhcpRelay.Commands
import Netscribe.DhcpSnooping.Commands
import Netscribe.Gre.Commands
import Netscribe.HotStandby.Commands
import Netscribe.Interface.Commands
import Netscribe.Ipsec.Commands
import Netscribe.LinkAggregation.Commands
import Netscribe.Mlag.Commands
import Netscribe.Nat.Commands
import Netscribe.ObjectGroup.Commands
import Netscribe.PortIsolation.Commands
import Netscribe.Routing.Commands
import Netscribe.SpanningTree.Commands
import Netscribe.Ssh.Commands
import Netscribe.Stacking.Commands
import Netscribe.TimeRange.Commands
import Netscribe.Device.Node
import Netscribe.Vrrp.Commands
import Netscribe.Wireless.Commands
import Netscribe.Zone.Commands
/-!
The features of a device, each rendered on its own.
-/
namespace Netscribe

inductive Feature
  | linkAggregation | portIsolation | stacking | mlag | dhcp | dhcpRelay | dhcpSnooping | vlan
  | interface | stp | routing | vrrp | ha | acl | nat | wireless | ssh | security | objectGroups
  | ipsec | gre
  deriving DecidableEq, Repr

namespace Feature

def all : List Feature :=
  [linkAggregation, portIsolation, stacking, mlag, dhcp, dhcpRelay, dhcpSnooping, vlan, interface,
   stp, routing, vrrp, ha, acl, nat, wireless, ssh, security, objectGroups, ipsec, gre]

def name : Feature → String
  | linkAggregation => "Link Aggregation"
  | portIsolation => "Port Isolation"
  | stacking => "Stacking (IRF)"
  | mlag => "M-LAG"
  | dhcp => "DHCP"
  | dhcpRelay => "DHCP Relay"
  | dhcpSnooping => "DHCP Snooping"
  | vlan => "VLAN"
  | interface => "Interface"
  | stp => "STP"
  | routing => "Routing"
  | vrrp => "VRRP"
  | ha => "HA"
  | acl => "ACL"
  | nat => "NAT"
  | wireless => "Wireless"
  | ssh => "SSH"
  | security => "Security"
  | objectGroups => "Object Groups"
  | ipsec => "IPsec"
  | gre => "GRE VPN"

def ofName? (name : String) : Option Feature := all.find? (·.name == name)

/-- ACLs together with the time ranges that their rules may name. -/
def aclWithTimeRanges (node : Node) : Fragment :=
  let acl := node.config.acl.render node.vendor
  let ranges := TimeRange.render node.vendor node.config.timeRanges
  { cli := Text.trim (joinBlocks "\n\n" [ranges.cli, acl.cli])
    explanation :=
      if acl.explanation = "" then "ACL and Time-Range configuration generated locally."
      else acl.explanation }

def render (node : Node) : Feature → Except Fault Fragment :=
  let v := node.vendor
  let c := node.config
  fun
  | linkAggregation => c.linkAggregation.render v
  | portIsolation => c.portIsolation.render v
  | stacking => .ok (c.stacking.render v)
  | mlag => .ok (c.mlag.render v)
  | dhcp => c.dhcp.render v
  | dhcpRelay => .ok (c.dhcpRelay.render v)
  | dhcpSnooping => c.dhcpSnooping.render v
  | vlan => .ok (c.vlan.render v c.acl c.ipsec)
  | interface => .ok (c.interfaceIp.render v c.acl c.ipsec)
  | stp => c.stp.render v
  | routing => .ok (c.routing.render v)
  | vrrp => .ok (c.vrrp.render v)
  | ha => .ok (c.ha.render v)
  | acl => .ok (aclWithTimeRanges node)
  | nat => .ok (c.nat.render v node.deviceType c.acl)
  | wireless => .ok (c.wireless.render v)
  | ssh => .ok (c.ssh.render v)
  | security => .ok (c.security.render v)
  | objectGroups => .ok (c.objectGroups.render v)
  | ipsec => c.ipsec.render v c.acl
  | gre => .ok (c.gre.render v node.deviceType)

/-- The fragment of the feature of a name; an unknown name gives a comment. -/
def preview (node : Node) (name : String) : Except Fault Fragment :=
  match ofName? name with
  | some feature => feature.render node
  | none => .ok ⟨s!"# Feature '{name}' not implemented for local generation.", ""⟩

end Feature
end Netscribe
