import Netscribe.LinkMode.Commands
import Netscribe.Script.Feature
import Netscribe.Topology.Parse
/-!
The sections of a device's script, in the order in which they depend on each other.
-/
namespace Netscribe

namespace Node

/-- Whether a port belongs to a group while aggregation is enabled. -/
def isAggregated (node : Node) (port : String) : Bool :=
  port ≠ "" && node.config.linkAggregation.enabled && node.config.linkAggregation.isMember port

/-- The name of the port at the device's end of a connection; empty if there is none. -/
def localPort (node : Node) (c : Connection) : String := node.portName (c.localPortId node.id)

/-- The commands for the device's end of a connection. A port of an aggregation group gets none. -/
def linkMode (node : Node) (c : Connection) : Except Fault String :=
  let port := node.localPort c
  if port = "" || node.isAggregated port then .ok ""
  else c.config.render node.vendor port node.isAggregated

def linkModes (node : Node) (connections : List Connection) : Except Fault Fragment := do
  let blocks ← connections.mapM node.linkMode
  return ⟨Text.unlines (blocks.filter (· ≠ "")), ""⟩

end Node

/-- A headed part of a script, with the condition under which a device has it. -/
structure Section where
  title : String
  enabled : Node → Bool
  render : Node → List Connection → Except Fault Fragment

namespace Section

def ofFeature (title : String) (feature : Feature) (enabled : Node → Bool) : Section where
  title := title
  enabled := enabled
  render node _ := feature.render node

def all : List Section :=
  [ofFeature "Stacking (IRF)" .stacking fun n =>
     n.config.stacking.enabled && n.vendor != .generic,
   ofFeature "M-LAG" .mlag fun n => n.config.mlag.enabled && n.vendor.isVrp,
   ofFeature "SSH Server" .ssh (·.config.ssh.enabled),
   { title := "Time Ranges"
     enabled := fun n => !n.config.timeRanges.isEmpty
     render := fun n _ => .ok (TimeRange.render n.vendor n.config.timeRanges) },
   ofFeature "Object Groups" .objectGroups (·.config.objectGroups.anyEnabled),
   { title := "ACL"
     enabled := (·.config.acl.enabled)
     render := fun n _ => .ok (n.config.acl.render n.vendor) },
   ofFeature "Security" .security fun n =>
     n.config.security.zonesEnabled || n.config.security.policiesEnabled,
   ofFeature "IPsec" .ipsec (·.config.ipsec.enabled),
   ofFeature "DHCP Server" .dhcp (·.config.dhcp.enabled),
   ofFeature "DHCP Relay" .dhcpRelay (·.config.dhcpRelay.enabled),
   ofFeature "DHCP Snooping" .dhcpSnooping (·.config.dhcpSnooping.enabled),
   ofFeature "VLAN Interfaces" .vlan (·.config.vlan.enabled),
   ofFeature "Physical Interfaces" .interface (·.config.interfaceIp.enabled),
   ofFeature "Link Aggregation" .linkAggregation (·.config.linkAggregation.enabled),
   ofFeature "Port Isolation" .portIsolation (·.config.portIsolation.enabled),
   { title := "Interface Link Modes"
     enabled := fun _ => true
     render := Node.linkModes },
   ofFeature "Spanning Tree Protocol" .stp (·.config.stp.enabled),
   ofFeature "Routing" .routing (·.config.routing.isConfigured),
   ofFeature "VRRP" .vrrp (·.config.vrrp.enabled),
   ofFeature "High Availability (HA)" .ha (·.config.ha.enabled),
   ofFeature "NAT" .nat (·.config.nat.enabled),
   ofFeature "Wireless" .wireless (·.config.wireless.enabled),
   ofFeature "GRE VPN" .gre (·.config.gre.enabled)]

/-- A section with its heading; empty for a blank text. -/
def block (title cli : String) : String :=
  if Text.allBlank cli then "" else s!"!\n! {title} Configuration\n!\n{Text.trim cli}"

/-- The text of a section. A failure does not spread: it becomes a comment in its place. -/
def text (s : Section) (node : Node) (connections : List Connection) : String :=
  match s.render node connections with
  | .ok fragment => fragment.cli
  | .error fault => s!"# {s.title} generation failed: {fault.message}"

end Section
end Netscribe
