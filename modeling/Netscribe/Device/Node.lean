import Netscribe.Acl.Model
import Netscribe.Device.Vendor
import Netscribe.Dhcp.Model
import Netscribe.DhcpRelay.Model
import Netscribe.DhcpSnooping.Model
import Netscribe.Gre.Model
import Netscribe.HotStandby.Model
import Netscribe.Interface.Model
import Netscribe.Ipsec.Model
import Netscribe.LinkAggregation.Model
import Netscribe.Mlag.Model
import Netscribe.Nat.Model
import Netscribe.ObjectGroup.Model
import Netscribe.PortIsolation.Model
import Netscribe.Routing.Model
import Netscribe.SpanningTree.Model
import Netscribe.Ssh.Model
import Netscribe.Stacking.Model
import Netscribe.TimeRange.Model
import Netscribe.Vrrp.Model
import Netscribe.Wireless.Model
import Netscribe.Zone.Model
/-!
A device with all its settings.
-/
namespace Netscribe

structure Port where
  id : String
  name : String := ""
  status : String := "available"

def Port.fields : List (Field Port) :=
  [.required "id" (·.id) fun r v => { r with id := v },
   .of "name" (·.name) fun r v => { r with name := v },
   .of "status" (·.status) fun r v => { r with status := v }]

instance : Described Port := .record Port.fields { id := "" } .none

/-- The settings of a device, one field for a feature. -/
structure NodeConfig where
  dhcp : DhcpServer := {}
  dhcpRelay : DhcpRelay := {}
  dhcpSnooping : DhcpSnooping := {}
  vlan : VlanInterfaces := {}
  interfaceIp : RoutedPorts := {}
  linkAggregation : LinkAggregation := {}
  portIsolation : PortIsolation := {}
  stp : SpanningTree := {}
  stacking : Stacking := {}
  mlag : Mlag := {}
  routing : Routing := {}
  vrrp : Vrrp := {}
  acl : Acls := {}
  nat : NatSettings := {}
  security : ZoneSecurity := {}
  objectGroups : ObjectGroups := {}
  ssh : SshServer := {}
  wireless : Wireless := {}
  timeRanges : List TimeRange := []
  ha : HotStandby := {}
  ipsec : Ipsec := {}
  gre : GreVpn := {}

def NodeConfig.fields : List (Field NodeConfig) :=
  [.of "dhcp" (·.dhcp) fun r v => { r with dhcp := v },
   .of "dhcp_relay" (·.dhcpRelay) fun r v => { r with dhcpRelay := v },
   .of "dhcp_snooping" (·.dhcpSnooping) fun r v => { r with dhcpSnooping := v },
   .of "vlan" (·.vlan) fun r v => { r with vlan := v },
   .keyed "interface_ip" "interfaceIP" (·.interfaceIp) fun r v => { r with interfaceIp := v },
   .of "link_aggregation" (·.linkAggregation) fun r v => { r with linkAggregation := v },
   .of "port_isolation" (·.portIsolation) fun r v => { r with portIsolation := v },
   .of "stp" (·.stp) fun r v => { r with stp := v },
   .of "stacking" (·.stacking) fun r v => { r with stacking := v },
   .of "mlag" (·.mlag) fun r v => { r with mlag := v },
   .of "routing" (·.routing) fun r v => { r with routing := v },
   .of "vrrp" (·.vrrp) fun r v => { r with vrrp := v },
   .of "acl" (·.acl) fun r v => { r with acl := v },
   .of "nat" (·.nat) fun r v => { r with nat := v },
   .of "security" (·.security) fun r v => { r with security := v },
   .of "object_groups" (·.objectGroups) fun r v => { r with objectGroups := v },
   .of "ssh" (·.ssh) fun r v => { r with ssh := v },
   .of "wireless" (·.wireless) fun r v => { r with wireless := v },
   .of "time_ranges" (·.timeRanges) fun r v => { r with timeRanges := v },
   .of "ha" (·.ha) fun r v => { r with ha := v },
   .of "ipsec" (·.ipsec) fun r v => { r with ipsec := v },
   .of "gre" (·.gre) fun r v => { r with gre := v }]

instance : Described NodeConfig := .record NodeConfig.fields {} .none

/-- A device of a topology, the unit that a script is compiled for. -/
structure Node where
  id : String
  name : String := ""
  vendor : Vendor := .generic
  deviceType : DeviceType := .l3Switch
  ports : List Port := []
  config : NodeConfig := {}

def Node.fields : List (Field Node) :=
  [.required "id" (·.id) fun r v => { r with id := v },
   .of "name" (·.name) fun r v => { r with name := v },
   .of "vendor" (·.vendor) fun r v => { r with vendor := v },
   .keyed "device_type" "type" (·.deviceType) fun r v => { r with deviceType := v },
   .of "ports" (·.ports) fun r v => { r with ports := v },
   .of "config" (·.config) fun r v => { r with config := v }]

instance : Described Node := .record Node.fields { id := "" } .none

end Netscribe
