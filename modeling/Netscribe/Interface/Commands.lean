import Netscribe.Acl.Commands
import Netscribe.Dhcp.Commands
import Netscribe.Interface.Model
import Netscribe.Ipsec.Model
/-!
Commands of routed interfaces: the interfaces of VLANs and physical ports with addresses. A
reference to an ACL or IPsec policy that does not exist leaves its line out.
-/
namespace Netscribe

def Ipsec.findPolicy? (s : Ipsec) (id : String) : Option IpsecPolicy :=
  s.policies.find? (·.id == id)

/-- What both sorts of routed interface have in common. -/
structure RoutedInterface where
  name : String
  description : String
  ipAddress : String
  subnetMask : String
  enableDhcp : Bool
  dhcpMode : String
  selectedPool : String
  pool : Option InterfacePool
  inboundAcl : String
  outboundAcl : String
  ipsecPolicy : String
  natStatic : Bool
  natHuawei : Bool
  natHairpin : Bool

/-- The start of the name that a vendor gives the interface of a VLAN. -/
def vlanInterfaceName : Vendor → String
  | .cisco => "Vlan"
  | .huawei => "Vlanif"
  | .h3c | .generic => "Vlan-interface"

def VlanInterface.routed (vendor : Vendor) (i : VlanInterface) : RoutedInterface where
  name := vlanInterfaceName vendor ++ i.vlanId
  description := i.interfaceDescription
  ipAddress := i.ipAddress
  subnetMask := i.subnetMask
  enableDhcp := i.enableDhcp
  dhcpMode := i.dhcpMode
  selectedPool := i.selectedPool
  pool := i.interfacePoolConfig
  inboundAcl := i.packetFilterInboundAclId
  outboundAcl := i.packetFilterOutboundAclId
  ipsecPolicy := i.ipsecPolicyId
  natStatic := i.natStaticEnable
  natHuawei := i.huaweiNatEnable
  natHairpin := i.natHairpinEnable

def RoutedPort.routed (p : RoutedPort) : RoutedInterface where
  name := p.interfaceName
  description := p.description
  ipAddress := p.ipAddress
  subnetMask := p.subnetMask
  enableDhcp := p.enableDhcp
  dhcpMode := p.dhcpMode
  selectedPool := p.selectedPool
  pool := p.interfacePoolConfig
  inboundAcl := p.packetFilterInboundAclId
  outboundAcl := p.packetFilterOutboundAclId
  ipsecPolicy := p.ipsecPolicyId
  natStatic := p.natStaticEnable
  natHuawei := p.huaweiNatEnable
  natHairpin := p.natHairpinEnable

inductive Direction
  | inbound | outbound
  deriving DecidableEq, Repr

def Direction.name : Direction → String
  | inbound => "inbound"
  | outbound => "outbound"

/-- How a vendor refers to an ACL: by its name if it has one, else by its number. -/
def Acl.reference (vendor : Vendor) (a : Acl) : String :=
  if vendor = .cisco then a.label
  else if a.name = "" then a.number
  else s!"name {a.name}"

def Acl.filterLine (vendor : Vendor) (direction : Direction) (a : Acl) : String :=
  let ref := a.reference vendor
  match vendor with
  | .cisco => s!" ip access-group {ref} " ++ if direction = .inbound then "in" else "out"
  | .huawei => s!" traffic-filter {direction.name} acl {ref}"
  | .h3c | .generic => s!" packet-filter {ref} {direction.name}"

namespace InterfacePool

def hasLease (p : InterfacePool) : Bool :=
  [p.leaseDays, p.leaseHours, p.leaseMinutes].any fun part => orZero part ≠ "0"

def entries (p : InterfacePool) : List Entry :=
  let days := orZero p.leaseDays
  let hours := orZero p.leaseHours
  let minutes := orZero p.leaseMinutes
  onlyIf (p.dnsServer ≠ "") [command s!" dhcp server dns-list {p.dnsServer}"]
    ++ onlyIf p.hasLease
      [command s!" dhcp server lease day {days} hour {hours} minute {minutes}"]

end InterfacePool

namespace RoutedInterface

def addressEntries (i : RoutedInterface) : List Entry :=
  onlyIf (i.description ≠ "")
      [command s!" description {i.description}" "Sets the interface description."]
    ++ onlyIf (i.ipAddress ≠ "" ∧ i.subnetMask ≠ "")
      [command s!" ip address {i.ipAddress} {i.subnetMask}"
        s!"Assigns {i.ipAddress}/{i.subnetMask} to the interface."]

def huaweiDhcp (i : RoutedInterface) : List Entry :=
  if i.dhcpMode = "global" ∧ i.selectedPool ≠ "" then
    [command " dhcp select global" s!"Serves DHCP from global pool {i.selectedPool}."]
  else onlyIf (i.dhcpMode = "interface")
    (command " dhcp select interface" "Serves DHCP from an interface address pool."
      :: i.pool.toList.flatMap InterfacePool.entries)

def h3cDhcp (i : RoutedInterface) : List Entry :=
  onlyIf (i.dhcpMode = "global" ∧ i.selectedPool ≠ "")
    [command " dhcp select server" "Puts the interface in DHCP server mode.",
     command s!" dhcp server apply ip-pool {i.selectedPool}"
       s!"Binds pool {i.selectedPool} to the interface."]

def dhcpEntries (vendor : Vendor) (i : RoutedInterface) : List Entry :=
  if !i.enableDhcp then []
  else match vendor with
    | .huawei => i.huaweiDhcp
    | .h3c => i.h3cDhcp
    | .cisco | .generic =>
      [.note "Cisco pools are matched by subnet; no interface binding is needed."]

def filterEntries (vendor : Vendor) (acls : Acls) (direction : Direction) (id : String) :
    List Entry :=
  (acls.find? id).toList.map fun a =>
    command (a.filterLine vendor direction) s!"Filters {direction.name} traffic with ACL {a.label}."

def policyLine (name : String) : Vendor → String
  | .cisco => s!" crypto map {name}"
  | .huawei => s!" ipsec policy {name}"
  | .h3c | .generic => s!" ipsec apply policy {name}"

def ipsecEntries (vendor : Vendor) (ipsec : Ipsec) (i : RoutedInterface) : List Entry :=
  onlyIf (ipsec.enabled ∧ i.ipsecPolicy ≠ "")
    ((ipsec.findPolicy? i.ipsecPolicy).toList.map fun p =>
      command (policyLine p.name vendor) s!"Applies IPsec policy {p.name}.")

def natEntries (vendor : Vendor) (i : RoutedInterface) : List Entry :=
  onlyIf (vendor = .h3c ∧ i.natStatic)
      [command " nat static enable" "Activates static NAT rules on this interface."]
    ++ onlyIf (vendor = .h3c ∧ i.natHairpin)
      [command " nat hairpin enable"
        "Lets internal hosts reach mapped servers by public address."]
    ++ onlyIf (vendor = .huawei ∧ i.natHuawei)
      [command " nat enable" "Enables NAT on the interface."]

/-- Everything inside the view of the interface. -/
def body (vendor : Vendor) (acls : Acls) (ipsec : Ipsec) (i : RoutedInterface) : List Entry :=
  i.addressEntries ++ i.dhcpEntries vendor
    ++ filterEntries vendor acls .inbound i.inboundAcl
    ++ filterEntries vendor acls .outbound i.outboundAcl
    ++ i.ipsecEntries vendor ipsec ++ i.natEntries vendor

def block (vendor : Vendor) (i : RoutedInterface) (body : List Entry) : List Entry :=
  command s!"interface {i.name}" s!"Enters interface {i.name}." :: body
    ++ onlyIf (vendor = .cisco) [command " no shutdown"]
    ++ [command vendor.closer]

end RoutedInterface

namespace VlanInterfaces

/-- Only VLANs with an address have a routed interface. -/
def addressed (v : VlanInterfaces) : List VlanInterface :=
  v.vlanInterfaces.filter fun i => i.vlanId ≠ "" ∧ i.ipAddress ≠ "" ∧ i.subnetMask ≠ ""

def render (vendor : Vendor) (acls : Acls) (ipsec : Ipsec) (v : VlanInterfaces) : Fragment :=
  if !v.enabled then .nothing "VLAN interfaces are disabled."
  else if vendor = .generic then .unsupported "VLAN interfaces" vendor.name
  else
    let blocks := v.addressed.flatMap fun i =>
      let routed := i.routed vendor
      routed.block vendor (routed.body vendor acls ipsec)
    .ofEntries blocks "VLAN interface configuration generated."
      "No VLAN interface has an IP address."

end VlanInterfaces

namespace RoutedPorts

/-- A port without a name, or without any line of its own, is left out. -/
def portEntries (vendor : Vendor) (acls : Acls) (ipsec : Ipsec) (p : RoutedPort) : List Entry :=
  let body := p.routed.body vendor acls ipsec
  onlyIf (p.interfaceName ≠ "" ∧ writesLine body) (p.routed.block vendor body)

def render (vendor : Vendor) (acls : Acls) (ipsec : Ipsec) (r : RoutedPorts) : Fragment :=
  if !r.enabled then .nothing "Physical interface IP is disabled."
  else if vendor = .generic then .unsupported "Physical interface IP" vendor.name
  else
    .ofEntries (r.interfaces.flatMap (portEntries vendor acls ipsec))
      "Physical interface IP configuration generated." "No physical interface carries IP settings."

end RoutedPorts
end Netscribe
