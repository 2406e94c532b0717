import Netscribe.Schema.Described
/-!
VLAN interfaces and routed ports: addresses, address assignment and what is bound to them.
-/
namespace Netscribe

/-- An address pool that serves one interface only. -/
structure InterfacePool where
  network : String := ""
  subnetMask : String := ""
  gateway : String := ""
  dnsServer : String := ""
  leaseDays : String := ""
  leaseHours : String := ""
  leaseMinutes : String := ""
  leaseSeconds : String := ""

def InterfacePool.fields : List (Field InterfacePool) :=
  [.of "network" (·.network) fun r v => { r with network := v },
   .of "subnet_mask" (·.subnetMask) fun r v => { r with subnetMask := v },
   .of "gateway" (·.gateway) fun r v => { r with gateway := v },
   .of "dns_server" (·.dnsServer) fun r v => { r with dnsServer := v },
   .of "lease_days" (·.leaseDays) fun r v => { r with leaseDays := v },
   .of "lease_hours" (·.leaseHours) fun r v => { r with leaseHours := v },
   .of "lease_minutes" (·.leaseMinutes) fun r v => { r with leaseMinutes := v },
   .of "lease_seconds" (·.leaseSeconds) fun r v => { r with leaseSeconds := v }]

instance : Described InterfacePool := .record InterfacePool.fields {} .none

/-- The routed interface of a VLAN. -/
structure VlanInterface where
  vlanId : String := ""
  ipAddress : String := ""
  subnetMask : String := ""
  vlanDescription : String := ""
  interfaceDescription : String := ""
  enableDhcp : Bool := false
  dhcpMode : String := "global"
  selectedPool : String := ""
  interfacePoolConfig : Option InterfacePool := none
  packetFilterInboundAclId : String := ""
  packetFilterOutboundAclId : String := ""
  ipsecPolicyId : String := ""
  natStaticEnable : Bool := false
  huaweiNatEnable : Bool := false
  natHairpinEnable : Bool := false

def VlanInterface.fields : List (Field VlanInterface) :=
  [.of "vlan_id" (·.vlanId) fun r v => { r with vlanId := v },
   .of "ip_address" (·.ipAddress) fun r v => { r with ipAddress := v },
   .of "subnet_mask" (·.subnetMask) fun r v => { r with subnetMask := v },
   .of "vlan_description" (·.vlanDescription) fun r v => { r with vlanDescription := v },
   .of "interface_description" (·.interfaceDescription)
     fun r v => { r with interfaceDescription := v },
   .keyed "enable_dhcp" "enableDHCP" (·.enableDhcp) fun r v => { r with enableDhcp := v },
   .of "dhcp_mode" (·.dhcpMode) fun r v => { r with dhcpMode := v },
   .of "selected_pool" (·.selectedPool) fun r v => { r with selectedPool := v },
   .of "interface_pool_config" (·.interfacePoolConfig)
     fun r v => { r with interfacePoolConfig := v },
   .of "packet_filter_inbound_acl_id" (·.packetFilterInboundAclId)
     fun r v => { r with packetFilterInboundAclId := v },
   .of "packet_filter_outbound_acl_id" (·.packetFilterOutboundAclId)
     fun r v => { r with packetFilterOutboundAclId := v },
   .of "ipsec_policy_id" (·.ipsecPolicyId) fun r v => { r with ipsecPolicyId := v },
   .of "nat_static_enable" (·.natStaticEnable) fun r v => { r with natStaticEnable := v },
   .of "huawei_nat_enable" (·.huaweiNatEnable) fun r v => { r with huaweiNatEnable := v },
   .of "nat_hairpin_enable" (·.natHairpinEnable) fun r v => { r with natHairpinEnable := v }]

instance : Described VlanInterface := .record VlanInterface.fields {} .none

structure VlanInterfaces where
  enabled : Bool := false
  vlanInterfaces : List VlanInterface := []

def VlanInterfaces.fields : List (Field VlanInterfaces) :=
  [.of "enabled" (·.enabled) fun r v => { r with enabled := v },
   .of "vlan_interfaces" (·.vlanInterfaces) fun r v => { r with vlanInterfaces := v }]

instance : Described VlanInterfaces := .record VlanInterfaces.fields {} .none

/-- A physical port with an address of its own. -/
structure RoutedPort where
  interfaceName : String := ""
  ipAddress : String := ""
  subnetMask : String := ""
  description : String := ""
  enableDhcp : Bool := false
  dhcpMode : String := "global"
  selectedPool : String := ""
  interfacePoolConfig : Option InterfacePool := none
  packetFilterInboundAclId : String := ""
  packetFilterOutboundAclId : String := ""
  ipsecPolicyId : String := ""
  natStaticEnable : Bool := false
  huaweiNatEnable : Bool := false
  natHairpinEnable : Bool := false

def RoutedPort.fields : List (Field RoutedPort) :=
  [.of "interface_name" (·.interfaceName) fun r v => { r with interfaceName := v },
   .of "ip_address" (·.ipAddress) fun r v => { r with ipAddress := v },
   .of "subnet_mask" (·.subnetMask) fun r v => { r with subnetMask := v },
   .of "description" (·.description) fun r v => { r with description := v },
   .keyed "enable_dhcp" "enableDHCP" (·.enableDhcp) fun r v => { r with enableDhcp := v },
   .of "dhcp_mode" (·.dhcpMode) fun r v => { r with dhcpMode := v },
   .of "selected_pool" (·.selectedPool) fun r v => { r with selectedPool := v },
   .of "interface_pool_config" (·.interfacePoolConfig)
     fun r v => { r with interfacePoolConfig := v },
   .of "packet_filter_inbound_acl_id" (·.packetFilterInboundAclId)
     fun r v => { r with packetFilterInboundAclId := v },
   .of "packet_filter_outbound_acl_id" (·.packetFilterOutboundAclId)
     fun r v => { r with packetFilterOutboundAclId := v },
   .of "ipsec_policy_id" (·.ipsecPolicyId) fun r v => { r with ipsecPolicyId := v },
   .of "nat_static_enable" (·.natStaticEnable) fun r v => { r with natStaticEnable := v },
   .of "huawei_nat_enable" (·.huaweiNatEnable) fun r v => { r with huaweiNatEnable := v },
   .of "nat_hairpin_enable" (·.natHairpinEnable) fun r v => { r with natHairpinEnable := v }]

instance : Described RoutedPort := .record RoutedPort.fields {} .none

structure RoutedPorts where
  enabled : Bool := false
  interfaces : List RoutedPort := []

def RoutedPorts.fields : List (Field RoutedPorts) :=
  [.of "enabled" (·.enabled) fun r v => { r with enabled := v },
   .of "interfaces" (·.interfaces) fun r v => { r with interfaces := v }]

instance : Described RoutedPorts := .record RoutedPorts.fields {} .none

end Netscribe
