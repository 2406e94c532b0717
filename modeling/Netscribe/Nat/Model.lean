import Netscribe.Schema.Described
/-!
NAT, which the two vendors arrange differently.
-/
namespace Netscribe

structure NatAddressPool where
  groupId : String := ""
  name : String := ""
  startAddress : String := ""
  endAddress : String := ""
  id : String := ""

def NatAddressPool.fields : List (Field NatAddressPool) :=
  [.of "group_id" (·.groupId) fun r v => { r with groupId := v },
   .of "name" (·.name) fun r v => { r with name := v },
   .of "start_address" (·.startAddress) fun r v => { r with startAddress := v },
   .of "end_address" (·.endAddress) fun r v => { r with endAddress := v },
   .of "id" (·.id) fun r v => { r with id := v }]

instance : Described NatAddressPool := .record NatAddressPool.fields {} .none

structure NatStaticRule where
  direction : String := "outbound"
  kind : String := "one-to-one"
  localIp : String := ""
  globalIp : String := ""
  localStartIp : String := ""
  localEndIp : String := ""
  globalNetwork : String := ""
  globalMask : String := ""
  globalStartIp : String := ""
  globalEndIp : String := ""
  localNetwork : String := ""
  localMask : String := ""
  localAddressGroup : String := ""
  globalAddressGroup : String := ""
  aclId : String := ""
  reversible : Bool := false
  id : String := ""

def NatStaticRule.fields : List (Field NatStaticRule) :=
  [.of "direction" (·.direction) fun r v => { r with direction := v },
   .of "type" (·.kind) fun r v => { r with kind := v },
   .of "local_ip" (·.localIp) fun r v => { r with localIp := v },
   .of "global_ip" (·.globalIp) fun r v => { r with globalIp := v },
   .of "local_start_ip" (·.localStartIp) fun r v => { r with localStartIp := v },
   .of "local_end_ip" (·.localEndIp) fun r v => { r with localEndIp := v },
   .of "global_network" (·.globalNetwork) fun r v => { r with globalNetwork := v },
   .of "global_mask" (·.globalMask) fun r v => { r with globalMask := v },
   .of "global_start_ip" (·.globalStartIp) fun r v => { r with globalStartIp := v },
   .of "global_end_ip" (·.globalEndIp) fun r v => { r with globalEndIp := v },
   .of "local_network" (·.localNetwork) fun r v => { r with localNetwork := v },
   .of "local_mask" (·.localMask) fun r v => { r with localMask := v },
   .of "local_address_group" (·.localAddressGroup) fun r v => { r with localAddressGroup := v },
   .of "global_address_group" (·.globalAddressGroup) fun r v => { r with globalAddressGroup := v },
   .of "acl_id" (·.aclId) fun r v => { r with aclId := v },
   .of "reversible" (·.reversible) fun r v => { r with reversible := v },
   .of "id" (·.id) fun r v => { r with id := v }]

instance : Described NatStaticRule := .record NatStaticRule.fields {} .none

structure PortMapping where
  interfaceName : String := ""
  mappingType : String := "single-global-ip-no-port"
  protocol : String := "tcp"
  policyName : String := ""
  globalAddressType : String := "ip"
  globalAddress : String := ""
  globalEndAddress : String := ""
  globalPort : String := ""
  globalStartPort : String := ""
  globalEndPort : String := ""
  localAddress : String := ""
  localEndAddress : String := ""
  localPort : String := ""
  localStartPort : String := ""
  localEndPort : String := ""
  serverGroupId : String := ""
  aclId : String := ""
  reversible : Bool := false
  id : String := ""

def PortMapping.fields : List (Field PortMapping) :=
  [.of "interface_name" (·.interfaceName) fun r v => { r with interfaceName := v },
   .of "mapping_type" (·.mappingType) fun r v => { r with mappingType := v },
   .of "protocol" (·.protocol) fun r v => { r with protocol := v },
   .of "policy_name" (·.policyName) fun r v => { r with policyName := v },
   .of "global_address_type" (·.globalAddressType) fun r v => { r with globalAddressType := v },
   .of "global_address" (·.globalAddress) fun r v => { r with globalAddress := v },
   .of "global_end_address" (·.globalEndAddress) fun r v => { r with globalEndAddress := v },
   .of "global_port" (·.globalPort) fun r v => { r with globalPort := v },
   .of "global_start_port" (·.globalStartPort) fun r v => { r with globalStartPort := v },
   .of "global_end_port" (·.globalEndPort) fun r v => { r with globalEndPort := v },
   .of "local_address" (·.localAddress) fun r v => { r with localAddress := v },
   .of "local_end_address" (·.localEndAddress) fun r v => { r with localEndAddress := v },
   .of "local_port" (·.localPort) fun r v => { r with localPort := v },
   .of "local_start_port" (·.localStartPort) fun r v => { r with localStartPort := v },
   .of "local_end_port" (·.localEndPort) fun r v => { r with localEndPort := v },
   .of "server_group_id" (·.serverGroupId) fun r v => { r with serverGroupId := v },
   .of "acl_id" (·.aclId) fun r v => { r with aclId := v },
   .of "reversible" (·.reversible) fun r v => { r with reversible := v },
   .of "id" (·.id) fun r v => { r with id := v }]

instance : Described PortMapping := .record PortMapping.fields {} .mappingType

structure ServerGroupMember where
  ip : String := ""
  port : String := ""
  weight : String := ""
  id : String := ""

def ServerGroupMember.fields : List (Field ServerGroupMember) :=
  [.of "ip" (·.ip) fun r v => { r with ip := v },
   .of "port" (·.port) fun r v => { r with port := v },
   .of "weight" (·.weight) fun r v => { r with weight := v },
   .of "id" (·.id) fun r v => { r with id := v }]

instance : Described ServerGroupMember := .record ServerGroupMember.fields {} .none

structure ServerGroup where
  groupId : String := ""
  members : List ServerGroupMember := []
  id : String := ""

def ServerGroup.fields : List (Field ServerGroup) :=
  [.of "group_id" (·.groupId) fun r v => { r with groupId := v },
   .of "members" (·.members) fun r v => { r with members := v },
   .of "id" (·.id) fun r v => { r with id := v }]

instance : Described ServerGroup := .record ServerGroup.fields {} .none

structure GlobalNatRule where
  name : String := ""
  description : String := ""
  enabled : Bool := true
  countingEnabled : Bool := false
  sourceZone : String := ""
  destinationZone : String := ""
  sourceIpType : String := "any"
  sourceIpValue : String := ""
  destinationIpType : String := "any"
  destinationIpValue : String := ""
  serviceType : String := "any"
  serviceValue : String := ""
  snatAction : String := "none"
  snatAddressGroup : String := ""
  snatPortPreserved : Bool := false
  snatReversible : Bool := false
  snatStaticGlobalValue : String := ""
  dnatAction : String := "none"
  dnatLocalAddress : String := ""
  dnatLocalPort : String := ""
  id : String := ""

def GlobalNatRule.fields : List (Field GlobalNatRule) :=
  [.of "name" (·.name) fun r v => { r with name := v },
   .of "description" (·.description) fun r v => { r with description := v },
   .of "enabled" (·.enabled) fun r v => { r with enabled := v },
   .of "counting_enabled" (·.countingEnabled) fun r v => { r with countingEnabled := v },
   .of "source_zone" (·.sourceZone) fun r v => { r with sourceZone := v },
   .of "destination_zone" (·.destinationZone) fun r v => { r with destinationZone := v },
   .of "source_ip_type" (·.sourceIpType) fun r v => { r with sourceIpType := v },
   .of "source_ip_value" (·.sourceIpValue) fun r v => { r with sourceIpValue := v },
   .of "destination_ip_type" (·.destinationIpType) fun r v => { r with destinationIpType := v },
   .of "destination_ip_value" (·.destinationIpValue) fun r v => { r with destinationIpValue := v },
   .of "service_type" (·.serviceType) fun r v => { r with serviceType := v },
   .of "service_value" (·.serviceValue) fun r v => { r with serviceValue := v },
   .of "snat_action" (·.snatAction) fun r v => { r with snatAction := v },
   .of "snat_address_group" (·.snatAddressGroup) fun r v => { r with snatAddressGroup := v },
   .of "snat_port_preserved" (·.snatPortPreserved) fun r v => { r with snatPortPreserved := v },
   .of "snat_reversible" (·.snatReversible) fun r v => { r with snatReversible := v },
   .of "snat_static_global_value" (·.snatStaticGlobalValue)
     fun r v => { r with snatStaticGlobalValue := v },
   .of "dnat_action" (·.dnatAction) fun r v => { r with dnatAction := v },
   .of "dnat_local_address" (·.dnatLocalAddress) fun r v => { r with dnatLocalAddress := v },
   .of "dnat_local_port" (·.dnatLocalPort) fun r v => { r with dnatLocalPort := v },
   .of "id" (·.id) fun r v => { r with id := v }]

instance : Described GlobalNatRule := .record GlobalNatRule.fields {} .none

structure StaticNat where
  enabled : Bool := false
  rules : List NatStaticRule := []

def StaticNat.fields : List (Field StaticNat) :=
  [.of "enabled" (·.enabled) fun r v => { r with enabled := v },
   .of "rules" (·.rules) fun r v => { r with rules := v }]

instance : Described StaticNat := .record StaticNat.fields {} .none

structure PortMappings where
  enabled : Bool := false
  rules : List PortMapping := []

def PortMappings.fields : List (Field PortMappings) :=
  [.of "enabled" (·.enabled) fun r v => { r with enabled := v },
   .of "rules" (·.rules) fun r v => { r with rules := v }]

instance : Described PortMappings := .record PortMappings.fields {} .none

structure NatAddressPools where
  enabled : Bool := false
  pools : List NatAddressPool := []

def NatAddressPools.fields : List (Field NatAddressPools) :=
  [.of "enabled" (·.enabled) fun r v => { r with enabled := v },
   .of "pools" (·.pools) fun r v => { r with pools := v }]

instance : Described NatAddressPools := .record NatAddressPools.fields {} .none

structure GlobalNatPolicy where
  enabled : Bool := false
  rules : List GlobalNatRule := []

def GlobalNatPolicy.fields : List (Field GlobalNatPolicy) :=
  [.of "enabled" (·.enabled) fun r v => { r with enabled := v },
   .of "rules" (·.rules) fun r v => { r with rules := v }]

instance : Described GlobalNatPolicy := .record GlobalNatPolicy.fields {} .none

structure H3cNat where
  staticOutbound : StaticNat := {}
  portMapping : PortMappings := {}
  addressPool : NatAddressPools := {}
  serverGroups : List ServerGroup := []
  globalPolicy : GlobalNatPolicy := {}

def H3cNat.fields : List (Field H3cNat) :=
  [.of "static_outbound" (·.staticOutbound) fun r v => { r with staticOutbound := v },
   .of "port_mapping" (·.portMapping) fun r v => { r with portMapping := v },
   .of "address_pool" (·.addressPool) fun r v => { r with addressPool := v },
   .of "server_groups" (·.serverGroups) fun r v => { r with serverGroups := v },
   .of "global_policy" (·.globalPolicy) fun r v => { r with globalPolicy := v }]

instance : Described H3cNat := .record H3cNat.fields {} .none

structure PoolSection where
  sectionId : String := ""
  startAddress : String := ""
  endAddress : String := ""
  id : String := ""

def PoolSection.fields : List (Field PoolSection) :=
  [.of "section_id" (·.sectionId) fun r v => { r with sectionId := v },
   .of "start_address" (·.startAddress) fun r v => { r with startAddress := v },
   .of "end_address" (·.endAddress) fun r v => { r with endAddress := v },
   .of "id" (·.id) fun r v => { r with id := v }]

instance : Described PoolSection := .record PoolSection.fields {} .none

structure HuaweiNatPool where
  groupName : String := ""
  groupNumber : String := ""
  sections : List PoolSection := []
  mode : String := "pat"
  routeEnable : Bool := false
  id : String := ""

def HuaweiNatPool.fields : List (Field HuaweiNatPool) :=
  [.of "group_name" (·.groupName) fun r v => { r with groupName := v },
   .of "group_number" (·.groupNumber) fun r v => { r with groupNumber := v },
   .of "sections" (·.sections) fun r v => { r with sections := v },
   .of "mode" (·.mode) fun r v => { r with mode := v },
   .of "route_enable" (·.routeEnable) fun r v => { r with routeEnable := v },
   .of "id" (·.id) fun r v => { r with id := v }]

instance : Described HuaweiNatPool := .record HuaweiNatPool.fields {} .none

structure HuaweiNatRule where
  ruleName : String := ""
  sourceAddress : String := ""
  sourceMask : String := ""
  destinationAddress : String := ""
  destinationMask : String := ""
  action : String := "source-nat"
  natAddressGroup : String := ""
  easyIp : Bool := false
  id : String := ""

def HuaweiNatRule.fields : List (Field HuaweiNatRule) :=
  [.of "rule_name" (·.ruleName) fun r v => { r with ruleName := v },
   .of "source_address" (·.sourceAddress) fun r v => { r with sourceAddress := v },
   .of "source_mask" (·.sourceMask) fun r v => { r with sourceMask := v },
   .of "destination_address" (·.destinationAddress) fun r v => { r with destinationAddress := v },
   .of "destination_mask" (·.destinationMask) fun r v => { r with destinationMask := v },
   .of "action" (·.action) fun r v => { r with action := v },
   .of "nat_address_group" (·.natAddressGroup) fun r v => { r with natAddressGroup := v },
   .of "easy_ip" (·.easyIp) fun r v => { r with easyIp := v },
   .of "id" (·.id) fun r v => { r with id := v }]

instance : Described HuaweiNatRule := .record HuaweiNatRule.fields {} .none

structure NatServer where
  name : String := ""
  zone : String := ""
  protocol : String := "any"
  globalAddressType : String := "ip"
  globalAddress : String := ""
  globalAddressEnd : String := ""
  globalInterface : String := ""
  globalPort : String := ""
  globalPortEnd : String := ""
  insideHostAddress : String := ""
  insideHostAddressEnd : String := ""
  insideHostPort : String := ""
  insideHostPortEnd : String := ""
  noReverse : Bool := false
  route : Bool := false
  disabled : Bool := false
  description : String := ""
  id : String := ""

def NatServer.fields : List (Field NatServer) :=
  [.of "name" (·.name) fun r v => { r with name := v },
   .of "zone" (·.zone) fun r v => { r with zone := v },
   .of "protocol" (·.protocol) fun r v => { r with protocol := v },
   .of "global_address_type" (·.globalAddressType) fun r v => { r with globalAddressType := v },
   .of "global_address" (·.globalAddress) fun r v => { r with globalAddress := v },
   .of "global_address_end" (·.globalAddressEnd) fun r v => { r with globalAddressEnd := v },
   .of "global_interface" (·.globalInterface) fun r v => { r with globalInterface := v },
   .of "global_port" (·.globalPort) fun r v => { r with globalPort := v },
   .of "global_port_end" (·.globalPortEnd) fun r v => { r with globalPortEnd := v },
   .of "inside_host_address" (·.insideHostAddress) fun r v => { r with insideHostAddress := v },
   .of "inside_host_address_end" (·.insideHostAddressEnd)
     fun r v => { r with insideHostAddressEnd := v },
   .of "inside_host_port" (·.insideHostPort) fun r v => { r with insideHostPort := v },
   .of "inside_host_port_end" (·.insideHostPortEnd) fun r v => { r with insideHostPortEnd := v },
   .of "no_reverse" (·.noReverse) fun r v => { r with noReverse := v },
   .of "route" (·.route) fun r v => { r with route := v },
   .of "disabled" (·.disabled) fun r v => { r with disabled := v },
   .of "description" (·.description) fun r v => { r with description := v },
   .of "id" (·.id) fun r v => { r with id := v }]

instance : Described NatServer := .record NatServer.fields {} .none

structure HuaweiNat where
  addressPools : List HuaweiNatPool := []
  rules : List HuaweiNatRule := []
  servers : List NatServer := []

def HuaweiNat.fields : List (Field HuaweiNat) :=
  [.of "address_pools" (·.addressPools) fun r v => { r with addressPools := v },
   .of "rules" (·.rules) fun r v => { r with rules := v },
   .of "servers" (·.servers) fun r v => { r with servers := v }]

instance : Described HuaweiNat := .record HuaweiNat.fields {} .none

structure NatSettings where
  enabled : Bool := false
  variant : VendorVariant H3cNat HuaweiNat := .none

def NatSettings.fields : List (Field NatSettings) :=
  [.of "enabled" (·.enabled) fun r v => { r with enabled := v },
   .variant "Nat" (·.variant) fun r v => { r with variant := v }]

instance : Described NatSettings := .record NatSettings.fields {} .none

end Netscribe
