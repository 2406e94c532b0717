import Netscribe.Schema.Described
/-!
Aggregation across two devices, which the two vendors arrange differently.
-/
namespace Netscribe

structure NamedInterface where
  name : String := ""
  id : String := ""

def NamedInterface.fields : List (Field NamedInterface) :=
  [.of "name" (·.name) fun r v => { r with name := v },
   .of "id" (·.id) fun r v => { r with id := v }]

instance : Described NamedInterface := .record NamedInterface.fields {} .none

/-- An H3C aggregate that takes part on both devices. -/
structure DrInterface where
  bridgeAggregationId : String := ""
  groupId : String := ""
  systemMac : String := ""
  systemPriority : String := ""
  drcpShortTimeout : Bool := false

def DrInterface.fields : List (Field DrInterface) :=
  [.of "bridge_aggregation_id" (·.bridgeAggregationId)
     fun r v => { r with bridgeAggregationId := v },
   .of "group_id" (·.groupId) fun r v => { r with groupId := v },
   .of "system_mac" (·.systemMac) fun r v => { r with systemMac := v },
   .of "system_priority" (·.systemPriority) fun r v => { r with systemPriority := v },
   .of "drcp_short_timeout" (·.drcpShortTimeout) fun r v => { r with drcpShortTimeout := v }]

instance : Described DrInterface := .record DrInterface.fields {} .none

structure StandaloneMode where
  enabled : Bool := false
  delayTime : String := ""

def StandaloneMode.fields : List (Field StandaloneMode) :=
  [.of "enabled" (·.enabled) fun r v => { r with enabled := v },
   .of "delay_time" (·.delayTime) fun r v => { r with delayTime := v }]

instance : Described StandaloneMode := .record StandaloneMode.fields {} .none

structure MlagKeepalive where
  enabled : Bool := false
  destinationIp : String := ""
  sourceIp : String := ""
  udpPort : String := "6400"
  vpnInstance : String := ""
  interval : String := "1000"
  timeout : String := "5"

def MlagKeepalive.fields : List (Field MlagKeepalive) :=
  [.of "enabled" (·.enabled) fun r v => { r with enabled := v },
   .of "destination_ip" (·.destinationIp) fun r v => { r with destinationIp := v },
   .of "source_ip" (·.sourceIp) fun r v => { r with sourceIp := v },
   .of "udp_port" (·.udpPort) fun r v => { r with udpPort := v },
   .of "vpn_instance" (·.vpnInstance) fun r v => { r with vpnInstance := v },
   .of "interval" (·.interval) fun r v => { r with interval := v },
   .of "timeout" (·.timeout) fun r v => { r with timeout := v }]

instance : Described MlagKeepalive := .record MlagKeepalive.fields {} .none

structure MultiActiveDetection where
  defaultAction : String := "down"
  excludeInterfaces : List NamedInterface := []
  excludeLogicalInterfaces : Bool := false
  includeInterfaces : List NamedInterface := []
  persistent : Bool := false

def MultiActiveDetection.fields : List (Field MultiActiveDetection) :=
  [.of "default_action" (·.defaultAction) fun r v => { r with defaultAction := v },
   .of "exclude_interfaces" (·.excludeInterfaces) fun r v => { r with excludeInterfaces := v },
   .of "exclude_logical_interfaces" (·.excludeLogicalInterfaces)
     fun r v => { r with excludeLogicalInterfaces := v },
   .of "include_interfaces" (·.includeInterfaces) fun r v => { r with includeInterfaces := v },
   .of "persistent" (·.persistent) fun r v => { r with persistent := v }]

instance : Described MultiActiveDetection := .record MultiActiveDetection.fields {} .none

structure H3cMlag where
  systemMac : String := ""
  systemNumber : String := ""
  systemPriority : String := "32768"
  rolePriority : String := "32768"
  standalone : StandaloneMode := {}
  macAddressHold : Bool := false
  peerLinkBridgeAggregationId : String := ""
  peerLinkDrcpShortTimeout : Bool := false
  interfaces : List DrInterface := []
  keepalive : MlagKeepalive := {}
  mad : MultiActiveDetection := {}

def H3cMlag.fields : List (Field H3cMlag) :=
  [.of "system_mac" (·.systemMac) fun r v => { r with systemMac := v },
   .of "system_number" (·.systemNumber) fun r v => { r with systemNumber := v },
   .of "system_priority" (·.systemPriority) fun r v => { r with systemPriority := v },
   .of "role_priority" (·.rolePriority) fun r v => { r with rolePriority := v },
   .of "standalone" (·.standalone) fun r v => { r with standalone := v },
   .of "mac_address_hold" (·.macAddressHold) fun r v => { r with macAddressHold := v },
   .of "peer_link_bridge_aggregation_id" (·.peerLinkBridgeAggregationId)
     fun r v => { r with peerLinkBridgeAggregationId := v },
   .of "peer_link_drcp_short_timeout" (·.peerLinkDrcpShortTimeout)
     fun r v => { r with peerLinkDrcpShortTimeout := v },
   .of "interfaces" (·.interfaces) fun r v => { r with interfaces := v },
   .of "keepalive" (·.keepalive) fun r v => { r with keepalive := v },
   .of "mad" (·.mad) fun r v => { r with mad := v }]

instance : Described H3cMlag := .record H3cMlag.fields {} .none

/-- A Huawei trunk that takes part on both devices. -/
structure MlagTrunk where
  ethTrunkId : String := ""
  mlagId : String := ""
  mode : String := "dual-active"

def MlagTrunk.fields : List (Field MlagTrunk) :=
  [.of "eth_trunk_id" (·.ethTrunkId) fun r v => { r with ethTrunkId := v },
   .of "mlag_id" (·.mlagId) fun r v => { r with mlagId := v },
   .of "mode" (·.mode) fun r v => { r with mode := v }]

instance : Described MlagTrunk := .record MlagTrunk.fields {} .none

structure StandbyElection where
  arp : Bool := false
  nd : Bool := false
  igmp : Bool := false
  dhcp : Bool := false

def StandbyElection.fields : List (Field StandbyElection) :=
  [.of "arp" (·.arp) fun r v => { r with arp := v },
   .of "nd" (·.nd) fun r v => { r with nd := v },
   .of "igmp" (·.igmp) fun r v => { r with igmp := v },
   .of "dhcp" (·.dhcp) fun r v => { r with dhcp := v }]

instance : Described StandbyElection := .record StandbyElection.fields {} .none

structure HuaweiMlag where
  dfsGroupId : String := "1"
  dfsGroupPriority : String := "100"
  authenticationPassword : String := ""
  dualActiveSourceIp : String := ""
  dualActivePeerIp : String := ""
  peerLinkTrunkId : String := ""
  interfaces : List MlagTrunk := []
  activeStandbyElection : Option StandbyElection := none

def HuaweiMlag.fields : List (Field HuaweiMlag) :=
  [.of "dfs_group_id" (·.dfsGroupId) fun r v => { r with dfsGroupId := v },
   .of "dfs_group_priority" (·.dfsGroupPriority) fun r v => { r with dfsGroupPriority := v },
   .of "authentication_password" (·.authenticationPassword)
     fun r v => { r with authenticationPassword := v },
   .of "dual_active_source_ip" (·.dualActiveSourceIp) fun r v => { r with dualActiveSourceIp := v },
   .of "dual_active_peer_ip" (·.dualActivePeerIp) fun r v => { r with dualActivePeerIp := v },
   .of "peer_link_trunk_id" (·.peerLinkTrunkId) fun r v => { r with peerLinkTrunkId := v },
   .of "interfaces" (·.interfaces) fun r v => { r with interfaces := v },
   .of "active_standby_election" (·.activeStandbyElection)
     fun r v => { r with activeStandbyElection := v }]

instance : Described HuaweiMlag := .record HuaweiMlag.fields {} .none

structure Mlag where
  enabled : Bool := false
  variant : VendorVariant H3cMlag HuaweiMlag := .none

def Mlag.fields : List (Field Mlag) :=
  [.of "enabled" (·.enabled) fun r v => { r with enabled := v },
   .variant "Mlag" (·.variant) fun r v => { r with variant := v }]

instance : Described Mlag := .record Mlag.fields {} .none

end Netscribe
