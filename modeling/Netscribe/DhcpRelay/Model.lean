import Netscribe.Schema.Described
/-!
DHCP relay agents.
-/
namespace Netscribe

/-- The relay information option of one H3C interface. -/
structure Option82 where
  enabled : Bool := false
  strategy : String := "replace"
  circuitIdFormat : String := "normal"
  circuitIdString : String := ""
  circuitIdVerboseNodeIdentifier : String := ""
  circuitIdVerboseNodeIdentifierString : String := ""
  circuitIdFormatType : String := ""
  remoteIdFormat : String := "normal"
  remoteIdString : String := ""
  remoteIdFormatType : String := ""

def Option82.fields : List (Field Option82) :=
  [.of "enabled" (·.enabled) fun r v => { r with enabled := v },
   .of "strategy" (·.strategy) fun r v => { r with strategy := v },
   .of "circuit_id_format" (·.circuitIdFormat) fun r v => { r with circuitIdFormat := v },
   .of "circuit_id_string" (·.circuitIdString) fun r v => { r with circuitIdString := v },
   .of "circuit_id_verbose_node_identifier" (·.circuitIdVerboseNodeIdentifier)
     fun r v => { r with circuitIdVerboseNodeIdentifier := v },
   .of "circuit_id_verbose_node_identifier_string" (·.circuitIdVerboseNodeIdentifierString)
     fun r v => { r with circuitIdVerboseNodeIdentifierString := v },
   .of "circuit_id_format_type" (·.circuitIdFormatType)
     fun r v => { r with circuitIdFormatType := v },
   .of "remote_id_format" (·.remoteIdFormat) fun r v => { r with remoteIdFormat := v },
   .of "remote_id_string" (·.remoteIdString) fun r v => { r with remoteIdString := v },
   .of "remote_id_format_type" (·.remoteIdFormatType) fun r v => { r with remoteIdFormatType := v }]

instance : Described Option82 := .record Option82.fields {} .none

structure RelaySecurity where
  clientInfoRecording : Bool := false
  clientInfoRefresh : Bool := false
  clientInfoRefreshType : String := "auto"
  clientInfoRefreshInterval : String := ""
  macCheck : Bool := false
  macCheckAgingTime : String := ""

def RelaySecurity.fields : List (Field RelaySecurity) :=
  [.of "client_info_recording" (·.clientInfoRecording)
     fun r v => { r with clientInfoRecording := v },
   .of "client_info_refresh" (·.clientInfoRefresh) fun r v => { r with clientInfoRefresh := v },
   .of "client_info_refresh_type" (·.clientInfoRefreshType)
     fun r v => { r with clientInfoRefreshType := v },
   .of "client_info_refresh_interval" (·.clientInfoRefreshInterval)
     fun r v => { r with clientInfoRefreshInterval := v },
   .of "mac_check" (·.macCheck) fun r v => { r with macCheck := v },
   .of "mac_check_aging_time" (·.macCheckAgingTime) fun r v => { r with macCheckAgingTime := v }]

instance : Described RelaySecurity := .record RelaySecurity.fields {} .none

structure RelayInformation where
  enabled : Bool := false
  strategy : String := "replace"

def RelayInformation.fields : List (Field RelayInformation) :=
  [.of "enabled" (·.enabled) fun r v => { r with enabled := v },
   .of "strategy" (·.strategy) fun r v => { r with strategy := v }]

instance : Described RelayInformation := .record RelayInformation.fields {} .none

structure RelayInsertion where
  vssControl : Bool := false
  linkSelection : Bool := false
  serverIdOverride : Bool := false

def RelayInsertion.fields : List (Field RelayInsertion) :=
  [.of "vss_control" (·.vssControl) fun r v => { r with vssControl := v },
   .of "link_selection" (·.linkSelection) fun r v => { r with linkSelection := v },
   .of "server_id_override" (·.serverIdOverride) fun r v => { r with serverIdOverride := v }]

instance : Described RelayInsertion := .record RelayInsertion.fields {} .none

structure HuaweiOption82 where
  information : RelayInformation := {}
  insert : RelayInsertion := {}

def HuaweiOption82.fields : List (Field HuaweiOption82) :=
  [.of "information" (·.information) fun r v => { r with information := v },
   .of "insert" (·.insert) fun r v => { r with insert := v }]

instance : Described HuaweiOption82 := .record HuaweiOption82.fields {} .none

structure HuaweiRelayOptions where
  sourceIpAddress : String := ""
  gateway : String := ""
  option82 : HuaweiOption82 := {}

def HuaweiRelayOptions.fields : List (Field HuaweiRelayOptions) :=
  [.of "source_ip_address" (·.sourceIpAddress) fun r v => { r with sourceIpAddress := v },
   .of "gateway" (·.gateway) fun r v => { r with gateway := v },
   .of "option82" (·.option82) fun r v => { r with option82 := v }]

instance : Described HuaweiRelayOptions := .record HuaweiRelayOptions.fields {} .none

structure RelayServer where
  ip : String := ""
  vpnInstance : String := ""
  id : String := ""

def RelayServer.fields : List (Field RelayServer) :=
  [.of "ip" (·.ip) fun r v => { r with ip := v },
   .of "vpn_instance" (·.vpnInstance) fun r v => { r with vpnInstance := v },
   .of "id" (·.id) fun r v => { r with id := v }]

instance : Described RelayServer := .record RelayServer.fields {} .none

structure RelayInterface where
  interfaceName : String := ""
  serverAddresses : List RelayServer := []
  option82 : Option82 := {}
  huaweiOptions : Option HuaweiRelayOptions := none

def RelayInterface.fields : List (Field RelayInterface) :=
  [.of "interface_name" (·.interfaceName) fun r v => { r with interfaceName := v },
   .of "server_addresses" (·.serverAddresses) fun r v => { r with serverAddresses := v },
   .of "option82" (·.option82) fun r v => { r with option82 := v },
   .of "huawei_options" (·.huaweiOptions) fun r v => { r with huaweiOptions := v }]

instance : Described RelayInterface := .record RelayInterface.fields {} .none

structure HuaweiRelayGlobals where
  serverMatchCheck : Bool := true
  replyForwardAll : Bool := false
  trustOption82 : Bool := true

def HuaweiRelayGlobals.fields : List (Field HuaweiRelayGlobals) :=
  [.of "server_match_check" (·.serverMatchCheck) fun r v => { r with serverMatchCheck := v },
   .of "reply_forward_all" (·.replyForwardAll) fun r v => { r with replyForwardAll := v },
   .of "trust_option82" (·.trustOption82) fun r v => { r with trustOption82 := v }]

instance : Described HuaweiRelayGlobals := .record HuaweiRelayGlobals.fields {} .none

structure DhcpRelay where
  enabled : Bool := false
  security : RelaySecurity := {}
  dscp : String := ""
  interfaces : List RelayInterface := []
  huawei : HuaweiRelayGlobals := {}

def DhcpRelay.fields : List (Field DhcpRelay) :=
  [.of "enabled" (·.enabled) fun r v => { r with enabled := v },
   .of "security" (·.security) fun r v => { r with security := v },
   .of "dscp" (·.dscp) fun r v => { r with dscp := v },
   .of "interfaces" (·.interfaces) fun r v => { r with interfaces := v },
   .of "huawei" (·.huawei) fun r v => { r with huawei := v }]

instance : Described DhcpRelay := .record DhcpRelay.fields {} .none

end Netscribe
