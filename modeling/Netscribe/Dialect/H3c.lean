import Netscribe.Dialect.Rule
import Netscribe.Dialect.Template
/-!
H3C commands and how Cisco and Huawei say them.
-/
namespace Netscribe.Dialect.H3c

open LinePattern (line text number token remainder oneOf lastToken)

def ciscoSpanningTreeMode (_ : List String) (captures : Captures) : String :=
  match captures.lookup "mode" with
  | some "mstp" => "spanning-tree mode mst"
  | some "rstp" => "spanning-tree mode rapid-pvst"
  | _ => "spanning-tree mode pvst"

def ciscoLacpMode (args : List String) (_ : Captures) : String :=
  let mode := args.headD "active"
  s!"channel-group <id> mode {mode}"

def huaweiLacpTimeout (args : List String) (_ : Captures) : String :=
  if args.head? = some "short" then "lacp timeout fast" else "lacp timeout slow"

open Captured

def general : List Rule :=
  [rule "system-view" "Enter system view (global configuration)."
     [toCisco "configure terminal", toHuawei "system-view"],
   rule "sysname" "Set the device hostname to $1." [toCisco "hostname $1", toHuawei "sysname $1"],
   rule "display ip interface brief" "Show interface IP addresses and state."
     [toCisco "show ip interface brief", toHuawei "display ip interface brief"],
   rule "display current-configuration" "Show the running configuration."
     [toCisco "show running-config", toHuawei "display current-configuration"],
   rule "save" "Save the current configuration."
     [toCisco "copy running-config startup-config", toHuawei "save"]]

def interface : List Rule :=
  [rule "interface" "Enter configuration view of interface $1."
     [toCisco "interface $1", toHuawei "interface $1"],
   rule "ip address" "Assign IP address $1 with mask $2 to the interface."
     [toCisco "ip address $1 $2", toHuawei "ip address $1 $2"],
   rule "description" "Set the interface or VLAN description to $*."
     [toCisco "description $*", toHuawei "description $*"],
   rule "shutdown" "Disable the interface." [toCisco "shutdown", toHuawei "shutdown"],
   rule "undo shutdown" "Enable the interface." [toCisco "no shutdown", toHuawei "undo shutdown"]]

def dhcp : List Rule :=
  [rule "dhcp enable" "Enable DHCP globally." [toCisco "service dhcp", toHuawei "dhcp enable"],
   guarded (lastToken "name")
     "dhcp server ip-pool" s!"Create DHCP address pool {name} and enter its view."
     [toCisco s!"ip dhcp pool {name}", toHuawei s!"ip pool {name}"],
   guarded (line [text "network", token "net", text "mask", token "mask"])
     "network" s!"Allocate addresses from network {net} with mask {mask}."
     [toCisco s!"network {net} {mask}", toHuawei s!"network {net} mask {mask}"],
   rule "address range" "Allocate addresses from $1 to $2."
     [toCisco
        ("# Cisco defines the whole range with network and removes addresses with ip dhcp "
          ++ "excluded-address"),
      toHuawei
        ("# Huawei defines the whole range with network and removes addresses with "
          ++ "excluded-ip-address")],
   rule "gateway-list" "Hand out $* as the gateway."
     [toCisco "default-router $*", toHuawei "gateway-list $*"],
   rule "dns-list" "Hand out $* as DNS servers." [toCisco "dns-server $*", toHuawei "dns-list $*"],
   rule "domain-name" "Hand out domain suffix $1."
     [toCisco "domain-name $1", toHuawei "domain-name $1"],
   rule "expired day" "Set the lease to $1 days $3 hours $5 minutes."
     [toCisco "lease $1 $3 $5", toHuawei "lease day $1 hour $3 minute $5"],
   rule "forbidden-ip" "Keep addresses $1 to $2 out of the pool."
     [toCisco "ip dhcp excluded-address $1 $2",
      toHuawei "# Configure inside the ip pool\n excluded-ip-address $1 $2"],
   rule "dhcp server forbidden-ip" "Keep addresses $1 to $2 out of every pool."
     [toCisco "ip dhcp excluded-address $1 $2",
      toHuawei "# Huawei has no global exclusion; configure excluded-ip-address in each ip pool"],
   guarded (line [text "static-bind", text "ip-address", token "ip", text "mask", token "mask",
       text "hardware-address", token "mac"])
     "static-bind ip-address" s!"Bind IP address {ip} to hardware address {mac}."
     [toCisco
        (s!"# Cisco needs a dedicated pool per static binding\nip dhcp pool STATIC_{mac}\n"
          ++ s!" host {ip} {mask}\n client-identifier 01{mac}"),
      toHuawei s!"static-bind ip-address {ip} mac-address {mac}"],
   rule "option 43 hex"
     "Set DHCP option 43, which tells access points the controller address, to hex $1."
     [toCisco "option 43 hex $1",
      toHuawei "# Huawei uses the sub-option form\noption 43 sub-option 3 ascii <AC_IP>"],
   rule "dhcp select server"
     "Act as DHCP server on this interface, using the pool that matches its subnet."
     [toCisco "# Cisco needs no command; an interface without ip helper-address is served locally",
      toHuawei "dhcp select global"],
   rule "dhcp server apply ip-pool" "Bind DHCP pool $1 to this interface."
     [toCisco "# Cisco matches pools to interfaces by the pool's network",
      toHuawei "dhcp select global pool $1"],
   rule "dhcp select relay" "Act as DHCP relay on this interface."
     [toCisco "# Configuring ip helper-address on the interface enables relay",
      toHuawei "dhcp select relay"],
   rule "dhcp relay server-address" "Relay DHCP requests to server $1."
     [toCisco "ip helper-address $1", toHuawei "dhcp relay server-ip $1"]]

def vlan : List Rule :=
  [rule "vlan" "Create VLAN $*." [toCiscoBy ciscoVlanLine, toHuawei "vlan batch $*"],
   rule "port link-type access" "Set the interface link type to access."
     [toCisco "switchport mode access", toHuawei "port link-type access"],
   rule "port access vlan" "Assign the access interface to VLAN $1."
     [toCisco "switchport access vlan $1", toHuawei "port default vlan $1"],
   rule "port link-type trunk" "Set the interface link type to trunk."
     [toCisco "switchport mode trunk", toHuawei "port link-type trunk"],
   rule "port trunk permit vlan" "Allow VLANs $* on the trunk."
     [toCiscoBy ciscoTrunkLine, toHuawei "port trunk allow-pass vlan $*"],
   rule "port trunk pvid vlan" "Set the trunk PVID to VLAN $1."
     [toCisco "switchport trunk native vlan $1", toHuawei "port trunk pvid vlan $1"]]

def portIsolation : List Rule :=
  [rule "port-isolate group" "Create port isolation group $1 and enter its view."
     [toCisco
        ("# Cisco uses private VLANs for this\n# vlan <isolate_vlan_id>\n"
          ++ "# private-vlan isolated"),
      toHuawei
        ("# Huawei enables the group directly on each interface\n"
          ++ "# interface <interface_name>\n# port-isolate enable group $1")],
   rule "community-vlan vlan" "Let traffic in VLAN $1 pass between ports of the isolation group."
     [toCisco "# Cisco private VLANs use community VLANs for this",
      toHuawei
        ("# Huawei excludes VLANs globally, the reverse approach\n"
          ++ "port-isolate exclude vlan $1")],
   rule "port-isolate enable group" "Add this interface to port isolation group $1."
     [toCisco "switchport protected\n# Private VLANs cover more complex cases",
      toHuawei "port-isolate enable group $1"]]

def linkAggregation : List Rule :=
  [rule "interface Bridge-Aggregation" "Create and enter layer 2 aggregate interface $1."
     [toCisco "interface Port-channel$1", toHuawei "interface Eth-Trunk$1"],
   rule "interface Route-Aggregation" "Create and enter layer 3 aggregate interface $1."
     [toCisco "interface Port-channel$1\n no switchport",
      toHuawei "interface Eth-Trunk$1\n undo portswitch"],
   rule "port link-aggregation group" "Add this interface to aggregation group $1."
     [toCisco "channel-group $1 mode active", toHuawei "eth-trunk $1"],
   rule "link-aggregation mode static" "Use static aggregation (no LACP)."
     [toCisco "# Configure on the member interfaces\n channel-group <id> mode on",
      toHuawei "# Configure under the Eth-Trunk interface\n mode manual load-balance"],
   rule "link-aggregation mode dynamic" "Use dynamic aggregation (LACP)."
     [toCisco "# Configure on the member interfaces\n channel-group <id> mode active",
      toHuawei "# Configure under the Eth-Trunk interface\n mode lacp-static"],
   rule "link-aggregation global load-sharing mode" "Set the global load-sharing mode to $*."
     [toCisco "port-channel load-balance $1",
      toHuawei "# Configure under the Eth-Trunk interface\n load-balance $1"],
   rule "lacp system-priority" "Set the LACP system priority to $1."
     [toCisco "lacp system-priority $1", toHuawei "lacp system-priority $1"],
   rule "link-aggregation port-priority" "Set the LACP port priority of this interface to $1."
     [toCisco "lacp port-priority $1", toHuawei "lacp priority $1"],
   rule "lacp mode" "Set the LACP mode of this interface to $1 (active or passive)."
     [toCiscoBy ciscoLacpMode,
      toHuawei "# Huawei does not set active/passive per member interface"],
   rule "lacp period" "Set the LACP timeout; short is 3 seconds, long is 90 seconds."
     [toCisco "# No direct equivalent", toHuaweiBy huaweiLacpTimeout]]

def routing : List Rule :=
  [rule "ip route-static" "Add a static route to $1 $2 via next hop $3."
     [toCisco "ip route $1 $2 $3", toHuawei "ip route-static $1 $2 $3"],
   rule "ospf" "Start OSPF process $1." [toCisco "router ospf $1", toHuawei "ospf $1"],
   rule "area" "Enter OSPF area $1."
     [toCisco "# Configure in the OSPF process\n network ... area $1", toHuawei "area $1"],
   guarded (line [text "network", token "net", token "wildcard"])
     "network" s!"Advertise network {net} (wildcard {wildcard}) in the current OSPF area."
     [toCisco s!"network {net} {wildcard} area <area_id>", toHuawei s!"network {net} {wildcard}"],
   rule "import-route static" "Redistribute static routes into OSPF."
     [toCisco "redistribute static subnets", toHuawei "import-route static"],
   rule "ospf dr-priority"
     ("Set the interface DR priority to $1 (0-255, default 1). Higher values are preferred; 0 "
       ++ "never becomes DR or BDR.")
     [toCisco "ip ospf priority $1", toHuawei "ospf dr-priority $1"]]

def vrrp : List Rule :=
  [guarded (line [text "vrrp", text "vrid", number "vrid", text "virtual-ip", token "vip"])
     "vrrp vrid" s!"Set virtual IP {vip} for VRRP group {vrid}."
     [toCisco s!"vrrp {vrid} ip {vip}", toHuawei s!"vrrp vrid {vrid} virtual-ip {vip}"],
   guarded (line [text "vrrp", text "vrid", number "vrid", text "priority", number "prio"])
     "vrrp vrid" s!"Set the priority of VRRP group {vrid} to {prio}."
     [toCisco s!"vrrp {vrid} priority {prio}", toHuawei s!"vrrp vrid {vrid} priority {prio}"],
   guarded (line [text "vrrp", text "vrid", number "vrid", text "preempt-mode", text "delay",
       number "delay"])
     "vrrp vrid" s!"Let VRRP group {vrid} preempt after {delay} seconds."
     [toCisco s!"vrrp {vrid} preempt delay minimum {delay}",
      toHuawei s!"vrrp vrid {vrid} preempt-mode timer delay {delay}"]]

def security : List Rule :=
  [rule "security-zone name" "Create security zone $1 and enter its view."
     [toHuawei "firewall zone name $1"],
   rule "import interface" "Add layer 3 interface $1 to the current security zone."
     [toHuawei "add interface $1"],
   rule "zone-pair security source" "Create the zone pair from $1 to $3."
     [toHuawei "firewall interzone $1 $3"],
   rule "security-policy ip" "Enter the IPv4 security policy view." [toHuawei "security-policy"],
   rule "rule name" "Create security or NAT policy rule $1." [toHuawei "rule name $1"],
   rule "source-zone" "Match source security zone $1." [toHuawei "source-zone $1"],
   rule "destination-zone" "Match destination security zone $1." [toHuawei "destination-zone $1"],
   rule "source-ip-host" "Match source host $1." [toHuawei "source-address $1 32"],
   rule "source-ip-subnet" "Match source subnet $1 with mask $2." [toHuawei "source-address $1 $2"],
   rule "source-ip-range" "Match source addresses $1 to $2."
     [toHuawei "source-address range $1 $2"],
   rule "source-ip object-group-name" "Match source address object group $1."
     [toHuawei "source-address address-set $1"],
   rule "destination-ip-host" "Match destination host $1." [toHuawei "destination-address $1 32"],
   rule "destination-ip-subnet" "Match destination subnet $1 with mask $2."
     [toHuawei "destination-address $1 $2"],
   rule "destination-ip-range" "Match destination addresses $1 to $2."
     [toHuawei "destination-address range $1 $2"],
   rule "destination-ip object-group-name" "Match destination address object group $1."
     [toHuawei "destination-address address-set $1"],
   rule "service object-group-name" "Match service object group $1."
     [toHuawei "service service-set $1"],
   rule "time-range" "Apply the rule only during time range $1." [toHuawei "time-range $1"],
   rule "action pass" "Permit matching traffic." [toHuawei "action permit"],
   rule "action drop" "Drop matching traffic." [toHuawei "action deny"]]

def objectGroups : List Rule :=
  [rule "object-group ip address" "Create IPv4 address object group $1."
     [toCisco "object-group network $1", toHuawei "ip address-set $1 type object"],
   rule "network host address" "Add host $1 to the address group."
     [toCisco "host $1", toHuawei "address $1 32"],
   rule "network subnet" "Add subnet $1 with mask $2 to the address group."
     [toCisco "$1 $2", toHuawei "address $1 mask $2"],
   rule "network range" "Add addresses $1 to $2 to the address group."
     [toCisco "range $1 $2", toHuawei "address range $1 $2"],
   rule "network host name" "Add host name $1 (FQDN) to the address group."
     [toHuawei
        ("# Huawei keeps domains in a separate domain-set\ndomain-set name <group_name>\n"
          ++ " add domain $1")],
   rule "object-group service" "Create service object group $1."
     [toCisco "object-group service $1", toHuawei "ip service-set $1 type object"],
   rule "service" "Add a $1 service to the service group."
     [toCisco "service $1", toHuawei "service protocol $1"]]

def ipsec : List Rule :=
  [rule "ipsec transform-set" "Create IPsec transform set $1."
     [toCisco "crypto ipsec transform-set $1", toHuawei "ipsec proposal $1"],
   rule "ike keychain" "Create IKE keychain $1."
     [toCisco "crypto isakmp key <key> address <address> <mask>", toHuawei "ike keychain $1"],
   rule "ike profile" "Create IKE profile $1."
     [toCisco "crypto isakmp profile $1",
      toHuawei "# Huawei has no IKE profile; the settings live under ike peer"],
   rule "ipsec policy" "Create IPsec policy $1 with sequence number $2 in $3 mode."
     [toCisco
        ("crypto map $1 $2 ipsec-isakmp\n"
          ++ "# This is the ISAKMP equivalent; Cisco configures manual mode differently"),
      toHuawei "ipsec policy $1 $2 $3"],
   rule "security acl" "Protect the traffic matched by ACL $1."
     [toCisco "match address $1", toHuawei "security acl $1"],
   rule "remote-address" "Set the IPsec tunnel peer address to $1."
     [toCisco "set peer $1", toHuawei "remote-address $1"],
   rule "sa spi inbound" "Set the inbound $1 SA SPI to $2 in a manual policy."
     [toCisco "set security-association spi inbound $1 $2", toHuawei "sa spi inbound $1 $2"],
   rule "sa spi outbound" "Set the outbound $1 SA SPI to $2 in a manual policy."
     [toCisco "set security-association spi outbound $1 $2", toHuawei "sa spi outbound $1 $2"],
   rule "sa string-key inbound" "Set the inbound $1 SA key to $3 ($2 text) in a manual policy."
     [toCisco "# Set the key within the security association",
      toHuawei "sa string-key inbound $1 $3"],
   rule "sa string-key outbound" "Set the outbound $1 SA key to $3 ($2 text) in a manual policy."
     [toCisco "# Set the key within the security association",
      toHuawei "sa string-key outbound $1 $3"]]

def ike : List Rule :=
  [rule "ike proposal" "Create IKE proposal $1."
     [toCisco "crypto isakmp policy $1", toHuawei "ike proposal $1"],
   rule "encryption-algorithm" "Set the IKE encryption algorithm to $1."
     [toCisco "encryption $1", toHuawei "encryption-algorithm $1"],
   rule "dh group" "Set the Diffie-Hellman group to $1."
     [toCisco "group $1", toHuawei "dh group $1"],
   rule "authentication-algorithm" "Set the IKE authentication (hash) algorithm to $1."
     [toCisco "hash $1", toHuawei "authentication-algorithm $1"],
   rule "authentication-method" "Set the IKE authentication method to $1."
     [toCisco "authentication $1", toHuawei "authentication-method $1"]]

/-- Most settings of hot standby have no counterpart elsewhere that is a single line. -/
def hotStandby : List Rule :=
  [rule "remote-backup group" "Enter the remote backup (HA) group view." [],
   rule "device-role primary" "Make this device the primary HA member." [],
   rule "device-role secondary" "Make this device the secondary HA member." [],
   rule "backup-mode dual-active" "Run HA in dual-active mode." [],
   rule "undo backup-mode" "Run HA in active/standby mode (the default)." [],
   rule "local-ip" "Use $1 as the local address of the HA control channel." [],
   rule "remote-ip" "Use $1 port $3 as the peer address of the HA control channel." [],
   rule "keepalive interval" "Send HA keepalives every $1 seconds." [],
   rule "keepalive count" "Declare the peer down after $1 missed keepalives." [],
   rule "data-channel interface" "Carry HA data over interface $1." [],
   rule "hot-backup enable" "Back up session entries to the peer." [],
   rule "configuration auto-sync enable" "Synchronise configuration to the peer automatically."
     [toHuawei "hrp auto-sync config"],
   rule "configuration sync-check" "Check that configuration matches the peer." [],
   rule "delay-time" "Fail back to this device after $1 seconds." [toHuawei "hrp preempt delay $1"],
   rule "track" "Tie HA state to track entry $1." [],
   rule "switchover request" "Force an HA switchover." []]

def nat : List Rule :=
  [rule "nat address-group" "Create NAT address group $1 named $3."
     [toCisco "ip nat pool $3 <start_ip> <end_ip> netmask <netmask>",
      toHuawei "nat address-group $3"],
   rule "nat server protocol"
     "Map $1 traffic for global address $3 port $4 to inside address $6 port $7."
     [toCisco "ip nat inside source static $1 $6 $7 $3 $4",
      toHuawei "nat server protocol $1 global $3 $4 inside $6 $7"],
   rule "nat outbound" "Translate outbound traffic matched by ACL $1 to address group $3."
     [toCisco "ip nat inside source list $1 pool <pool_name_of_$3> overload",
      toHuawei
        ("# Huawei uses nat-policy\nnat-policy\n rule name <rule_name>\n"
          ++ "  source-address acl $1\n  action source-nat address-group <group_name_of_$3>")],
   rule "nat global-policy" "Enter the global NAT policy view."
     [toHuawei "# Huawei configures this under nat-policy"],
   rule "action snat easy-ip" "Translate source addresses to the egress interface address."
     [toHuawei "action source-nat easy-ip"],
   rule "action snat address-group" "Translate source addresses using address group $1."
     [toHuawei "action source-nat address-group $1"],
   rule "action dnat ip-address" "Translate destination addresses to inside address $1 port $3."
     [toHuawei "nat server protocol <tcp/udp> global <global_ip> <global_port> inside $1 $3"],
   rule "action snat no-nat" "Skip source NAT for matching traffic." [toHuawei "action no-nat"],
   rule "action dnat no-nat" "Skip destination NAT for matching traffic."
     [toHuawei "# Huawei uses action no-nat"],
   rule "counting enable" "Count hits on the NAT rule." []]

def spanningTree : List Rule :=
  [guarded (line [text "stp", text "mode", oneOf "mode" "mstp" ["rstp", "stp"]])
     "stp mode" s!"Set the spanning tree mode to {mode}."
     [toCiscoBy ciscoSpanningTreeMode, toHuawei s!"stp mode {mode}"],
   guarded (line [text "stp", text "priority", number "prio"])
     "stp priority" s!"Set the global bridge priority to {prio}."
     [toCisco s!"spanning-tree vlan 1-4094 priority {prio}", toHuawei s!"stp priority {prio}"],
   guarded (line [text "stp", text "root", oneOf "which" "primary" ["secondary"]])
     "stp root" s!"Make this device the {which} root bridge for all VLANs."
     [toCisco s!"spanning-tree vlan 1-4094 root {which}", toHuawei s!"stp root {which}"],
   rule "stp region-configuration" "Enter MST region configuration."
     [toCisco "spanning-tree mst configuration", toHuawei "stp region-configuration"],
   guarded (line [text "region-name", remainder "name"])
     "region-name" s!"Set the MST region name to {name}."
     [toCisco s!"name {name}", toHuawei s!"region-name {name}"],
   guarded (line [text "revision-level", number "rev"])
     "revision-level" s!"Set the MST revision number to {rev}."
     [toCisco s!"revision {rev}", toHuawei s!"revision-level {rev}"],
   guarded (line [text "instance", number "inst", text "vlan", remainder "vlist"])
     "instance" s!"Map VLANs {vlist} to MST instance {inst}."
     [toCisco s!"instance {inst} vlan {vlist}", toHuawei s!"instance {inst} vlan {vlist}"],
   rule "active region-configuration" "Apply the MST region configuration."
     [toCisco "exit", toHuawei "active region-configuration"],
   guarded (line [text "stp", text "instance", number "inst", text "root",
       oneOf "which" "primary" ["secondary"]])
     "stp instance" s!"Make this device the {which} root bridge of instance {inst}."
     [toCisco s!"spanning-tree mst {inst} root {which}",
      toHuawei s!"stp instance {inst} root {which}"],
   guarded (line [text "stp", text "instance", number "inst", text "priority", number "prio"])
     "stp instance" s!"Set the priority of instance {inst} to {prio}."
     [toCisco s!"spanning-tree mst {inst} priority {prio}",
      toHuawei s!"stp instance {inst} priority {prio}"],
   rule "stp edged-port enable" "Make the interface an edge port (Cisco PortFast)."
     [toCisco "spanning-tree portfast", toHuawei "stp edged-port enable"],
   rule "stp bpdu-protection" "Enable BPDU protection (Cisco BPDU Guard)."
     [toCisco "spanning-tree bpduguard enable", toHuawei "stp bpdu-protection"]]

def stacking : List Rule :=
  [rule "chassis convert mode irf"
     ("Switch the device from standalone to IRF mode. The device reboots; the member ID must "
       ++ "already be set.")
     [toCisco "# Cisco StackWise comes up automatically once cabled",
      toHuawei "# Huawei iStack/CSS is enabled with stack enable or automatically"],
   rule "irf-mode enable"
     "Switch the device to IRF mode (newer models). Takes effect after a reboot."
     [toCisco "# Cisco StackWise comes up automatically once cabled",
      toHuawei "# Huawei iStack/CSS is enabled with stack enable or automatically"],
   guarded (line [text "irf", text "member", number "member", text "renumber", number "new"])
     "irf member" s!"Renumber member {member} to {new}. The device reboots to apply it."
     [toCisco s!"switch {member} renumber {new}",
      toHuawei s!"stack member-id {member} renumber {new}"],
   guarded (line [text "irf", text "member", number "member", text "priority", number "prio"])
     "irf member"
     s!"Set the priority of member {member} to {prio}. The highest priority becomes master."
     [toCisco s!"switch {member} priority {prio}",
      toHuawei s!"stack slot {member} priority {prio}"],
   guarded (line [text "irf", text "member", number "member"])
     "irf member" s!"Set the member ID to {member}."
     [toCisco s!"switch {member} provision <model>",
      toHuawei "# Huawei assigns member IDs automatically"],
   rule "irf domain" "Set the IRF domain ID to $1. Every member must share it."
     [toCisco "switch virtual domain $1", toHuawei "# Huawei CSS uses css cluster-id $1"],
   rule "irf priority" "Preset this device's IRF priority to $1."
     [toCisco "switch <member-id> priority $1", toHuawei "stack priority $1"],
   rule "irf-port" "Enter IRF port $1."
     [toCisco "# Cisco StackWise ports are dedicated or set with switch virtual link",
      toHuawei "interface stack-port $1"],
   rule "port group interface" "Bind physical interface $1 to the current IRF port."
     [toCisco "# Cisco StackWise uses dedicated stack cables", toHuawei "port interface $1 enable"],
   rule "irf-port-configuration active"
     "Activate the IRF port configuration so the fabric forms or merges."
     [toCisco "# No direct equivalent; the stack activates once cabled and configured",
      toHuawei "# No direct equivalent; the stack activates once cabled and configured"],
   rule "display irf" "Show IRF members, topology and master."
     [toCisco "show switch", toHuawei "display stack"],
   rule "display irf configuration" "Show the IRF domain, member IDs, priorities and port bindings."
     [toCisco "show running-config | include switch", toHuawei "display stack configuration"]]

def rules : List Rule :=
  general ++ interface ++ dhcp ++ vlan ++ portIsolation ++ linkAggregation ++ routing ++ vrrp
    ++ security ++ objectGroups ++ ipsec ++ ike ++ hotStandby ++ nat ++ spanningTree ++ stacking

end Netscribe.Dialect.H3c
