import Netscribe.Dialect.Rule
import Netscribe.Dialect.Template
/-!
Huawei commands and how Cisco and H3C say them.
-/
namespace Netscribe.Dialect.Huawei

open LinePattern (line text number token dotted afterNumber anyToken anyNumber)

def h3cLacpPeriod (args : List String) (_ : Captures) : String :=
  if args.head? = some "fast" then "lacp period short" else "lacp period long"

/-- A policy address with its mask: a single host, or a subnet. -/
def h3cAddress (direction : String) (args : List String) (_ : Captures) : String :=
  match args with
  | [] => s!"# Incomplete {direction}-address command"
  | ip :: rest =>
    let mask := rest.headD "32"
    if mask = "32" ∨ mask = "255.255.255.255" then s!"{direction}-ip-host {ip}"
    else s!"{direction}-ip-subnet {ip} {mask}"

/-- The word at a distance behind the first occurrence of a keyword. -/
def wordAfter (args : List String) (keyword : String) (distance : Nat) : String :=
  args.getD (args.idxOf keyword + distance) ""

/-- A port, or something else in its place when no number stands there. -/
def portOr (word other : String) : String := if Text.allDigits word then word else other

/-- A server behind a public address as a static mapping of one port. -/
def ciscoNatServer (args : List String) (_ : Captures) : String :=
  if !args.contains "global" || !args.contains "inside" then "# Incomplete nat server command"
  else
    let protocol := if args.contains "protocol" then wordAfter args "protocol" 1 else "tcp"
    let publicIp := wordAfter args "global" 1
    let publicPort := portOr (wordAfter args "global" 2) "any"
    let insideIp := wordAfter args "inside" 1
    let insidePort := portOr (wordAfter args "inside" 2) publicPort
    s!"ip nat inside source static {protocol} {insideIp} {insidePort} {publicIp} {publicPort}"

def h3cNatServer (args : List String) (_ : Captures) : String :=
  s!"nat server {Text.unwords args}"

open Captured

def general : List Rule :=
  [rule "system-view" "Enter system view (global configuration)."
     [toCisco "configure terminal", toH3c "system-view"],
   rule "sysname" "Set the device hostname to $1." [toCisco "hostname $1", toH3c "sysname $1"],
   rule "display ip interface brief" "Show interface IP addresses and state."
     [toCisco "show ip interface brief", toH3c "display ip interface brief"],
   rule "display current-configuration" "Show the running configuration."
     [toCisco "show running-config", toH3c "display current-configuration"],
   rule "save" "Save the current configuration."
     [toCisco "copy running-config startup-config", toH3c "save"]]

def interface : List Rule :=
  [rule "interface" "Enter configuration view of interface $1."
     [toCisco "interface $1", toH3c "interface $1"],
   rule "ip address" "Assign IP address $1 with mask or prefix length $2 to the interface."
     [toCisco "ip address $1 $2", toH3c "ip address $1 $2"],
   rule "description" "Set the interface or VLAN description to $*."
     [toCisco "description $*", toH3c "description $*"],
   rule "shutdown" "Disable the interface." [toCisco "shutdown", toH3c "shutdown"],
   rule "undo shutdown" "Enable the interface." [toCisco "no shutdown", toH3c "undo shutdown"]]

def dhcp : List Rule :=
  [rule "dhcp enable" "Enable DHCP globally." [toCisco "service dhcp", toH3c "dhcp enable"],
   rule "ip pool" "Create DHCP address pool $1 and enter its view."
     [toCisco "ip dhcp pool $1", toH3c "dhcp server ip-pool $1"],
   guarded (line [text "network", token "net", text "mask", token "mask"])
     "network" s!"Allocate addresses from network {net} with mask {mask}."
     [toCisco s!"network {net} {mask}", toH3c s!"network {net} mask {mask}"],
   rule "gateway-list" "Hand out $* as the gateway."
     [toCisco "default-router $*", toH3c "gateway-list $*"],
   rule "dns-list" "Hand out $* as DNS servers." [toCisco "dns-server $*", toH3c "dns-list $*"],
   rule "lease day" "Set the lease to $1 days $3 hours $5 minutes."
     [toCisco "lease $1 $3 $5", toH3c "expired day $1 hour $3 minute $5"],
   rule "excluded-ip-address" "Keep addresses $1 to $2 out of the pool."
     [toCisco "ip dhcp excluded-address $1 $2",
      toH3c "# Configure inside the dhcp server ip-pool\n forbidden-ip $1 $2"],
   rule "static-bind ip-address" "Bind IP address $1 to MAC address $3."
     [toCisco
        ("# Cisco needs a dedicated pool per static binding\nip dhcp pool STATIC_$3\n"
          ++ " host $1\n client-identifier 01$3"),
      toH3c "static-bind ip-address $1 mask <mask> hardware-address $3"],
   rule "dhcp select global" "Serve DHCP on this interface from the global address pools."
     [toCisco "# Cisco needs no command; an interface without ip helper-address is served locally",
      toH3c "dhcp select server"],
   rule "dhcp select relay" "Act as DHCP relay on this interface."
     [toCisco "# Configuring ip helper-address on the interface enables relay",
      toH3c "dhcp select relay"],
   rule "dhcp relay server-ip" "Relay DHCP requests to server $1."
     [toCisco "ip helper-address $1", toH3c "dhcp relay server-address $1"]]

def vlan : List Rule :=
  [rule "vlan batch" "Create VLANs $*." [toCiscoBy ciscoVlanLine, toH3c "vlan $*"],
   rule "vlan" "Create VLAN $1 and enter its view." [toCisco "vlan $1", toH3c "vlan $1"],
   rule "port link-type access" "Set the interface link type to access."
     [toCisco "switchport mode access", toH3c "port link-type access"],
   rule "port default vlan" "Assign the access interface to VLAN $1."
     [toCisco "switchport access vlan $1", toH3c "port access vlan $1"],
   rule "port link-type trunk" "Set the interface link type to trunk."
     [toCisco "switchport mode trunk", toH3c "port link-type trunk"],
   rule "port trunk allow-pass vlan" "Allow VLANs $* on the trunk."
     [toCiscoBy ciscoTrunkLine, toH3c "port trunk permit vlan $*"],
   rule "port trunk pvid vlan" "Set the trunk PVID to VLAN $1."
     [toCisco "switchport trunk native vlan $1", toH3c "port trunk pvid vlan $1"]]

def portIsolation : List Rule :=
  [rule "port-isolate enable group" "Isolate this interface from other ports of group $1."
     [toCisco
        ("switchport protected\n"
          ++ "# Protected ports only isolate within one switch; use private VLANs beyond that"),
      toH3c "port-isolate enable group $1"],
   rule "port-isolate mode"
     "Set the isolation mode to $1; l2 isolates layer 2 only, all isolates layers 2 and 3."
     [toCisco "# Cisco has no equivalent; private VLAN design sets the scope",
      toH3c "# H3C isolates layer 2 and forwards layer 3 by default"],
   rule "port-isolate exclude vlan" "Do not apply port isolation in VLAN $1."
     [toCisco "# Cisco private VLANs use community VLANs for this",
      toH3c
        ("# H3C configures community VLANs inside the isolation group, the reverse approach\n"
          ++ "port-isolate group <group_id>\n community-vlan vlan $1")],
   rule "am isolate" "Block traffic from this interface to interface $1 (one way)."
     [toCisco "# No direct equivalent; needs VLAN ACLs", toH3c "# No direct equivalent"]]

def linkAggregation : List Rule :=
  [rule "interface Eth-Trunk" "Create and enter Eth-Trunk interface $1."
     [toCisco "interface Port-channel$1", toH3c "interface Bridge-Aggregation$1"],
   rule "eth-trunk" "Add this interface to Eth-Trunk $1."
     [toCisco "channel-group $1 mode active", toH3c "port link-aggregation group $1"],
   rule "mode lacp-static" "Run the Eth-Trunk in static LACP mode."
     [toCisco "# Configure on the member interfaces\n channel-group <id> mode active",
      toH3c "# Configure under the Bridge-Aggregation interface\n link-aggregation mode dynamic"],
   rule "mode manual load-balance"
     "Run the Eth-Trunk in manual load-balancing mode (static aggregation)."
     [toCisco "# Configure on the member interfaces\n channel-group <id> mode on",
      toH3c "# Configure under the Bridge-Aggregation interface\n link-aggregation mode static"],
   rule "load-balance" "Set the Eth-Trunk load-balancing method to $1."
     [toCisco "port-channel load-balance $1", toH3c "link-aggregation global load-sharing mode $1"],
   rule "lacp system-priority" "Set the LACP system priority to $1."
     [toCisco "lacp system-priority $1", toH3c "lacp system-priority $1"],
   rule "lacp priority" "Set the LACP port priority of this interface to $1."
     [toCisco "lacp port-priority $1", toH3c "link-aggregation port-priority $1"],
   rule "lacp preempt enable" "Enable LACP preemption on the Eth-Trunk."
     [toCisco "# Cisco preempts by default", toH3c "# H3C preempts by default"],
   rule "lacp preempt delay" "Delay LACP preemption by $1 seconds."
     [toCisco "# No direct equivalent", toH3c "# No direct equivalent"],
   rule "lacp timeout" "Set the LACP timeout; fast is 3 seconds, slow is 90 seconds."
     [toCisco "# No direct equivalent", toH3cBy h3cLacpPeriod]]

def routing : List Rule :=
  [rule "ip route-static" "Add a static route to $1 $2 via next hop $3."
     [toCisco "ip route $1 $2 $3", toH3c "ip route-static $1 $2 $3"],
   rule "ospf" "Start OSPF process $1." [toCisco "router ospf $1", toH3c "ospf $1"],
   rule "area" "Enter OSPF area $1."
     [toCisco "# Configure in the OSPF process\n network ... area $1", toH3c "area $1"],
   guarded (line [text "network", token "net", token "wildcard"])
     "network" s!"Advertise network {net} (wildcard {wildcard}) in the current OSPF area."
     [toCisco s!"network {net} {wildcard} area <area_id>", toH3c s!"network {net} {wildcard}"],
   rule "import-route static" "Redistribute static routes into OSPF."
     [toCisco "redistribute static subnets", toH3c "import-route static"],
   rule "ospf dr-priority"
     ("Set the interface DR priority to $1 (0-255, default 1). Higher values are preferred; 0 "
       ++ "never becomes DR or BDR.")
     [toCisco "ip ospf priority $1", toH3c "ospf dr-priority $1"]]

def vrrp : List Rule :=
  [guarded (line [text "vrrp", text "vrid", number "vrid", text "virtual-ip", token "vip"])
     "vrrp vrid" s!"Set virtual IP {vip} for VRRP group {vrid}."
     [toCisco s!"vrrp {vrid} ip {vip}", toH3c s!"vrrp vrid {vrid} virtual-ip {vip}"],
   guarded (line [text "vrrp", text "vrid", number "vrid", text "priority", number "prio"])
     "vrrp vrid" s!"Set the priority of VRRP group {vrid} to {prio}."
     [toCisco s!"vrrp {vrid} priority {prio}", toH3c s!"vrrp vrid {vrid} priority {prio}"],
   guarded (line [text "vrrp", text "vrid", number "vrid", text "preempt-mode", text "timer",
       text "delay", number "delay"])
     "vrrp vrid" s!"Let VRRP group {vrid} preempt after {delay} seconds."
     [toCisco s!"vrrp {vrid} preempt delay minimum {delay}",
      toH3c s!"vrrp vrid {vrid} preempt-mode delay {delay}"]]

def security : List Rule :=
  [rule "firewall zone name" "Create security zone $1 and enter its view."
     [toH3c "security-zone name $1"],
   rule "set priority" "Set the priority of the current security zone to $1."
     [toH3c "# H3C security zones have no priority"],
   rule "add interface" "Add interface $1 to the current security zone."
     [toH3c "import interface $1"],
   rule "firewall interzone" "Enter the interzone view from zone $1 to zone $2."
     [toH3c "zone-pair security source $1 destination $2"],
   rule "security-policy" "Enter the security policy view." [toH3c "security-policy ip"],
   rule "rule name" "Create security or NAT policy rule $1." [toH3c "rule name $1"],
   rule "source-zone" "Match source security zone $1." [toH3c "source-zone $1"],
   rule "destination-zone" "Match destination security zone $1." [toH3c "destination-zone $1"],
   rule "source-address address-set" "Match source address set $1."
     [toH3c "source-ip object-group-name $1"],
   rule "source-address range" "Match source addresses $1 to $2." [toH3c "source-ip-range $1 $2"],
   rule "source-address" "Match source address $1 with mask $2."
     [toCisco "# Define the match in an ACL\naccess-list <acl_number> permit ip $1 $2 any",
      toH3cBy (h3cAddress "source")],
   rule "destination-address address-set" "Match destination address set $1."
     [toH3c "destination-ip object-group-name $1"],
   rule "destination-address range" "Match destination addresses $1 to $2."
     [toH3c "destination-ip-range $1 $2"],
   rule "destination-address" "Match destination address $1 with mask $2."
     [toCisco "# Define the match in an ACL\naccess-list <acl_number> permit ip any $1 $2",
      toH3cBy (h3cAddress "destination")],
   rule "service service-set" "Match service set $1." [toH3c "service object-group-name $1"],
   rule "time-range" "Apply the rule only during time range $1." [toH3c "time-range $1"],
   rule "action permit" "Permit matching traffic." [toH3c "action pass"],
   rule "action deny" "Drop matching traffic." [toH3c "action drop"]]

def objectGroups : List Rule :=
  [rule "ip address-set" "Create address set $1."
     [toCisco "object-group network $1", toH3c "object-group ip address $1"],
   guarded (line [text "address", afterNumber (dotted "ip"), text "mask", token "mask"])
     "address" s!"Add {ip} with mask {mask} to the address set."
     [toCisco s!"{ip} {mask}", toH3c s!"network subnet {ip} {mask}"],
   guarded (line [text "address", afterNumber (text "range"), token "start", token "end"])
     "address" s!"Add addresses {first} to {last} to the address set."
     [toCisco s!"range {first} {last}", toH3c s!"network range {first} {last}"],
   rule "ip service-set" "Create service set $1."
     [toCisco "object-group service $1", toH3c "object-group service $1"],
   rule "service protocol" "Add a $1 service to the service set."
     [toCisco "service $1", toH3c "service $1"],
   rule "domain-set name" "Create domain set $1."
     [toH3c
        ("# H3C keeps domains as members of an address group\nobject-group ip address $1\n"
          ++ " network host name <domain>")],
   rule "add domain" "Add domain $1 to the domain set." [toH3c "network host name $1"]]

def ipsec : List Rule :=
  [rule "ipsec proposal" "Create IPsec proposal $1, which holds the IPsec security parameters."
     [toCisco "crypto ipsec transform-set $1", toH3c "ipsec transform-set $1"],
   rule "transform" "Use security protocol $1 (esp, ah or ah-esp)."
     [toCisco "# Cisco names the protocol in the transform set, e.g. esp-aes", toH3c "protocol $1"],
   rule "encapsulation-mode" "Use $1 encapsulation (tunnel, transport or auto)."
     [toCisco "# Cisco sets the mode in the transform set; tunnel is the default",
      toH3c "encapsulation-mode $1"],
   rule "esp encryption-algorithm" "Set the ESP encryption algorithm to $1."
     [toCisco "# Set in the transform set, e.g. esp-aes", toH3c "esp encryption-algorithm $1"],
   rule "esp authentication-algorithm" "Set the ESP authentication algorithm to $1."
     [toCisco "# Set in the transform set, e.g. esp-sha-hmac",
      toH3c "esp authentication-algorithm $1"],
   rule "ah authentication-algorithm" "Set the AH authentication algorithm to $1."
     [toCisco "# Set in the transform set, e.g. ah-sha-hmac",
      toH3c "ah authentication-algorithm $1"],
   rule "ike keychain" "Create IKE keychain $1 to hold pre-shared keys."
     [toCisco "# Cisco configures keys directly\ncrypto isakmp key <key> address <address>",
      toH3c "ike keychain $1"],
   rule "pre-shared-key key simple" "Store plain-text pre-shared key $1 in the keychain."
     [toCisco "crypto isakmp key $1 address <address>", toH3c "pre-shared-key key simple $1"],
   rule "ike peer" "Create IKE peer $1."
     [toCisco "crypto isakmp profile $1", toH3c "ike profile $1"],
   rule "remote-address" "Set the peer address to $1."
     [toCisco "# Set with set peer in the crypto map",
      toH3c "# Set with remote-address in the ipsec policy"],
   rule "pre-shared-key keychain" "Use IKE keychain $1 for this peer."
     [toCisco "keyring <keyring_name>", toH3c "keychain $1"],
   rule "ipsec policy" "Create IPsec policy $1 with sequence number $2 in $3 mode."
     [toCisco
        ("crypto map $1 $2 ipsec-isakmp\n"
          ++ "# This is the ISAKMP equivalent; Cisco configures manual mode differently"),
      toH3c "ipsec policy $1 $2 $3"],
   rule "security acl" "Protect the traffic matched by ACL $1."
     [toCisco "match address $1", toH3c "security acl $1"],
   rule "ike-peer" "Use IKE peer $1 for this policy."
     [toCisco "set isakmp-profile $1", toH3c "ike-profile $1"],
   rule "proposal" "Use IPsec proposal $1 for this policy."
     [toCisco "set transform-set $1", toH3c "transform-set $1"],
   rule "tunnel local" "Set the local tunnel address to $1 in a manual policy."
     [toCisco "# Determined by the interface the crypto map is applied to",
      toH3c "local-address $1"],
   rule "tunnel remote" "Set the peer tunnel address to $1 in a manual policy."
     [toCisco "set peer $1", toH3c "remote-address $1"],
   rule "sa spi inbound" "Set the inbound $1 SA SPI to $2 in a manual policy."
     [toCisco "set security-association spi inbound $1 $2", toH3c "sa spi inbound $1 $2"],
   rule "sa spi outbound" "Set the outbound $1 SA SPI to $2 in a manual policy."
     [toCisco "set security-association spi outbound $1 $2", toH3c "sa spi outbound $1 $2"],
   rule "sa string-key inbound" "Set the inbound $1 SA key to $2 in a manual policy."
     [toCisco "# Set the key within the security association",
      toH3c "sa string-key inbound $1 simple $2"],
   rule "sa string-key outbound" "Set the outbound $1 SA key to $2 in a manual policy."
     [toCisco "# Set the key within the security association",
      toH3c "sa string-key outbound $1 simple $2"]]

def ike : List Rule :=
  [rule "ike proposal" "Create IKE proposal $1."
     [toCisco "crypto isakmp policy $1", toH3c "ike proposal $1"],
   rule "encryption-algorithm" "Set the IKE encryption algorithm to $1."
     [toCisco "encryption $1", toH3c "encryption-algorithm $1"],
   rule "dh group" "Set the Diffie-Hellman group to $1." [toCisco "group $1", toH3c "dh group $1"],
   rule "authentication-algorithm" "Set the IKE hash algorithm to $1."
     [toCisco "hash $1", toH3c "authentication-algorithm $1"],
   rule "authentication-method" "Set the IKE authentication method to $1."
     [toCisco "authentication $1", toH3c "authentication-method $1"],
   rule "integrity-algorithm" "Set the IKEv2 integrity algorithm to $1."
     [toCisco "# Cisco IKEv2 proposal: integrity $1", toH3c "# H3C IKEv2 proposal: integrity $1"],
   rule "prf" "Set the IKEv2 pseudo-random function to $1."
     [toCisco "# Cisco IKEv2 proposal: prf $1", toH3c "# H3C IKEv2 proposal: prf $1"]]

def hotStandby : List Rule :=
  [rule "hrp enable" "Enable hot standby (HRP) globally."
     [toH3c "# H3C configures the whole feature under remote-backup group"],
   rule "hrp interface" "Use $1 as the heartbeat interface with peer address $3."
     [toH3c "remote-backup group\n data-channel interface $1"],
   rule "hrp track interface" "Lower this device's priority when interface $1 fails."
     [toH3c "track <id> interface $1\nremote-backup group\n track <id>"],
   rule "hrp track vlan" "Lower this device's priority when every interface of VLAN $1 is down."
     [toH3c "track <id> vlan $1\nremote-backup group\n track <id>"],
   rule "hrp authentication-key" "Authenticate HRP packets with key $1." [],
   rule "hrp auto-sync config" "Back up commands other than static and policy routes automatically."
     [toH3c "configuration auto-sync enable"],
   rule "hrp auto-sync static-route" "Back up static routes automatically." [],
   rule "hrp auto-sync connection-status" "Back up session state automatically."
     [toH3c "hot-backup enable"],
   rule "hrp preempt enable" "Enable preemption."
     [toH3c "# H3C preempts by default; delay-time sets the delay"],
   rule "hrp preempt delay" "Delay preemption by $1 seconds." [toH3c "delay-time $1"],
   rule "hrp device" "Set the device role to $1 (active or standby)."
     [toH3c "device-role <primary/secondary>"],
   rule "hrp escape enable"
     ("Send heartbeats over service interfaces when the heartbeat link fails, avoiding dual "
       ++ "active.")
     []]

def gre : List Rule :=
  [rule "interface Tunnel" "Create and enter tunnel interface $1."
     [toCisco "interface Tunnel$1", toH3c "interface Tunnel$1 mode gre"],
   rule "tunnel-protocol gre" "Use GRE as the tunnel protocol."
     [toCisco "tunnel mode gre ip", toH3c "# H3C sets 'mode gre' when the interface is created"],
   rule "source" "Set the tunnel source address or interface to $1."
     [toCisco "tunnel source $1", toH3c "source $1"],
   rule "destination" "Set the tunnel destination address to $1."
     [toCisco "tunnel destination $1", toH3c "destination $1"],
   rule "gre key" "Set the GRE key to $1." [toCisco "tunnel key $1", toH3c "gre key $1"],
   rule "keepalive" "Enable GRE keepalives to track tunnel state."
     [toCisco "keepalive", toH3c "keepalive"]]

def nat : List Rule :=
  [rule "nat address-group" "Create NAT address group $1."
     [toCisco "ip nat pool $1 <start_ip> <end_ip> netmask <netmask>",
      toH3c "nat address-group <group_id> name $1"],
   guarded (line [text "section", anyNumber, anyToken, anyToken])
     "section" "Add addresses $2 to $3 to the address group as section $1."
     [toCisco "# Cisco defines the range on the ip nat pool command", toH3c "address $2 $3"],
   rule "section" "Add addresses $1 to $2 to the address group."
     [toCisco "# Cisco defines the range on the ip nat pool command", toH3c "address $1 $2"],
   rule "mode pat" "Translate many private addresses to one public address by port (PAT)."
     [toCisco "# Add overload to the ip nat inside source command",
      toH3c "# H3C uses PAT for address groups in nat global-policy by default"],
   rule "mode no-pat" "Translate addresses one to one without changing ports."
     [toCisco "# Omit overload from the ip nat inside source command",
      toH3c "# H3C sets no-pat on the nat outbound or global-policy action"],
   rule "route enable" "Install blackhole routes for the pool addresses to prevent routing loops."
     [toCisco "# Add ip route <pool_net> <pool_mask> Null0 if needed",
      toH3c "# H3C installs blackhole routes by default"],
   rule "nat-policy" "Enter the NAT policy view."
     [toCisco "# Cisco uses an access list with ip nat inside source list",
      toH3c "nat global-policy"],
   rule "action source-nat easy-ip"
     "Translate source addresses to the egress interface address (PAT)."
     [toCisco "ip nat inside source list <acl_number> interface <interface_name> overload",
      toH3c "action snat easy-ip"],
   rule "action source-nat address-group" "Translate source addresses using address group $1."
     [toCisco "ip nat inside source list <acl_number> pool $1 overload",
      toH3c "action snat address-group <group_id_of_pool_$1>"],
   rule "action no-nat" "Do not translate matching traffic."
     [toCisco "# Deny the traffic in the NAT access list", toH3c "action snat no-nat"],
   rule "rule move" "Move NAT rule $*. Rule order sets match priority."
     [toCisco "# Cisco ACL entries match in order; renumber or re-add them", toH3c "rule move $*"],
   rule "nat server" "Map a public address and port to an inside server address and port."
     [toCiscoBy ciscoNatServer, toH3cBy h3cNatServer]]

def stacking : List Rule :=
  [rule "stack enable" "Enable stacking once the stack cables are connected."
     [toCisco "# Cisco StackWise comes up automatically once cabled", toH3c "irf-mode enable"],
   guarded (line [text "stack", text "member-id", number "member", text "renumber", number "new"])
     "stack member-id"
     s!"Renumber stack member {member} to {new}. The device reboots to apply it."
     [toCisco s!"switch {member} renumber {new}", toH3c s!"irf member {member} renumber {new}"],
   guarded (line [text "stack", text "slot", number "slot", text "priority", number "prio"])
     "stack slot" s!"Set the priority of stack member {slot} to {prio}."
     [toCisco s!"switch {slot} priority {prio}", toH3c s!"irf member {slot} priority {prio}"],
   guarded (line [text "stack", text "slot", number "slot"])
     "stack slot" s!"Enter the view of stack member {slot}."
     [toCisco "# Cisco configures members with global commands", toH3c s!"irf member {slot}"],
   rule "priority" "Set the member priority to $1 (1-255). The highest priority becomes master."
     [toCisco "# Cisco uses switch <id> priority $1 in global mode", toH3c "priority $1"],
   rule "renumber" "Renumber this stack member to $1. The device reboots to apply it."
     [toCisco "# Cisco uses switch <old-id> renumber $1 in global mode", toH3c "renumber $1"],
   rule "stack priority" "Set this device's stack priority to $1 (1-255)."
     [toCisco "switch <member-id> priority $1", toH3c "irf priority $1"],
   rule "interface stack-port" "Enter stack port $1."
     [toCisco "# Cisco StackWise uses dedicated stack ports", toH3c "irf-port $1"],
   rule "port interface" "Bind physical interface $1 to the current stack port."
     [toCisco "# Cisco StackWise uses dedicated stack cables", toH3c "port group interface $1"],
   rule "stack domain" "Set the stack domain ID to $1."
     [toCisco "stackwise-virtual domain $1", toH3c "irf domain $1"],
   rule "mad detect mode bfd" "Detect stack splits with BFD."
     [toCisco "stackwise-virtual dual-active detection", toH3c "mad detect method bfd"],
   rule "display stack" "Show stack members, roles, MAC address, priority and state."
     [toCisco "show switch", toH3c "display irf"],
   rule "display stack topology" "Show the stack topology and link state."
     [toCisco "show switch stack-ports", toH3c "display irf topology"],
   rule "display stack configuration" "Show member IDs, priorities and stack port bindings."
     [toCisco "show running-config | include switch", toH3c "display irf configuration"],
   rule "css member-id" "Set this device's CSS member ID to $1."
     [toCisco "switch $1 provision <model>", toH3c "irf member $1"],
   rule "css priority" "Set this device's CSS priority to $1."
     [toCisco "switch <member-id> priority $1", toH3c "irf priority $1"]]

def rules : List Rule :=
  general ++ interface ++ dhcp ++ vlan ++ portIsolation ++ linkAggregation ++ routing ++ vrrp
    ++ security ++ objectGroups ++ ipsec ++ ike ++ hotStandby ++ gre ++ nat ++ stacking

end Netscribe.Dialect.Huawei
