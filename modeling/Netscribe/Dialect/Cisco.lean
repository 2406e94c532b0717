import Netscribe.Dialect.Rule
import Netscribe.Dialect.Template
/-!
Cisco commands and how Huawei and H3C say them.
-/
namespace Netscribe.Dialect.Cisco

open LinePattern (line text number token remainder oneOf vlanList anyToken)

def vlanLine (keyword : String) (args : List String) (_ : Captures) : String :=
  s!"{keyword} {Vlan.spellOut (String.join args)}"

def trunkKeywords : List String := ["add", "remove", "except", "none", "all"]

/-- The keyword in front of a list of VLANs, if there is one, and the list. -/
def trunkArguments : List String → String × List String
  | [] => ("", [])
  | first :: rest => if trunkKeywords.contains first then (first, rest) else ("", first :: rest)

def trunkLine (keyword : String) (args : List String) (_ : Captures) : String :=
  let (action, ids) := trunkArguments args
  let vlans := Vlan.spellOut (Text.unwords ids)
  if action = "remove" then s!"undo {keyword} {vlans}"
  else if action = "all" then s!"{keyword} all"
  else if action = "none" then s!"undo {keyword} all"
  else s!"{keyword} {vlans}"

def spanningTreeMode (_ : List String) (captures : Captures) : String :=
  match captures.lookup "mode" with
  | some "mst" => "stp mode mstp"
  | some "rapid-pvst" => "stp mode rstp"
  | _ => "stp mode stp"

open Captured

def general : List Rule :=
  [rule "configure terminal" "Enter global configuration mode." (toVrp "system-view"),
   rule "hostname" "Set the device hostname to $1." (toVrp "sysname $1"),
   rule "show ip interface brief" "Show a brief summary of IP interface status and addressing."
     (toVrp "display ip interface brief"),
   rule "show running-config" "Show the running configuration."
     (toVrp "display current-configuration"),
   rule "copy running-config startup-config"
     "Save the running configuration to the startup configuration."
     (toVrp "save")]

def interface : List Rule :=
  [rule "interface" "Enter configuration mode for interface $1." (toVrp "interface $1"),
   rule "ip address" "Assign IP address $1 with subnet mask $2 to the interface."
     (toVrp "ip address $1 $2"),
   rule "description" "Set the interface or VLAN description to $*." (toVrp "description $*"),
   rule "shutdown" "Administratively disable the interface." (toVrp "shutdown"),
   rule "no shutdown" "Enable the interface." (toVrp "undo shutdown")]

def dhcp : List Rule :=
  [rule "service dhcp" "Enable the DHCP service globally." (toVrp "dhcp enable"),
   rule "ip dhcp pool" "Create DHCP pool $1 and enter pool configuration mode."
     [toHuawei "ip pool $1", toH3c "dhcp server ip-pool $1"],
   guarded (line [text "network", anyToken, anyToken])
     "network" "Define network $1 with mask $2 for the DHCP pool." (toVrp "network $1 mask $2"),
   rule "default-router" "Hand out $1 as the default gateway." (toVrp "gateway-list $1"),
   rule "dns-server" "Hand out $* as DNS servers." (toVrp "dns-list $*"),
   rule "lease" "Set the lease time to $1 days $2 hours $3 minutes."
     [toHuawei "lease day $1 hour $2 minute $3", toH3c "expired day $1 hour $2 minute $3"],
   rule "ip dhcp excluded-address" "Exclude addresses $1 to $2 from DHCP assignment."
     [toHuawei "# Configure inside the ip pool\n excluded-ip-address $1 $2",
      toH3c "# Configure inside the dhcp server ip-pool\n forbidden-ip $1 $2"],
   rule "ip helper-address" "Relay DHCP requests received on this interface to server $1."
     [toHuawei "dhcp select relay\n dhcp relay server-ip $1",
      toH3c "dhcp select relay\n dhcp relay server-address $1"]]

def vlan : List Rule :=
  [rule "vlan" "Create VLAN $* and enter VLAN configuration mode."
     [toHuaweiBy (vlanLine "vlan batch"), toH3cBy (vlanLine "vlan")],
   rule "name" "Name the current VLAN $*." (toVrp "# In VLAN view\n description $*"),
   rule "switchport mode access" "Put the interface in access mode."
     (toVrp "port link-type access"),
   rule "switchport access vlan" "Assign the access interface to VLAN $1."
     [toHuawei "port default vlan $1", toH3c "port access vlan $1"],
   rule "switchport mode trunk" "Put the interface in trunk mode." (toVrp "port link-type trunk"),
   rule "switchport trunk allowed vlan" "Set the VLANs allowed on the trunk to $*."
     [toHuaweiBy (trunkLine "port trunk allow-pass vlan"),
      toH3cBy (trunkLine "port trunk permit vlan")],
   rule "switchport trunk native vlan" "Set the trunk native VLAN to $1."
     (toVrp "port trunk pvid vlan $1"),
   rule "switchport protected"
     ("Make the interface a protected port. Protected ports in the same VLAN cannot reach "
       ++ "each other, which is one way to isolate ports.")
     (toVrp "port-isolate enable group 1")]

def linkAggregation : List Rule :=
  [rule "interface Port-channel" "Create and enter port-channel interface $1."
     [toHuawei "interface Eth-Trunk$1", toH3c "interface Bridge-Aggregation$1"],
   rule "channel-group"
     ("Add the interface to channel group $1 in mode $2. Huawei and H3C set the mode on the "
       ++ "aggregate interface.")
     [toHuawei
        ("eth-trunk $1\n"
          ++ "# Set the mode under the Eth-Trunk interface (e.g. mode lacp-static)"),
      toH3c
        ("port link-aggregation group $1\n"
          ++ "# Set the mode under the Bridge-Aggregation interface (e.g. link-aggregation "
          ++ "mode dynamic)")],
   rule "port-channel load-balance" "Set the port-channel load-balancing method to $1."
     [toHuawei "# Configure under the Eth-Trunk interface\n load-balance $1",
      toH3c "link-aggregation global load-sharing mode $1"],
   rule "lacp system-priority"
     "Set the LACP system priority to $1. Lower values win the LACP election."
     (toVrp "lacp system-priority $1"),
   rule "lacp port-priority"
     "Set the LACP port priority to $1. Lower values are preferred as active links."
     [toHuawei "lacp priority $1", toH3c "link-aggregation port-priority $1"]]

def routing : List Rule :=
  [rule "ip route" "Add a static route to $1 $2 via next hop $3."
     (toVrp "ip route-static $1 $2 $3"),
   rule "router ospf" "Start OSPF process $1." (toVrp "ospf $1"),
   rule "router-id" "Set the OSPF router ID to $1." (toVrp "# In OSPF process view\n router-id $1"),
   guarded (line [text "network", anyToken, anyToken, text "area", anyToken])
     "network" "Advertise network $1 (wildcard $2) into OSPF area $4."
     (toVrp "# In OSPF area view\n network $1 $2"),
   rule "redistribute static" "Redistribute static routes into OSPF." (toVrp "import-route static"),
   rule "ip ospf priority"
     ("Set the interface's OSPF DR election priority to $1 (0-255, default 1). Higher values "
       ++ "are more likely to become DR; 0 never becomes DR or BDR.")
     (toVrp "ospf dr-priority $1")]

def vrrp : List Rule :=
  [guarded (line [text "vrrp", number "group", text "ip", token "vip"])
     "vrrp" s!"Set virtual IP {vip} for VRRP group {group} on this interface."
     (toVrp s!"vrrp vrid {group} virtual-ip {vip}"),
   guarded (line [text "vrrp", number "group", text "priority", number "prio"])
     "vrrp" s!"Set the priority of VRRP group {group} to {prio}."
     (toVrp s!"vrrp vrid {group} priority {prio}")]

def objectGroups : List Rule :=
  [rule "object-group network"
     "Create network object group $1 to collect hosts, subnets and ranges."
     [toHuawei "ip address-set $1 type object", toH3c "object-group ip address $1"],
   rule "object-group service" "Create service object group $1 to collect protocols and ports."
     [toHuawei "ip service-set $1 type object", toH3c "object-group service $1"]]

def ipsec : List Rule :=
  [rule "crypto ipsec transform-set"
     "Create IPsec transform set $1 with its encryption and hash algorithms."
     [toHuawei "ipsec proposal $1", toH3c "ipsec transform-set $1"],
   rule "crypto isakmp key" "Set pre-shared key $1 for peer address $3."
     (toVrp "ike keychain <name>\n pre-shared-key address $3 key simple $1"),
   rule "crypto isakmp profile" "Create IKE profile $1."
     [toHuawei "# Huawei has no IKE profile; the settings live under ike peer",
      toH3c "ike profile $1"],
   rule "crypto map" "Create crypto map $1 with sequence number $2."
     [toHuawei "ipsec policy $1 $2", toH3c "ipsec policy $1 $2 isakmp"],
   rule "match address" "Protect the traffic matched by ACL $1." (toVrp "security acl $1"),
   rule "set peer" "Set the IPsec tunnel peer address to $1." (toVrp "remote-address $1")]

def ike : List Rule :=
  [rule "crypto isakmp policy" "Create IKE (ISAKMP) policy with priority $1."
     (toVrp "ike proposal $1"),
   rule "encryption" "Set the IKE encryption algorithm to $1." (toVrp "encryption-algorithm $1"),
   rule "hash" "Set the IKE hash algorithm to $1." (toVrp "authentication-algorithm $1"),
   rule "authentication" "Set the IKE authentication method to $1."
     (toVrp "authentication-method $1"),
   rule "group" "Set the Diffie-Hellman group to $1." (toVrp "dh group$1")]

def gre : List Rule :=
  [rule "interface Tunnel" "Create and enter tunnel interface $1."
     [toHuawei "interface Tunnel$1", toH3c "interface Tunnel$1 mode gre"],
   rule "tunnel mode gre ip" "Use GRE over IP as the tunnel mode."
     [toHuawei "tunnel-protocol gre", toH3c "# H3C sets 'mode gre' when the interface is created"],
   rule "tunnel source" "Set the tunnel source address or interface to $1." (toVrp "source $1"),
   rule "tunnel destination" "Set the tunnel destination address to $1." (toVrp "destination $1"),
   rule "tunnel key" "Set the GRE key to $1." (toVrp "gre key $1"),
   rule "keepalive" "Enable GRE keepalives to track tunnel state." (toVrp "keepalive")]

def nat : List Rule :=
  [rule "ip nat pool" "Create NAT pool $1 from $2 to $3 with netmask $5."
     [toHuawei "nat address-group $1\n section $2 $3",
      toH3c "nat address-group <group_id> name $1\n address $2 $3"],
   rule "ip nat inside source list"
     ("Translate traffic matched by ACL $1 to addresses of pool $3. overload enables port "
       ++ "address translation.")
     [toHuawei
        ("nat-policy\n rule name <rule_name>\n  source-address acl $1\n"
          ++ "  action source-nat address-group $3"),
      toH3c "nat outbound $1 address-group <group_id_of_pool_$3>"],
   rule "ip nat inside source static"
     "Map $1 inside address $2 port $3 to global address $4 port $5."
     (toVrp "nat server protocol $1 global $4 $5 inside $2 $3"),
   rule "ip nat inside" "Mark this interface as the NAT inside interface."
     [toHuawei
        ("# Huawei separates inside and outside through security zones or the nat-policy "
          ++ "egress"),
      toH3c
        ("# H3C separates inside and outside through security zones or the nat outbound "
          ++ "interface")],
   rule "ip nat outside" "Mark this interface as the NAT outside interface."
     [toHuawei
        ("# Huawei separates inside and outside through security zones or the nat-policy "
          ++ "egress"),
      toH3c
        ("# H3C separates inside and outside through security zones or the nat outbound "
          ++ "interface")]]

def spanningTree : List Rule :=
  [guarded (line [text "spanning-tree", text "mode", oneOf "mode" "mst" ["rapid-pvst", "pvst"]])
     "spanning-tree mode" s!"Set the spanning tree mode to {mode}." (toVrpBy spanningTreeMode),
   guarded (line [text "spanning-tree", text "vlan", vlanList "vlist", text "priority",
       number "prio"])
     "spanning-tree vlan" s!"Set the bridge priority of VLAN {vlist} to {prio}."
     (toVrp s!"stp priority {prio}"),
   guarded (line [text "spanning-tree", text "vlan", vlanList "vlist", text "root",
       oneOf "which" "primary" ["secondary"]])
     "spanning-tree vlan" s!"Make this switch the {which} root bridge for VLAN {vlist}."
     (toVrp s!"stp root {which}"),
   guarded (line [text "spanning-tree", text "mst", text "configuration"])
     "spanning-tree mst configuration" "Enter MST region configuration mode."
     (toVrp "stp region-configuration"),
   guarded (line [text "revision", number "rev"])
     "revision" s!"Set the MST revision number to {rev}." (toVrp s!"revision-level {rev}"),
   guarded (line [text "instance", number "inst", text "vlan", remainder "vlist"])
     "instance" s!"Map VLANs {vlist} to MST instance {inst}."
     (toVrp s!"instance {inst} vlan {vlist}"),
   guarded (line [text "spanning-tree", text "mst", number "inst", text "root",
       oneOf "which" "primary" ["secondary"]])
     "spanning-tree mst" s!"Make this switch the {which} root bridge of MST instance {inst}."
     (toVrp s!"stp instance {inst} root {which}"),
   guarded (line [text "spanning-tree", text "mst", number "inst", text "priority", number "prio"])
     "spanning-tree mst" s!"Set the priority of MST instance {inst} to {prio}."
     (toVrp s!"stp instance {inst} priority {prio}"),
   rule "spanning-tree portfast" "Enable PortFast on the interface."
     (toVrp "stp edged-port enable"),
   rule "spanning-tree bpduguard enable" "Enable BPDU Guard on the interface."
     (toVrp "stp bpdu-protection")]

def stacking : List Rule :=
  [guarded (line [text "switch", number "member", text "priority", number "prio"])
     "switch"
     (s!"Set the priority of stack member {member} to {prio}. Higher values (1-15) win the "
       ++ "active switch election.")
     [toHuawei s!"stack slot {member} priority {prio}",
      toH3c s!"irf member {member} priority {prio}"],
   guarded (line [text "switch", number "member", text "renumber", number "new"])
     "switch" s!"Renumber stack member {member} to {new}. The member reloads to apply it."
     [toHuawei s!"stack member-id {member} renumber {new}",
      toH3c s!"irf member {member} renumber {new}"],
   guarded (line [text "switch", number "member", text "provision", token "model"])
     "switch" s!"Pre-provision stack member {member} as model {model}."
     [toHuawei "# Huawei stack members detect their model automatically",
      toH3c "# H3C IRF members detect their model automatically"],
   rule "switch virtual domain" "Set the StackWise Virtual domain ID to $1."
     [toHuawei "# Huawei CSS uses css cluster-id $1", toH3c "irf domain $1"],
   rule "stackwise-virtual" "Enable StackWise Virtual and enter its configuration mode."
     [toHuawei "# Huawei uses CSS or iStack for this", toH3c "# H3C uses IRF for this"],
   rule "stackwise-virtual link" "Set the StackWise Virtual link number to $1."
     [toHuawei "interface stack-port <slot>/<port>", toH3c "irf-port <member>/<port>"],
   rule "stackwise-virtual dual-active-detection"
     "Enable dual-active detection for StackWise Virtual."
     [toHuawei "mad detect mode <mode>", toH3c "mad detect method <method>"],
   rule "stack-mac persistent timer"
     "Keep the stack MAC address for $1 minutes after the active switch leaves."
     [toHuawei "stack mac-address persistent timer $1",
      toH3c "irf mac-address persistent timer $1"],
   rule "show switch" "Show stack members with their role, MAC address, priority and state."
     [toHuawei "display stack", toH3c "display irf"],
   rule "show switch detail" "Show detailed stack member information."
     [toHuawei "display stack member", toH3c "display irf member"],
   rule "show switch stack-ports" "Show stack port state and bandwidth."
     [toHuawei "display stack topology", toH3c "display irf link"],
   rule "show switch virtual" "Show StackWise Virtual state."
     [toHuawei "display css", toH3c "display irf"],
   rule "redundancy" "Enter redundancy configuration mode."
     [toHuawei "# Huawei includes redundancy settings in the stack configuration",
      toH3c "# H3C includes redundancy settings in the IRF configuration"]]

def rules : List Rule :=
  general ++ interface ++ dhcp ++ vlan ++ linkAggregation ++ routing ++ vrrp ++ objectGroups
    ++ ipsec ++ ike ++ gre ++ nat ++ spanningTree ++ stacking

end Netscribe.Dialect.Cisco
