import Netscribe.Proofs.Dialect.TranslatedLines
/-!
Commands that all three dialects have. Their lines are put into another dialect and back without a
change.
-/
namespace Netscribe.Dialect

open Text (Name Dotted Numeral)

/-- The protocols of a static mapping of ports. -/
inductive Transport
  | tcp
  | udp

def Transport.name : Transport → Name
  | tcp => .of "tcp" (by decide)
  | udp => .of "udp" (by decide)

/-- A command that all three dialects have, with its arguments. -/
inductive SharedCommand
  | hostname (name : Name)
  | ipAddress (address mask : Dotted)
  | description (first : Name) (rest : List Name)
  | staticRoute (network mask : Dotted) (nextHop : Name)
  | ospf (process : Numeral)
  | ospfPriority (priority : Numeral)
  | vrrpAddress (group : Numeral) (address : Dotted)
  | vrrpPriority (group priority : Numeral)
  | accessVlan (id : Numeral)
  | nativeVlan (id : Numeral)
  | aggregate (number : Numeral)
  | lacpSystemPriority (priority : Numeral)
  | lacpPortPriority (priority : Numeral)
  | dhcpPool (name : Name)
  | dhcpNetwork (network mask : Dotted)
  | gateway (address : Dotted)
  | nameServers (first : Name) (rest : List Name)
  | lease (days hours minutes : Numeral)
  | protectedTraffic (acl : Name)
  | ikePolicy (number : Numeral)
  | keyGroup (number : Numeral)
  | memberPriority (member priority : Numeral)
  | memberNumber (member number : Numeral)
  | staticMapping (transport : Transport) (inside : Dotted) (insidePort : Numeral)
      (outside : Dotted) (outsidePort : Numeral)

namespace SharedCommand

/-- The words of a command in a dialect. -/
def words : SharedCommand → Vendor → List String
  | hostname name, .cisco => ["hostname", name.text]
  | hostname name, _ => ["sysname", name.text]
  | ipAddress address mask, _ => ["ip", "address", address.text, mask.text]
  | description first rest, _ => "description" :: (first :: rest).map Text.Written.text
  | staticRoute network mask nextHop, .cisco =>
    ["ip", "route", network.text, mask.text, nextHop.text]
  | staticRoute network mask nextHop, _ =>
    ["ip", "route-static", network.text, mask.text, nextHop.text]
  | ospf process, .cisco => ["router", "ospf", process.text]
  | ospf process, _ => ["ospf", process.text]
  | ospfPriority priority, .cisco => ["ip", "ospf", "priority", priority.text]
  | ospfPriority priority, _ => ["ospf", "dr-priority", priority.text]
  | vrrpAddress group address, .cisco => ["vrrp", group.text, "ip", address.text]
  | vrrpAddress group address, _ => ["vrrp", "vrid", group.text, "virtual-ip", address.text]
  | vrrpPriority group priority, .cisco => ["vrrp", group.text, "priority", priority.text]
  | vrrpPriority group priority, _ => ["vrrp", "vrid", group.text, "priority", priority.text]
  | accessVlan id, .cisco => ["switchport", "access", "vlan", id.text]
  | accessVlan id, .h3c => ["port", "access", "vlan", id.text]
  | accessVlan id, _ => ["port", "default", "vlan", id.text]
  | nativeVlan id, .cisco => ["switchport", "trunk", "native", "vlan", id.text]
  | nativeVlan id, _ => ["port", "trunk", "pvid", "vlan", id.text]
  | aggregate number, .cisco => ["interface", "Port-channel" ++ number.text]
  | aggregate number, .h3c => ["interface", "Bridge-Aggregation" ++ number.text]
  | aggregate number, _ => ["interface", "Eth-Trunk" ++ number.text]
  | lacpSystemPriority priority, _ => ["lacp", "system-priority", priority.text]
  | lacpPortPriority priority, .cisco => ["lacp", "port-priority", priority.text]
  | lacpPortPriority priority, .h3c => ["link-aggregation", "port-priority", priority.text]
  | lacpPortPriority priority, _ => ["lacp", "priority", priority.text]
  | dhcpPool name, .cisco => ["ip", "dhcp", "pool", name.text]
  | dhcpPool name, .h3c => ["dhcp", "server", "ip-pool", name.text]
  | dhcpPool name, _ => ["ip", "pool", name.text]
  | dhcpNetwork network mask, .cisco => ["network", network.text, mask.text]
  | dhcpNetwork network mask, _ => ["network", network.text, "mask", mask.text]
  | gateway address, .cisco => ["default-router", address.text]
  | gateway address, _ => ["gateway-list", address.text]
  | nameServers first rest, .cisco => "dns-server" :: (first :: rest).map Text.Written.text
  | nameServers first rest, _ => "dns-list" :: (first :: rest).map Text.Written.text
  | lease days hours minutes, .cisco => ["lease", days.text, hours.text, minutes.text]
  | lease days hours minutes, .h3c =>
    ["expired", "day", days.text, "hour", hours.text, "minute", minutes.text]
  | lease days hours minutes, _ =>
    ["lease", "day", days.text, "hour", hours.text, "minute", minutes.text]
  | protectedTraffic acl, .cisco => ["match", "address", acl.text]
  | protectedTraffic acl, _ => ["security", "acl", acl.text]
  | ikePolicy number, .cisco => ["crypto", "isakmp", "policy", number.text]
  | ikePolicy number, _ => ["ike", "proposal", number.text]
  | keyGroup number, .cisco => ["group", number.text]
  | keyGroup number, _ => ["dh", "group" ++ number.text]
  | memberPriority member priority, .cisco => ["switch", member.text, "priority", priority.text]
  | memberPriority member priority, .h3c =>
    ["irf", "member", member.text, "priority", priority.text]
  | memberPriority member priority, _ =>
    ["stack", "slot", member.text, "priority", priority.text]
  | memberNumber member number, .cisco => ["switch", member.text, "renumber", number.text]
  | memberNumber member number, .h3c => ["irf", "member", member.text, "renumber", number.text]
  | memberNumber member number, _ => ["stack", "member-id", member.text, "renumber", number.text]
  | staticMapping transport inside insidePort outside outsidePort, .cisco =>
    ["ip", "nat", "inside", "source", "static", transport.name.text, inside.text,
      insidePort.text, outside.text, outsidePort.text]
  | staticMapping transport inside insidePort outside outsidePort, _ =>
    ["nat", "server", "protocol", transport.name.text, "global", outside.text, outsidePort.text,
      "inside", inside.text, insidePort.text]

/-- The line of a command in a dialect. -/
def line (c : SharedCommand) (vendor : Vendor) : String := Text.unwords (c.words vendor)

/-- The line of a command is put into another dialect and back. -/
def RoundTrips (c : SharedCommand) (vendor : Vendor) : Prop :=
  RuleTables.standard.translate .cisco vendor (c.line .cisco) = .text (c.line vendor) ∧
    RuleTables.standard.translate vendor .cisco (c.line vendor) = .text (c.line .cisco)

/-- A keyword is found in front of what it stands for, which is no keyword itself. -/
theorem ciscoNatServer_eq (transport : Transport) (inside : Dotted) (insidePort : Numeral)
    (outside : Dotted) (outsidePort : Numeral) :
    Huawei.ciscoNatServer ["protocol", transport.name.text, "global", outside.text,
        outsidePort.text, "inside", inside.text, insidePort.text] [] =
      Text.unwords ["ip", "nat", "inside", "source", "static", transport.name.text, inside.text,
        insidePort.text, outside.text, outsidePort.text] := by
  have hword : outside.text ≠ "inside" := outside.ne (by decide)
  have hport : outsidePort.text ≠ "inside" := outsidePort.toDotted.ne (by decide)
  have htext (s : String) : toString s = s := rfl
  have hline (front : List String) (hfront : front ≠ []) :
      Text.unwords (front ++ [inside.text, insidePort.text, outside.text, outsidePort.text]) =
        Text.unwords front ++ " " ++
          Text.unwords [inside.text, insidePort.text, outside.text, outsidePort.text] := by
    rw [Text.unwords_append hfront (List.cons_ne_nil _ _), String.append_assoc]
  cases transport with
  | tcp =>
    refine .trans ?_ (hline ["ip", "nat", "inside", "source", "static", "tcp"]
      (List.cons_ne_nil _ _)).symm
    simp [Huawei.ciscoNatServer, Huawei.wordAfter, Huawei.portOr, Transport.name, hword, hport,
      insidePort.allDigits, outsidePort.allDigits, htext, Text.unwords, Text.join,
      String.append_assoc]
  | udp =>
    refine .trans ?_ (hline ["ip", "nat", "inside", "source", "static", "udp"]
      (List.cons_ne_nil _ _)).symm
    simp [Huawei.ciscoNatServer, Huawei.wordAfter, Huawei.portOr, Transport.name, hword, hport,
      insidePort.allDigits, outsidePort.allDigits, htext, Text.unwords, Text.join,
      String.append_assoc]

/-- The settings of a stack member that all dialects have. -/
inductive MemberSetting
  | priority
  | number

namespace MemberSetting

@[simp]
def word : MemberSetting → Name
  | priority => .of "priority" (by decide)
  | number => .of "renumber" (by decide)

/-- The words in front of the member in a dialect. -/
@[simp]
def front : MemberSetting → Vendor → List String
  | _, .cisco => ["switch"]
  | _, .h3c => ["irf", "member"]
  | priority, _ => ["stack", "slot"]
  | number, _ => ["stack", "member-id"]

def line (s : MemberSetting) (vendor : Vendor) (member number : Numeral) : String :=
  Text.unwords (s.front vendor ++ [member.text, s.word.text, number.text])

/-- The place of the rule among those of a dialect that start with the same words. -/
def place : MemberSetting → Vendor → Nat
  | number, .cisco => 1
  | priority, .h3c => 1
  | _, _ => 0

/-- What the rule of a dialect calls the member and the number. -/
@[simp]
def captured : MemberSetting → Vendor → String × String
  | priority, .huawei => ("slot", "prio")
  | priority, _ => ("member", "prio")
  | number, _ => ("member", "new")

/-- What the rule of a dialect writes for another one. -/
def template (s : MemberSetting) (source target : Vendor) : List Template.Word :=
  (s.front target).map .fixed ++
    [.captured (s.captured source).1, .fixed s.word.text, .captured (s.captured source).2]

end MemberSetting

/-! Each command is found by its words in a table and filled into the words of the other dialect;
where several rules share the command, the others are shown to pass over the line. -/
section Commands

variable {vendor : Vendor} (h : vendor ∈ targets .cisco)

include h

private theorem roundTrips_hostname (name : Name) : (hostname name).RoundTrips vendor := by
  obtain rfl | rfl := List.mem_pair.mp h
  all_goals
    constructor
    · exact translate_words ["hostname"] name [] [.fixed "sysname", .argument 0] h rfl rfl rfl
    · exact translate_words ["sysname"] name [] [.fixed "hostname", .argument 0] (by decide)
        rfl rfl rfl

private theorem roundTrips_ipAddress (address mask : Dotted) :
    (ipAddress address mask).RoundTrips vendor := by
  obtain rfl | rfl := List.mem_pair.mp h
  all_goals
    constructor
    all_goals
      exact translate_words ["ip", "address"] address.toName [mask.toName]
        [.fixed "ip", .fixed "address", .argument 0, .argument 1] (by decide) rfl rfl rfl

private theorem roundTrips_description (first : Name) (rest : List Name) :
    (description first rest).RoundTrips vendor := by
  have hline (vendor : Vendor) : (description first rest).line vendor =
      Text.unwords ["description", Text.unwords ((first :: rest).map Text.Written.text)] :=
    (Text.unwords_unwords _ (List.cons_ne_nil _ _)).symm
  obtain rfl | rfl := List.mem_pair.mp h
  all_goals
    constructor
    all_goals
      refine .trans ?_ (congrArg Wording.text (hline _).symm)
      exact translate_words ["description"] first rest [.fixed "description", .all] (by decide)
        rfl rfl rfl

private theorem roundTrips_staticRoute (network mask : Dotted) (nextHop : Name) :
    (staticRoute network mask nextHop).RoundTrips vendor := by
  obtain rfl | rfl := List.mem_pair.mp h
  all_goals
    constructor
    · exact translate_words ["ip", "route"] network.toName [mask.toName, nextHop]
        [.fixed "ip", .fixed "route-static", .argument 0, .argument 1, .argument 2] h rfl rfl rfl
    · exact translate_words ["ip", "route-static"] network.toName [mask.toName, nextHop]
        [.fixed "ip", .fixed "route", .argument 0, .argument 1, .argument 2] (by decide)
        rfl rfl rfl

/-- The number of a process is no longer command. -/
theorem roundTrips_ospf (process : Numeral) : (ospf process).RoundTrips vendor := by
  obtain rfl | rfl := List.mem_pair.mp h
  all_goals
    constructor
    · exact translate_words ["router", "ospf"] process.toName []
        [.fixed "ospf", .argument 0] h rfl rfl rfl
    · refine translate_words_first ["ospf"] process.toName []
        [.fixed "router", .fixed "ospf", .argument 0] (by decide) rfl rfl rfl ?_
      exact List.forall_mem_singleton.mpr
        (match?_eq_none_of_longer "ospf" "dr-priority" process.toDotted [] rfl (by decide))

private theorem roundTrips_ospfPriority (priority : Numeral) :
    (ospfPriority priority).RoundTrips vendor := by
  obtain rfl | rfl := List.mem_pair.mp h
  all_goals
    constructor
    · exact translate_words ["ip", "ospf", "priority"] priority.toName []
        [.fixed "ospf", .fixed "dr-priority", .argument 0] h rfl rfl rfl
    · exact translate_words ["ospf", "dr-priority"] priority.toName []
        [.fixed "ip", .fixed "ospf", .fixed "priority", .argument 0] (by decide) rfl rfl rfl

private theorem roundTrips_vrrpAddress (group : Numeral) (address : Dotted) :
    (vrrpAddress group address).RoundTrips vendor := by
  obtain rfl | rfl := List.mem_pair.mp h
  all_goals
    constructor
    · refine translate_spelled ["vrrp"] group.toName [.of "ip" (by decide), address.toName]
        [.fixed "vrrp", .fixed "vrid", .captured "group", .fixed "virtual-ip", .captured "vip"] 0
        [("group", group.text), ("vip", address.text)]
        h rfl rfl rfl rfl (by decide) (by decide) (by simp) rfl rfl fun hcall => ?_
      exact List.forall_mem_singleton.mpr (match?_spelled_eq_none rfl hcall (by decide) (by simp))
    · refine translate_spelled ["vrrp", "vrid"] group.toName
        [.of "virtual-ip" (by decide), address.toName]
        [.fixed "vrrp", .captured "vrid", .fixed "ip", .captured "vip"] 0
        [("vrid", group.text), ("vip", address.text)]
        (by decide) rfl rfl rfl rfl (by decide) (by decide) (by simp) rfl rfl fun hcall => ?_
      exact forall_mem_pair.mpr
        ⟨match?_spelled_eq_none rfl hcall (by decide) (by simp),
          match?_spelled_eq_none rfl hcall (by decide) (by simp)⟩

private theorem roundTrips_vrrpPriority (group priority : Numeral) :
    (vrrpPriority group priority).RoundTrips vendor := by
  obtain rfl | rfl := List.mem_pair.mp h
  all_goals
    constructor
    · refine translate_spelled ["vrrp"] group.toName [.of "priority" (by decide), priority.toName]
        [.fixed "vrrp", .fixed "vrid", .captured "group", .fixed "priority", .captured "prio"] 1
        [("group", group.text), ("prio", priority.text)]
        h rfl rfl rfl rfl (by decide) (by decide) (by simp) rfl rfl fun hcall => ?_
      exact List.forall_mem_singleton.mpr (match?_spelled_eq_none rfl hcall (by decide) (by simp))
    · refine translate_spelled ["vrrp", "vrid"] group.toName
        [.of "priority" (by decide), priority.toName]
        [.fixed "vrrp", .captured "vrid", .fixed "priority", .captured "prio"] 1
        [("vrid", group.text), ("prio", priority.text)]
        (by decide) rfl rfl rfl rfl (by decide) (by decide) (by simp) rfl rfl fun hcall => ?_
      exact forall_mem_pair.mpr
        ⟨match?_spelled_eq_none rfl hcall (by decide) (by simp),
          match?_spelled_eq_none rfl hcall (by decide) (by simp)⟩

private theorem roundTrips_accessVlan (id : Numeral) : (accessVlan id).RoundTrips vendor := by
  obtain rfl | rfl := List.mem_pair.mp h
  · constructor
    · exact translate_words ["switchport", "access", "vlan"] id.toName []
        [.fixed "port", .fixed "default", .fixed "vlan", .argument 0] h rfl rfl rfl
    · exact translate_words ["port", "default", "vlan"] id.toName []
        [.fixed "switchport", .fixed "access", .fixed "vlan", .argument 0] (by decide) rfl rfl rfl
  · constructor
    · exact translate_words ["switchport", "access", "vlan"] id.toName []
        [.fixed "port", .fixed "access", .fixed "vlan", .argument 0] h rfl rfl rfl
    · exact translate_words ["port", "access", "vlan"] id.toName []
        [.fixed "switchport", .fixed "access", .fixed "vlan", .argument 0] (by decide) rfl rfl rfl

private theorem roundTrips_nativeVlan (id : Numeral) : (nativeVlan id).RoundTrips vendor := by
  obtain rfl | rfl := List.mem_pair.mp h
  all_goals
    constructor
    · exact translate_words ["switchport", "trunk", "native", "vlan"] id.toName []
        [.fixed "port", .fixed "trunk", .fixed "pvid", .fixed "vlan", .argument 0] h rfl rfl rfl
    · exact translate_words ["port", "trunk", "pvid", "vlan"] id.toName []
        [.fixed "switchport", .fixed "trunk", .fixed "native", .fixed "vlan", .argument 0]
        (by decide) rfl rfl rfl

private theorem roundTrips_aggregate (number : Numeral) : (aggregate number).RoundTrips vendor := by
  obtain rfl | rfl := List.mem_pair.mp h
  · constructor
    · exact translate_numbered ["interface"] "Port-channel"
        [.fixed "interface", .appended "Eth-Trunk" 0] number
        h rfl rfl rfl (List.cons_ne_nil _ _)
    · exact translate_numbered ["interface"] "Eth-Trunk"
        [.fixed "interface", .appended "Port-channel" 0] number
        (by decide) rfl rfl rfl (List.cons_ne_nil _ _)
  · constructor
    · exact translate_numbered ["interface"] "Port-channel"
        [.fixed "interface", .appended "Bridge-Aggregation" 0] number
        h rfl rfl rfl (List.cons_ne_nil _ _)
    · exact translate_numbered ["interface"] "Bridge-Aggregation"
        [.fixed "interface", .appended "Port-channel" 0] number
        (by decide) rfl rfl rfl (List.cons_ne_nil _ _)

private theorem roundTrips_lacpSystemPriority (priority : Numeral) :
    (lacpSystemPriority priority).RoundTrips vendor := by
  obtain rfl | rfl := List.mem_pair.mp h
  all_goals
    constructor
    all_goals
      exact translate_words ["lacp", "system-priority"] priority.toName []
        [.fixed "lacp", .fixed "system-priority", .argument 0] (by decide) rfl rfl rfl

private theorem roundTrips_lacpPortPriority (priority : Numeral) :
    (lacpPortPriority priority).RoundTrips vendor := by
  obtain rfl | rfl := List.mem_pair.mp h
  · constructor
    · exact translate_words ["lacp", "port-priority"] priority.toName []
        [.fixed "lacp", .fixed "priority", .argument 0] h rfl rfl rfl
    · exact translate_words ["lacp", "priority"] priority.toName []
        [.fixed "lacp", .fixed "port-priority", .argument 0] (by decide) rfl rfl rfl
  · constructor
    · exact translate_words ["lacp", "port-priority"] priority.toName []
        [.fixed "link-aggregation", .fixed "port-priority", .argument 0] h rfl rfl rfl
    · exact translate_words ["link-aggregation", "port-priority"] priority.toName []
        [.fixed "lacp", .fixed "port-priority", .argument 0] (by decide) rfl rfl rfl

/-- One dialect takes the name to be the last word of the line. -/
theorem roundTrips_dhcpPool (name : Name) : (dhcpPool name).RoundTrips vendor := by
  obtain rfl | rfl := List.mem_pair.mp h
  · constructor
    · exact translate_words ["ip", "dhcp", "pool"] name []
        [.fixed "ip", .fixed "pool", .argument 0] h rfl rfl rfl
    · exact translate_words ["ip", "pool"] name []
        [.fixed "ip", .fixed "dhcp", .fixed "pool", .argument 0] (by decide) rfl rfl rfl
  · constructor
    · exact translate_words ["ip", "dhcp", "pool"] name []
        [.fixed "dhcp", .fixed "server", .fixed "ip-pool", .argument 0] h rfl rfl rfl
    · exact translate_lastToken ["dhcp", "server", "ip-pool"]
        [.fixed "ip", .fixed "dhcp", .fixed "pool", .captured "name"] name "name"
        (by decide) rfl rfl (by decide) rfl (List.cons_ne_nil _ _)

private theorem roundTrips_dhcpNetwork (network mask : Dotted) :
    (dhcpNetwork network mask).RoundTrips vendor := by
  obtain rfl | rfl := List.mem_pair.mp h
  · constructor
    · refine translate_spelled ["network"] network.toName [mask.toName]
        [.fixed "network", .argument 0, .fixed "mask", .argument 1] 0 []
        h rfl rfl rfl rfl (by decide) (by decide) (by simp) rfl rfl fun hcall => ?_
      exact List.forall_mem_singleton.mpr (match?_spelled_eq_none rfl hcall (by decide) (by simp))
    · refine translate_spelled ["network"] network.toName [.of "mask" (by decide), mask.toName]
        [.fixed "network", .captured "net", .captured "mask"] 0
        [("net", network.text), ("mask", mask.text)]
        (by decide) rfl rfl rfl rfl (by decide) (by decide) (by simp) rfl rfl fun hcall => ?_
      exact List.forall_mem_singleton.mpr (match?_spelled_eq_none rfl hcall (by decide) (by simp))
  · constructor
    · refine translate_spelled ["network"] network.toName [mask.toName]
        [.fixed "network", .argument 0, .fixed "mask", .argument 1] 0 []
        h rfl rfl rfl rfl (by decide) (by decide) (by simp) rfl rfl fun hcall => ?_
      exact List.forall_mem_singleton.mpr (match?_spelled_eq_none rfl hcall (by decide) (by simp))
    · have hlonger {r : Rule} (more : String) := match?_eq_none_of_longer (r := r) "network" more
        network ["mask", mask.text]
      refine translate_spelled ["network"] network.toName [.of "mask" (by decide), mask.toName]
        [.fixed "network", .captured "net", .captured "mask"] 0
        [("net", network.text), ("mask", mask.text)]
        (by decide) rfl rfl rfl rfl (by decide) (by decide) (by simp) rfl rfl fun hcall => ?_
      exact List.forall_mem_cons.mpr
        ⟨match?_spelled_eq_none rfl hcall (by decide) (by simp), List.forall_mem_cons.mpr
          ⟨hlonger "host address" rfl (by decide), List.forall_mem_cons.mpr
            ⟨hlonger "subnet" rfl (by decide), forall_mem_pair.mpr
              ⟨hlonger "range" rfl (by decide), hlonger "host name" rfl (by decide)⟩⟩⟩⟩

private theorem roundTrips_gateway (address : Dotted) : (gateway address).RoundTrips vendor := by
  obtain rfl | rfl := List.mem_pair.mp h
  all_goals
    constructor
    · exact translate_words ["default-router"] address.toName []
        [.fixed "gateway-list", .argument 0] h rfl rfl rfl
    · exact translate_words ["gateway-list"] address.toName []
        [.fixed "default-router", .all] (by decide) rfl rfl rfl

private theorem roundTrips_nameServers (first : Name) (rest : List Name) :
    (nameServers first rest).RoundTrips vendor := by
  have hline (word : String) : Text.unwords (word :: (first :: rest).map Text.Written.text) =
      Text.unwords [word, Text.unwords ((first :: rest).map Text.Written.text)] :=
    (Text.unwords_unwords _ (List.cons_ne_nil _ _)).symm
  obtain rfl | rfl := List.mem_pair.mp h
  all_goals
    constructor
    · refine .trans ?_ (congrArg Wording.text (hline "dns-list").symm)
      exact translate_words ["dns-server"] first rest [.fixed "dns-list", .all] h rfl rfl rfl
    · refine .trans ?_ (congrArg Wording.text (hline "dns-server").symm)
      exact translate_words ["dns-list"] first rest [.fixed "dns-server", .all] (by decide)
        rfl rfl rfl

private theorem roundTrips_lease (days hours minutes : Numeral) :
    (lease days hours minutes).RoundTrips vendor := by
  obtain rfl | rfl := List.mem_pair.mp h
  · constructor
    · exact translate_words ["lease"] days.toName [hours.toName, minutes.toName]
        [.fixed "lease", .fixed "day", .argument 0, .fixed "hour", .argument 1, .fixed "minute",
          .argument 2] h rfl rfl rfl
    · exact translate_words ["lease", "day"] days.toName
        [.of "hour" (by decide), hours.toName, .of "minute" (by decide), minutes.toName]
        [.fixed "lease", .argument 0, .argument 2, .argument 4] (by decide) rfl rfl rfl
  · constructor
    · exact translate_words ["lease"] days.toName [hours.toName, minutes.toName]
        [.fixed "expired", .fixed "day", .argument 0, .fixed "hour", .argument 1, .fixed "minute",
          .argument 2] h rfl rfl rfl
    · exact translate_words ["expired", "day"] days.toName
        [.of "hour" (by decide), hours.toName, .of "minute" (by decide), minutes.toName]
        [.fixed "lease", .argument 0, .argument 2, .argument 4] (by decide) rfl rfl rfl

private theorem roundTrips_protectedTraffic (acl : Name) :
    (protectedTraffic acl).RoundTrips vendor := by
  obtain rfl | rfl := List.mem_pair.mp h
  all_goals
    constructor
    · exact translate_words ["match", "address"] acl []
        [.fixed "security", .fixed "acl", .argument 0] h rfl rfl rfl
    · exact translate_words ["security", "acl"] acl []
        [.fixed "match", .fixed "address", .argument 0] (by decide) rfl rfl rfl

private theorem roundTrips_ikePolicy (number : Numeral) : (ikePolicy number).RoundTrips vendor := by
  obtain rfl | rfl := List.mem_pair.mp h
  all_goals
    constructor
    · exact translate_words ["crypto", "isakmp", "policy"] number.toName []
        [.fixed "ike", .fixed "proposal", .argument 0] h rfl rfl rfl
    · exact translate_words ["ike", "proposal"] number.toName []
        [.fixed "crypto", .fixed "isakmp", .fixed "policy", .argument 0] (by decide) rfl rfl rfl

private theorem roundTrips_keyGroup (number : Numeral) : (keyGroup number).RoundTrips vendor := by
  obtain rfl | rfl := List.mem_pair.mp h
  all_goals
    constructor
    · exact translate_words ["group"] number.toName [] [.fixed "dh", .appended "group" 0] h
        rfl rfl rfl
    · exact translate_numbered ["dh"] "group" [.fixed "group", .argument 0] number
        (by decide) rfl rfl rfl (List.cons_ne_nil _ _)

private theorem roundTrips_memberSetting (s : MemberSetting) (member number : Numeral) :
    RuleTables.standard.translate .cisco vendor (s.line .cisco member number) =
      .text (s.line vendor member number) ∧
    RuleTables.standard.translate vendor .cisco (s.line vendor member number) =
      .text (s.line .cisco member number) := by
  have hspelled {source target : Vendor} {listed : List Rule}
      {conversions : List (Vendor × Conversion)} {ps : List WordPattern} :=
    @translate_spelled source target conversions listed (s.front source) member.toName
      [s.word, number.toName] (s.template source target) ps (s.place source)
      [((s.captured source).1, member.text), ((s.captured source).2, number.text)]
  have hlonger {r : Rule} := match?_eq_none_of_longer (r := r) "switch" "virtual domain"
    member.toDotted [s.word.text, number.text]
  constructor
  · obtain rfl | rfl := List.mem_pair.mp h
    all_goals
      cases s
      all_goals
        refine hspelled h rfl rfl rfl rfl (by decide) (by decide) (by simp) rfl rfl fun hcall => ?_
        exact List.forall_mem_cons.mpr
          ⟨match?_spelled_eq_none rfl hcall (by decide) (by simp), forall_mem_pair.mpr
            ⟨match?_spelled_eq_none rfl hcall (by decide) (by simp), hlonger rfl (by decide)⟩⟩
  · obtain rfl | rfl := List.mem_pair.mp h
    · cases s with
      | priority =>
        refine hspelled (by decide) rfl rfl rfl rfl (by decide) (by decide) (by simp) rfl rfl
          fun hcall => ?_
        exact List.forall_mem_singleton.mpr
          (match?_spelled_eq_none rfl hcall (by decide) (by simp))
      | number =>
        refine hspelled (by decide) rfl rfl rfl rfl (by decide) (by decide) (by simp) rfl rfl
          fun _ => ?_
        exact fun _ hother => (nomatch hother)
    · cases s
      all_goals
        refine hspelled (by decide) rfl rfl rfl rfl (by decide) (by decide) (by simp) rfl rfl
          fun hcall => ?_
        exact forall_mem_pair.mpr
          ⟨match?_spelled_eq_none rfl hcall (by decide) (by simp),
            match?_spelled_eq_none rfl hcall (by decide) (by simp)⟩

private theorem roundTrips_memberPriority (member priority : Numeral) :
    (memberPriority member priority).RoundTrips vendor := by
  have htrip := roundTrips_memberSetting h .priority member priority
  obtain rfl | rfl := List.mem_pair.mp h
  all_goals exact htrip

private theorem roundTrips_memberNumber (member number : Numeral) :
    (memberNumber member number).RoundTrips vendor := by
  have htrip := roundTrips_memberSetting h .number member number
  obtain rfl | rfl := List.mem_pair.mp h
  all_goals exact htrip

private theorem roundTrips_staticMapping (transport : Transport) (inside : Dotted)
    (insidePort : Numeral)
    (outside : Dotted) (outsidePort : Numeral) :
    (staticMapping transport inside insidePort outside outsidePort).RoundTrips vendor := by
  obtain rfl | rfl := List.mem_pair.mp h
  · constructor
    · exact translate_words ["ip", "nat", "inside", "source", "static"]
        transport.name [inside.toName, insidePort.toName, outside.toName, outsidePort.toName]
        [.fixed "nat", .fixed "server", .fixed "protocol", .argument 0, .fixed "global",
          .argument 3, .argument 4, .fixed "inside", .argument 1, .argument 2] h rfl rfl rfl
    · have hlisted : (contenders .huawei).lookup (Text.unwords ["nat", "server"]) =
          some [rule "nat server" "" [toCiscoBy Huawei.ciscoNatServer]] := rfl
      have hcall := isCall_phrase ["nat", "server"] (.of "protocol" (by decide))
        [transport.name, .of "global" (by decide), outside.toName, outsidePort.toName,
          .of "inside" (by decide), inside.toName, insidePort.toName] hlisted
      refine (translate_only (mem_contenders hlisted) (by decide) rfl hcall).trans ?_
      exact congrArg Wording.text
        (ciscoNatServer_eq transport inside insidePort outside outsidePort)
  · constructor
    · exact translate_words ["ip", "nat", "inside", "source", "static"]
        transport.name [inside.toName, insidePort.toName, outside.toName, outsidePort.toName]
        [.fixed "nat", .fixed "server", .fixed "protocol", .argument 0, .fixed "global",
          .argument 3, .argument 4, .fixed "inside", .argument 1, .argument 2] h rfl rfl rfl
    · exact translate_words ["nat", "server", "protocol"] transport.name
        [.of "global" (by decide), outside.toName, outsidePort.toName, .of "inside" (by decide),
          inside.toName, insidePort.toName]
        [.fixed "ip", .fixed "nat", .fixed "inside", .fixed "source", .fixed "static", .argument 0,
          .argument 5, .argument 6, .argument 2, .argument 3] (by decide) rfl rfl rfl

end Commands

/-- Each of the shared commands is put into the other dialects, whatever its arguments are, and what
    comes out is put back into the line that it was. -/
theorem roundTrips_huawei_and_h3c (c : SharedCommand) :
    c.RoundTrips .huawei ∧ c.RoundTrips .h3c := by
  have hall {vendor : Vendor} (h : vendor ∈ targets .cisco) : c.RoundTrips vendor := by
    cases c with
    | hostname name => exact roundTrips_hostname h name
    | ipAddress address mask => exact roundTrips_ipAddress h address mask
    | description first rest => exact roundTrips_description h first rest
    | staticRoute network mask nextHop => exact roundTrips_staticRoute h network mask nextHop
    | ospf process => exact roundTrips_ospf h process
    | ospfPriority priority => exact roundTrips_ospfPriority h priority
    | vrrpAddress group address => exact roundTrips_vrrpAddress h group address
    | vrrpPriority group priority => exact roundTrips_vrrpPriority h group priority
    | accessVlan id => exact roundTrips_accessVlan h id
    | nativeVlan id => exact roundTrips_nativeVlan h id
    | aggregate number => exact roundTrips_aggregate h number
    | lacpSystemPriority priority => exact roundTrips_lacpSystemPriority h priority
    | lacpPortPriority priority => exact roundTrips_lacpPortPriority h priority
    | dhcpPool name => exact roundTrips_dhcpPool h name
    | dhcpNetwork network mask => exact roundTrips_dhcpNetwork h network mask
    | gateway address => exact roundTrips_gateway h address
    | nameServers first rest => exact roundTrips_nameServers h first rest
    | lease days hours minutes => exact roundTrips_lease h days hours minutes
    | protectedTraffic acl => exact roundTrips_protectedTraffic h acl
    | ikePolicy number => exact roundTrips_ikePolicy h number
    | keyGroup number => exact roundTrips_keyGroup h number
    | memberPriority member priority => exact roundTrips_memberPriority h member priority
    | memberNumber member number => exact roundTrips_memberNumber h member number
    | staticMapping transport inside insidePort outside outsidePort =>
      exact roundTrips_staticMapping h transport inside insidePort outside outsidePort
  exact ⟨hall (by decide), hall (by decide)⟩

example : (lease (.ofNat 1) (.ofNat 12) (.ofNat 30)).line .cisco = "lease 1 12 30" ∧
    (lease (.ofNat 1) (.ofNat 12) (.ofNat 30)).line .h3c = "expired day 1 hour 12 minute 30" := by
  decide

end SharedCommand

end Netscribe.Dialect
