import Netscribe.Proofs.Dialect.WordPatterns
/-!
The rules that lines of some commands can go by, with what they say in the dialects in question.
Each list is the whole of what the search through a table of rules comes down to for a command.
-/
namespace Netscribe.Dialect

open LinePattern (lastToken)
open Rule (spelled)
open Captured

/-- The dialects that lines of a dialect are put into here. -/
def targets : Vendor → List Vendor
  | .cisco => [.huawei, .h3c]
  | .huawei | .h3c => [.cisco]
  | .generic => []

/-- A command with a single rule, which does not look at the line any closer. -/
def only (command : String) (conversions : List (Vendor × Conversion)) : String × List Rule :=
  (command, [rule command "" conversions])

def Cisco.contenders : List (String × List Rule) :=
  [only "hostname" (toVrp "sysname $1"),
   only "ip address" (toVrp "ip address $1 $2"),
   only "description" (toVrp "description $*"),
   only "ip route" (toVrp "ip route-static $1 $2 $3"),
   only "router ospf" (toVrp "ospf $1"),
   only "ip ospf priority" (toVrp "ospf dr-priority $1"),
   ("vrrp",
    [spelled [.word "vrrp", .number "group", .word "ip", .token "vip"]
       "vrrp" (toVrp s!"vrrp vrid {group} virtual-ip {vip}"),
     spelled [.word "vrrp", .number "group", .word "priority", .number "prio"]
       "vrrp" (toVrp s!"vrrp vrid {group} priority {prio}")]),
   only "vlan" [toHuaweiBy (vlanLine "vlan batch"), toH3cBy (vlanLine "vlan")],
   only "switchport access vlan" [toHuawei "port default vlan $1", toH3c "port access vlan $1"],
   only "switchport trunk native vlan" (toVrp "port trunk pvid vlan $1"),
   only "switchport trunk allowed vlan"
     [toHuaweiBy (trunkLine "port trunk allow-pass vlan"),
      toH3cBy (trunkLine "port trunk permit vlan")],
   only "interface Port-channel"
     [toHuawei "interface Eth-Trunk$1", toH3c "interface Bridge-Aggregation$1"],
   only "lacp system-priority" (toVrp "lacp system-priority $1"),
   only "lacp port-priority"
     [toHuawei "lacp priority $1", toH3c "link-aggregation port-priority $1"],
   only "ip dhcp pool" [toHuawei "ip pool $1", toH3c "dhcp server ip-pool $1"],
   ("network",
    [spelled [.word "network", .anyToken, .anyToken] "network" (toVrp "network $1 mask $2"),
     spelled [.word "network", .anyToken, .anyToken, .word "area", .anyToken]
       "network" (toVrp "# In OSPF area view\n network $1 $2")]),
   only "default-router" (toVrp "gateway-list $1"),
   only "dns-server" (toVrp "dns-list $*"),
   only "lease"
     [toHuawei "lease day $1 hour $2 minute $3", toH3c "expired day $1 hour $2 minute $3"],
   only "match address" (toVrp "security acl $1"),
   only "crypto isakmp policy" (toVrp "ike proposal $1"),
   only "group" (toVrp "dh group$1"),
   ("switch",
    [spelled [.word "switch", .number "member", .word "priority", .number "prio"] "switch"
       [toHuawei s!"stack slot {member} priority {prio}",
        toH3c s!"irf member {member} priority {prio}"],
     spelled [.word "switch", .number "member", .word "renumber", .number "new"] "switch"
       [toHuawei s!"stack member-id {member} renumber {new}",
        toH3c s!"irf member {member} renumber {new}"],
     spelled [.word "switch", .number "member", .word "provision", .token "model"] "switch"
       [toHuawei "# Huawei stack members detect their model automatically",
        toH3c "# H3C IRF members detect their model automatically"],
     rule "switch virtual domain" ""
       [toHuawei "# Huawei CSS uses css cluster-id $1", toH3c "irf domain $1"]]),
   only "ip nat inside source static"
     (toVrp "nat server protocol $1 global $4 $5 inside $2 $3")]

def Huawei.contenders : List (String × List Rule) :=
  [only "sysname" [toCisco "hostname $1"],
   only "ip address" [toCisco "ip address $1 $2"],
   only "description" [toCisco "description $*"],
   only "ip route-static" [toCisco "ip route $1 $2 $3"],
   ("ospf",
    [rule "ospf" "" [toCisco "router ospf $1"],
     rule "ospf dr-priority" "" [toCisco "ip ospf priority $1"]]),
   only "ospf dr-priority" [toCisco "ip ospf priority $1"],
   ("vrrp vrid",
    [spelled [.word "vrrp", .word "vrid", .number "vrid", .word "virtual-ip", .token "vip"]
       "vrrp vrid" [toCisco s!"vrrp {vrid} ip {vip}"],
     spelled [.word "vrrp", .word "vrid", .number "vrid", .word "priority", .number "prio"]
       "vrrp vrid" [toCisco s!"vrrp {vrid} priority {prio}"],
     spelled
       [.word "vrrp", .word "vrid", .number "vrid", .word "preempt-mode", .word "timer",
        .word "delay", .number "delay"]
       "vrrp vrid" [toCisco s!"vrrp {vrid} preempt delay minimum {delay}"]]),
   only "vlan batch" [toCiscoBy ciscoVlanLine],
   only "port default vlan" [toCisco "switchport access vlan $1"],
   only "port trunk allow-pass vlan" [toCiscoBy ciscoTrunkLine],
   only "port trunk pvid vlan" [toCisco "switchport trunk native vlan $1"],
   only "interface Eth-Trunk" [toCisco "interface Port-channel$1"],
   only "lacp system-priority" [toCisco "lacp system-priority $1"],
   only "lacp priority" [toCisco "lacp port-priority $1"],
   only "ip pool" [toCisco "ip dhcp pool $1"],
   ("network",
    [spelled [.word "network", .token "net", .word "mask", .token "mask"]
       "network" [toCisco s!"network {net} {mask}"],
     spelled [.word "network", .token "net", .token "wildcard"]
       "network" [toCisco s!"network {net} {wildcard} area <area_id>"]]),
   only "gateway-list" [toCisco "default-router $*"],
   only "dns-list" [toCisco "dns-server $*"],
   only "lease day" [toCisco "lease $1 $3 $5"],
   only "security acl" [toCisco "match address $1"],
   only "ike proposal" [toCisco "crypto isakmp policy $1"],
   only "dh group" [toCisco "group $1"],
   ("stack slot",
    [spelled [.word "stack", .word "slot", .number "slot", .word "priority", .number "prio"]
       "stack slot" [toCisco s!"switch {slot} priority {prio}"],
     spelled [.word "stack", .word "slot", .number "slot"] "stack slot"
       [toCisco "# Cisco configures members with global commands"]]),
   ("stack member-id",
    [spelled [.word "stack", .word "member-id", .number "member", .word "renumber", .number "new"]
       "stack member-id" [toCisco s!"switch {member} renumber {new}"]]),
   only "nat server" [toCiscoBy ciscoNatServer]]

def H3c.contenders : List (String × List Rule) :=
  [only "sysname" [toCisco "hostname $1"],
   only "ip address" [toCisco "ip address $1 $2"],
   only "description" [toCisco "description $*"],
   only "ip route-static" [toCisco "ip route $1 $2 $3"],
   ("ospf",
    [rule "ospf" "" [toCisco "router ospf $1"],
     rule "ospf dr-priority" "" [toCisco "ip ospf priority $1"]]),
   only "ospf dr-priority" [toCisco "ip ospf priority $1"],
   ("vrrp vrid",
    [spelled [.word "vrrp", .word "vrid", .number "vrid", .word "virtual-ip", .token "vip"]
       "vrrp vrid" [toCisco s!"vrrp {vrid} ip {vip}"],
     spelled [.word "vrrp", .word "vrid", .number "vrid", .word "priority", .number "prio"]
       "vrrp vrid" [toCisco s!"vrrp {vrid} priority {prio}"],
     spelled
       [.word "vrrp", .word "vrid", .number "vrid", .word "preempt-mode", .word "delay",
        .number "delay"]
       "vrrp vrid" [toCisco s!"vrrp {vrid} preempt delay minimum {delay}"]]),
   only "vlan" [toCiscoBy ciscoVlanLine],
   only "port access vlan" [toCisco "switchport access vlan $1"],
   only "port trunk permit vlan" [toCiscoBy ciscoTrunkLine],
   only "port trunk pvid vlan" [toCisco "switchport trunk native vlan $1"],
   only "interface Bridge-Aggregation" [toCisco "interface Port-channel$1"],
   only "lacp system-priority" [toCisco "lacp system-priority $1"],
   only "link-aggregation port-priority" [toCisco "lacp port-priority $1"],
   ("dhcp server ip-pool",
    [guarded (lastToken "name") "dhcp server ip-pool" "" [toCisco s!"ip dhcp pool {name}"]]),
   ("network",
    [spelled [.word "network", .token "net", .word "mask", .token "mask"]
       "network" [toCisco s!"network {net} {mask}"],
     spelled [.word "network", .token "net", .token "wildcard"]
       "network" [toCisco s!"network {net} {wildcard} area <area_id>"],
     rule "network host address" "" [toCisco "host $1"],
     rule "network subnet" "" [toCisco "$1 $2"],
     rule "network range" "" [toCisco "range $1 $2"],
     rule "network host name" "" []]),
   only "gateway-list" [toCisco "default-router $*"],
   only "dns-list" [toCisco "dns-server $*"],
   only "expired day" [toCisco "lease $1 $3 $5"],
   only "security acl" [toCisco "match address $1"],
   only "ike proposal" [toCisco "crypto isakmp policy $1"],
   only "dh group" [toCisco "group $1"],
   ("irf member",
    [spelled [.word "irf", .word "member", .number "member", .word "renumber", .number "new"]
       "irf member" [toCisco s!"switch {member} renumber {new}"],
     spelled [.word "irf", .word "member", .number "member", .word "priority", .number "prio"]
       "irf member" [toCisco s!"switch {member} priority {prio}"],
     spelled [.word "irf", .word "member", .number "member"]
       "irf member" [toCisco s!"switch {member} provision <model>"]]),
   only "nat server protocol" [toCisco "ip nat inside source static $1 $6 $7 $3 $4"]]

def contenders : Vendor → List (String × List Rule)
  | .cisco => Cisco.contenders
  | .huawei => Huawei.contenders
  | .h3c => H3c.contenders
  | .generic => []

/-- The rules of a dialect that lines of a command can go by, as far as they say something in the
    dialects in question. -/
def rivalsOf (vendor : Vendor) (command : String) : List Rule :=
  (RuleTables.rivals (RuleTables.standard vendor) command).map (Rule.restrict (targets vendor))

private theorem Cisco.rivalsOf_contenders :
    Cisco.contenders.map (rivalsOf .cisco ·.1) = Cisco.contenders.map (·.2) := by
  simp only [rivalsOf, RuleTables.rivals_eq_filter_bytes]
  exact (rfl)

private theorem Huawei.rivalsOf_contenders :
    Huawei.contenders.map (rivalsOf .huawei ·.1) = Huawei.contenders.map (·.2) := by
  simp only [rivalsOf, RuleTables.rivals_eq_filter_bytes]
  exact (rfl)

private theorem H3c.rivalsOf_contenders :
    H3c.contenders.map (rivalsOf .h3c ·.1) = H3c.contenders.map (·.2) := by
  simp only [rivalsOf, RuleTables.rivals_eq_filter_bytes]
  exact (rfl)

/-- What is looked up for a command stands in the table of its contenders. -/
theorem mem_contenders {source : Vendor} {command : String} {listed : List Rule}
    (h : (contenders source).lookup command = some listed) :
    (command, listed) ∈ contenders source := by
  obtain ⟨before, after, hsplit, _⟩ := List.lookup_eq_some_iff.mp h
  rw [hsplit]
  exact List.mem_append_right _ List.mem_cons_self

section Contenders

variable {source target : Vendor} {command line : String} {listed : List Rule}
  (h : (command, listed) ∈ contenders source)

include h

/-- The search for the rule of a line of a command ends among the contenders. -/
theorem rivalsOf_eq : rivalsOf source command = listed := by
  have hall : (contenders source).map (rivalsOf source ·.1) = (contenders source).map (·.2) := by
    cases source with
    | cisco => exact Cisco.rivalsOf_contenders
    | huawei => exact Huawei.rivalsOf_contenders
    | h3c => exact H3c.rivalsOf_contenders
    | generic => rfl
  exact List.map_inj_left.mp hall (command, listed) h

/-- No command of the standard rules starts with a blank. -/
theorem startsSolid_command : Text.startsSolid command := by
  have hall : ∀ source, ∀ entry ∈ contenders source, Text.startsSolid entry.1 := by
    intro source
    cases source <;> decide +kernel
  exact hall source (command, listed) h

private theorem mark_not_mem_command : Text.CodePoint.mark ∉ command.toList := by
  have hall : ∀ source, ∀ entry ∈ contenders source,
      Text.CodePoint.mark ∉ entry.1.toList := by
    intro source
    cases source <;> decide +kernel
  exact hall source (command, listed) h

/-- A line that only one of the contenders reads. -/
theorem translate_eq_text (htarget : target ∈ targets source) (htrim : Text.trim line = line)
    (hline : (Rule.after? command line).isSome) {before after : List Rule} {r : Rule}
    (hlisted : listed = before ++ r :: after) {m : RuleMatch} (hm : r.match? line = some m)
    (hothers : ∀ other ∈ before ++ after, other.match? line = none) {conversion : Conversion}
    (hconversion : r.conversionTo? target = some conversion) :
    RuleTables.standard.translate source target line =
      .text (conversion.render m.args m.captures) := by
  have hne : source ≠ target := by
    rintro rfl
    cases source <;> revert htarget <;> decide
  have hnone {rules : List Rule} (hrules : ∀ other ∈ rules, other.match? line = none) :
      rules.filterMap (·.match? line) = [] := List.filterMap_eq_nil_iff.mpr hrules
  have hlongest : RuleTables.longestMatch listed line = some m := by
    obtain ⟨hbefore, hafter⟩ := List.forall_mem_append.mp hothers
    rw [RuleTables.longestMatch, hlisted, List.filterMap_append, hnone hbefore,
      List.filterMap_cons, hm, hnone hafter]
    rfl
  obtain rfl := Rule.rule_of_match? hm
  exact RuleTables.translate_eq_text hne htarget (mark_not_mem_command h) (rivalsOf_eq h) htrim
    hline hlongest hconversion

end Contenders

/-- A line of a command without other rules. -/
theorem translate_only {source target : Vendor} {command line : String} {args : List String}
    {conversions : List (Vendor × Conversion)} {conversion : Conversion}
    (h : only command conversions ∈ contenders source) (htarget : target ∈ targets source)
    (hconversion : conversions.lookup target = some conversion)
    (hcall : Rule.IsCall command args line) :
    RuleTables.standard.translate source target line = .text (conversion.render args []) :=
  translate_eq_text h htarget hcall.trimmed hcall.isSome_after? (List.nil_append _).symm
    (hcall.match? "" conversions) (fun _ hother => (nomatch hother)) hconversion

end Netscribe.Dialect
