import Netscribe.Device.Vendor
import Netscribe.ObjectGroup.Model
import Netscribe.Script.Draft
import Netscribe.Script.Grouping
/-!
Commands that define object groups.
-/
namespace Netscribe

namespace AddressMember

def hostMasks : List String := ["255.255.255.255", "32"]

def isMasked (m : AddressMember) : Bool := m.kind == "ip-mask" && m.address != ""

def isRange (m : AddressMember) : Bool :=
  m.kind == "range" && m.startAddress != "" && m.endAddress != ""

def maskOr (default : String) (m : AddressMember) : String :=
  if m.mask = "" then default else m.mask

def huaweiEntries (index : Nat) (m : AddressMember) : List Entry :=
  let mask := m.maskOr "32"
  if m.isMasked then [command s!" address {index} {m.address} mask {mask}"]
  else onlyIf m.isRange [command s!" address {index} range {m.startAddress} {m.endAddress}"]

def h3cEntries (index : Nat) (m : AddressMember) : List Entry :=
  if m.isMasked then
    let mask := m.maskOr "255.255.255.255"
    if hostMasks.contains mask then [command s!" {index} network host address {m.address}"]
    else [command s!" {index} network subnet {m.address} {mask}"]
  else if m.isRange then [command s!" {index} network range {m.startAddress} {m.endAddress}"]
  else onlyIf (m.kind = "host-name" ∧ m.hostName ≠ "")
    [command s!" {index} network host name {m.hostName}"]

def ciscoEntries (m : AddressMember) : List Entry :=
  if m.isMasked then
    let mask := m.maskOr "255.255.255.255"
    if hostMasks.contains mask then [command s!" host {m.address}"]
    else [command s!" {m.address} {mask}"]
  else onlyIf m.isRange [command s!" range {m.startAddress} {m.endAddress}"]

end AddressMember

namespace ServiceMember

def hasPorts (m : ServiceMember) : Bool := m.protocol == "tcp" || m.protocol == "udp"

/-- A comparison of ports behind a keyword, which may be empty. A range always has a second bound,
    even if that bound is empty. -/
def portClause (keyword operator low high : String) : String :=
  if operator = "" ∨ low = "" then ""
  else textIf (keyword ≠ "") s!" {keyword}" ++ s!" {operator} {low}"
    ++ textIf (operator = "range") s!" {high}"

def sourceClause (keyword : String) (m : ServiceMember) : String :=
  textIf m.hasPorts (portClause keyword m.sourcePortOperator m.sourcePort1 m.sourcePort2)

def destinationClause (keyword : String) (m : ServiceMember) : String :=
  textIf m.hasPorts
    (portClause keyword m.destinationPortOperator m.destinationPort1 m.destinationPort2)

/-- The protocol with its ports or message type. -/
def body (sourceKeyword destinationKeyword : String) (m : ServiceMember) : String :=
  (if m.protocol = "custom" then
      textIf (m.customProtocolNumber ≠ "") s!" {m.customProtocolNumber}"
    else s!" {m.protocol}")
    ++ m.sourceClause sourceKeyword ++ m.destinationClause destinationKeyword
    ++ textIf (m.protocol = "icmp" ∧ m.icmpType ≠ "")
      (s!" icmp-type {m.icmpType}" ++ textIf (m.icmpCode ≠ "") s!" {m.icmpCode}")

def ciscoEntries (m : ServiceMember) : List Entry :=
  if m.protocol = "custom" then
    onlyIf (m.customProtocolNumber ≠ "") [command s!" {m.customProtocolNumber}"]
  else
    [command (s!" {m.protocol}" ++ m.sourceClause "source" ++ m.destinationClause ""
      ++ textIf (m.protocol = "icmp" ∧ m.icmpType ≠ "") s!" {m.icmpType}")]

end ServiceMember

def quotedDescription (text : String) : List Entry :=
  onlyIf (text ≠ "") [command s!" description \"{text}\""]

def plainDescription (text : String) : List Entry :=
  onlyIf (text ≠ "") [command s!" description {text}"]

namespace AddressGroup

def huaweiEntries (g : AddressGroup) : List Entry :=
  command s!"ip address-set {g.name} type object" s!"Address set {g.name}."
    :: quotedDescription g.description
    ++ (numbered 0 g.members).flatMap (fun (i, m) => m.huaweiEntries i)
    ++ [command "quit"]

def h3cEntries (g : AddressGroup) : List Entry :=
  command s!"object-group ip address {g.name}" s!"Address object group {g.name}."
    :: quotedDescription g.description
    ++ (numbered 1 g.members).flatMap (fun (i, m) => m.h3cEntries i)
    ++ [command "quit"]

def ciscoEntries (g : AddressGroup) : List Entry :=
  command s!"object-group network {g.name}" s!"Network object group {g.name}."
    :: plainDescription g.description
    ++ g.members.flatMap AddressMember.ciscoEntries
    ++ [command "exit"]

end AddressGroup

namespace ServiceGroup

def huaweiEntries (g : ServiceGroup) : List Entry :=
  command s!"ip service-set {g.name} type object" s!"Service set {g.name}."
    :: quotedDescription g.description
    ++ (numbered 0 g.members).map (fun (i, m) =>
      command (s!" service {i} protocol" ++ m.body "source-port" "destination-port"))
    ++ [command "quit"]

def creation (g : ServiceGroup) : Entry :=
  command s!"object-group service {g.name}" s!"Service object group {g.name}."

def h3cEntries (g : ServiceGroup) : List Entry :=
  g.creation :: quotedDescription g.description
    ++ (numbered 1 g.members).map (fun (i, m) =>
      command (s!" {i} service" ++ m.body "source" "destination"))
    ++ [command "quit"]

def ciscoEntries (g : ServiceGroup) : List Entry :=
  g.creation :: plainDescription g.description
    ++ g.members.flatMap ServiceMember.ciscoEntries
    ++ [command "exit"]

end ServiceGroup

namespace DomainGroup

def huaweiEntries (g : DomainGroup) : List Entry :=
  command s!"domain-set name {g.name}" s!"Domain set {g.name}."
    :: quotedDescription g.description
    ++ (g.members.filter (·.name ≠ "")).map (fun m => command s!" add domain {m.name}")
    ++ [command "quit"]

/-- A device without groups of domains takes them as addresses given by host name. -/
def asAddressGroup (g : DomainGroup) : AddressGroup where
  name := g.name
  description := g.description
  members := g.members.map fun m => { kind := "host-name", hostName := m.name, id := m.id }
  id := g.id

end DomainGroup

namespace ObjectGroups

def anyEnabled (o : ObjectGroups) : Bool :=
  o.addressGroupsEnabled || o.serviceGroupsEnabled || o.domainGroupsEnabled

/-- Groups without a name or without members are left out. -/
def addressEntries (block : AddressGroup → List Entry) (o : ObjectGroups) : List Entry :=
  (o.addressGroups.filter fun g => g.name ≠ "" ∧ g.members.length ≠ 0).flatMap block

def serviceEntries (block : ServiceGroup → List Entry) (o : ObjectGroups) : List Entry :=
  (o.serviceGroups.filter fun g => g.name ≠ "" ∧ g.members.length ≠ 0).flatMap block

def domainEntries (block : DomainGroup → List Entry) (o : ObjectGroups) : List Entry :=
  (o.domainGroups.filter fun g => g.name ≠ "" ∧ g.members.length ≠ 0).flatMap block

/-- A section of groups under a heading, if the section is enabled and has any. -/
def groupSection (marker title : String) (enabled : Bool) (entries : List Entry) : List Entry :=
  onlyIf (enabled ∧ entries ≠ []) (.blank :: .comment title marker :: entries)

def sections (marker : String) (addresses services domains : List Entry) (o : ObjectGroups) :
    List Entry :=
  groupSection marker "Address Groups" o.addressGroupsEnabled addresses
    ++ groupSection marker "Service Groups" o.serviceGroupsEnabled services
    ++ groupSection marker "Domain Groups" o.domainGroupsEnabled domains

def huaweiEntries (o : ObjectGroups) : List Entry :=
  o.sections "#" (o.addressEntries AddressGroup.huaweiEntries)
    (o.serviceEntries ServiceGroup.huaweiEntries) (o.domainEntries DomainGroup.huaweiEntries)

def h3cEntries (o : ObjectGroups) : List Entry :=
  o.sections "#" (o.addressEntries AddressGroup.h3cEntries)
    (o.serviceEntries ServiceGroup.h3cEntries)
    (o.domainEntries fun g => g.asAddressGroup.h3cEntries)

def ciscoEntries (o : ObjectGroups) : List Entry :=
  o.sections "!" (o.addressEntries AddressGroup.ciscoEntries)
      (o.serviceEntries ServiceGroup.ciscoEntries) []
    ++ onlyIf o.domainGroupsEnabled
      [.note "Domain groups have no Cisco IOS object-group form; skipped."]

def render (vendor : Vendor) (o : ObjectGroups) : Fragment :=
  if !o.anyEnabled then .nothing "Object Groups are disabled."
  else match vendor with
    | .huawei => finish o.huaweiEntries
    | .h3c => finish o.h3cEntries
    | .cisco => finish o.ciscoEntries
    | .generic => .unsupported "Object Groups" vendor.name
where
  finish (entries : List Entry) : Fragment :=
    .ofEntries entries "Object Group configuration generated."
      "Object Groups are disabled or no groups are configured."

end ObjectGroups
end Netscribe
