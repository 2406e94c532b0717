import Netscribe.Acl.Commands
import Netscribe.Nat.Model
import Netscribe.Script.Grouping
/-!
Commands of NAT.
-/
namespace Netscribe

/-- The parts that are set, each after a blank. -/
def spacedParts (parts : List String) : String :=
  String.join ((parts.filter (· ≠ "")).map (" " ++ ·))

namespace NatServer

/-- Only these protocols have ports. -/
def isPorted (s : NatServer) : Bool := ["tcp", "udp", "sctp"].contains s.protocol

def globalPart (s : NatServer) : String :=
  if s.globalAddressType = "interface" then
    textIf (s.globalInterface ≠ "") s!" interface {s.globalInterface}"
  else spacedParts [s.globalAddress, s.globalAddressEnd]

/-- The line of a server that is reachable from outside. Zones exist on firewalls only. -/
def line (deviceType : DeviceType) (s : NatServer) : String :=
  s!"nat server name {s.name}"
    ++ textIf (s.zone ≠ "" ∧ deviceType = .firewall) s!" zone {s.zone}"
    ++ textIf (s.protocol ≠ "" ∧ s.protocol ≠ "any") s!" protocol {s.protocol}"
    ++ " global" ++ s.globalPart
    ++ textIf s.isPorted (spacedParts [s.globalPort, s.globalPortEnd])
    ++ " inside" ++ spacedParts [s.insideHostAddress, s.insideHostAddressEnd]
    ++ textIf s.isPorted (spacedParts [s.insideHostPort, s.insideHostPortEnd])
    ++ textIf s.noReverse " no-reverse"
    ++ textIf s.route " route"
    ++ textIf s.disabled " nat-disable"
    ++ textIf (s.description ≠ "") s!" description \"{s.description}\""

end NatServer

namespace HuaweiNat

def sectionEntry (s : PoolSection) : Entry :=
  let last := if s.endAddress = "" then s.startAddress else s.endAddress
  command (" section" ++ spacedParts [s.sectionId, s.startAddress, s.endAddress])
    s!"Pool range {s.startAddress} to {last}."

def poolEntries (p : HuaweiNatPool) : List Entry :=
  command (s!"nat address-group {p.groupName}" ++ spacedParts [p.groupNumber])
      s!"Creates NAT address pool {p.groupName}."
    :: (p.sections.filter (·.startAddress ≠ "")).map sectionEntry
    ++ onlyIf (p.mode ≠ "") [command s!" mode {p.mode}"]
    ++ onlyIf p.routeEnable [command " route enable" "Advertises a blackhole route for the pool."]
    ++ [command "quit", .blank]

def actionLine (r : HuaweiNatRule) : String :=
  s!"  action {r.action}"
    ++ textIf (r.action = "source-nat")
      (if r.easyIp then " easy-ip"
        else textIf (r.natAddressGroup ≠ "") s!" address-group {r.natAddressGroup}")

def ruleEntries (r : HuaweiNatRule) : List Entry :=
  command s!" rule name {r.ruleName}" s!"NAT policy rule {r.ruleName}."
    :: onlyIf (r.sourceAddress ≠ "" ∧ r.sourceMask ≠ "")
      [command s!"  source-address {r.sourceAddress} {r.sourceMask}"]
    ++ onlyIf (r.destinationAddress ≠ "" ∧ r.destinationMask ≠ "")
      [command s!"  destination-address {r.destinationAddress} {r.destinationMask}"]
    ++ [command (actionLine r)]

def policyEntries (n : HuaweiNat) : List Entry :=
  onlyIf (!n.rules.isEmpty)
    ([.blank, remark "Source NAT Policy", command "nat-policy" "Enters the NAT policy view."]
      ++ (n.rules.filter (·.ruleName ≠ "")).flatMap ruleEntries
      ++ [command "quit"])

def serverEntry (deviceType : DeviceType) (s : NatServer) : Entry :=
  command (s.line deviceType) s!"Destination NAT for internal server {s.name}."

def entries (deviceType : DeviceType) (n : HuaweiNat) : List Entry :=
  titled "Source NAT Address Pools"
      ((n.addressPools.filter (·.groupName ≠ "")).flatMap poolEntries)
    ++ n.policyEntries
    ++ titled "Destination NAT (NAT Server)"
      ((n.servers.filter (·.name ≠ "")).map (serverEntry deviceType))

end HuaweiNat

/-- The reference to an ACL behind a NAT rule; nothing if the list does not exist. -/
def Acls.numberPart (acls : Acls) (keyword id : String) : String :=
  match acls.find? id with
  | some a => s!" {keyword}{a.number}"
  | none => ""

namespace NatStaticRule

/-- What is translated into what; nothing if the type of the rule is unknown or a field that the
    type needs is not set. -/
def mapping? (r : NatStaticRule) : Option String :=
  let outbound := r.direction = "outbound"
  if r.kind = "one-to-one" then
    if r.localIp = "" ∨ r.globalIp = "" then none
    else some (if outbound then s!" {r.localIp} {r.globalIp}" else s!" {r.globalIp} {r.localIp}")
  else if r.kind = "net-to-net" then
    if outbound then
      if [r.localStartIp, r.localEndIp, r.globalNetwork, r.globalMask].contains "" then none
      else some (s!" net-to-net {r.localStartIp} {r.localEndIp} "
        ++ s!"global {r.globalNetwork} {r.globalMask}")
    else
      if [r.globalStartIp, r.globalEndIp, r.localNetwork, r.localMask].contains "" then none
      else some (s!" net-to-net {r.globalStartIp} {r.globalEndIp} "
        ++ s!"local {r.localNetwork} {r.localMask}")
  else if r.kind = "address-group" then
    if r.localAddressGroup = "" ∨ r.globalAddressGroup = "" then none
    else some (if outbound then
      s!" object-group {r.localAddressGroup} object-group {r.globalAddressGroup}"
      else s!" object-group {r.globalAddressGroup} object-group {r.localAddressGroup}")
  else none

def line? (acls : Acls) (r : NatStaticRule) : Option String :=
  r.mapping?.map fun mapping =>
    s!"nat static {r.direction}" ++ mapping ++ acls.numberPart "acl " r.aclId
      ++ textIf r.reversible " reversible"

end NatStaticRule

namespace GlobalNatRule

def ipMatch (keyword kind value : String) : List Entry :=
  if kind = "any" ∨ value = "" then []
  else if kind = "object-group" then [command s!"  {keyword} object-group-name {value}"]
  else onlyIf (kind = "host" ∨ kind = "subnet") [command s!"  {keyword} {kind} {value}"]

def sourceAction (r : GlobalNatRule) : List Entry :=
  let action := r.snatAction
  if action = "easy-ip" then
    [command ("  action snat easy-ip" ++ textIf r.snatPortPreserved " port-preserved")]
  else if action = "static" then
    onlyIf (r.snatStaticGlobalValue ≠ "")
      [command s!"  action snat static {r.snatStaticGlobalValue}"]
  else if action = "no-pat" then
    onlyIf (r.snatAddressGroup ≠ "")
      [command (s!"  action snat address-group {r.snatAddressGroup} no-pat"
        ++ textIf r.snatReversible " reversible")]
  else if action = "pat" then
    onlyIf (r.snatAddressGroup ≠ "")
      [command (s!"  action snat address-group {r.snatAddressGroup}"
        ++ textIf r.snatPortPreserved " port-preserved")]
  else onlyIf (action = "no-nat") [command "  action snat no-nat"]

def destinationAction (r : GlobalNatRule) : List Entry :=
  if r.dnatAction = "static" then
    onlyIf (r.dnatLocalAddress ≠ "")
      [command (s!"  action dnat ip-address {r.dnatLocalAddress}"
        ++ textIf (r.dnatLocalPort ≠ "") s!" port {r.dnatLocalPort}")]
  else onlyIf (r.dnatAction = "no-nat") [command "  action dnat no-nat"]

/-- Routers have no zones. -/
def entries (deviceType : DeviceType) (r : GlobalNatRule) : List Entry :=
  let zoned := deviceType ≠ .router
  command s!" rule name {r.name}" s!"Global NAT rule {r.name}."
    :: onlyIf (r.description ≠ "") [command s!"  description \"{r.description}\""]
    ++ onlyIf (zoned ∧ r.sourceZone ≠ "") [command s!"  source-zone {r.sourceZone}"]
    ++ onlyIf (zoned ∧ r.destinationZone ≠ "")
      [command s!"  destination-zone {r.destinationZone}"]
    ++ ipMatch "source-ip" r.sourceIpType r.sourceIpValue
    ++ ipMatch "destination-ip" r.destinationIpType r.destinationIpValue
    ++ onlyIf (r.serviceType = "object-group" ∧ r.serviceValue ≠ "")
      [command s!"  service object-group-name {r.serviceValue}"]
    ++ r.sourceAction ++ r.destinationAction
    ++ onlyIf r.countingEnabled [command "  counting enable"]
    ++ onlyIf (!r.enabled) [command "  disable"]

end GlobalNatRule

namespace PortMapping

def isAclBased (m : PortMapping) : Bool := m.mappingType == "acl-based"

def isLoadBalancing (m : PortMapping) : Bool := m.mappingType == "load-balancing"

def globalPart (acls : Acls) (m : PortMapping) : String :=
  if m.isAclBased then acls.numberPart "" m.aclId
  else
    (if m.globalAddressType = "interface" then " current-interface" else s!" {m.globalAddress}")
      ++ spacedParts [m.globalEndAddress, m.globalPort]
      ++ textIf (m.globalStartPort ≠ "" ∧ m.globalEndPort ≠ "")
        s!" {m.globalStartPort} {m.globalEndPort}"

def insidePart (m : PortMapping) : String :=
  if m.isLoadBalancing then textIf (m.serverGroupId ≠ "") s!" server-group {m.serverGroupId}"
  else
    spacedParts [m.localAddress, m.localEndAddress, m.localPort]
      ++ textIf (m.localStartPort ≠ "" ∧ m.localEndPort ≠ "")
        s!" {m.localStartPort} {m.localEndPort}"

def line (acls : Acls) (m : PortMapping) : String :=
  " nat server" ++ textIf (m.protocol ≠ "" ∧ m.protocol ≠ "all") s!" protocol {m.protocol}"
    ++ " global" ++ m.globalPart acls ++ " inside" ++ m.insidePart
    ++ textIf (!m.isAclBased) (acls.numberPart "acl " m.aclId)
    ++ textIf m.reversible " reversible"
    ++ textIf (m.policyName ≠ "") s!" rule {m.policyName}"

end PortMapping

namespace H3cNat

def poolEntries (p : NatAddressPool) : List Entry :=
  [command (s!"nat address-group {p.groupId}" ++ textIf (p.name ≠ "") s!" name {p.name}")
    s!"Address group {p.groupId}.",
   command s!" address {p.startAddress} {p.endAddress}", command "quit", .blank]

def completePools (n : H3cNat) : List NatAddressPool :=
  n.addressPool.pools.filter fun p => p.groupId ≠ "" ∧ p.startAddress ≠ "" ∧ p.endAddress ≠ ""

def serverGroupEntries (g : ServerGroup) : List Entry :=
  command s!"nat server-group {g.groupId}" s!"Load-balanced server group {g.groupId}."
    :: g.members.map (fun m =>
      command s!" inside ip {m.ip} port {m.port} weight {m.weight}")
    ++ [command "quit", .blank]

def staticEntries (acls : Acls) (n : H3cNat) : List Entry :=
  let lines := n.staticOutbound.rules.filterMap fun r => r.line? acls
  onlyIf (n.staticOutbound.enabled ∧ lines ≠ [])
    ([.blank, remark "Static NAT"]
      ++ lines.map (fun line => command line "One-to-one or net-to-net static mapping.")
      ++ [.blank,
         remark ("NOTE: Apply \"nat static enable\" on the relevant interface(s) "
          ++ "for these rules to take effect.")])

def policyEntries (deviceType : DeviceType) (n : H3cNat) : List Entry :=
  let rules := n.globalPolicy.rules.filter (·.name ≠ "")
  onlyIf (n.globalPolicy.enabled ∧ !rules.isEmpty)
    ([.blank, remark "Global NAT Policy",
      command "nat global-policy" "Enters the NAT global policy view."]
      ++ rules.flatMap (·.entries deviceType)
      ++ [command "quit"])

/-- The mappings of each interface in one block. -/
def mappingEntries (acls : Acls) (n : H3cNat) : List Entry :=
  let mappings := n.portMapping.rules.filter (·.interfaceName ≠ "")
  onlyIf n.portMapping.enabled
    ((groupByKey (·.interfaceName) mappings).flatMap fun (name, group) =>
      [.blank, command s!"interface {name}"]
        ++ group.map (fun m => command (m.line acls) s!"Port mapping on {name}.")
        ++ [command "quit"])

def entries (deviceType : DeviceType) (acls : Acls) (n : H3cNat) : List Entry :=
  onlyIf n.addressPool.enabled
      (titled "NAT Address Pools" (n.completePools.flatMap poolEntries))
    ++ titled "NAT Server Groups" (n.serverGroups.flatMap serverGroupEntries)
    ++ n.staticEntries acls ++ n.policyEntries deviceType ++ n.mappingEntries acls

end H3cNat

namespace NatSettings

/-- Whether a draft holds anything besides headings and empty lines. -/
def hasCommand (d : Draft) : Bool :=
  d.lines.any fun line => !Text.allBlank line && !Text.hasStart "#" line

def finish (entries : List Entry) : Fragment :=
  let draft := Draft.ofEntries entries
  if hasCommand draft then draft.build "NAT configuration generated locally."
  else .nothing "No NAT rules configured."

def render (vendor : Vendor) (deviceType : DeviceType) (acls : Acls) (n : NatSettings) :
    Fragment :=
  if !n.enabled then .nothing "NAT feature is disabled."
  else match vendor, n.variant with
    | .huawei, .huawei nat => finish (nat.entries deviceType)
    | .h3c, .h3c nat => finish (nat.entries deviceType acls)
    | _, _ => .unsupported "NAT" vendor.name

end NatSettings
end Netscribe
