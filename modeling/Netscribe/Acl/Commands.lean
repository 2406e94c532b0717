import Netscribe.Acl.Model
import Netscribe.Device.Vendor
import Netscribe.Script.Draft
import Netscribe.Text.Digit
/-!
Commands that define access control lists. Rules keep their order; a rule's own number is used only
when the device does not number the rules itself.
-/
namespace Netscribe

/-- The list with a given id. No list has the empty id. -/
def Acls.find? (acls : Acls) (id : String) : Option Acl :=
  if id = "" then none else acls.acls.find? (·.id == id)

def TcpFlags.names (f : TcpFlags) : List String :=
  ([("ack", f.ack), ("fin", f.fin), ("psh", f.psh), ("rst", f.rst), ("syn", f.syn),
    ("urg", f.urg)].filter (·.2)).map (·.1)

namespace AclRule

def explicitId (r : AclRule) : String := if r.autoRuleId then "" else r.ruleId

/-- An address with its wildcard; a single host when none is given. -/
def vrpAddress (keyword : String) (isAny : Bool) (address wildcard : String) : String :=
  if isAny then s!" {keyword} any"
  else if address = "" then ""
  else s!" {keyword} {address} " ++ if wildcard = "" then "0.0.0.0" else wildcard

/-- A comparison with one bound, or with two for a range that has both. -/
def portMatch (operator low high : String) : String :=
  if operator = "" ∨ low = "" then ""
  else s!" {operator} {low}" ++ textIf (operator = "range" ∧ high ≠ "") s!" {high}"

def vrpPorts (keyword operator low high : String) : String :=
  let comparison := portMatch operator low high
  textIf (comparison ≠ "") s!" {keyword}{comparison}"

def vrpSource (r : AclRule) : String :=
  vrpAddress "source" r.sourceIsAny r.sourceAddress r.sourceWildcard

def vrpDestination (r : AclRule) : String :=
  vrpAddress "destination" r.destinationIsAny r.destinationAddress r.destinationWildcard

/-- The options that basic and advanced rules end with. -/
def vrpOptions (vendor : Vendor) (r : AclRule) : String :=
  let huawei := vendor = .huawei
  textIf r.fragment (if huawei then " fragment-type fragment" else " fragment")
    ++ textIf r.logging " logging"
    ++ textIf (r.counting ∧ ¬huawei) " counting"
    ++ textIf (r.timeRange ≠ "") s!" time-range {r.timeRange}"
    ++ textIf (r.vpnInstance ≠ "" ∧ ¬huawei) s!" vpn-instance {r.vpnInstance}"

def vrpFlags (vendor : Vendor) (r : AclRule) : String :=
  let flags := r.tcpFlags.names
  if r.protocol ≠ "tcp" then ""
  else if r.established then
    if vendor = .huawei then " tcp-flag established" else " established"
  else if vendor = .huawei then textIf (flags ≠ []) s!" tcp-flag {Text.unwords flags}"
  else String.join (flags.map fun flag => s!" {flag} 1")

/-- The type of an ICMP message, and its code behind it. -/
def icmp (keyword : String) (r : AclRule) : String :=
  textIf (r.protocol = "icmp" ∧ r.icmpType ≠ "")
    (s!" {keyword}{r.icmpType}" ++ textIf (r.icmpCode ≠ "") s!" {r.icmpCode}")

def vrpTtl (vendor : Vendor) (r : AclRule) : String :=
  textIf (vendor = .huawei ∧ r.ttlOperator ≠ "" ∧ r.ttlValue1 ≠ "")
    (s!" ttl {r.ttlOperator} {r.ttlValue1}"
      ++ textIf (r.ttlOperator = "range" ∧ r.ttlValue2 ≠ "") s!" {r.ttlValue2}")

def vrpAdvanced (vendor : Vendor) (r : AclRule) : String :=
  let protocol := if r.protocol = "" ∧ vendor = .huawei then "ip" else r.protocol
  let ported := r.protocol = "tcp" ∨ r.protocol = "udp"
  textIf (protocol ≠ "") s!" {protocol}" ++ r.vrpSource ++ r.vrpDestination
    ++ textIf ported (vrpPorts "source-port" r.sourcePortOperator r.sourcePort1 r.sourcePort2)
    ++ textIf ported (vrpPorts "destination-port" r.destinationPortOperator r.destinationPort1
      r.destinationPort2)
    ++ r.vrpFlags vendor ++ r.icmp "icmp-type " ++ r.vrpTtl vendor
    ++ textIf (r.dscp ≠ "") s!" dscp {r.dscp}"
    ++ textIf (r.precedence ≠ "") s!" precedence {r.precedence}"
    ++ textIf (r.tos ≠ "") s!" tos {r.tos}"

/-- A rule of an H3C or Huawei list. -/
def vrpLine (vendor : Vendor) (basic : Bool) (r : AclRule) : String :=
  " rule" ++ textIf (r.explicitId ≠ "") s!" {r.explicitId}" ++ s!" {r.action}"
    ++ (if basic then r.vrpSource else r.vrpAdvanced vendor) ++ r.vrpOptions vendor

def ciscoAddress (isAny : Bool) (address wildcard : String) : String :=
  if isAny ∨ address = "" then "any"
  else if wildcard = "" ∨ wildcard = "0.0.0.0" then s!"host {address}"
  else s!"{address} {wildcard}"

def ciscoSource (r : AclRule) : String :=
  ciscoAddress r.sourceIsAny r.sourceAddress r.sourceWildcard

def ciscoDestination (r : AclRule) : String :=
  ciscoAddress r.destinationIsAny r.destinationAddress r.destinationWildcard

def ciscoFlags (r : AclRule) : String :=
  let flags := r.tcpFlags.names
  if r.protocol ≠ "tcp" then ""
  else if r.established then " established"
  else textIf (flags ≠ []) (" match-all " ++ Text.unwords (flags.map ("+" ++ ·)))

def ciscoAdvanced (r : AclRule) : String :=
  let protocol := if r.protocol = "" then "ip" else r.protocol
  let ported := protocol = "tcp" ∨ protocol = "udp"
  s!" {protocol} {r.ciscoSource}"
    ++ textIf ported (portMatch r.sourcePortOperator r.sourcePort1 r.sourcePort2)
    ++ s!" {r.ciscoDestination}"
    ++ textIf ported (portMatch r.destinationPortOperator r.destinationPort1 r.destinationPort2)
    ++ r.ciscoFlags ++ r.icmp ""
    ++ (if r.dscp ≠ "" then s!" dscp {r.dscp}"
      else textIf (r.precedence ≠ "") s!" precedence {r.precedence}")
    ++ textIf (r.tos ≠ "") s!" tos {r.tos}"
    ++ textIf r.fragment " fragments"
    ++ textIf (r.timeRange ≠ "") s!" time-range {r.timeRange}"

def ciscoLine (basic : Bool) (r : AclRule) : String :=
  textIf (r.explicitId ≠ "") s!" {r.explicitId}" ++ s!" {r.action}"
    ++ (if basic then s!" {r.ciscoSource}" else r.ciscoAdvanced)
    ++ textIf r.logging " log"

end AclRule

namespace Acl

def isBasic (a : Acl) : Bool := a.kind == "basic"

/-- The name, or the number of a list without one. -/
def label (a : Acl) : String := if a.name = "" then a.number else a.name

def stepEntries (a : Acl) : List Entry :=
  onlyIf (Text.allDigits a.step) [command s!" step {a.step}"]

def h3cHeader (a : Acl) : String :=
  (if a.number ≠ "" then s!"acl number {a.number}" ++ textIf (a.name ≠ "") s!" name {a.name}"
    else s!"acl " ++ (if a.isBasic then "basic" else "advanced") ++ s!" name {a.name}")
    ++ s!" match-order {a.matchOrder}"

def h3cEntries (a : Acl) : List Entry :=
  command a.h3cHeader s!"Creates ACL {a.label} ({a.matchOrder} order)."
    :: a.stepEntries
    ++ a.rules.flatMap (fun r =>
      onlyIf (r.description ≠ "") [.comment r.description " #"]
        ++ [command (r.vrpLine .h3c a.isBasic)])
    ++ [command "quit"]

def huaweiHeader (a : Acl) : Entry :=
  if a.name ≠ "" then
    let kind := if a.kind = "advanced" then "advance" else "basic"
    command s!"acl name {a.name} {kind}" s!"Creates {kind} ACL {a.name}."
  else command s!"acl {a.number}" s!"Creates ACL {a.number}."

/-- The description of a numbered rule is a command, that of another a comment. -/
def huaweiDescription (r : AclRule) : List Entry :=
  if r.description = "" then []
  else if r.explicitId ≠ "" then [command s!" rule {r.explicitId} description {r.description}"]
  else [.comment s!"rule description: {r.description}" " #"]

def huaweiEntries (a : Acl) : List Entry :=
  a.huaweiHeader :: onlyIf (a.description ≠ "") [command s!" description {a.description}"]
    ++ a.stepEntries
    ++ a.rules.flatMap (fun r => command (r.vrpLine .huawei a.isBasic) :: huaweiDescription r)
    ++ [command "quit"]

def ciscoEntries (a : Acl) : List Entry :=
  let kind := if a.isBasic then "standard" else "extended"
  command s!"ip access-list {kind} {a.label}" s!"Creates {kind} access list {a.label}."
    :: onlyIf (a.description ≠ "") [command s!" remark {a.description}"]
    ++ a.rules.flatMap (fun r =>
      onlyIf (r.description ≠ "") [command s!" remark {r.description}"]
        ++ [command (r.ciscoLine a.isBasic)])
    ++ [command "exit"]

end Acl

namespace Acls

/-- One block for a list, separated by empty lines. Lists with neither number nor name are left
    out. -/
def entries (block : Acl → List Entry) (acls : Acls) : List Entry :=
  (acls.acls.filter fun a => a.number ≠ "" ∨ a.name ≠ "").flatMap fun a => .blank :: block a

def render (vendor : Vendor) (acls : Acls) : Fragment :=
  if !acls.enabled then .nothing "ACL is disabled."
  else match vendor with
    | .cisco => finish (acls.entries Acl.ciscoEntries)
    | .huawei => finish (acls.entries Acl.huaweiEntries)
    | .h3c => finish (acls.entries Acl.h3cEntries)
    | .generic => .unsupported "ACL" vendor.name
where
  finish (entries : List Entry) : Fragment :=
    .ofEntries entries "ACL configuration generated locally." "No ACLs configured."

end Acls
end Netscribe
