import Netscribe.Device.Vendor
import Netscribe.Script.Draft
import Netscribe.Zone.Model
/-!
Commands of security zones and of the policies between them.
-/
namespace Netscribe

namespace ZonePolicy

/-- A text cut at the first blank run, if it has one that is not at its start. -/
def cutAtBlank (text : String) : String × String :=
  let cs := text.toList
  (.ofList (cs.takeWhile (!Text.isBlank ·)),
   .ofList ((cs.dropWhile (!Text.isBlank ·)).dropWhile Text.isBlank))

def cutAtSlash (text : String) : String × String :=
  let cs := text.toList
  (.ofList (cs.takeWhile (· ≠ '/')), .ofList ((cs.dropWhile (· ≠ '/')).drop 1))

/-- An address as it was entered, in the vendor's words: a range `a-b`, a network `a/b` or `a b`,
    or a single host. -/
def address (vendor : Vendor) (entered : String) : String :=
  let text := Text.trim entered
  let ends := Text.splitOn '-' text
  let h3c := vendor = .h3c
  if text = "" then ""
  else match ends with
    | [low, high] => s!"range {Text.trim low} {Text.trim high}"
    | _ =>
      if Text.contains '/' text then
        let (ip, mask) := cutAtSlash text
        if h3c then s!"subnet {ip} {mask}" else s!"{ip} {mask}"
      else if Text.contains ' ' text then
        let (ip, mask) := cutAtBlank text
        if h3c then s!"subnet {ip} {mask}" else text
      else if h3c then s!"host {text}" else s!"{text} 32"

/-- A criterion of a policy: a group of objects, a value of its own, or anything. -/
def criterion (kind value group custom : String) : List Entry :=
  if value = "" then []
  else if kind = "group" then [command s!"  {group} {value}"]
  else onlyIf (kind = "custom") [command s!"  {custom}"]

def timeEntries (p : ZonePolicy) : List Entry :=
  onlyIf (p.timeRange ≠ "") [command s!"  time-range {p.timeRange}"]

def huaweiEntries (p : ZonePolicy) : List Entry :=
  criterion p.sourceAddressType p.sourceAddressValue "source-address address-set"
      s!"source-address {address .huawei p.sourceAddressValue}"
    ++ criterion p.destinationAddressType p.destinationAddressValue
      "destination-address address-set"
      s!"destination-address {address .huawei p.destinationAddressValue}"
    ++ criterion p.serviceType p.serviceValue "service service-set" s!"service {p.serviceValue}"
    ++ p.timeEntries
    ++ onlyIf (p.action ≠ "") [command s!"  action {p.action}"]

def h3cEntries (p : ZonePolicy) : List Entry :=
  criterion p.sourceAddressType p.sourceAddressValue "source-ip object-group-name"
      s!"source-ip-{address .h3c p.sourceAddressValue}"
    ++ criterion p.destinationAddressType p.destinationAddressValue
      "destination-ip object-group-name"
      s!"destination-ip-{address .h3c p.destinationAddressValue}"
    ++ criterion p.serviceType p.serviceValue "service object-group-name"
      s!"service {p.serviceValue}"
    ++ p.timeEntries
    ++ onlyIf p.logging [command "  logging enable"]
    ++ onlyIf p.counting [command "  counting enable"]
    ++ [command ("  action " ++ if p.action = "permit" then "pass" else "drop")]

def label (p : ZonePolicy) : String := if p.name = "" then p.id else p.name

def orAny (zone : String) : String := if zone = "" then "any" else zone

def entries (vendor : Vendor) (p : ZonePolicy) : List Entry :=
  command s!" rule name {p.label}"
      s!"Policy rule {p.label}: {orAny p.sourceZone} -> {orAny p.destinationZone}."
    :: onlyIf (p.description ≠ "") [command s!"  description \"{p.description}\""]
    ++ onlyIf (p.sourceZone ≠ "") [command s!"  source-zone {p.sourceZone}"]
    ++ onlyIf (p.destinationZone ≠ "") [command s!"  destination-zone {p.destinationZone}"]
    ++ if vendor = .huawei then p.huaweiEntries else p.h3cEntries

end ZonePolicy

namespace Zone

def memberEntries (keyword : String) (z : Zone) : List Entry :=
  (z.members.filter (·.interfaceName ≠ "")).map fun m =>
    command s!" {keyword} interface {m.interfaceName}" s!"Places {m.interfaceName} in {z.name}."

def descriptionEntries (z : Zone) : List Entry :=
  onlyIf (z.description ≠ "") [command s!" description \"{z.description}\""]

def huaweiEntries (z : Zone) : List Entry :=
  command s!"firewall zone name {z.name}" s!"Creates security zone {z.name}."
    :: onlyIf (z.priority ≠ "")
      [command s!" set priority {z.priority}" "Higher priority means more trusted."]
    ++ z.descriptionEntries ++ z.memberEntries "add" ++ [command "quit"]

def h3cEntries (z : Zone) : List Entry :=
  command s!"security-zone name {z.name}" s!"Creates security zone {z.name}."
    :: z.descriptionEntries ++ z.memberEntries "import" ++ [command "quit"]

end Zone

namespace ZoneSecurity

def zoneEntries (vendor : Vendor) (s : ZoneSecurity) : List Entry :=
  (s.zones.filter (·.name ≠ "")).flatMap fun z =>
    .blank :: if vendor = .huawei then z.huaweiEntries else z.h3cEntries

/-- Policies that are enabled and have a name or an id. -/
def activePolicies (s : ZoneSecurity) : List ZonePolicy :=
  s.policies.filter fun p => p.enabled ∧ (p.name ≠ "" ∨ p.id ≠ "")

def policyEntries (vendor : Vendor) (s : ZoneSecurity) : List Entry :=
  let active := s.activePolicies
  onlyIf (vendor = .h3c)
      [command "undo security-policy disable" "Turns on security-policy based filtering."]
    ++ onlyIf (!active.isEmpty)
      ([.blank, command (if vendor = .huawei then "security-policy" else "security-policy ip")]
        ++ active.flatMap (·.entries vendor)
        ++ [command "quit"])

def entries (vendor : Vendor) (s : ZoneSecurity) : List Entry :=
  onlyIf s.zonesEnabled (s.zoneEntries vendor)
    ++ onlyIf s.policiesEnabled (.blank :: s.policyEntries vendor)

def render (vendor : Vendor) (s : ZoneSecurity) : Fragment :=
  if !(s.zonesEnabled || s.policiesEnabled) then
    .nothing "Security zones and policies are disabled."
  else if !vendor.isVrp then .unsupported "Security zones and policies" vendor.name
  else
    .ofEntries (s.entries vendor) "Security Zone and Policy configuration generated."
      "No zones or enabled policies configured."

end ZoneSecurity
end Netscribe
