import Netscribe.Device.Vendor
import Netscribe.LinkAggregation.Model
import Netscribe.Script.Draft
import Netscribe.Vlan.IdList
/-!
Commands of aggregation groups: settings of the whole device, the aggregate interface, then the
member ports.
-/
namespace Netscribe

namespace AggregationGroup

def memberNames (g : AggregationGroup) : List String :=
  (g.members.map (·.name)).filter (· ≠ "")

def namedMembers (g : AggregationGroup) : List AggregationMember :=
  g.members.filter (·.name ≠ "")

/-- The name of the aggregate interface. H3C names routed ones differently. -/
def interfaceName (vendor : Vendor) (g : AggregationGroup) : String :=
  match vendor with
  | .cisco => s!"Port-channel{g.groupId}"
  | .huawei => s!"Eth-Trunk{g.groupId}"
  | .h3c | .generic =>
    if g.interfaceMode = "l3" then s!"Route-Aggregation{g.groupId}"
    else s!"Bridge-Aggregation{g.groupId}"

def defaultPriority : String := "32768"

/-- The three parts of a group. -/
structure Parts where
  globals : List Entry := []
  aggregate : List Entry := []
  members : List Entry := []

/-- Each part that has something in it, separated by empty lines. -/
def Parts.entries (p : Parts) : List Entry :=
  [p.globals, p.aggregate, p.members].flatMap fun part => onlyIf (part ≠ []) (.blank :: part)

/-- The allowed VLANs behind a keyword, in the vendor's list form; nothing if there are none. -/
def allowedEntries (g : AggregationGroup) (keyword : String) (form : List Int → String) :
    Except Fault (List Entry) := do
  let allowed ← Vlan.parseIds g.trunkAllowedVlans
  return onlyIf (allowed ≠ []) [command s!" {keyword} {form allowed}"]

/-- The switching mode of the aggregate interface, unless it is a routed one. -/
def modeEntries (g : AggregationGroup) (access trunk : List Entry) (nativeKeyword : String)
    (allowed : List Entry) : List Entry :=
  if g.interfaceMode = "access" then
    onlyIf (g.accessVlan ≠ "") access
  else onlyIf (g.interfaceMode = "trunk")
    (trunk
      ++ onlyIf (g.trunkNativeVlan ≠ "") [command s!" {nativeKeyword} {g.trunkNativeVlan}"]
      ++ allowed)

def ciscoMode (g : AggregationGroup) : Except Fault (List Entry) := do
  if g.interfaceMode = "l3" then
    return [command " no switchport" "Makes the port-channel a routed interface."]
  let allowed ←
    if g.interfaceMode = "trunk" then
      g.allowedEntries "switchport trunk allowed vlan" Vlan.dashedList
    else pure []
  return g.modeEntries
    [command " switchport mode access", command s!" switchport access vlan {g.accessVlan}"]
    [command " switchport mode trunk"] "switchport trunk native vlan" allowed

def ciscoMember (g : AggregationGroup) (name : String) : List Entry :=
  [command s!"interface {name}",
   command s!" channel-group {g.groupId} mode {g.mode}"
    s!"Bundles {name} into Port-channel{g.groupId}.",
   command " no shutdown",
   command "exit"]

def ciscoParts (g : AggregationGroup) : Except Fault Parts := do
  let mode ← g.ciscoMode
  return {
    globals := onlyIf (g.loadBalanceAlgorithm ≠ "")
      [command s!"port-channel load-balance {g.loadBalanceAlgorithm}"
        "Selects the hash used to spread traffic over members."]
    aggregate := command s!"interface {g.interfaceName .cisco}"
      :: onlyIf (g.description ≠ "") [command s!" description {g.description}"]
      ++ mode ++ [command "exit"]
    members := g.memberNames.flatMap g.ciscoMember }

def usesLacp (g : AggregationGroup) : Bool := g.mode == "lacp-static"

def huaweiGlobals (g : AggregationGroup) : List Entry :=
  let systemMode := g.huaweiLacpPriorityMode = "system-priority"
  let keyword := if systemMode then "lacp system-priority" else "lacp priority"
  onlyIf g.usesLacp
    (onlyIf systemMode [command "lacp priority-command-mode system-priority"]
      ++ onlyIf (!isDefault g.systemPriority defaultPriority)
        [command s!"{keyword} {g.systemPriority}" "Sets the LACP system priority."])

def huaweiMode (g : AggregationGroup) : Except Fault (List Entry) := do
  if g.interfaceMode = "l3" then return [command " undo portswitch"]
  let allowed ←
    if g.interfaceMode = "trunk" then
      g.allowedEntries "port trunk allow-pass vlan" Vlan.spacedList
    else pure []
  return g.modeEntries
    [command " port link-type access", command s!" port default vlan {g.accessVlan}"]
    [command " port link-type trunk"] "port trunk pvid vlan" allowed

def huaweiPreemption (g : AggregationGroup) : List Entry :=
  if g.preemptEnabled then
    command " lacp preempt enable"
      :: onlyIf (!isDefault g.preemptDelay "30")
        [command s!" lacp preempt delay {g.preemptDelay}"]
  else [command " undo lacp preempt enable"]

def huaweiMember (g : AggregationGroup) (m : AggregationMember) : List Entry :=
  command s!"interface {m.name}"
    :: onlyIf (g.usesLacp ∧ !isDefault m.portPriority defaultPriority)
      [command s!" lacp priority {m.portPriority}"]
    ++ [command s!" eth-trunk {g.groupId}" s!"Adds {m.name} to Eth-Trunk{g.groupId}.",
       command "quit"]

def huaweiParts (g : AggregationGroup) : Except Fault Parts := do
  let mode ← g.huaweiMode
  return {
    globals := g.huaweiGlobals
    aggregate := command s!"interface {g.interfaceName .huawei}"
      :: (if g.mode = "manual" then
          [command " mode manual load-balance" "Static aggregation without LACP."]
        else onlyIf g.usesLacp
          [command " mode lacp-static" "Negotiates membership with LACP."])
      ++ onlyIf (g.loadBalanceAlgorithm ≠ "") [command s!" load-balance {g.loadBalanceAlgorithm}"]
      ++ onlyIf (g.description ≠ "") [command s!" description \"{g.description}\""]
      ++ onlyIf g.usesLacp
        (g.huaweiPreemption
          ++ onlyIf (!isDefault g.timeout "slow") [command s!" lacp timeout {g.timeout}"])
      ++ mode ++ [command "quit"]
    members := g.namedMembers.flatMap g.huaweiMember }

def isDynamic (g : AggregationGroup) : Bool := g.mode == "dynamic"

def h3cMode (g : AggregationGroup) : Except Fault (List Entry) := do
  let allowed ←
    if g.interfaceMode = "trunk" then
      g.allowedEntries "port trunk permit vlan" Vlan.spacedList
    else pure []
  return g.modeEntries [command s!" port access vlan {g.accessVlan}"]
    [command " port link-type trunk"] "port trunk pvid vlan" allowed

def h3cLacp (m : AggregationMember) : List Entry :=
  onlyIf (!isDefault m.portPriority defaultPriority)
      [command s!" link-aggregation port-priority {m.portPriority}"]
    ++ [command (if m.lacpMode = "passive" then " lacp mode passive" else " undo lacp mode")]
    ++ onlyIf (m.lacpPeriod = "short") [command " lacp period short"]

def h3cMember (g : AggregationGroup) (m : AggregationMember) : List Entry :=
  [command s!"interface {m.name}",
   command s!" port link-aggregation group {g.groupId}"
    s!"Adds {m.name} to aggregation group {g.groupId}."]
    ++ onlyIf g.isDynamic (h3cLacp m)
    ++ [command "quit"]

def h3cParts (g : AggregationGroup) : Except Fault Parts := do
  let mode ← g.h3cMode
  return {
    globals :=
      onlyIf (g.isDynamic ∧ !isDefault g.systemPriority defaultPriority)
        [command s!"lacp system-priority {g.systemPriority}" "Sets the LACP system priority."]
      ++ onlyIf (g.loadBalanceAlgorithm ≠ "")
        [command s!"link-aggregation global load-sharing mode {g.loadBalanceAlgorithm}"]
    aggregate := command s!"interface {g.interfaceName .h3c}"
      :: onlyIf (g.description ≠ "") [command s!" description \"{g.description}\""]
      ++ mode
      ++ onlyIf (g.mode = "dynamic" ∨ g.mode = "static")
        [command s!" link-aggregation mode {g.mode}"]
      ++ [command "quit"]
    members := g.namedMembers.flatMap g.h3cMember }

end AggregationGroup

namespace LinkAggregation

/-- Whether a port belongs to some group, enabled or not. -/
def isMember (l : LinkAggregation) (port : String) : Bool :=
  l.groups.any fun g => g.memberNames.contains port

/-- Groups without an id or without members are left out. -/
def completeGroups (l : LinkAggregation) : List AggregationGroup :=
  l.groups.filter fun g => g.groupId ≠ "" ∧ g.memberNames ≠ []

def render (vendor : Vendor) (l : LinkAggregation) : Except Fault Fragment := do
  if !l.enabled then return .nothing "Link aggregation is disabled."
  match vendor with
  | .cisco => return finish (← l.completeGroups.mapM (·.ciscoParts))
  | .huawei => return finish (← l.completeGroups.mapM (·.huaweiParts))
  | .h3c => return finish (← l.completeGroups.mapM (·.h3cParts))
  | .generic => return .unsupported "Link Aggregation" vendor.name
where
  finish (groups : List AggregationGroup.Parts) : Fragment :=
    .ofEntries (groups.flatMap (·.entries)) "Link Aggregation configuration generated."
      "No link aggregation groups configured."

end LinkAggregation
end Netscribe
