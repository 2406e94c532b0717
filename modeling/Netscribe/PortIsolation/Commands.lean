import Netscribe.Device.Vendor
import Netscribe.PortIsolation.Model
import Netscribe.Script.Draft
import Netscribe.Script.Grouping
import Netscribe.Vlan.IdList
/-!
Commands of port isolation.
-/
namespace Netscribe.PortIsolation

/-- What an operator of a device without port isolation may do instead. -/
def privateVlanGuidance : List String :=
  ["Port isolation maps to Private VLANs (PVLANs) on Cisco devices.",
   "There is no direct equivalent of port-isolate; a typical PVLAN layout is:",
   "vlan 100",
   " private-vlan isolated",
   "vlan 300",
   " private-vlan primary",
   " private-vlan association 100",
   "interface GigabitEthernet0/1",
   " switchport mode private-vlan host",
   " switchport private-vlan host-association 300 100"]

/-- The ports of each group id. Huawei has no object for a group, so that groups with one id are
    one. -/
def portsById (p : PortIsolation) : List (String × List String) :=
  (groupByKey (·.groupId) p.groups).map fun (id, groups) =>
    (id, (groups.flatMap (·.interfaces)).filter (· ≠ ""))

def huaweiPort (id port : String) : List Entry :=
  [command s!"interface {port}",
   command s!" port-isolate enable group {id}" s!"Isolates {port} in group {id}.",
   command "quit"]

def huaweiEntries (p : PortIsolation) : Except Fault (List Entry) := do
  let excluded ← Vlan.normalList p.excludedVlans
  return onlyIf (p.mode = "all")
      [command "port-isolate mode all" "Isolates ports at both layer 2 and layer 3."]
    ++ onlyIf (excluded ≠ "")
      [command s!"port-isolate exclude vlan {excluded}"
        "These VLANs are not subject to isolation."]
    ++ p.portsById.flatMap fun (id, ports) => ports.flatMap (huaweiPort id)

def h3cGroup (g : IsolationGroup) : Except Fault (List Entry) := do
  let community ← Vlan.normalList g.communityVlans
  return command s!"port-isolate group {g.groupId}" s!"Creates isolation group {g.groupId}."
    :: onlyIf (community ≠ "") [command s!" community-vlan vlan {community}"]
    ++ [command "quit", .blank]

def h3cPort (g : IsolationGroup) (port : String) : List Entry :=
  [command s!"interface {port}", command s!" port-isolate enable group {g.groupId}",
   command "quit"]

def h3cEntries (p : PortIsolation) : Except Fault (List Entry) := do
  let groups ← p.groups.mapM h3cGroup
  return groups.flatten
    ++ p.groups.flatMap fun g => (g.interfaces.filter (· ≠ "")).flatMap (h3cPort g)

def ciscoEntries : List Entry :=
  privateVlanGuidance.map remark
    ++ [.note "Cisco output is guidance only; no commands are applied."]

def render (vendor : Vendor) (p : PortIsolation) : Except Fault Fragment := do
  if !p.enabled || p.groups.isEmpty then
    return .nothing "Port Isolation is disabled or no groups are configured."
  match vendor with
  | .huawei => return finish (← p.huaweiEntries)
  | .h3c => return finish (← p.h3cEntries)
  | .cisco => return finish ciscoEntries
  | .generic => return .unsupported "Port Isolation" vendor.name
where
  finish (entries : List Entry) : Fragment :=
    .ofEntries entries "Port Isolation configuration generated."
      "No isolated interfaces configured."

end Netscribe.PortIsolation
