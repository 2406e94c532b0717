import Netscribe.Device.Vendor
import Netscribe.Script.Draft
import Netscribe.SpanningTree.Model
import Netscribe.Vlan.IdList
/-!
Commands of spanning tree: mode, priorities, the region and settings of ports. The priority of the
bridge is written only if it is not the usual one and no root role is asked for.
-/
namespace Netscribe

namespace SpanningTree

def defaultPriority : String := "32768"

/-- The root role behind `start`, or else the priority if it is not the usual one. -/
def roleOrPriority (start role priority usual : String) : List String :=
  if role = "primary" ∨ role = "secondary" then [s!"{start} root {role}"]
  else if priority = "" ∨ priority = usual then []
  else [s!"{start} priority {priority}"]

/-- Timers that are set, each with its name. -/
def timerEntries (start : String) (timers : List (String × String)) : List Entry :=
  (timers.filter (·.1 ≠ "")).map fun (value, name) => command s!"{start} {name} {value}"

/-- The cost of a port, under its current name or its older one. -/
def portCost (p : StpPort) : String := if p.pathCost = "" then p.stpCost else p.pathCost

/-- A block for a port with some settings. -/
def portBlock (vendor : Vendor) (p : StpPort) (body : List Entry) : List Entry :=
  onlyIf (body ≠ []) (command s!"interface {p.interfaceName}" :: body ++ [command vendor.closer])

def namedPorts (s : SpanningTree) : List StpPort := s.portConfigs.filter (·.interfaceName ≠ "")

def edgeWhy : String := "Edge port: forwards immediately, for host-facing ports."

def guardWhy : String := "Shuts the port if a BPDU arrives."

def modeEntry (start mode : String) : Entry :=
  command s!"{start} mode {mode}" s!"Runs spanning tree in {mode} mode."

def ciscoModeName (mode : String) : String :=
  if mode = "stp" ∨ mode = "pvst" then "pvst" else if mode = "mstp" then "mst" else "rapid-pvst"

/-- The path cost method; nothing for an unknown standard. -/
def ciscoPathCost (standard : String) : List Entry :=
  if standard = "dot1t" then [command "spanning-tree pathcost method long"]
  else onlyIf (standard = "dot1d-1998" ∨ standard = "legacy")
    [command "spanning-tree pathcost method short"]

def ciscoVlans (raw : String) : Except Fault String := do
  return Vlan.dashedList (← Vlan.parseIds raw)

def instanceRoles (start : String) (instances : List MstpInstance) : List Entry :=
  (instances.filter (·.instanceId ≠ "")).flatMap fun i =>
    (roleOrPriority s!"{start} {i.instanceId}" i.rootBridge i.priority "").map (command ·)

/-- The VLANs of each instance that has an id. -/
def instanceEntries (list : String → Except Fault String) (instances : List MstpInstance) :
    Except Fault (List Entry) := do
  return (← instances.mapM fun i => do
    let vlans ← list i.vlanList
    return onlyIf (i.instanceId ≠ "" ∧ vlans ≠ "")
      [command s!" instance {i.instanceId} vlan {vlans}"]).flatten

/-- Role or priority of each list of VLANs. -/
def vlanRoles (start : String) (list : String → Except Fault String) (vlans : List PvstVlan) :
    Except Fault (List Entry) := do
  return (← vlans.mapM fun v => do
    let ids ← list v.vlanList
    return onlyIf (ids ≠ "")
      ((roleOrPriority s!"{start} {ids}" v.rootBridge v.priority "").map (command ·))).flatten

def vlanCosts (start : String) (list : String → Except Fault String) (costs : List VlanCost) :
    Except Fault (List Entry) := do
  return (← costs.mapM fun c => do
    let ids ← list c.vlanList
    return onlyIf (ids ≠ "" ∧ c.cost ≠ "") [command s!"{start} {ids} cost {c.cost}"]).flatten

def ciscoRegion (s : SpanningTree) : Except Fault (List Entry) := do
  let region := s.mstpRegion
  let instances ← instanceEntries ciscoVlans s.mstpInstances
  return command "spanning-tree mst configuration" "Enters MST region configuration."
    :: onlyIf (region.regionName ≠ "") [command s!" name {region.regionName}"]
    ++ onlyIf (region.revisionLevel ≠ "") [command s!" revision {region.revisionLevel}"]
    ++ instances ++ command "exit" :: instanceRoles "spanning-tree mst" s.mstpInstances

def ciscoRoles (s : SpanningTree) : Except Fault (List Entry) :=
  if s.pvstVlans.isEmpty then
    .ok ((roleOrPriority "spanning-tree vlan 1-4094" s.rootBridge s.priority defaultPriority).map
      (command · "Sets the bridge priority for all VLANs."))
  else vlanRoles "spanning-tree vlan" ciscoVlans s.pvstVlans

def ciscoPortBody (mst : Bool) (p : StpPort) : Except Fault (List Entry) := do
  let perVlan ← if mst then pure [] else vlanCosts " spanning-tree vlan" ciscoVlans p.pvstVlanCosts
  let cost := portCost p
  return onlyIf p.edgePort [command " spanning-tree portfast" edgeWhy]
    ++ onlyIf p.bpduGuard [command " spanning-tree bpduguard enable" guardWhy]
    ++ onlyIf (cost ≠ "") [command s!" spanning-tree cost {cost}"]
    ++ onlyIf (p.portPriority ≠ "") [command s!" spanning-tree port-priority {p.portPriority}"]
    ++ onlyIf mst
      ((p.mstpInstanceCosts.filter fun c => c.instanceList ≠ "" ∧ c.cost ≠ "").map (fun c =>
          command s!" spanning-tree mst {c.instanceList} cost {c.cost}")
        ++ (p.mstpInstancePriorities.filter fun c => c.instanceList ≠ "" ∧ c.priority ≠ "").map
          fun c => command s!" spanning-tree mst {c.instanceList} port-priority {c.priority}")
    ++ perVlan

def ciscoEntries (s : SpanningTree) : Except Fault (List Entry) := do
  let mode := ciscoModeName s.mode
  let mst : Bool := mode = "mst"
  let roles ← if mst then s.ciscoRegion else s.ciscoRoles
  let ports ← s.namedPorts.mapM fun p => do
    return portBlock .cisco p (← ciscoPortBody mst p)
  return modeEntry "spanning-tree" mode :: ciscoPathCost s.pathCostStandard ++ roles
    ++ timerEntries (if mst then "spanning-tree mst" else "spanning-tree vlan 1-4094")
      [(s.helloTime, "hello-time"), (s.forwardDelay, "forward-time"), (s.maxAge, "max-age")]
    ++ ports.flatten

def vrpRegion (s : SpanningTree) : Except Fault (List Entry) := do
  let region := s.mstpRegion
  let mapping ←
    if region.vlanMappingMode = "modulo" ∧ region.moduloValue ≠ "" then
      pure [command s!" vlan-mapping modulo {region.moduloValue}"
        "Maps VLANs to instances by modulo."]
    else instanceEntries Vlan.normalList s.mstpInstances
  return command "stp region-configuration" "Enters MST region configuration."
    :: onlyIf (region.regionName ≠ "") [command s!" region-name {region.regionName}"]
    ++ onlyIf (region.revisionLevel ≠ "") [command s!" revision-level {region.revisionLevel}"]
    ++ mapping
    ++ [command " active region-configuration" "Activates the region settings.", command "quit"]
    ++ instanceRoles "stp instance" s.mstpInstances

def vrpRoles (mode : String) (s : SpanningTree) : Except Fault (List Entry) :=
  if mode = "mstp" then s.vrpRegion
  else if (mode = "pvst" ∨ mode = "vbst") ∧ !s.pvstVlans.isEmpty then
    vlanRoles "stp vlan" Vlan.normalList s.pvstVlans
  else
    .ok ((roleOrPriority "stp" s.rootBridge s.priority defaultPriority).map
      (command · "Sets the bridge priority."))

def vrpPortBody (vendor : Vendor) (p : StpPort) : Except Fault (List Entry) := do
  let perVlan ← vlanCosts " stp vlan" Vlan.normalList p.pvstVlanCosts
  let cost := portCost p
  return onlyIf p.edgePort
      [command (if vendor = .huawei then " stp edged-port enable" else " stp edged-port") edgeWhy]
    ++ onlyIf p.bpduGuard [command " stp bpdu-protection" guardWhy]
    ++ onlyIf (cost ≠ "") [command s!" stp cost {cost}"]
    ++ onlyIf (p.portPriority ≠ "") [command s!" stp port priority {p.portPriority}"]
    ++ (p.mstpInstanceCosts.filter fun c => c.instanceList ≠ "" ∧ c.cost ≠ "").map (fun c =>
      command s!" stp instance {Vlan.spelledList c.instanceList} cost {c.cost}")
    ++ (p.mstpInstancePriorities.filter fun c =>
        c.instanceList ≠ "" ∧ c.priority ≠ "").map (fun c =>
      command s!" stp instance {Vlan.spelledList c.instanceList} port priority {c.priority}")
    ++ perVlan

/-- Huawei calls the mode with a tree for each VLAN differently. -/
def vrpModeName (vendor : Vendor) (mode : String) : String :=
  if mode = "pvst" ∧ vendor = .huawei then "vbst" else mode

def vrpEntries (vendor : Vendor) (s : SpanningTree) : Except Fault (List Entry) := do
  let mode := vrpModeName vendor s.mode
  let roles ← s.vrpRoles mode
  let ports ← s.namedPorts.mapM fun p => do
    return portBlock vendor p (← vrpPortBody vendor p)
  return modeEntry "stp" mode
    :: onlyIf (s.pathCostStandard ≠ "") [command s!"stp pathcost-standard {s.pathCostStandard}"]
    ++ roles
    ++ timerEntries "stp timer"
      [(s.helloTime, "hello"), (s.forwardDelay, "forward-delay"), (s.maxAge, "max-age")]
    ++ ports.flatten

def render (vendor : Vendor) (s : SpanningTree) : Except Fault Fragment := do
  if !s.enabled then return .nothing "STP is disabled."
  match vendor with
  | .cisco => return finish (← s.ciscoEntries)
  | .huawei | .h3c => return finish (← s.vrpEntries vendor)
  | .generic => return .unsupported "STP" vendor.name
where
  finish (entries : List Entry) : Fragment :=
    (Draft.ofEntries entries).build "STP configuration generated locally."

end SpanningTree
end Netscribe
