import Netscribe.Device.Vendor
import Netscribe.Routing.Model
import Netscribe.Script.Draft
/-!
Commands of static routes and OSPF.
-/
namespace Netscribe

namespace StaticRoute

/-- The distance, which older documents call the priority. -/
def distance (r : StaticRoute) : String :=
  if r.adminDistance = "" then r.priority else r.adminDistance

def isComplete (r : StaticRoute) : Bool := r.network ≠ "" && r.subnetMask ≠ "" && r.nextHop ≠ ""

def line (vendor : Vendor) (r : StaticRoute) : String :=
  let path := s!"{r.network} {r.subnetMask} {r.nextHop}"
  if vendor = .cisco then s!"ip route {path}" ++ textIf (r.distance ≠ "") s!" {r.distance}"
  else s!"ip route-static {path}" ++ textIf (r.distance ≠ "") s!" preference {r.distance}"

def entry (vendor : Vendor) (r : StaticRoute) : Entry :=
  command (r.line vendor) s!"Routes {r.network}/{r.subnetMask} via {r.nextHop}."

end StaticRoute

namespace OspfArea

def isBackbone (a : OspfArea) : Bool := a.areaId == "0" || a.areaId == "0.0.0.0"

def isSpecial (a : OspfArea) : Bool := a.areaType == "stub" || a.areaType == "nssa"

/-- The type of a special area; the backbone is never one. -/
def typeKeyword (a : OspfArea) : String :=
  textIf (!a.isBackbone ∧ a.isSpecial) (a.areaType ++ textIf a.noSummary " no-summary")

def announcement (a : OspfArea) (n : OspfNetwork) : String :=
  s!"Runs OSPF on {n.network} in area {a.areaId}."

def namedNetworks (a : OspfArea) : List OspfNetwork := a.networks.filter (·.network ≠ "")

def ciscoEntries (a : OspfArea) : List Entry :=
  a.namedNetworks.map (fun n =>
    command s!" network {n.network} {n.wildcardMask} area {a.areaId}" (a.announcement n))
    ++ onlyIf (a.typeKeyword ≠ "") [command s!" area {a.areaId} {a.typeKeyword}"]
    ++ onlyIf (a.isSpecial ∧ a.defaultCost ≠ "")
      [command s!" area {a.areaId} default-cost {a.defaultCost}"]

def vrpEntries (a : OspfArea) : List Entry :=
  command s!" area {a.areaId}"
    :: onlyIf (a.typeKeyword ≠ "") [command s!"  {a.typeKeyword}"]
    ++ onlyIf (a.isSpecial ∧ a.defaultCost ≠ "") [command s!"  default-cost {a.defaultCost}"]
    ++ a.namedNetworks.map (fun n =>
      command s!"  network {n.network} {n.wildcardMask}" (a.announcement n))
    ++ [command " quit"]

end OspfArea

namespace Ospf

def start (o : Ospf) : String := s!"Starts OSPF process {o.processId}."

def ciscoEntries (o : Ospf) : List Entry :=
  command s!"router ospf {o.processId}" o.start
    :: onlyIf (o.routerId ≠ "") [command s!" router-id {o.routerId}"]
    ++ o.areas.flatMap OspfArea.ciscoEntries
    ++ onlyIf o.redistributeStatic [command " redistribute static subnets"]
    ++ onlyIf o.redistributeConnected [command " redistribute connected subnets"]
    ++ onlyIf o.defaultRoute
      [command " default-information originate" "Advertises a default route into OSPF."]
    ++ [command "exit"]

def vrpEntries (o : Ospf) : List Entry :=
  command (s!"ospf {o.processId}" ++ textIf (o.routerId ≠ "") s!" router-id {o.routerId}") o.start
    :: onlyIf o.redistributeStatic [command " import-route static"]
    ++ onlyIf o.redistributeConnected [command " import-route direct"]
    ++ onlyIf o.defaultRoute
      [command " default-route-advertise" "Advertises a default route into OSPF."]
    ++ o.areas.flatMap OspfArea.vrpEntries
    ++ [command "quit"]

def priorityEntries (vendor : Vendor) (i : OspfInterface) : List Entry :=
  let keyword := if vendor = .cisco then "ip ospf priority" else "ospf dr-priority"
  onlyIf (i.interfaceName ≠ "" ∧ i.priority ≠ "")
    [command s!"interface {i.interfaceName}",
     command s!" {keyword} {i.priority}" "DR election priority.",
     command vendor.closer]

def entries (vendor : Vendor) (o : Ospf) : List Entry :=
  .blank :: (if vendor = .cisco then o.ciscoEntries else o.vrpEntries)
    ++ o.interfaceConfigs.flatMap (priorityEntries vendor)

end Ospf

namespace Routing

def isConfigured (r : Routing) : Bool := !r.staticRoutes.isEmpty || r.ospf.enabled

def entries (vendor : Vendor) (r : Routing) : List Entry :=
  (r.staticRoutes.filter (·.isComplete)).map (·.entry vendor)
    ++ onlyIf r.ospf.enabled (r.ospf.entries vendor)

def absent : String := "No static routes and OSPF is disabled."

def render (vendor : Vendor) (r : Routing) : Fragment :=
  if !r.isConfigured then .nothing absent
  else if vendor = .generic then .unsupported "Routing" vendor.name
  else .ofEntries (r.entries vendor) "Routing configuration generated locally." absent

end Routing
end Netscribe
