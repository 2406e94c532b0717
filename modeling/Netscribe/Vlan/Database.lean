import Netscribe.LinkAggregation.Commands
import Netscribe.Number.Integer
import Netscribe.Topology.Parse
import Netscribe.Vlan.IdList
/-!
The VLANs that a device needs: VLAN interfaces, aggregation groups and links refer to them, and they
are declared once at the start of its script.
-/
namespace Netscribe

namespace Vlan

/-- The id in a field for a single one; nothing when the text is no integer or no VLAN id. -/
def singleId (text : String) : List Int :=
  match Integer.read? (Text.trim text) with
  | some id => if (minId : Int) ≤ id ∧ id ≤ maxId then [id] else []
  | none => []

/-- The ids that an access or trunk port refers to. -/
def modeIds (mode access native allowed : String) : Except Fault (List Int) := do
  if mode = InterfaceMode.access.name then return singleId access
  else if mode = InterfaceMode.trunk.name then return singleId native ++ (← parseIds allowed)
  else return []

end Vlan

def AggregationGroup.vlanIds (g : AggregationGroup) : Except Fault (List Int) :=
  Vlan.modeIds g.interfaceMode g.accessVlan g.trunkNativeVlan g.trunkAllowedVlans

def LinkConfig.vlanIds (c : LinkConfig) : Except Fault (List Int) :=
  Vlan.modeIds c.mode.name c.accessVlan c.trunkNativeVlan c.trunkAllowedVlans

namespace Node

/-- Every id that the device refers to, in the order of the references. -/
def referencedIds (node : Node) (connections : List Connection) : Except Fault (List Int) := do
  let interfaces := node.config.vlan.vlanInterfaces.flatMap fun i => Vlan.singleId i.vlanId
  let aggregation := node.config.linkAggregation
  let groups ←
    if aggregation.enabled then aggregation.groups.mapM (·.vlanIds) else pure []
  let links ← (connections.filter (·.touches node.id)).mapM (·.config.vlanIds)
  return interfaces ++ groups.flatten ++ links.flatten

/-- The ids in ascending order, together with those known before. -/
def vlanIds (node : Node) (connections : List Connection) (known : List Int := []) :
    Except Fault (List Int) := do
  return Vlan.sortedDistinct (known ++ (← node.referencedIds connections))

/-- The descriptions of VLANs, the last one of a VLAN first. -/
def vlanDescriptions (node : Node) : List (Int × String) :=
  (node.config.vlan.vlanInterfaces.filterMap fun i =>
    if i.vlanDescription = "" then none
    else (Integer.read? i.vlanId).map (·, i.vlanDescription)).reverse

end Node

namespace Vlan

def ciscoDeclaration (descriptions : List (Int × String)) (id : Int) : List String :=
  s!"vlan {id}" :: (descriptions.lookup id).toList.map (fun text => s!" name {text}") ++ ["exit"]

def h3cDeclaration : Int × Int → String
  | (first, last) => if first = last then s!"vlan {first}" else s!"vlan {first} to {last}"

/-- The descriptions of the declared VLANs, after an empty line. -/
def descriptionLines (ids : List Int) (descriptions : List (Int × String)) : List String :=
  let described := ids.filterMap fun id => (descriptions.lookup id).map (id, ·)
  (if described = [] then [] else [""])
    ++ described.flatMap fun (id, text) => [s!"vlan {id}", s!" description {text}", "quit"]

/-- The declarations of VLANs. Cisco declares each one with its name inside; Huawei declares all in
    one line and H3C each run in one, and both add descriptions afterwards. -/
def databaseLines (vendor : Vendor) (ids : List Int) (descriptions : List (Int × String)) :
    List String :=
  if ids = [] then []
  else match vendor with
    | .cisco => ids.flatMap (ciscoDeclaration descriptions)
    | .huawei =>
      ("vlan batch " ++ Text.unwords (ids.map toString)) :: descriptionLines ids descriptions
    | .h3c => (contiguousRuns ids).map h3cDeclaration ++ descriptionLines ids descriptions
    | .generic => []

def database (vendor : Vendor) (ids : List Int) (descriptions : List (Int × String)) : String :=
  Text.unlines (databaseLines vendor ids descriptions)

def databaseHeader : String := "!\n! VLAN Database\n!"

end Vlan

/-- The headed declarations of a device; empty when it refers to no VLAN. -/
def Node.vlanDatabase (node : Node) (connections : List Connection) : Except Fault String := do
  let body := Vlan.database node.vendor (← node.vlanIds connections) node.vlanDescriptions
  return if body = "" then "" else s!"{Vlan.databaseHeader}\n{body}"

end Netscribe
