import Netscribe.Port.Name
import Netscribe.Topology.Connection
/-!
Commands that set a port to the mode of its link.
-/
namespace Netscribe.LinkConfig

def defaultAccessVlan : String := "1"

def allIds : List Int := Vlan.idsBetween Vlan.minId Vlan.maxId

/-- The VLANs that a trunk carries; all of them if the link names none. -/
def allowedIds (c : LinkConfig) : Except Fault (List Int) := do
  let ids ← Vlan.parseIds c.trunkAllowedVlans
  return if ids = [] then allIds else ids

def nativeLine (c : LinkConfig) (keyword : String) : List String :=
  if c.trunkNativeVlan = "" then [] else [s!" {keyword} {c.trunkNativeVlan}"]

/-- The lines inside the view of the port. -/
def body (vendor : Vendor) (c : LinkConfig) : Except Fault (List String) := do
  match c.mode with
  | .unconfigured => return []
  | .l3 => return [" no switchport"]
  | .access =>
    let vlan := if c.accessVlan = "" then defaultAccessVlan else c.accessVlan
    return match vendor with
      | .cisco => [" switchport mode access", s!" switchport access vlan {vlan}"]
      | .huawei => [" port link-type access", s!" port default vlan {vlan}"]
      | .h3c => [s!" port access vlan {vlan}"]
      | .generic => []
  | .trunk =>
    let allowed ← c.allowedIds
    return match vendor with
      | .cisco =>
        " switchport mode trunk" :: c.nativeLine "switchport trunk native vlan"
          ++ [s!" switchport trunk allowed vlan {Vlan.dashedList allowed}"]
      | .huawei =>
        " port link-type trunk" :: c.nativeLine "port trunk pvid vlan"
          ++ [s!" port trunk allow-pass vlan {Vlan.spacedList allowed}"]
      | .h3c =>
        " port link-type trunk" :: c.nativeLine "port trunk pvid vlan"
          ++ [s!" port trunk permit vlan {Vlan.spacedList allowed}"]
      | .generic => []

/-- The ports that share the mode: the port itself, or the siblings that the link's range names. -/
def portNames (port : String) (c : LinkConfig) : Except Fault (List String) := do
  match ← Port.parseRange c.applyToPortRange with
  | [] => return [port]
  | numbers => return numbers.map fun n => Port.base port ++ toString n

/-- One block for each port that is not to be skipped; empty when the mode has no commands. -/
def render (vendor : Vendor) (port : String) (skip : String → Bool) (c : LinkConfig) :
    Except Fault String := do
  if port = "" then return ""
  let lines ← c.body vendor
  if lines = [] then return ""
  let names := (← c.portNames port).filter (!skip ·)
  return Text.unlines (names.flatMap fun name =>
    s!"interface {name}" :: lines ++ [vendor.closer])

end Netscribe.LinkConfig
