import Netscribe.Device.Vendor
/-!
Links between the ports of devices.
-/
namespace Netscribe

/-- One end of a link. -/
structure Endpoint where
  nodeId : String := ""
  portId : String := ""

def Endpoint.fields : List (Field Endpoint) :=
  [.of "node_id" (·.nodeId) fun r v => { r with nodeId := v },
   .of "port_id" (·.portId) fun r v => { r with portId := v }]

instance : Described Endpoint := .record Endpoint.fields {} .none

/-- How a link is switched. `applyToPortRange` names sibling ports that share the settings. -/
structure LinkConfig where
  mode : InterfaceMode := .unconfigured
  accessVlan : String := ""
  trunkNativeVlan : String := ""
  trunkAllowedVlans : String := ""
  applyToPortRange : String := ""

def LinkConfig.fields : List (Field LinkConfig) :=
  [.of "mode" (·.mode) fun r v => { r with mode := v },
   .of "access_vlan" (·.accessVlan) fun r v => { r with accessVlan := v },
   .of "trunk_native_vlan" (·.trunkNativeVlan) fun r v => { r with trunkNativeVlan := v },
   .of "trunk_allowed_vlans" (·.trunkAllowedVlans) fun r v => { r with trunkAllowedVlans := v },
   .of "apply_to_port_range" (·.applyToPortRange) fun r v => { r with applyToPortRange := v }]

instance : Described LinkConfig := .record LinkConfig.fields {} .none

structure Connection where
  id : String := ""
  source : Endpoint := {}
  target : Endpoint := {}
  config : LinkConfig := {}

def Connection.fields : List (Field Connection) :=
  [.of "id" (·.id) fun r v => { r with id := v },
   .keyed "source" "from" (·.source) fun r v => { r with source := v },
   .keyed "target" "to" (·.target) fun r v => { r with target := v },
   .of "config" (·.config) fun r v => { r with config := v }]

instance : Described Connection := .record Connection.fields {} .none

end Netscribe
