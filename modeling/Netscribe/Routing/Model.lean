import Netscribe.Schema.Described
/-!
Static routes and OSPF.
-/
namespace Netscribe

structure StaticRoute where
  network : String := ""
  subnetMask : String := ""
  nextHop : String := ""
  adminDistance : String := ""
  priority : String := ""

def StaticRoute.fields : List (Field StaticRoute) :=
  [.of "network" (·.network) fun r v => { r with network := v },
   .of "subnet_mask" (·.subnetMask) fun r v => { r with subnetMask := v },
   .of "next_hop" (·.nextHop) fun r v => { r with nextHop := v },
   .of "admin_distance" (·.adminDistance) fun r v => { r with adminDistance := v },
   .of "priority" (·.priority) fun r v => { r with priority := v }]

instance : Described StaticRoute := .record StaticRoute.fields {} .none

structure OspfNetwork where
  network : String := ""
  wildcardMask : String := ""

def OspfNetwork.fields : List (Field OspfNetwork) :=
  [.of "network" (·.network) fun r v => { r with network := v },
   .of "wildcard_mask" (·.wildcardMask) fun r v => { r with wildcardMask := v }]

instance : Described OspfNetwork := .record OspfNetwork.fields {} .none

structure OspfArea where
  areaId : String := "0"
  areaType : String := "standard"
  noSummary : Bool := false
  defaultCost : String := ""
  networks : List OspfNetwork := []

def OspfArea.fields : List (Field OspfArea) :=
  [.of "area_id" (·.areaId) fun r v => { r with areaId := v },
   .of "area_type" (·.areaType) fun r v => { r with areaType := v },
   .of "no_summary" (·.noSummary) fun r v => { r with noSummary := v },
   .of "default_cost" (·.defaultCost) fun r v => { r with defaultCost := v },
   .of "networks" (·.networks) fun r v => { r with networks := v }]

instance : Described OspfArea := .record OspfArea.fields {} .none

structure OspfInterface where
  interfaceName : String := ""
  priority : String := ""
  id : String := ""

def OspfInterface.fields : List (Field OspfInterface) :=
  [.of "interface_name" (·.interfaceName) fun r v => { r with interfaceName := v },
   .of "priority" (·.priority) fun r v => { r with priority := v },
   .of "id" (·.id) fun r v => { r with id := v }]

instance : Described OspfInterface := .record OspfInterface.fields {} .none

structure Ospf where
  enabled : Bool := false
  processId : String := "1"
  routerId : String := ""
  areas : List OspfArea := []
  redistributeStatic : Bool := false
  redistributeConnected : Bool := false
  defaultRoute : Bool := false
  interfaceConfigs : List OspfInterface := []

def Ospf.fields : List (Field Ospf) :=
  [.of "enabled" (·.enabled) fun r v => { r with enabled := v },
   .of "process_id" (·.processId) fun r v => { r with processId := v },
   .of "router_id" (·.routerId) fun r v => { r with routerId := v },
   .of "areas" (·.areas) fun r v => { r with areas := v },
   .of "redistribute_static" (·.redistributeStatic) fun r v => { r with redistributeStatic := v },
   .of "redistribute_connected" (·.redistributeConnected)
     fun r v => { r with redistributeConnected := v },
   .of "default_route" (·.defaultRoute) fun r v => { r with defaultRoute := v },
   .of "interface_configs" (·.interfaceConfigs) fun r v => { r with interfaceConfigs := v }]

instance : Described Ospf := .record Ospf.fields {} .none

structure Routing where
  staticRoutes : List StaticRoute := []
  ospf : Ospf := {}

def Routing.fields : List (Field Routing) :=
  [.of "static_routes" (·.staticRoutes) fun r v => { r with staticRoutes := v },
   .of "ospf" (·.ospf) fun r v => { r with ospf := v }]

instance : Described Routing := .record Routing.fields {} .none

end Netscribe
