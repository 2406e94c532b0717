import Netscribe.Schema.Described
/-!
Spanning tree: the region, its instances, VLANs and ports.
-/
namespace Netscribe

structure MstpRegion where
  regionName : String := ""
  revisionLevel : String := ""
  vlanMappingMode : String := "manual"
  moduloValue : String := ""

def MstpRegion.fields : List (Field MstpRegion) :=
  [.of "region_name" (·.regionName) fun r v => { r with regionName := v },
   .of "revision_level" (·.revisionLevel) fun r v => { r with revisionLevel := v },
   .of "vlan_mapping_mode" (·.vlanMappingMode) fun r v => { r with vlanMappingMode := v },
   .of "modulo_value" (·.moduloValue) fun r v => { r with moduloValue := v }]

instance : Described MstpRegion := .record MstpRegion.fields {} .none

structure MstpInstance where
  instanceId : String := ""
  vlanList : String := ""
  priority : String := ""
  rootBridge : String := "none"

def MstpInstance.fields : List (Field MstpInstance) :=
  [.of "instance_id" (·.instanceId) fun r v => { r with instanceId := v },
   .of "vlan_list" (·.vlanList) fun r v => { r with vlanList := v },
   .of "priority" (·.priority) fun r v => { r with priority := v },
   .of "root_bridge" (·.rootBridge) fun r v => { r with rootBridge := v }]

instance : Described MstpInstance := .record MstpInstance.fields {} .none

structure PvstVlan where
  vlanList : String := ""
  priority : String := ""
  rootBridge : String := "none"

def PvstVlan.fields : List (Field PvstVlan) :=
  [.of "vlan_list" (·.vlanList) fun r v => { r with vlanList := v },
   .of "priority" (·.priority) fun r v => { r with priority := v },
   .of "root_bridge" (·.rootBridge) fun r v => { r with rootBridge := v }]

instance : Described PvstVlan := .record PvstVlan.fields {} .none

structure InstanceCost where
  instanceList : String := ""
  cost : String := ""

def InstanceCost.fields : List (Field InstanceCost) :=
  [.of "instance_list" (·.instanceList) fun r v => { r with instanceList := v },
   .of "cost" (·.cost) fun r v => { r with cost := v }]

instance : Described InstanceCost := .record InstanceCost.fields {} .none

structure InstancePriority where
  instanceList : String := ""
  priority : String := ""

def InstancePriority.fields : List (Field InstancePriority) :=
  [.of "instance_list" (·.instanceList) fun r v => { r with instanceList := v },
   .of "priority" (·.priority) fun r v => { r with priority := v }]

instance : Described InstancePriority := .record InstancePriority.fields {} .none

structure VlanCost where
  vlanList : String := ""
  cost : String := ""

def VlanCost.fields : List (Field VlanCost) :=
  [.of "vlan_list" (·.vlanList) fun r v => { r with vlanList := v },
   .of "cost" (·.cost) fun r v => { r with cost := v }]

instance : Described VlanCost := .record VlanCost.fields {} .none

structure StpPort where
  interfaceName : String := ""
  portPriority : String := ""
  pathCost : String := ""
  edgePort : Bool := false
  bpduGuard : Bool := false
  stpCost : String := ""
  pvstVlanCosts : List VlanCost := []
  mstpInstanceCosts : List InstanceCost := []
  mstpInstancePriorities : List InstancePriority := []

def StpPort.fields : List (Field StpPort) :=
  [.of "interface_name" (·.interfaceName) fun r v => { r with interfaceName := v },
   .of "port_priority" (·.portPriority) fun r v => { r with portPriority := v },
   .of "path_cost" (·.pathCost) fun r v => { r with pathCost := v },
   .of "edge_port" (·.edgePort) fun r v => { r with edgePort := v },
   .of "bpdu_guard" (·.bpduGuard) fun r v => { r with bpduGuard := v },
   .of "stp_cost" (·.stpCost) fun r v => { r with stpCost := v },
   .of "pvst_vlan_costs" (·.pvstVlanCosts) fun r v => { r with pvstVlanCosts := v },
   .of "mstp_instance_costs" (·.mstpInstanceCosts) fun r v => { r with mstpInstanceCosts := v },
   .of "mstp_instance_priorities" (·.mstpInstancePriorities)
     fun r v => { r with mstpInstancePriorities := v }]

instance : Described StpPort := .record StpPort.fields {} .none

structure SpanningTree where
  enabled : Bool := false
  mode : String := "mstp"
  priority : String := "32768"
  maxAge : String := ""
  helloTime : String := ""
  forwardDelay : String := ""
  rootBridge : String := "none"
  pathCostStandard : String := ""
  mstpRegion : MstpRegion := {}
  mstpInstances : List MstpInstance := []
  pvstVlans : List PvstVlan := []
  portConfigs : List StpPort := []

def SpanningTree.fields : List (Field SpanningTree) :=
  [.of "enabled" (·.enabled) fun r v => { r with enabled := v },
   .of "mode" (·.mode) fun r v => { r with mode := v },
   .of "priority" (·.priority) fun r v => { r with priority := v },
   .of "max_age" (·.maxAge) fun r v => { r with maxAge := v },
   .of "hello_time" (·.helloTime) fun r v => { r with helloTime := v },
   .of "forward_delay" (·.forwardDelay) fun r v => { r with forwardDelay := v },
   .of "root_bridge" (·.rootBridge) fun r v => { r with rootBridge := v },
   .of "path_cost_standard" (·.pathCostStandard) fun r v => { r with pathCostStandard := v },
   .of "mstp_region" (·.mstpRegion) fun r v => { r with mstpRegion := v },
   .of "mstp_instances" (·.mstpInstances) fun r v => { r with mstpInstances := v },
   .of "pvst_vlans" (·.pvstVlans) fun r v => { r with pvstVlans := v },
   .of "port_configs" (·.portConfigs) fun r v => { r with portConfigs := v }]

instance : Described SpanningTree := .record SpanningTree.fields {} .none

end Netscribe
