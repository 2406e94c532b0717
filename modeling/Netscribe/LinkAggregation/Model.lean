import Netscribe.Schema.Described
/-!
Groups of ports that act as one link.
-/
namespace Netscribe

structure AggregationMember where
  name : String := ""
  id : String := ""
  lacpMode : String := "active"
  lacpPeriod : String := "long"
  portPriority : String := ""

def AggregationMember.fields : List (Field AggregationMember) :=
  [.of "name" (·.name) fun r v => { r with name := v },
   .of "id" (·.id) fun r v => { r with id := v },
   .of "lacp_mode" (·.lacpMode) fun r v => { r with lacpMode := v },
   .of "lacp_period" (·.lacpPeriod) fun r v => { r with lacpPeriod := v },
   .of "port_priority" (·.portPriority) fun r v => { r with portPriority := v }]

instance : Described AggregationMember := .record AggregationMember.fields {} .none

/-- A bundle of ports. What `mode` may say depends on the vendor. -/
structure AggregationGroup where
  groupId : String := ""
  mode : String := ""
  members : List AggregationMember := []
  systemPriority : String := ""
  loadBalanceAlgorithm : String := ""
  description : String := ""
  interfaceMode : String := "unconfigured"
  accessVlan : String := ""
  trunkNativeVlan : String := ""
  trunkAllowedVlans : String := ""
  preemptEnabled : Bool := false
  preemptDelay : String := ""
  timeout : String := "slow"
  huaweiLacpPriorityMode : String := "default"

def AggregationGroup.fields : List (Field AggregationGroup) :=
  [.of "group_id" (·.groupId) fun r v => { r with groupId := v },
   .of "mode" (·.mode) fun r v => { r with mode := v },
   .of "members" (·.members) fun r v => { r with members := v },
   .of "system_priority" (·.systemPriority) fun r v => { r with systemPriority := v },
   .of "load_balance_algorithm" (·.loadBalanceAlgorithm)
     fun r v => { r with loadBalanceAlgorithm := v },
   .of "description" (·.description) fun r v => { r with description := v },
   .of "interface_mode" (·.interfaceMode) fun r v => { r with interfaceMode := v },
   .of "access_vlan" (·.accessVlan) fun r v => { r with accessVlan := v },
   .of "trunk_native_vlan" (·.trunkNativeVlan) fun r v => { r with trunkNativeVlan := v },
   .of "trunk_allowed_vlans" (·.trunkAllowedVlans) fun r v => { r with trunkAllowedVlans := v },
   .of "preempt_enabled" (·.preemptEnabled) fun r v => { r with preemptEnabled := v },
   .of "preempt_delay" (·.preemptDelay) fun r v => { r with preemptDelay := v },
   .of "timeout" (·.timeout) fun r v => { r with timeout := v },
   .of "huawei_lacp_priority_mode" (·.huaweiLacpPriorityMode)
     fun r v => { r with huaweiLacpPriorityMode := v }]

instance : Described AggregationGroup := .record AggregationGroup.fields {} .none

structure LinkAggregation where
  enabled : Bool := false
  groups : List AggregationGroup := []

def LinkAggregation.fields : List (Field LinkAggregation) :=
  [.of "enabled" (·.enabled) fun r v => { r with enabled := v },
   .of "groups" (·.groups) fun r v => { r with groups := v }]

instance : Described LinkAggregation := .record LinkAggregation.fields {} .singleGroup

end Netscribe
