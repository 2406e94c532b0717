import Netscribe.Schema.Described
/-!
Virtual router groups.
-/
namespace Netscribe

structure VrrpGroup where
  groupId : String := ""
  virtualIp : String := ""
  priority : String := "100"
  preempt : Bool := true
  preemptDelay : String := ""
  authType : String := "none"
  authKey : String := ""
  advertisementInterval : String := ""
  description : String := ""
  id : String := ""

def VrrpGroup.fields : List (Field VrrpGroup) :=
  [.of "group_id" (·.groupId) fun r v => { r with groupId := v },
   .of "virtual_ip" (·.virtualIp) fun r v => { r with virtualIp := v },
   .of "priority" (·.priority) fun r v => { r with priority := v },
   .of "preempt" (·.preempt) fun r v => { r with preempt := v },
   .of "preempt_delay" (·.preemptDelay) fun r v => { r with preemptDelay := v },
   .of "auth_type" (·.authType) fun r v => { r with authType := v },
   .of "auth_key" (·.authKey) fun r v => { r with authKey := v },
   .of "advertisement_interval" (·.advertisementInterval)
     fun r v => { r with advertisementInterval := v },
   .of "description" (·.description) fun r v => { r with description := v },
   .of "id" (·.id) fun r v => { r with id := v }]

instance : Described VrrpGroup := .record VrrpGroup.fields {} .none

structure VrrpInterface where
  interfaceName : String := ""
  groups : List VrrpGroup := []
  id : String := ""

def VrrpInterface.fields : List (Field VrrpInterface) :=
  [.of "interface_name" (·.interfaceName) fun r v => { r with interfaceName := v },
   .of "groups" (·.groups) fun r v => { r with groups := v },
   .of "id" (·.id) fun r v => { r with id := v }]

instance : Described VrrpInterface := .record VrrpInterface.fields {} .none

structure Vrrp where
  enabled : Bool := false
  interfaces : List VrrpInterface := []

def Vrrp.fields : List (Field Vrrp) :=
  [.of "enabled" (·.enabled) fun r v => { r with enabled := v },
   .of "interfaces" (·.interfaces) fun r v => { r with interfaces := v }]

instance : Described Vrrp := .record Vrrp.fields {} .none

end Netscribe
