import Netscribe.Schema.Described
/-!
Devices joined into one by stack ports.
-/
namespace Netscribe

/-- A stack port and the physical interfaces bound to it. -/
structure StackPort where
  id : String := "1"
  portGroup : List String := []

def StackPort.fields : List (Field StackPort) :=
  [.of "id" (·.id) fun r v => { r with id := v },
   .of "port_group" (·.portGroup) fun r v => { r with portGroup := v }]

instance : Described StackPort := .record StackPort.fields {} .none

/-- A member keeps `memberId` until it is renumbered to `newMemberId`. -/
structure StackMember where
  memberId : String := ""
  newMemberId : String := ""
  priority : String := ""
  irfPorts : List StackPort := []

def StackMember.fields : List (Field StackMember) :=
  [.of "member_id" (·.memberId) fun r v => { r with memberId := v },
   .of "new_member_id" (·.newMemberId) fun r v => { r with newMemberId := v },
   .of "priority" (·.priority) fun r v => { r with priority := v },
   .of "irf_ports" (·.irfPorts) fun r v => { r with irfPorts := v }]

instance : Described StackMember := .record StackMember.fields {} .none

structure Stacking where
  enabled : Bool := false
  modelType : String := "new"
  domainId : String := ""
  members : List StackMember := []

def Stacking.fields : List (Field Stacking) :=
  [.of "enabled" (·.enabled) fun r v => { r with enabled := v },
   .of "model_type" (·.modelType) fun r v => { r with modelType := v },
   .of "domain_id" (·.domainId) fun r v => { r with domainId := v },
   .of "members" (·.members) fun r v => { r with members := v }]

instance : Described Stacking := .record Stacking.fields {} .none

end Netscribe
