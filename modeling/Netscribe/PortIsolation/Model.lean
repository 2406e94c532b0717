import Netscribe.Schema.Described
/-!
Ports that must not talk to each other.
-/
namespace Netscribe

structure IsolationGroup where
  groupId : String := ""
  interfaces : List String := []
  communityVlans : String := ""

def IsolationGroup.fields : List (Field IsolationGroup) :=
  [.of "group_id" (·.groupId) fun r v => { r with groupId := v },
   .of "interfaces" (·.interfaces) fun r v => { r with interfaces := v },
   .of "community_vlans" (·.communityVlans) fun r v => { r with communityVlans := v }]

instance : Described IsolationGroup := .record IsolationGroup.fields {} .none

structure PortIsolation where
  enabled : Bool := false
  mode : String := "l2"
  excludedVlans : String := ""
  groups : List IsolationGroup := []

def PortIsolation.fields : List (Field PortIsolation) :=
  [.of "enabled" (·.enabled) fun r v => { r with enabled := v },
   .of "mode" (·.mode) fun r v => { r with mode := v },
   .of "excluded_vlans" (·.excludedVlans) fun r v => { r with excludedVlans := v },
   .of "groups" (·.groups) fun r v => { r with groups := v }]

instance : Described PortIsolation := .record PortIsolation.fields {} .none

end Netscribe
