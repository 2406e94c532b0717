import Netscribe.Schema.Described
/-!
Security zones and the policies between them.
-/
namespace Netscribe

structure ZoneMember where
  interfaceName : String := ""
  id : String := ""

def ZoneMember.fields : List (Field ZoneMember) :=
  [.of "interface_name" (·.interfaceName) fun r v => { r with interfaceName := v },
   .of "id" (·.id) fun r v => { r with id := v }]

instance : Described ZoneMember := .record ZoneMember.fields {} .none

structure Zone where
  name : String := ""
  priority : String := ""
  description : String := ""
  members : List ZoneMember := []
  id : String := ""

def Zone.fields : List (Field Zone) :=
  [.of "name" (·.name) fun r v => { r with name := v },
   .of "priority" (·.priority) fun r v => { r with priority := v },
   .of "description" (·.description) fun r v => { r with description := v },
   .of "members" (·.members) fun r v => { r with members := v },
   .of "id" (·.id) fun r v => { r with id := v }]

instance : Described Zone := .record Zone.fields {} .none

structure ZonePolicy where
  name : String := ""
  description : String := ""
  action : String := "permit"
  sourceZone : String := ""
  destinationZone : String := ""
  sourceAddressType : String := "any"
  sourceAddressValue : String := ""
  destinationAddressType : String := "any"
  destinationAddressValue : String := ""
  serviceType : String := "any"
  serviceValue : String := ""
  application : String := ""
  user : String := ""
  timeRange : String := ""
  logging : Bool := false
  counting : Bool := false
  enabled : Bool := true
  id : String := ""

def ZonePolicy.fields : List (Field ZonePolicy) :=
  [.of "name" (·.name) fun r v => { r with name := v },
   .of "description" (·.description) fun r v => { r with description := v },
   .of "action" (·.action) fun r v => { r with action := v },
   .of "source_zone" (·.sourceZone) fun r v => { r with sourceZone := v },
   .of "destination_zone" (·.destinationZone) fun r v => { r with destinationZone := v },
   .of "source_address_type" (·.sourceAddressType) fun r v => { r with sourceAddressType := v },
   .of "source_address_value" (·.sourceAddressValue) fun r v => { r with sourceAddressValue := v },
   .of "destination_address_type" (·.destinationAddressType)
     fun r v => { r with destinationAddressType := v },
   .of "destination_address_value" (·.destinationAddressValue)
     fun r v => { r with destinationAddressValue := v },
   .of "service_type" (·.serviceType) fun r v => { r with serviceType := v },
   .of "service_value" (·.serviceValue) fun r v => { r with serviceValue := v },
   .of "application" (·.application) fun r v => { r with application := v },
   .of "user" (·.user) fun r v => { r with user := v },
   .of "time_range" (·.timeRange) fun r v => { r with timeRange := v },
   .of "logging" (·.logging) fun r v => { r with logging := v },
   .of "counting" (·.counting) fun r v => { r with counting := v },
   .of "enabled" (·.enabled) fun r v => { r with enabled := v },
   .of "id" (·.id) fun r v => { r with id := v }]

instance : Described ZonePolicy := .record ZonePolicy.fields {} .none

structure ZoneSecurity where
  zonesEnabled : Bool := false
  policiesEnabled : Bool := false
  zones : List Zone := []
  policies : List ZonePolicy := []

def ZoneSecurity.fields : List (Field ZoneSecurity) :=
  [.of "zones_enabled" (·.zonesEnabled) fun r v => { r with zonesEnabled := v },
   .of "policies_enabled" (·.policiesEnabled) fun r v => { r with policiesEnabled := v },
   .of "zones" (·.zones) fun r v => { r with zones := v },
   .of "policies" (·.policies) fun r v => { r with policies := v }]

instance : Described ZoneSecurity := .record ZoneSecurity.fields {} .none

end Netscribe
