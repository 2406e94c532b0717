import Netscribe.Schema.Described
/-!
Named groups of addresses, services and domain names.
-/
namespace Netscribe

structure AddressMember where
  kind : String := "ip-mask"
  address : String := ""
  mask : String := ""
  startAddress : String := ""
  endAddress : String := ""
  hostName : String := ""
  id : String := ""

def AddressMember.fields : List (Field AddressMember) :=
  [.of "type" (·.kind) fun r v => { r with kind := v },
   .of "address" (·.address) fun r v => { r with address := v },
   .of "mask" (·.mask) fun r v => { r with mask := v },
   .of "start_address" (·.startAddress) fun r v => { r with startAddress := v },
   .of "end_address" (·.endAddress) fun r v => { r with endAddress := v },
   .of "host_name" (·.hostName) fun r v => { r with hostName := v },
   .of "id" (·.id) fun r v => { r with id := v }]

instance : Described AddressMember := .record AddressMember.fields {} .none

structure AddressGroup where
  name : String := ""
  description : String := ""
  members : List AddressMember := []
  id : String := ""

def AddressGroup.fields : List (Field AddressGroup) :=
  [.of "name" (·.name) fun r v => { r with name := v },
   .of "description" (·.description) fun r v => { r with description := v },
   .of "members" (·.members) fun r v => { r with members := v },
   .of "id" (·.id) fun r v => { r with id := v }]

instance : Described AddressGroup := .record AddressGroup.fields {} .none

structure ServiceMember where
  protocol : String := "tcp"
  customProtocolNumber : String := ""
  sourcePortOperator : String := ""
  sourcePort1 : String := ""
  sourcePort2 : String := ""
  destinationPortOperator : String := ""
  destinationPort1 : String := ""
  destinationPort2 : String := ""
  icmpType : String := ""
  icmpCode : String := ""
  id : String := ""

def ServiceMember.fields : List (Field ServiceMember) :=
  [.of "protocol" (·.protocol) fun r v => { r with protocol := v },
   .of "custom_protocol_number" (·.customProtocolNumber)
     fun r v => { r with customProtocolNumber := v },
   .of "source_port_operator" (·.sourcePortOperator) fun r v => { r with sourcePortOperator := v },
   .of "source_port1" (·.sourcePort1) fun r v => { r with sourcePort1 := v },
   .of "source_port2" (·.sourcePort2) fun r v => { r with sourcePort2 := v },
   .of "destination_port_operator" (·.destinationPortOperator)
     fun r v => { r with destinationPortOperator := v },
   .of "destination_port1" (·.destinationPort1) fun r v => { r with destinationPort1 := v },
   .of "destination_port2" (·.destinationPort2) fun r v => { r with destinationPort2 := v },
   .of "icmp_type" (·.icmpType) fun r v => { r with icmpType := v },
   .of "icmp_code" (·.icmpCode) fun r v => { r with icmpCode := v },
   .of "id" (·.id) fun r v => { r with id := v }]

instance : Described ServiceMember := .record ServiceMember.fields {} .none

structure ServiceGroup where
  name : String := ""
  description : String := ""
  members : List ServiceMember := []
  id : String := ""

def ServiceGroup.fields : List (Field ServiceGroup) :=
  [.of "name" (·.name) fun r v => { r with name := v },
   .of "description" (·.description) fun r v => { r with description := v },
   .of "members" (·.members) fun r v => { r with members := v },
   .of "id" (·.id) fun r v => { r with id := v }]

instance : Described ServiceGroup := .record ServiceGroup.fields {} .none

structure DomainMember where
  name : String := ""
  id : String := ""

def DomainMember.fields : List (Field DomainMember) :=
  [.of "name" (·.name) fun r v => { r with name := v },
   .of "id" (·.id) fun r v => { r with id := v }]

instance : Described DomainMember := .record DomainMember.fields {} .none

structure DomainGroup where
  name : String := ""
  description : String := ""
  members : List DomainMember := []
  id : String := ""

def DomainGroup.fields : List (Field DomainGroup) :=
  [.of "name" (·.name) fun r v => { r with name := v },
   .of "description" (·.description) fun r v => { r with description := v },
   .of "members" (·.members) fun r v => { r with members := v },
   .of "id" (·.id) fun r v => { r with id := v }]

instance : Described DomainGroup := .record DomainGroup.fields {} .none

structure ObjectGroups where
  addressGroupsEnabled : Bool := false
  serviceGroupsEnabled : Bool := false
  domainGroupsEnabled : Bool := false
  addressGroups : List AddressGroup := []
  serviceGroups : List ServiceGroup := []
  domainGroups : List DomainGroup := []

def ObjectGroups.fields : List (Field ObjectGroups) :=
  [.of "address_groups_enabled" (·.addressGroupsEnabled)
     fun r v => { r with addressGroupsEnabled := v },
   .of "service_groups_enabled" (·.serviceGroupsEnabled)
     fun r v => { r with serviceGroupsEnabled := v },
   .of "domain_groups_enabled" (·.domainGroupsEnabled)
     fun r v => { r with domainGroupsEnabled := v },
   .of "address_groups" (·.addressGroups) fun r v => { r with addressGroups := v },
   .of "service_groups" (·.serviceGroups) fun r v => { r with serviceGroups := v },
   .of "domain_groups" (·.domainGroups) fun r v => { r with domainGroups := v }]

instance : Described ObjectGroups := .record ObjectGroups.fields {} .none

end Netscribe
