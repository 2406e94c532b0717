import Netscribe.Schema.Described
/-!
DHCP snooping.
-/
namespace Netscribe

structure SnoopingInterface where
  interfaceName : String := ""
  trust : Bool := false
  bindingRecord : Bool := false

def SnoopingInterface.fields : List (Field SnoopingInterface) :=
  [.of "interface_name" (·.interfaceName) fun r v => { r with interfaceName := v },
   .of "trust" (·.trust) fun r v => { r with trust := v },
   .of "binding_record" (·.bindingRecord) fun r v => { r with bindingRecord := v }]

instance : Described SnoopingInterface := .record SnoopingInterface.fields {} .none

structure BindingDatabase where
  enabled : Bool := false
  filename : String := ""
  updateInterval : String := ""

def BindingDatabase.fields : List (Field BindingDatabase) :=
  [.of "enabled" (·.enabled) fun r v => { r with enabled := v },
   .of "filename" (·.filename) fun r v => { r with filename := v },
   .of "update_interval" (·.updateInterval) fun r v => { r with updateInterval := v }]

instance : Described BindingDatabase := .record BindingDatabase.fields {} .none

structure H3cSnooping where
  bindingDatabase : BindingDatabase := {}

def H3cSnooping.fields : List (Field H3cSnooping) :=
  [.of "binding_database" (·.bindingDatabase) fun r v => { r with bindingDatabase := v }]

instance : Described H3cSnooping := .record H3cSnooping.fields {} .none

structure TrustedInterface where
  name : String := ""
  id : String := ""

def TrustedInterface.fields : List (Field TrustedInterface) :=
  [.of "name" (·.name) fun r v => { r with name := v },
   .of "id" (·.id) fun r v => { r with id := v }]

instance : Described TrustedInterface := .record TrustedInterface.fields {} .none

structure BindingAutosave where
  enabled : Bool := false
  filename : String := ""
  writeDelay : String := ""

def BindingAutosave.fields : List (Field BindingAutosave) :=
  [.of "enabled" (·.enabled) fun r v => { r with enabled := v },
   .of "filename" (·.filename) fun r v => { r with filename := v },
   .of "write_delay" (·.writeDelay) fun r v => { r with writeDelay := v }]

instance : Described BindingAutosave := .record BindingAutosave.fields {} .none

structure HuaweiSnooping where
  enabledOnVlans : String := ""
  trustedInterfaces : List TrustedInterface := []
  userBindAutosave : BindingAutosave := {}

def HuaweiSnooping.fields : List (Field HuaweiSnooping) :=
  [.of "enabled_on_vlans" (·.enabledOnVlans) fun r v => { r with enabledOnVlans := v },
   .of "trusted_interfaces" (·.trustedInterfaces) fun r v => { r with trustedInterfaces := v },
   .of "user_bind_autosave" (·.userBindAutosave) fun r v => { r with userBindAutosave := v }]

instance : Described HuaweiSnooping := .record HuaweiSnooping.fields {} .none

structure DhcpSnooping where
  enabled : Bool := false
  interfaces : List SnoopingInterface := []
  h3c : H3cSnooping := {}
  huawei : HuaweiSnooping := {}

def DhcpSnooping.fields : List (Field DhcpSnooping) :=
  [.of "enabled" (·.enabled) fun r v => { r with enabled := v },
   .of "interfaces" (·.interfaces) fun r v => { r with interfaces := v },
   .of "h3c" (·.h3c) fun r v => { r with h3c := v },
   .of "huawei" (·.huawei) fun r v => { r with huawei := v }]

instance : Described DhcpSnooping := .record DhcpSnooping.fields {} .none

end Netscribe
