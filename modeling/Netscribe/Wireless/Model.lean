import Netscribe.Schema.Described
/-!
Access controllers, access points and the networks they offer.
-/
namespace Netscribe

structure Radio where
  enabled : Bool := false
  channel : String := ""
  power : String := ""

def Radio.fields : List (Field Radio) :=
  [.of "enabled" (·.enabled) fun r v => { r with enabled := v },
   .of "channel" (·.channel) fun r v => { r with channel := v },
   .of "power" (·.power) fun r v => { r with power := v }]

instance : Described Radio := .record Radio.fields {} .none

structure VapBinding where
  vapProfileName : String := ""
  radio : String := "all"

def VapBinding.fields : List (Field VapBinding) :=
  [.of "vap_profile_name" (·.vapProfileName) fun r v => { r with vapProfileName := v },
   .of "radio" (·.radio) fun r v => { r with radio := v }]

instance : Described VapBinding := .record VapBinding.fields {} .none

structure ApGroup where
  groupName : String := ""
  description : String := ""
  radio2g : Radio := {}
  radio5g : Radio := {}
  serviceTemplates : List String := []
  vapBindings : List VapBinding := []
  vlanId : String := ""
  countryCode : String := ""

def ApGroup.fields : List (Field ApGroup) :=
  [.of "group_name" (·.groupName) fun r v => { r with groupName := v },
   .of "description" (·.description) fun r v => { r with description := v },
   .keyed "radio_2g" "radio2G" (·.radio2g) fun r v => { r with radio2g := v },
   .keyed "radio_5g" "radio5G" (·.radio5g) fun r v => { r with radio5g := v },
   .of "service_templates" (·.serviceTemplates) fun r v => { r with serviceTemplates := v },
   .of "vap_bindings" (·.vapBindings) fun r v => { r with vapBindings := v },
   .of "vlan_id" (·.vlanId) fun r v => { r with vlanId := v },
   .of "country_code" (·.countryCode) fun r v => { r with countryCode := v }]

instance : Described ApGroup := .record ApGroup.fields {} .none

/-- A network name with its security, as H3C keeps them together. -/
structure ServiceTemplate where
  templateName : String := ""
  ssid : String := ""
  description : String := ""
  defaultVlan : String := ""
  ssidHide : Bool := false
  forwardType : String := "centralized"
  maxClients : String := ""
  authMode : String := "static-psk"
  authLocation : String := "local-ac"
  securityMode : String := "wpa2"
  pskPassword : String := ""
  pskType : String := "passphrase"
  wepKeyId : String := ""
  wepKeyType : String := ""
  wepEncryption : String := ""
  wepPassword : String := ""
  enabled : Bool := true

def ServiceTemplate.fields : List (Field ServiceTemplate) :=
  [.of "template_name" (·.templateName) fun r v => { r with templateName := v },
   .of "ssid" (·.ssid) fun r v => { r with ssid := v },
   .of "description" (·.description) fun r v => { r with description := v },
   .of "default_vlan" (·.defaultVlan) fun r v => { r with defaultVlan := v },
   .of "ssid_hide" (·.ssidHide) fun r v => { r with ssidHide := v },
   .of "forward_type" (·.forwardType) fun r v => { r with forwardType := v },
   .of "max_clients" (·.maxClients) fun r v => { r with maxClients := v },
   .of "auth_mode" (·.authMode) fun r v => { r with authMode := v },
   .of "auth_location" (·.authLocation) fun r v => { r with authLocation := v },
   .of "security_mode" (·.securityMode) fun r v => { r with securityMode := v },
   .of "psk_password" (·.pskPassword) fun r v => { r with pskPassword := v },
   .of "psk_type" (·.pskType) fun r v => { r with pskType := v },
   .of "wep_key_id" (·.wepKeyId) fun r v => { r with wepKeyId := v },
   .of "wep_key_type" (·.wepKeyType) fun r v => { r with wepKeyType := v },
   .of "wep_encryption" (·.wepEncryption) fun r v => { r with wepEncryption := v },
   .of "wep_password" (·.wepPassword) fun r v => { r with wepPassword := v },
   .of "enabled" (·.enabled) fun r v => { r with enabled := v }]

instance : Described ServiceTemplate := .record ServiceTemplate.fields {} .none

structure SecurityProfile where
  profileName : String := ""
  securityType : String := "wpa2-psk"
  psk : String := ""

def SecurityProfile.fields : List (Field SecurityProfile) :=
  [.of "profile_name" (·.profileName) fun r v => { r with profileName := v },
   .of "security_type" (·.securityType) fun r v => { r with securityType := v },
   .of "psk" (·.psk) fun r v => { r with psk := v }]

instance : Described SecurityProfile := .record SecurityProfile.fields {} .none

structure SsidProfile where
  profileName : String := ""
  ssid : String := ""

def SsidProfile.fields : List (Field SsidProfile) :=
  [.of "profile_name" (·.profileName) fun r v => { r with profileName := v },
   .of "ssid" (·.ssid) fun r v => { r with ssid := v }]

instance : Described SsidProfile := .record SsidProfile.fields {} .none

structure VapProfile where
  profileName : String := ""
  securityProfile : String := ""
  ssidProfile : String := ""
  vlanId : String := ""
  forwardMode : String := ""

def VapProfile.fields : List (Field VapProfile) :=
  [.of "profile_name" (·.profileName) fun r v => { r with profileName := v },
   .of "security_profile" (·.securityProfile) fun r v => { r with securityProfile := v },
   .of "ssid_profile" (·.ssidProfile) fun r v => { r with ssidProfile := v },
   .of "vlan_id" (·.vlanId) fun r v => { r with vlanId := v },
   .of "forward_mode" (·.forwardMode) fun r v => { r with forwardMode := v }]

instance : Described VapProfile := .record VapProfile.fields {} .none

structure AccessPoint where
  apName : String := ""
  model : String := ""
  serialNumber : String := ""
  macAddress : String := ""
  groupName : String := ""
  description : String := ""

def AccessPoint.fields : List (Field AccessPoint) :=
  [.of "ap_name" (·.apName) fun r v => { r with apName := v },
   .of "model" (·.model) fun r v => { r with model := v },
   .of "serial_number" (·.serialNumber) fun r v => { r with serialNumber := v },
   .of "mac_address" (·.macAddress) fun r v => { r with macAddress := v },
   .of "group_name" (·.groupName) fun r v => { r with groupName := v },
   .of "description" (·.description) fun r v => { r with description := v }]

instance : Described AccessPoint := .record AccessPoint.fields {} .none

structure AccessController where
  acSourceInterface : String := ""
  countryCode : String := ""
  apAuthMode : String := ""

def AccessController.fields : List (Field AccessController) :=
  [.of "ac_source_interface" (·.acSourceInterface) fun r v => { r with acSourceInterface := v },
   .of "country_code" (·.countryCode) fun r v => { r with countryCode := v },
   .of "ap_auth_mode" (·.apAuthMode) fun r v => { r with apAuthMode := v }]

instance : Described AccessController := .record AccessController.fields {} .none

structure Wireless where
  enabled : Bool := false
  acConfig : AccessController := {}
  securityProfiles : List SecurityProfile := []
  ssidProfiles : List SsidProfile := []
  vapProfiles : List VapProfile := []
  apGroups : List ApGroup := []
  apDevices : List AccessPoint := []
  serviceTemplates : List ServiceTemplate := []

def Wireless.fields : List (Field Wireless) :=
  [.of "enabled" (·.enabled) fun r v => { r with enabled := v },
   .of "ac_config" (·.acConfig) fun r v => { r with acConfig := v },
   .of "security_profiles" (·.securityProfiles) fun r v => { r with securityProfiles := v },
   .of "ssid_profiles" (·.ssidProfiles) fun r v => { r with ssidProfiles := v },
   .of "vap_profiles" (·.vapProfiles) fun r v => { r with vapProfiles := v },
   .of "ap_groups" (·.apGroups) fun r v => { r with apGroups := v },
   .of "ap_devices" (·.apDevices) fun r v => { r with apDevices := v },
   .of "service_templates" (·.serviceTemplates) fun r v => { r with serviceTemplates := v }]

instance : Described Wireless := .record Wireless.fields {} .none

end Netscribe
