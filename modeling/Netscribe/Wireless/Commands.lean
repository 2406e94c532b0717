import Netscribe.Address.Mac
import Netscribe.Device.Vendor
import Netscribe.Script.Draft
import Netscribe.Script.Grouping
import Netscribe.Wireless.Model
/-!
Commands of wireless controllers.
-/
namespace Netscribe

namespace ServiceTemplate

/-- The security elements and ciphers of a mode; none for an unknown one. -/
def securityLines (mode : String) : List String :=
  if mode = "wpa" then [" security-ie wpa", " cipher-suite tkip"]
  else if mode = "wpa2" then [" security-ie rsn", " cipher-suite ccmp"]
  else if mode = "wpa-wpa2" then
    [" security-ie wpa", " security-ie rsn", " cipher-suite tkip", " cipher-suite ccmp"]
  else []

def authentication (t : ServiceTemplate) : List Entry :=
  let keyType := if t.pskType = "rawkey" then "raw-key" else "pass-phrase"
  let wepId := if t.wepKeyId = "" then "1" else t.wepKeyId
  let wepType := if t.wepKeyType = "" then "passphrase" else t.wepKeyType
  if t.authMode = "static-psk" then
    command " akm mode psk"
      :: onlyIf (t.pskPassword ≠ "")
        [command s!" preshared-key {keyType} simple {t.pskPassword}"]
      ++ (securityLines t.securityMode).map (command ·)
  else onlyIf (t.authMode = "static-wep")
    [command s!" wep key {wepId} {wepType} simple {t.wepPassword}"]

def entries (t : ServiceTemplate) : List Entry :=
  [.blank,
   command s!"wlan service-template \"{t.templateName}\"" s!"Service template for SSID {t.ssid}.",
   command s!" ssid \"{t.ssid}\""]
    ++ onlyIf t.ssidHide [command " beacon ssid-hide" "The SSID is not broadcast."]
    ++ onlyIf (t.description ≠ "") [command s!" description \"{t.description}\""]
    ++ onlyIf (t.defaultVlan ≠ "") [command s!" vlan {t.defaultVlan}"]
    ++ onlyIf (t.maxClients ≠ "") [command s!" client max-count {t.maxClients}"]
    ++ t.authentication
    ++ onlyIf t.enabled [command " service-template enable"]
    ++ [command "quit"]

end ServiceTemplate

namespace Wireless

/-- The template of a name. Of several with one name the last one counts. -/
def findTemplate? (w : Wireless) (name : String) : Option ServiceTemplate :=
  w.serviceTemplates.reverse.find? (·.templateName == name)

def h3cAccessPoint (a : AccessPoint) : List Entry :=
  let model := if a.model = "" then "WA6320-HCL" else a.model
  onlyIf (a.serialNumber ≠ "" ∧ a.apName ≠ "")
    ([.blank,
      command s!"wlan ap \"{a.apName}\" model \"{model}\"" s!"Pre-provisions AP {a.apName}.",
      command s!" serial-id {a.serialNumber}"]
      ++ onlyIf (a.description ≠ "") [command s!" description \"{a.description}\""]
      ++ [command "quit"])

/-- The line by which a radio serves a template, if the template exists. -/
def templateEntries (w : Wireless) (radioId name : String) : List Entry :=
  (w.findTemplate? name).toList.map fun t =>
    command (s!"   service-template \"{name}\""
        ++ textIf (t.defaultVlan ≠ "") s!" vlan {t.defaultVlan}")
      s!"Radio {radioId} serves template {name}."

def radioEntries (w : Wireless) (group : ApGroup) (radioId : String) (r : Radio) : List Entry :=
  onlyIf r.enabled
    (command s!"  radio {radioId}"
      :: onlyIf (r.channel ≠ "") [command s!"   channel {r.channel}"]
      ++ onlyIf (r.power ≠ "") [command s!"   max-power {r.power}"]
      ++ group.serviceTemplates.flatMap (w.templateEntries radioId)
      ++ [command "   radio enable", command "  quit"])

def groupMembers (w : Wireless) (group : ApGroup) : List AccessPoint :=
  w.apDevices.filter fun a => a.groupName = group.groupName ∧ a.apName ≠ ""

/-- Radio 1 works at 5 GHz and radio 2 at 2.4 GHz; both are set for each model of a member. -/
def h3cGroup (w : Wireless) (group : ApGroup) : List Entry :=
  let members := w.groupMembers group
  let models := ((members.map (·.model)).filter (· ≠ "")).eraseDups
  onlyIf (group.groupName ≠ "")
    ([.blank,
      command s!"wlan ap-group \"{group.groupName}\"" s!"AP group {group.groupName}."]
      ++ onlyIf (group.description ≠ "") [command s!" description \"{group.description}\""]
      ++ members.map (fun a => command s!" ap \"{a.apName}\"")
      ++ models.flatMap (fun model =>
        command s!" ap-model \"{model}\"" :: w.radioEntries group "1" group.radio5g
          ++ w.radioEntries group "2" group.radio2g ++ [command " quit"])
      ++ [command "quit"])

def h3cEntries (w : Wireless) : List Entry :=
  (w.serviceTemplates.filter (·.templateName ≠ "")).flatMap ServiceTemplate.entries
    ++ w.apDevices.flatMap h3cAccessPoint ++ w.apGroups.flatMap w.h3cGroup

def controllerEntries (c : AccessController) : List Entry :=
  onlyIf (c.acSourceInterface ≠ "")
      [command s!" ac-source interface {c.acSourceInterface}" "CAPWAP source interface."]
    ++ onlyIf (c.countryCode ≠ "") [command s!" country-code {c.countryCode}"]
    ++ onlyIf (c.apAuthMode ≠ "")
      [command s!" ap auth-mode {c.apAuthMode}-auth" s!"APs are admitted by {c.apAuthMode}."]

def securityProfile (p : SecurityProfile) : List Entry :=
  onlyIf (p.profileName ≠ "")
    (command s!" security-profile name \"{p.profileName}\""
      :: onlyIf (p.securityType = "wpa2-psk" ∧ p.psk ≠ "")
        [command s!"  security wpa2 psk pass-phrase {p.psk} aes"]
      ++ [command " quit"])

def ssidProfile (p : SsidProfile) : List Entry :=
  onlyIf (p.profileName ≠ "")
    [command s!" ssid-profile name \"{p.profileName}\"", command s!"  ssid \"{p.ssid}\"",
     command " quit"]

def vapProfile (p : VapProfile) : List Entry :=
  onlyIf (p.profileName ≠ "")
    (command s!" vap-profile name \"{p.profileName}\"" "Binds security, SSID and service VLAN."
      :: onlyIf (p.securityProfile ≠ "") [command s!"  security-profile \"{p.securityProfile}\""]
      ++ onlyIf (p.ssidProfile ≠ "") [command s!"  ssid-profile \"{p.ssidProfile}\""]
      ++ onlyIf (p.vlanId ≠ "") [command s!"  service-vlan vlan-id {p.vlanId}"]
      ++ onlyIf (p.forwardMode ≠ "") [command s!"  forward-mode {p.forwardMode}"]
      ++ [command " quit"])

def huaweiGroup (g : ApGroup) : List Entry :=
  onlyIf (g.groupName ≠ "")
    (command s!" ap-group name \"{g.groupName}\""
      :: onlyIf (g.description ≠ "") [command s!"  description \"{g.description}\""]
      ++ (g.vapBindings.filter (·.vapProfileName ≠ "")).map (fun b =>
        command s!"  vap-profile \"{b.vapProfileName}\" wlan 1 radio {b.radio}")
      ++ [command " quit"])

def huaweiAccessPoint (index : Nat) (a : AccessPoint) : List Entry :=
  let label := if a.apName = "" then a.macAddress else a.apName
  command s!" ap-id {index} ap-mac {Mac.dashed a.macAddress}" s!"Admits AP {label}."
    :: onlyIf (a.apName ≠ "") [command s!"  ap-name \"{a.apName}\""]
    ++ onlyIf (a.groupName ≠ "") [command s!"  ap-group \"{a.groupName}\""]
    ++ [command " quit"]

def huaweiEntries (w : Wireless) : List Entry :=
  command "wlan" "Enters the WLAN view." :: controllerEntries w.acConfig
    ++ w.securityProfiles.flatMap securityProfile
    ++ w.ssidProfiles.flatMap ssidProfile
    ++ w.vapProfiles.flatMap vapProfile
    ++ w.apGroups.flatMap huaweiGroup
    ++ (numbered 0 (w.apDevices.filter (·.macAddress ≠ ""))).flatMap (fun (i, a) =>
      huaweiAccessPoint i a)
    ++ [command "quit"]

def render (vendor : Vendor) (w : Wireless) : Fragment :=
  if !w.enabled then .nothing "Wireless is disabled."
  else match vendor with
    | .h3c => finish w.h3cEntries
    | .huawei => finish w.huaweiEntries
    | _ => .unsupported "Wireless" vendor.name
where
  finish (entries : List Entry) : Fragment :=
    .ofEntries entries "Wireless configuration generated locally."
      "No wireless objects configured."

end Wireless
end Netscribe
