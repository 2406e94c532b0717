import Netscribe.Device.Vendor
import Netscribe.DhcpSnooping.Model
import Netscribe.Script.Draft
import Netscribe.Vlan.IdList
/-!
Commands of DHCP snooping.
-/
namespace Netscribe

namespace DhcpSnooping

def h3cDatabase (d : BindingDatabase) : List Entry :=
  onlyIf d.enabled
    ([.blank, remark "Snooping entry backup"]
      ++ onlyIf (d.filename ≠ "")
        [command s!"dhcp snooping binding database filename {d.filename}"
          s!"Entries are saved to {d.filename}."]
      ++ onlyIf (d.updateInterval ≠ "")
        [command s!"dhcp snooping binding database update interval {d.updateInterval}"])

def h3cInterface (i : SnoopingInterface) : List Entry :=
  onlyIf (i.interfaceName ≠ "" ∧ (i.trust ∨ i.bindingRecord))
    (command s!"interface {i.interfaceName}"
      :: onlyIf i.trust
        [command " dhcp snooping trust" s!"{i.interfaceName} may carry DHCP server replies."]
      ++ onlyIf i.bindingRecord
        [command " dhcp snooping binding record" "Records client bindings learned here."]
      ++ [command "quit"])

def enabling : Entry := command "dhcp snooping enable" "Enables DHCP snooping globally."

def h3cEntries (s : DhcpSnooping) : List Entry :=
  enabling :: h3cDatabase s.h3c.bindingDatabase
    ++ titled "Interfaces" (s.interfaces.flatMap h3cInterface)

def huaweiAutosave (a : BindingAutosave) : List Entry :=
  onlyIf (a.enabled ∧ a.filename ≠ "")
    [.blank, remark "Binding table autosave",
     command (s!"dhcp snooping user-bind autosave {a.filename}"
        ++ textIf (!isDefault a.writeDelay "3600") s!" write-delay {a.writeDelay}")
      s!"Backs up the binding table to {a.filename}."]

def huaweiTrusted (i : TrustedInterface) : List Entry :=
  onlyIf (i.name ≠ "")
    [command s!"interface {i.name}",
     command " dhcp snooping trusted" s!"{i.name} may carry DHCP server replies.",
     command "quit"]

def huaweiEntries (s : HuaweiSnooping) : Except Fault (List Entry) := do
  let vlans ← Vlan.normalList s.enabledOnVlans
  return [command "dhcp enable" "DHCP must be enabled for snooping.", enabling]
    ++ onlyIf (vlans ≠ "")
      [.blank, command s!"dhcp snooping enable vlan {vlans}" s!"Snooping runs in VLANs {vlans}."]
    ++ huaweiAutosave s.userBindAutosave
    ++ titled "Trusted interfaces" (s.trustedInterfaces.flatMap huaweiTrusted)

def render (vendor : Vendor) (s : DhcpSnooping) : Except Fault Fragment := do
  if !s.enabled then return .nothing "DHCP Snooping is disabled."
  match vendor with
  | .h3c => return finish s.h3cEntries
  | .huawei => return finish (← huaweiEntries s.huawei)
  | _ => return .unsupported "DHCP Snooping" vendor.name
where
  finish (entries : List Entry) : Fragment :=
    (Draft.ofEntries entries).build "DHCP snooping configuration generated."

end DhcpSnooping
end Netscribe
