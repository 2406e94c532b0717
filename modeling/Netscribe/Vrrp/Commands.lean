import Netscribe.Device.Vendor
import Netscribe.Script.Draft
import Netscribe.Vrrp.Model
/-!
Commands of virtual router groups.
-/
namespace Netscribe

namespace VrrpGroup

def delay (g : VrrpGroup) : String := if g.preemptDelay = "" then "0" else g.preemptDelay

def gateway (g : VrrpGroup) : String :=
  s!"Virtual gateway {g.virtualIp} for group {g.groupId}."

/-- A setting of the group, if it has a value. -/
def setting (start keyword value : String) : List Entry :=
  onlyIf (value ≠ "") [command s!"{start} {keyword} {value}"]

/-- The key for the group's kind of authentication. -/
def authentication (g : VrrpGroup) (start simple md5 : String) : List Entry :=
  if g.authType = "simple" then setting start simple g.authKey
  else if g.authType = "md5" then setting start md5 g.authKey
  else []

def ciscoEntries (g : VrrpGroup) : List Entry :=
  let start := s!" vrrp {g.groupId}"
  command s!"{start} ip {g.virtualIp}" g.gateway
    :: setting start "priority" g.priority
    ++ [if !g.preempt then
        command s!" no vrrp {g.groupId} preempt" "Never preempts the current master."
      else if g.delay = "0" then
        command s!"{start} preempt" "Takes over as master when it has the higher priority."
      else
        command s!"{start} preempt delay minimum {g.delay}"
          s!"Takes over as master after {g.delay}s."]
    ++ setting start "timers advertise" g.advertisementInterval
    ++ g.authentication start "authentication text" "authentication md5 key-string"
    ++ setting start "description" g.description

def vrpEntries (vendor : Vendor) (g : VrrpGroup) : List Entry :=
  let start := s!" vrrp vrid {g.groupId}"
  let timer := if vendor = .huawei then "timer " else ""
  command s!"{start} virtual-ip {g.virtualIp}" g.gateway
    :: setting start "priority" g.priority
    ++ [if g.preempt then
        command s!"{start} preempt-mode {timer}delay {g.delay}"
          s!"Preempts after a {g.delay}s delay."
      else
        command s!" undo vrrp vrid {g.groupId} preempt-mode" "Never preempts the current master."]
    ++ setting start "timer advertise" g.advertisementInterval
    ++ g.authentication start "authentication-mode simple plain" "authentication-mode md5"
    ++ setting start "description" g.description

end VrrpGroup

namespace VrrpInterface

/-- Groups without an id or a virtual address are left out. -/
def completeGroups (i : VrrpInterface) : List VrrpGroup :=
  i.groups.filter fun g => g.groupId ≠ "" ∧ g.virtualIp ≠ ""

def entries (vendor : Vendor) (i : VrrpInterface) : List Entry :=
  let groups := i.completeGroups
  onlyIf (i.interfaceName ≠ "" ∧ !groups.isEmpty)
    ([.blank, command s!"interface {i.interfaceName}"]
      ++ groups.flatMap (fun g =>
        if vendor = .cisco then g.ciscoEntries else g.vrpEntries vendor)
      ++ onlyIf (vendor = .cisco) [command " no shutdown"]
      ++ [command vendor.closer])

end VrrpInterface

def Vrrp.render (vendor : Vendor) (v : Vrrp) : Fragment :=
  if !v.enabled then .nothing "VRRP is disabled."
  else if vendor = .generic then .unsupported "VRRP" vendor.name
  else
    .ofEntries (v.interfaces.flatMap (·.entries vendor)) "VRRP configuration generated locally."
      "No VRRP groups configured."

end Netscribe
