import Netscribe.Address.Ipv4
import Netscribe.Address.Mac
import Netscribe.Device.Vendor
import Netscribe.Dhcp.Model
import Netscribe.Script.Draft
/-!
Commands of the DHCP server.
-/
namespace Netscribe

def orZero (s : String) : String := if s = "" then "0" else s

/-- The parts of a lease; nothing when all of them are zero. -/
def leaseParts (parts : List String) : List String :=
  let values := parts.map orZero
  if values.all (· = "0") then [] else values

namespace DhcpPool

/-- What precedes the address of a wireless controller in option 43. -/
def ciscoOption43 : String := "f104"

def h3cOption43 : String := "8007000001"

def lease (p : DhcpPool) : List String := leaseParts [p.leaseDays, p.leaseHours, p.leaseMinutes]

def leaseWithSeconds (p : DhcpPool) : List String :=
  leaseParts [p.leaseDays, p.leaseHours, p.leaseMinutes, p.leaseSeconds]

def hasNetwork (p : DhcpPool) : Bool := p.network ≠ "" && p.subnetMask ≠ ""

def hasExclusion (p : DhcpPool) : Bool := p.excludeStart ≠ "" && p.excludeEnd ≠ ""

def bindings (p : DhcpPool) : List DhcpBinding :=
  p.staticBindings.filter fun b => b.ipAddress ≠ "" ∧ b.macAddress ≠ ""

def reservation (b : DhcpBinding) : String := s!"Reserves {b.ipAddress} for {b.macAddress}."

def option43Entries (p : DhcpPool) (encoded : String) : List Entry :=
  onlyIf (encoded ≠ "")
    [command s!" option 43 hex {encoded}" s!"Points APs to the AC at {p.option43}."]

/-- The address in option 43 behind its header; empty when it is no IPv4 address. -/
def encodeOption43 (p : DhcpPool) (header : String) (capital : Bool) : Except Fault String := do
  let encoded ← Ipv4.toHex p.option43 capital
  return textIf (encoded ≠ "") (header ++ encoded)

def ciscoBinding (p : DhcpPool) (b : DhcpBinding) : List Entry :=
  [command s!"ip dhcp pool STATIC_{Mac.clean b.macAddress}",
   command (Text.trimEnd s!" host {b.ipAddress} {p.subnetMask}"),
   command s!" client-identifier {Mac.clientIdentifier b.macAddress}" (reservation b),
   command "exit"]

def ciscoEntries (p : DhcpPool) : Except Fault (List Entry) := do
  let encoded ← p.encodeOption43 ciscoOption43 false
  let lease := p.leaseWithSeconds
  return command s!"ip dhcp pool {p.poolName}" s!"Creates pool {p.poolName}."
    :: onlyIf p.hasNetwork [command s!" network {p.network} {p.subnetMask}"]
    ++ onlyIf (p.gateway ≠ "") [command s!" default-router {p.gateway}"]
    ++ onlyIf (p.dnsServer ≠ "") [command s!" dns-server {p.dnsServer}"]
    ++ p.option43Entries encoded
    ++ onlyIf (lease ≠ [])
      [command s!" lease {Text.unwords lease}" "Lease as days hours minutes seconds."]
    ++ [command "exit"]
    ++ p.bindings.flatMap p.ciscoBinding

def ciscoExclusion (p : DhcpPool) : List Entry :=
  onlyIf p.hasExclusion
    [command s!"ip dhcp excluded-address {p.excludeStart} {p.excludeEnd}"
      "These addresses are never leased."]

/-- A lease in days, hours and minutes behind a keyword. -/
def vrpLease (p : DhcpPool) (keyword : String) : List Entry :=
  match p.lease with
  | [days, hours, minutes] =>
    [command s!" {keyword} day {days} hour {hours} minute {minutes}"]
  | _ => []

def huaweiEntries (p : DhcpPool) : List Entry :=
  command s!"ip pool {p.poolName}" s!"Creates global pool {p.poolName}."
    :: onlyIf (p.gateway ≠ "") [command s!" gateway-list {p.gateway}"]
    ++ onlyIf p.hasNetwork [command s!" network {p.network} mask {p.subnetMask}"]
    ++ onlyIf (p.dnsServer ≠ "") [command s!" dns-list {p.dnsServer}"]
    ++ onlyIf (p.option43 ≠ "")
      [command s!" option 43 sub-option 3 ascii {p.option43}"
        s!"Points APs to the AC at {p.option43}."]
    ++ onlyIf p.hasExclusion [command s!" excluded-ip-address {p.excludeStart} {p.excludeEnd}"]
    ++ p.vrpLease "lease"
    ++ p.bindings.map (fun b =>
      command s!" static-bind ip-address {b.ipAddress} mac-address {Mac.dashed b.macAddress}"
        (reservation b))
    ++ [command "quit"]

def h3cEntries (p : DhcpPool) : Except Fault (List Entry) := do
  let encoded ← p.encodeOption43 h3cOption43 true
  return command s!"dhcp server ip-pool {p.poolName}" s!"Creates pool {p.poolName}."
    :: onlyIf p.hasNetwork [command s!" network {p.network} mask {p.subnetMask}"]
    ++ onlyIf (p.gateway ≠ "") [command s!" gateway-list {p.gateway}"]
    ++ onlyIf (p.dnsServer ≠ "") [command s!" dns-list {p.dnsServer}"]
    ++ p.option43Entries encoded
    ++ onlyIf p.hasExclusion [command s!" forbidden-ip {p.excludeStart} {p.excludeEnd}"]
    ++ p.vrpLease "expired"
    ++ p.bindings.map (fun b =>
      command
        (s!" static-bind ip-address {b.ipAddress} mask {p.subnetMask} "
          ++ s!"hardware-address {Mac.dashed b.macAddress}")
        (reservation b))
    ++ [command "quit"]

end DhcpPool

namespace DhcpServer

/-- Pools without a name are left out. -/
def namedPools (s : DhcpServer) : List DhcpPool := s.pools.filter (·.poolName ≠ "")

def enabling (text : String) : Entry := command text "Enables the DHCP service."

def render (vendor : Vendor) (s : DhcpServer) : Except Fault Fragment := do
  let pools := s.namedPools
  if !s.enabled || pools.isEmpty then
    return .nothing "DHCP server is disabled or has no pools."
  match vendor with
  | .cisco =>
    let blocks ← pools.mapM DhcpPool.ciscoEntries
    return finish (enabling "service dhcp" :: pools.flatMap DhcpPool.ciscoExclusion
      ++ blocks.flatten)
  | .huawei => return finish (enabling "dhcp enable" :: pools.flatMap DhcpPool.huaweiEntries)
  | .h3c =>
    let blocks ← pools.mapM DhcpPool.h3cEntries
    return finish (enabling "dhcp enable" :: blocks.flatten)
  | .generic => return .unsupported "DHCP" vendor.name
where
  finish (entries : List Entry) : Fragment :=
    (Draft.ofEntries entries).build "DHCP configuration generated locally."

end DhcpServer
end Netscribe
