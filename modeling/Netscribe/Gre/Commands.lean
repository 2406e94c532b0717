import Netscribe.Device.Vendor
import Netscribe.Gre.Model
import Netscribe.Script.Draft
/-!
Commands of GRE tunnels.
-/
namespace Netscribe

namespace GreTunnel

def name (t : GreTunnel) : String := s!"Tunnel{t.tunnelNumber}"

def creation (t : GreTunnel) : String := s!"Creates GRE tunnel {t.name}."

/-- The description and the address, which may be borrowed from another interface. -/
def addressEntries (t : GreTunnel) : List Entry :=
  let lender := t.ipAddressUnnumberedInterface
  onlyIf (t.description ≠ "") [command s!" description {t.description}"]
    ++ if t.ipAddress ≠ "" ∧ t.mask ≠ "" then [command s!" ip address {t.ipAddress} {t.mask}"]
      else onlyIf (lender ≠ "")
        [command s!" ip address unnumbered interface {lender}" s!"Borrows the address of {lender}."]

def endpointEntries (t : GreTunnel) : List Entry :=
  onlyIf (t.sourceValue ≠ "") [command s!" source {t.sourceValue}"]
    ++ onlyIf (t.destinationAddress ≠ "")
      [command s!" destination {t.destinationAddress}" s!"Remote endpoint {t.destinationAddress}."]
    ++ onlyIf (t.mtu ≠ "") [command s!" mtu {t.mtu}"]
    ++ onlyIf (t.greKey ≠ "")
      [command s!" gre key {t.greKey}" "Both ends must use the same key."]

def keepaliveEntries (t : GreTunnel) (timers : String) : List Entry :=
  onlyIf t.keepalive.enabled [command (" keepalive" ++ timers) "Detects a dead tunnel."]

def huaweiTimers (k : GreKeepalive) : String :=
  textIf (k.period ≠ "") s!" period {k.period}"
    ++ textIf (k.retryTimes ≠ "") s!" retry-times {k.retryTimes}"

/-- Zones exist on firewalls only. -/
def huaweiEntries (deviceType : DeviceType) (t : GreTunnel) : List Entry :=
  command s!"interface {t.name}" t.creation :: t.addressEntries
    ++ command " tunnel-protocol gre" :: t.endpointEntries
    ++ t.keepaliveEntries (huaweiTimers t.keepalive)
    ++ [command "quit"]
    ++ onlyIf (t.securityZone ≠ "" ∧ deviceType = .firewall)
      [.blank, command s!"firewall zone {t.securityZone}",
       command s!" add interface {t.name}" s!"Places {t.name} in zone {t.securityZone}.",
       command "quit"]

def h3cTimers (k : GreKeepalive) : String :=
  textIf (k.period ≠ "") (s!" {k.period}" ++ textIf (k.retryTimes ≠ "") s!" {k.retryTimes}")

def h3cEntries (t : GreTunnel) : List Entry :=
  command s!"interface {t.name} mode gre" t.creation :: t.addressEntries ++ t.endpointEntries
    ++ onlyIf t.greChecksum [command " gre checksum"]
    ++ onlyIf t.dfBitEnable
      [command " tunnel dfbit enable" "Sets the DF bit on encapsulated packets."]
    ++ t.keepaliveEntries (h3cTimers t.keepalive)
    ++ [command "quit"]

end GreTunnel

namespace GreVpn

/-- Tunnels without a number are left out. -/
def entries (block : GreTunnel → List Entry) (g : GreVpn) : List Entry :=
  (g.tunnels.filter (·.tunnelNumber ≠ "")).flatMap fun t => .blank :: block t

def render (vendor : Vendor) (deviceType : DeviceType) (g : GreVpn) : Fragment :=
  if !g.enabled || g.tunnels.isEmpty then
    .nothing "GRE VPN is disabled or no tunnels are configured."
  else match vendor with
    | .huawei => finish (g.entries (GreTunnel.huaweiEntries deviceType))
    | .h3c => finish (g.entries GreTunnel.h3cEntries)
    | _ => .unsupported "GRE VPN" vendor.name
where
  finish (entries : List Entry) : Fragment :=
    .ofEntries entries "GRE VPN configuration generated." "No numbered GRE tunnels configured."

end GreVpn
end Netscribe
