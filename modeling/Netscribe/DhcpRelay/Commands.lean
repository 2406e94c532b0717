import Netscribe.Device.Vendor
import Netscribe.DhcpRelay.Model
import Netscribe.Script.Draft
/-!
Commands of DHCP relay agents.
-/
namespace Netscribe

namespace Option82

def circuitId (o : Option82) : String :=
  let line := " dhcp relay information circuit-id"
  if o.circuitIdFormat = "string" ∧ o.circuitIdString ≠ "" then
    s!"{line} string {o.circuitIdString}"
  else if o.circuitIdFormat = "normal" ∨ o.circuitIdFormat = "verbose" then
    let identifier := o.circuitIdVerboseNodeIdentifier
    let custom := o.circuitIdVerboseNodeIdentifierString
    s!"{line} {o.circuitIdFormat}"
      ++ textIf (o.circuitIdFormat = "verbose" ∧ identifier ≠ "")
        (s!" node-identifier {identifier}"
          ++ textIf (identifier = "user-defined" ∧ custom ≠ "") s!" {custom}")
      ++ textIf (o.circuitIdFormatType ≠ "") s!" format {o.circuitIdFormatType}"
  else line

def remoteId (o : Option82) : String :=
  let line := " dhcp relay information remote-id"
  if o.remoteIdFormat = "string" ∧ o.remoteIdString ≠ "" then s!"{line} string {o.remoteIdString}"
  else if o.remoteIdFormat = "sysname" then s!"{line} sysname"
  else if o.remoteIdFormat = "normal" then
    s!"{line} normal" ++ textIf (o.remoteIdFormatType ≠ "") s!" format {o.remoteIdFormatType}"
  else line

def entries (o : Option82) : List Entry :=
  onlyIf o.enabled
    [command " dhcp relay information enable" "Enables Option 82 handling.",
     command s!" dhcp relay information strategy {o.strategy}",
     command o.circuitId "Circuit ID sub-option content.",
     command o.remoteId "Remote ID sub-option content."]

end Option82

namespace DhcpRelay

def relaysTo (s : RelayServer) : String := s!"Relays requests to DHCP server {s.ip}."

def namedInterfaces (r : DhcpRelay) : List RelayInterface :=
  r.interfaces.filter (·.interfaceName ≠ "")

def interfaceBlock (i : RelayInterface) (body : List Entry) : List Entry :=
  [.blank, remark s!"Interface {i.interfaceName}", command s!"interface {i.interfaceName}"]
    ++ body ++ [command "quit"]

def h3cGlobals (r : DhcpRelay) : List Entry :=
  let s := r.security
  onlyIf s.clientInfoRecording
      [command "dhcp relay client-information record" "Records relayed client address entries."]
    ++ onlyIf s.clientInfoRefresh
      (command "dhcp relay client-information refresh enable"
        :: if s.clientInfoRefreshType = "interval" ∧ s.clientInfoRefreshInterval ≠ "" then
          [command s!"dhcp relay client-information refresh interval {s.clientInfoRefreshInterval}"
            s!"Refreshes client entries every {s.clientInfoRefreshInterval} seconds."]
        else onlyIf (s.clientInfoRefreshType = "auto")
          [command "dhcp relay client-information refresh auto"])
    ++ onlyIf (s.macCheck ∧ s.macCheckAgingTime ≠ "")
      [command s!"dhcp relay check mac-address aging-time {s.macCheckAgingTime}"]
    ++ onlyIf (r.dscp ≠ "" ∧ r.dscp ≠ "56")
      [command s!"dhcp dscp {r.dscp}" s!"Marks relayed DHCP packets with DSCP {r.dscp}."]

def h3cInterface (r : DhcpRelay) (i : RelayInterface) : List Entry :=
  interfaceBlock i
    (command " dhcp select relay" "Puts the interface in DHCP relay mode."
      :: (i.serverAddresses.filter (·.ip ≠ "")).map (fun s =>
        command s!" dhcp relay server-address {s.ip}" (relaysTo s))
      ++ onlyIf r.security.macCheck
        [command " dhcp relay check mac-address"
          "Drops requests whose chaddr differs from the source MAC."]
      ++ i.option82.entries)

def huaweiGlobals (g : HuaweiRelayGlobals) : List Entry :=
  onlyIf (!g.serverMatchCheck)
      [command "undo dhcp relay request server-match enable"
        ("REQUEST packets are relayed without checking the server identifier "
          ++ "(Option 54).")]
    ++ onlyIf g.replyForwardAll
      [command "dhcp relay reply forward all enable" "Relays every DHCP ACK."]
    ++ onlyIf (!g.trustOption82)
      [command "undo dhcp relay trust option82"
        "Packets already carrying Option 82 are dropped."]

def huaweiServer (s : RelayServer) : Entry :=
  command (s!" dhcp relay server-ip {s.ip}"
    ++ textIf (s.vpnInstance ≠ "") s!" vpn-instance {s.vpnInstance}") (relaysTo s)

def huaweiAddresses (o : HuaweiRelayOptions) : List Entry :=
  onlyIf (o.sourceIpAddress ≠ "")
      [command s!" dhcp relay source-ip-address {o.sourceIpAddress}"]
    ++ onlyIf (o.gateway ≠ "") [command s!" dhcp relay gateway {o.gateway}"]

def huaweiOption82 (o : HuaweiOption82) : List Entry :=
  let info := o.information
  let insert := o.insert
  onlyIf info.enabled
      (command " dhcp relay information enable" "Enables Option 82 handling."
        :: onlyIf (info.strategy ≠ "replace")
          [command s!" dhcp relay information strategy {info.strategy}"])
    ++ onlyIf insert.vssControl [command " dhcp option82 vss-control insert enable"]
    ++ onlyIf insert.linkSelection [command " dhcp option82 link-selection insert enable"]
    ++ onlyIf insert.serverIdOverride [command " dhcp option82 server-id-override insert enable"]

def huaweiInterface (i : RelayInterface) : List Entry :=
  let options := i.huaweiOptions.toList
  interfaceBlock i
    (command " dhcp select relay" "Enables DHCPv4 relay on the interface."
      :: options.flatMap huaweiAddresses
      ++ (i.serverAddresses.filter (·.ip ≠ "")).map huaweiServer
      ++ options.flatMap fun o => huaweiOption82 o.option82)

def render (vendor : Vendor) (r : DhcpRelay) : Fragment :=
  if !r.enabled then .nothing "DHCP Relay is disabled."
  else match vendor with
    | .h3c => finish r.h3cGlobals (r.namedInterfaces.flatMap r.h3cInterface)
    | .huawei => finish (huaweiGlobals r.huawei) (r.namedInterfaces.flatMap huaweiInterface)
    | _ => .unsupported "DHCP Relay" vendor.name
where
  finish (globals interfaces : List Entry) : Fragment :=
    (Draft.ofEntries (command "dhcp enable" "Enables DHCP globally."
      :: titled "Global DHCP relay settings" globals ++ interfaces)).build
      "DHCP relay configuration generated."

end DhcpRelay
end Netscribe
