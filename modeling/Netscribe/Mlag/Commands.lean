import Netscribe.Device.Vendor
import Netscribe.Mlag.Model
import Netscribe.Script.Draft
/-!
Commands of aggregation across two devices.
-/
namespace Netscribe

namespace H3cMlag

/-- Some commands ask back and are confirmed. -/
def confirmed (text : String) (why : String := "") : List Entry := [command text why, command "Y"]

def identityEntries (m : H3cMlag) : List Entry :=
  onlyIf (m.systemMac ≠ "")
      (confirmed s!"m-lag system-mac {m.systemMac}" "Shared system MAC presented by both peers.")
    ++ onlyIf (m.systemNumber ≠ "")
      (confirmed s!"m-lag system-number {m.systemNumber}" "Distinguishes the two M-LAG peers.")
    ++ onlyIf (!isDefault m.systemPriority "32768")
      (confirmed s!"m-lag system-priority {m.systemPriority}")
    ++ onlyIf (!isDefault m.rolePriority "32768")
      [command s!"m-lag role priority {m.rolePriority}"
        "Lower value is preferred for the primary role."]

def standaloneEntries (s : StandaloneMode) : List Entry :=
  onlyIf s.enabled
    [command ("m-lag standalone enable" ++ textIf (s.delayTime ≠ "") s!" delay {s.delayTime}")
      "Keeps forwarding as a standalone device when the peer is lost."]

def keepaliveTimers (k : MlagKeepalive) : String :=
  textIf (!isDefault k.interval "1000") s!" interval {k.interval}"
    ++ textIf (!isDefault k.timeout "5") s!" timeout {k.timeout}"

def keepaliveEntries (k : MlagKeepalive) : List Entry :=
  let timers := keepaliveTimers k
  onlyIf k.enabled
    ([.blank,
      command ("m-lag keepalive"
          ++ textIf (k.destinationIp ≠ "") s!" destination {k.destinationIp}"
          ++ textIf (k.sourceIp ≠ "") s!" source {k.sourceIp}"
          ++ textIf (!isDefault k.udpPort "6400") s!" udp-port {k.udpPort}"
          ++ textIf (k.vpnInstance ≠ "") s!" vpn-instance {k.vpnInstance}")
        "Keepalive link used to detect a failed peer."]
      ++ onlyIf (timers ≠ "") [command s!"m-lag keepalive{timers}"])

def detectionEntries (d : MultiActiveDetection) : List Entry :=
  onlyIf (!isDefault d.defaultAction "down")
      [command s!"m-lag mad default-action {d.defaultAction}"]
    ++ (d.excludeInterfaces.filter (·.name ≠ "")).map (fun i =>
      command s!"m-lag mad exclude interface {i.name}" s!"{i.name} stays up on MAD detection.")
    ++ onlyIf d.excludeLogicalInterfaces [command "m-lag mad exclude logical-interfaces"]
    ++ (d.includeInterfaces.filter (·.name ≠ "")).map (fun i =>
      command s!"m-lag mad include interface {i.name}")
    ++ onlyIf d.persistent [command "m-lag mad persistent"]

def peerLinkEntries (m : H3cMlag) : List Entry :=
  let id := m.peerLinkBridgeAggregationId
  onlyIf (id ≠ "")
    ([.blank, command s!"interface Bridge-Aggregation{id}",
      command s!" port m-lag peer-link {id}" "Makes this aggregation the peer-link."]
      ++ onlyIf m.peerLinkDrcpShortTimeout [command " m-lag drcp period short"]
      ++ [command "quit"])

def interfaceEntries (i : DrInterface) : List Entry :=
  onlyIf (i.bridgeAggregationId ≠ "")
    ([.blank, command s!"interface Bridge-Aggregation{i.bridgeAggregationId}"]
      ++ onlyIf (i.groupId ≠ "")
        [command s!" port m-lag group {i.groupId}"
          s!"Pairs this aggregation with M-LAG group {i.groupId}."]
      ++ onlyIf (i.systemMac ≠ "") [command s!" port m-lag system-mac {i.systemMac}"]
      ++ onlyIf (i.systemPriority ≠ "")
        [command s!" port m-lag system-priority {i.systemPriority}"]
      ++ onlyIf i.drcpShortTimeout [command " m-lag drcp period short"]
      ++ [command "quit"])

def entries (m : H3cMlag) : List Entry :=
  m.identityEntries ++ standaloneEntries m.standalone
    ++ onlyIf m.macAddressHold [command "m-lag peer-link mac-address hold"]
    ++ keepaliveEntries m.keepalive
    ++ titled "M-LAG MAD Configuration" (detectionEntries m.mad)
    ++ m.peerLinkEntries ++ m.interfaces.flatMap interfaceEntries

end H3cMlag

namespace HuaweiMlag

def electionNames (e : StandbyElection) : List String :=
  ([("arp", e.arp), ("nd", e.nd), ("igmp", e.igmp), ("dhcp", e.dhcp)].filter (·.2)).map (·.1)

def isActiveStandby (t : MlagTrunk) : Bool := t.mode == "active-standby"

/-- The election counts only if some trunk works in active-standby mode. -/
def electionEntries (m : HuaweiMlag) : List Entry :=
  let names := m.activeStandbyElection.toList.flatMap electionNames
  onlyIf (m.interfaces.any isActiveStandby ∧ names ≠ [])
    [command s!" m-lag active-standby election {Text.unwords names}"]

def groupEntries (m : HuaweiMlag) : List Entry :=
  [remark "DFS Group & Dual-Active Detection Configuration",
   command s!"dfs-group {m.dfsGroupId}" "DFS group pairs the two M-LAG devices."]
    ++ onlyIf (!isDefault m.dfsGroupPriority "100") [command s!" priority {m.dfsGroupPriority}"]
    ++ onlyIf (m.authenticationPassword ≠ "")
      [command s!" authentication-mode hmac-sha256 password {m.authenticationPassword}"]
    ++ onlyIf (m.dualActiveSourceIp ≠ "" ∧ m.dualActivePeerIp ≠ "")
      [command
        (s!" dual-active detection source ip {m.dualActiveSourceIp} "
          ++ s!"peer {m.dualActivePeerIp}")
        "Heartbeat path used to detect a split."]
    ++ m.electionEntries ++ [command "quit"]

def peerLinkEntries (m : HuaweiMlag) : List Entry :=
  let id := m.peerLinkTrunkId
  onlyIf (id ≠ "")
    [.blank, remark "Peer-Link Configuration", command s!"interface Eth-Trunk{id}",
     command s!" peer-link {id}" "Carries synchronisation traffic between peers.",
     command " stp enable", command "quit"]

def trunkEntries (m : HuaweiMlag) (t : MlagTrunk) : List Entry :=
  onlyIf (t.ethTrunkId ≠ "" ∧ t.mlagId ≠ "")
    [command s!"interface Eth-Trunk{t.ethTrunkId}",
     command (s!" dfs-group {m.dfsGroupId} m-lag {t.mlagId}"
        ++ textIf (isActiveStandby t) " active-standby")
      s!"Binds Eth-Trunk{t.ethTrunkId} to M-LAG {t.mlagId}.",
     command "quit"]

def entries (m : HuaweiMlag) : List Entry :=
  .note "NOTE: Ensure STP is correctly configured on both devices before applying."
    :: m.groupEntries ++ m.peerLinkEntries
    ++ titled "M-LAG Member Interfaces Configuration" (m.interfaces.flatMap m.trunkEntries)

end HuaweiMlag

def Mlag.render (vendor : Vendor) (m : Mlag) : Fragment :=
  if !m.enabled then .nothing "M-LAG is disabled."
  else match vendor, m.variant with
    | .h3c, .h3c settings =>
      (Draft.ofEntries settings.entries).build "H3C M-LAG configuration generated."
    | .huawei, .huawei settings =>
      (Draft.ofEntries settings.entries).build "Huawei M-LAG (V-STP mode) configuration."
    | _, _ => .unsupported "M-LAG" vendor.name

end Netscribe
