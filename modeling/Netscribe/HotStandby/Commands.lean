import Netscribe.Device.Vendor
import Netscribe.HotStandby.Model
import Netscribe.Script.Draft
/-!
Commands of devices that back each other up: the remote-backup group of H3C and the hot standby of
Huawei.
-/
namespace Netscribe

/-- The items that are watched, if tracks are watched at all. -/
def Monitoring.tracks (m : Monitoring) : List TrackItem :=
  if m.kind = "track" then m.trackItems else []

namespace RemoteBackup

def orElse (value default : String) : String := if value = "" then default else value

/-- A track is declared for an interface with a value. -/
def declaration (t : TrackItem) : List Entry :=
  onlyIf (t.id ≠ "" ∧ t.value ≠ "" ∧ t.kind = "interface")
    [command s!"track {t.id} interface {t.value}" s!"Track {t.id} follows {t.value}.",
     command "quit"]

def reference (t : TrackItem) : List Entry := onlyIf (t.id ≠ "") [command s!" track {t.id}"]

def toggle (enabled : Bool) (text : String) : Entry :=
  command (if enabled then s!" {text}" else s!" undo {text}")

def channelEntries (c : ControlChannel) : List Entry :=
  let port := orElse c.port "1026"
  onlyIf (c.localIp ≠ "" ∧ c.remoteIp ≠ "")
      [command s!" local-ip {c.localIp}",
       command s!" remote-ip {c.remoteIp} port {port}" s!"Control channel to peer {c.remoteIp}."]
    ++ onlyIf (!isDefault c.keepaliveInterval "1")
      [command s!" keepalive interval {c.keepaliveInterval}"]
    ++ onlyIf (!isDefault c.keepaliveCount "10") [command s!" keepalive count {c.keepaliveCount}"]

def entries (b : RemoteBackup) : List Entry :=
  let tracks := b.monitoring.tracks
  let delay := orElse b.failback.delayTime "30"
  tracks.flatMap declaration
    ++ [.blank, command "remote-backup group" "Enters the RBM remote-backup group.",
       command s!" device-role {b.deviceRole}",
       if b.workMode = "dual-active" then
         command " backup-mode dual-active" "Both devices forward traffic."
       else command " undo backup-mode" "Active/standby operation."]
    ++ channelEntries b.controlChannel
    ++ onlyIf (b.dataChannelInterface ≠ "")
      [command s!" data-channel interface {b.dataChannelInterface}"
        "Carries session backup traffic."]
    ++ [toggle b.hotBackupEnabled "hot-backup enable",
       toggle b.autoSyncEnabled "configuration auto-sync enable",
       toggle b.syncCheckEnabled "configuration sync-check"]
    ++ onlyIf b.failback.enabled [command s!" delay-time {delay}" "Failback delay."]
    ++ tracks.flatMap reference
    ++ [command "quit"]

end RemoteBackup

namespace HuaweiHotStandby

def monitoringEntries (t : TrackItem) : List Entry :=
  onlyIf (t.value ≠ "")
    [command (s!"hrp track {t.kind} {t.value}"
        ++ textIf (t.kind = "bfd-session-dynamic-interface" ∧ t.leastUpSession ≠ "")
          s!" least-up-session {t.leastUpSession}")
      s!"HRP switches over when {t.value} fails."]

def heartbeatEntries (h : HeartbeatInterface) : List Entry :=
  onlyIf (h.interfaceName ≠ "" ∧ h.remoteIp ≠ "")
    [command (s!"hrp interface {h.interfaceName} remote {h.remoteIp}"
        ++ textIf h.heartbeatOnly " heartbeat-only")
      s!"Heartbeat link to {h.remoteIp}."]

/-- Priorities are written as bytes, 32 for a level; a level that does not exist counts as six. -/
def priorityByte (level : String) : String :=
  match (List.range 8).find? fun n => toString n == level with
  | some n => toString (32 * n)
  | none => "192"

def packetEntries (h : HuaweiHotStandby) : List Entry :=
  let interval := h.encryptionKeyRefreshInterval
  onlyIf (h.authenticationKey ≠ "") [command s!"hrp authentication-key {h.authenticationKey}"]
    ++ onlyIf h.checksumEnabled [command "hrp checksum enable"]
    ++ onlyIf (!h.encryptionEnabled) [command "hrp encryption disable"]
    ++ onlyIf h.encryptionKeyRefreshEnabled
      (command "hrp encryption-key refresh enable"
        :: onlyIf (interval ≠ "") [command s!"hrp encryption-key refresh interval {interval}"])
    ++ onlyIf (!isDefault h.helloInterval "1000") [command s!"hrp timer hello {h.helloInterval}"]
    ++ onlyIf (!isDefault h.ipPacketPriority "6")
      [command s!"hrp ip-packet priority {priorityByte h.ipPacketPriority}"]

def backupEntries (h : HuaweiHotStandby) : List Entry :=
  ([(h.autoSyncConnectionStatus, "hrp auto-sync connection-status"),
    (h.mirrorSessionEnabled, "hrp mirror session enable"),
    (h.autoSyncConfig, "hrp auto-sync config"),
    (h.autoSyncDnsTransparentPolicyDisabled,
      "undo hrp auto-sync config dns-transparent-policy"),
    (h.autoSyncStaticRoute, "hrp auto-sync config static-route"),
    (h.autoSyncPolicyBasedRoute, "hrp auto-sync config policy-based-route")].filter (·.1)).map
    fun (_, text) => command text

def preemptionEntries (h : HuaweiHotStandby) : List Entry :=
  if h.preemptEnabled then
    command "hrp preempt enable"
      :: onlyIf (!isDefault h.preemptDelay "60") [command s!"hrp preempt delay {h.preemptDelay}"]
  else [command "undo hrp preempt enable"]

def finalEntries (h : HuaweiHotStandby) : List Entry :=
  onlyIf h.escapeEnabled [command "hrp escape enable"]
    ++ onlyIf (h.deviceRole ≠ "none")
      [command s!"hrp device {h.deviceRole}" s!"Pins this device as {h.deviceRole}."]
    ++ onlyIf h.standbyConfigEnabled [command "hrp standby config enable"]
    ++ onlyIf h.adjustBgpCostEnabled
      [command (Text.trimEnd s!"hrp adjust bgp-cost enable {h.adjustBgpSlaveCost}")]
    ++ onlyIf h.adjustOspfCostEnabled
      [command (Text.trimEnd s!"hrp adjust ospf-cost enable {h.adjustOspfSlaveCost}")]
    ++ onlyIf (h.tcpLinkStateCheckDelay ≠ "")
      [command s!"hrp tcp link-state check delay {h.tcpLinkStateCheckDelay}"]

def entries (h : HuaweiHotStandby) : List Entry :=
  titled "Monitoring Items" (h.monitoringItems.flatMap monitoringEntries)
    ++ titled "Heartbeat Interfaces" (h.heartbeatInterfaces.flatMap heartbeatEntries)
    ++ titled "HRP Packet Settings" h.packetEntries
    ++ titled "Backup Method" h.backupEntries
    ++ titled "Preemption" h.preemptionEntries
    ++ titled "Final Enable" h.finalEntries
    ++ [.blank, command "hrp enable" "Starts hot standby."]

end HuaweiHotStandby

def HotStandby.render (vendor : Vendor) (h : HotStandby) : Fragment :=
  if !h.enabled then .nothing "HA is disabled."
  else match vendor, h.variant with
    | .h3c, .h3c backup =>
      (Draft.ofEntries backup.entries).build "H3C HA configuration generated."
    | .huawei, .huawei standby =>
      (Draft.ofEntries standby.entries).build "Huawei HRP hot standby configuration generated."
    | _, _ => .unsupported "HA" vendor.name

end Netscribe
