import Netscribe.Schema.Described
/-!
Two devices backing each other up, which the two vendors arrange differently.
-/
namespace Netscribe

structure TrackItem where
  id : String := ""
  kind : String := "interface"
  value : String := ""
  leastUpSession : String := ""
  key : String := ""

def TrackItem.fields : List (Field TrackItem) :=
  [.of "id" (·.id) fun r v => { r with id := v },
   .of "type" (·.kind) fun r v => { r with kind := v },
   .of "value" (·.value) fun r v => { r with value := v },
   .of "least_up_session" (·.leastUpSession) fun r v => { r with leastUpSession := v },
   .of "key" (·.key) fun r v => { r with key := v }]

instance : Described TrackItem := .record TrackItem.fields {} .none

structure ControlChannel where
  localIp : String := ""
  remoteIp : String := ""
  port : String := ""
  keepaliveInterval : String := ""
  keepaliveCount : String := ""

def ControlChannel.fields : List (Field ControlChannel) :=
  [.of "local_ip" (·.localIp) fun r v => { r with localIp := v },
   .of "remote_ip" (·.remoteIp) fun r v => { r with remoteIp := v },
   .of "port" (·.port) fun r v => { r with port := v },
   .of "keepalive_interval" (·.keepaliveInterval) fun r v => { r with keepaliveInterval := v },
   .of "keepalive_count" (·.keepaliveCount) fun r v => { r with keepaliveCount := v }]

instance : Described ControlChannel := .record ControlChannel.fields {} .none

structure Failback where
  enabled : Bool := false
  delayTime : String := ""

def Failback.fields : List (Field Failback) :=
  [.of "enabled" (·.enabled) fun r v => { r with enabled := v },
   .of "delay_time" (·.delayTime) fun r v => { r with delayTime := v }]

instance : Described Failback := .record Failback.fields {} .none

structure Monitoring where
  kind : String := "none"
  trackItems : List TrackItem := []

def Monitoring.fields : List (Field Monitoring) :=
  [.of "type" (·.kind) fun r v => { r with kind := v },
   .of "track_items" (·.trackItems) fun r v => { r with trackItems := v }]

instance : Described Monitoring := .record Monitoring.fields {} .none

/-- The remote-backup group of H3C. -/
structure RemoteBackup where
  deviceRole : String := "primary"
  workMode : String := "active-standby"
  controlChannel : ControlChannel := {}
  dataChannelInterface : String := ""
  hotBackupEnabled : Bool := false
  autoSyncEnabled : Bool := false
  syncCheckEnabled : Bool := false
  failback : Failback := {}
  monitoring : Monitoring := {}

def RemoteBackup.fields : List (Field RemoteBackup) :=
  [.of "device_role" (·.deviceRole) fun r v => { r with deviceRole := v },
   .of "work_mode" (·.workMode) fun r v => { r with workMode := v },
   .of "control_channel" (·.controlChannel) fun r v => { r with controlChannel := v },
   .of "data_channel_interface" (·.dataChannelInterface)
     fun r v => { r with dataChannelInterface := v },
   .of "hot_backup_enabled" (·.hotBackupEnabled) fun r v => { r with hotBackupEnabled := v },
   .of "auto_sync_enabled" (·.autoSyncEnabled) fun r v => { r with autoSyncEnabled := v },
   .of "sync_check_enabled" (·.syncCheckEnabled) fun r v => { r with syncCheckEnabled := v },
   .of "failback" (·.failback) fun r v => { r with failback := v },
   .of "monitoring" (·.monitoring) fun r v => { r with monitoring := v }]

instance : Described RemoteBackup := .record RemoteBackup.fields {} .none

structure HeartbeatInterface where
  interfaceName : String := ""
  remoteIp : String := ""
  heartbeatOnly : Bool := false
  id : String := ""

def HeartbeatInterface.fields : List (Field HeartbeatInterface) :=
  [.of "interface_name" (·.interfaceName) fun r v => { r with interfaceName := v },
   .of "remote_ip" (·.remoteIp) fun r v => { r with remoteIp := v },
   .of "heartbeat_only" (·.heartbeatOnly) fun r v => { r with heartbeatOnly := v },
   .of "id" (·.id) fun r v => { r with id := v }]

instance : Described HeartbeatInterface := .record HeartbeatInterface.fields {} .none

structure HuaweiHotStandby where
  monitoringItems : List TrackItem := []
  heartbeatInterfaces : List HeartbeatInterface := []
  authenticationKey : String := ""
  checksumEnabled : Bool := false
  encryptionEnabled : Bool := true
  encryptionKeyRefreshEnabled : Bool := false
  encryptionKeyRefreshInterval : String := ""
  helloInterval : String := "1000"
  ipPacketPriority : String := "6"
  escapeEnabled : Bool := false
  autoSyncConnectionStatus : Bool := false
  mirrorSessionEnabled : Bool := false
  autoSyncConfig : Bool := false
  autoSyncDnsTransparentPolicyDisabled : Bool := false
  autoSyncStaticRoute : Bool := false
  autoSyncPolicyBasedRoute : Bool := false
  preemptEnabled : Bool := true
  preemptDelay : String := "60"
  deviceRole : String := "none"
  standbyConfigEnabled : Bool := false
  adjustBgpCostEnabled : Bool := false
  adjustBgpSlaveCost : String := ""
  adjustOspfCostEnabled : Bool := false
  adjustOspfSlaveCost : String := ""
  tcpLinkStateCheckDelay : String := ""

def HuaweiHotStandby.fields : List (Field HuaweiHotStandby) :=
  [.of "monitoring_items" (·.monitoringItems) fun r v => { r with monitoringItems := v },
   .of "heartbeat_interfaces" (·.heartbeatInterfaces)
     fun r v => { r with heartbeatInterfaces := v },
   .of "authentication_key" (·.authenticationKey) fun r v => { r with authenticationKey := v },
   .of "checksum_enabled" (·.checksumEnabled) fun r v => { r with checksumEnabled := v },
   .of "encryption_enabled" (·.encryptionEnabled) fun r v => { r with encryptionEnabled := v },
   .of "encryption_key_refresh_enabled" (·.encryptionKeyRefreshEnabled)
     fun r v => { r with encryptionKeyRefreshEnabled := v },
   .of "encryption_key_refresh_interval" (·.encryptionKeyRefreshInterval)
     fun r v => { r with encryptionKeyRefreshInterval := v },
   .of "hello_interval" (·.helloInterval) fun r v => { r with helloInterval := v },
   .of "ip_packet_priority" (·.ipPacketPriority) fun r v => { r with ipPacketPriority := v },
   .of "escape_enabled" (·.escapeEnabled) fun r v => { r with escapeEnabled := v },
   .of "auto_sync_connection_status" (·.autoSyncConnectionStatus)
     fun r v => { r with autoSyncConnectionStatus := v },
   .of "mirror_session_enabled" (·.mirrorSessionEnabled)
     fun r v => { r with mirrorSessionEnabled := v },
   .of "auto_sync_config" (·.autoSyncConfig) fun r v => { r with autoSyncConfig := v },
   .of "auto_sync_dns_transparent_policy_disabled" (·.autoSyncDnsTransparentPolicyDisabled)
     fun r v => { r with autoSyncDnsTransparentPolicyDisabled := v },
   .of "auto_sync_static_route" (·.autoSyncStaticRoute)
     fun r v => { r with autoSyncStaticRoute := v },
   .of "auto_sync_policy_based_route" (·.autoSyncPolicyBasedRoute)
     fun r v => { r with autoSyncPolicyBasedRoute := v },
   .of "preempt_enabled" (·.preemptEnabled) fun r v => { r with preemptEnabled := v },
   .of "preempt_delay" (·.preemptDelay) fun r v => { r with preemptDelay := v },
   .of "device_role" (·.deviceRole) fun r v => { r with deviceRole := v },
   .of "standby_config_enabled" (·.standbyConfigEnabled)
     fun r v => { r with standbyConfigEnabled := v },
   .of "adjust_bgp_cost_enabled" (·.adjustBgpCostEnabled)
     fun r v => { r with adjustBgpCostEnabled := v },
   .of "adjust_bgp_slave_cost" (·.adjustBgpSlaveCost) fun r v => { r with adjustBgpSlaveCost := v },
   .of "adjust_ospf_cost_enabled" (·.adjustOspfCostEnabled)
     fun r v => { r with adjustOspfCostEnabled := v },
   .of "adjust_ospf_slave_cost" (·.adjustOspfSlaveCost)
     fun r v => { r with adjustOspfSlaveCost := v },
   .of "tcp_link_state_check_delay" (·.tcpLinkStateCheckDelay)
     fun r v => { r with tcpLinkStateCheckDelay := v }]

instance : Described HuaweiHotStandby := .record HuaweiHotStandby.fields {} .none

structure HotStandby where
  enabled : Bool := false
  variant : VendorVariant RemoteBackup HuaweiHotStandby := .none

def HotStandby.fields : List (Field HotStandby) :=
  [.of "enabled" (·.enabled) fun r v => { r with enabled := v },
   .variant "HA" (·.variant) fun r v => { r with variant := v }]

instance : Described HotStandby := .record HotStandby.fields {} .none

end Netscribe
