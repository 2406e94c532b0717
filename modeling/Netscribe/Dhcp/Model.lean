import Netscribe.Schema.Described
/-!
Address pools of a DHCP server.
-/
namespace Netscribe

structure DhcpBinding where
  ipAddress : String := ""
  macAddress : String := ""

def DhcpBinding.fields : List (Field DhcpBinding) :=
  [.of "ip_address" (·.ipAddress) fun r v => { r with ipAddress := v },
   .of "mac_address" (·.macAddress) fun r v => { r with macAddress := v }]

instance : Described DhcpBinding := .record DhcpBinding.fields {} .none

structure DhcpPool where
  poolName : String := ""
  network : String := ""
  subnetMask : String := ""
  gateway : String := ""
  dnsServer : String := ""
  option43 : String := ""
  excludeStart : String := ""
  excludeEnd : String := ""
  leaseDays : String := ""
  leaseHours : String := ""
  leaseMinutes : String := ""
  leaseSeconds : String := ""
  staticBindings : List DhcpBinding := []

def DhcpPool.fields : List (Field DhcpPool) :=
  [.of "pool_name" (·.poolName) fun r v => { r with poolName := v },
   .of "network" (·.network) fun r v => { r with network := v },
   .of "subnet_mask" (·.subnetMask) fun r v => { r with subnetMask := v },
   .of "gateway" (·.gateway) fun r v => { r with gateway := v },
   .of "dns_server" (·.dnsServer) fun r v => { r with dnsServer := v },
   .of "option43" (·.option43) fun r v => { r with option43 := v },
   .of "exclude_start" (·.excludeStart) fun r v => { r with excludeStart := v },
   .of "exclude_end" (·.excludeEnd) fun r v => { r with excludeEnd := v },
   .of "lease_days" (·.leaseDays) fun r v => { r with leaseDays := v },
   .of "lease_hours" (·.leaseHours) fun r v => { r with leaseHours := v },
   .of "lease_minutes" (·.leaseMinutes) fun r v => { r with leaseMinutes := v },
   .of "lease_seconds" (·.leaseSeconds) fun r v => { r with leaseSeconds := v },
   .of "static_bindings" (·.staticBindings) fun r v => { r with staticBindings := v }]

instance : Described DhcpPool := .record DhcpPool.fields {} .none

structure DhcpServer where
  enabled : Bool := false
  pools : List DhcpPool := []

def DhcpServer.fields : List (Field DhcpServer) :=
  [.of "enabled" (·.enabled) fun r v => { r with enabled := v },
   .of "pools" (·.pools) fun r v => { r with pools := v }]

instance : Described DhcpServer := .record DhcpServer.fields {} .none

end Netscribe
