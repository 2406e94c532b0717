import Netscribe.Schema.Described
/-!
GRE tunnels.
-/
namespace Netscribe

structure GreKeepalive where
  enabled : Bool := false
  period : String := ""
  retryTimes : String := ""

def GreKeepalive.fields : List (Field GreKeepalive) :=
  [.of "enabled" (·.enabled) fun r v => { r with enabled := v },
   .of "period" (·.period) fun r v => { r with period := v },
   .of "retry_times" (·.retryTimes) fun r v => { r with retryTimes := v }]

instance : Described GreKeepalive := .record GreKeepalive.fields {} .none

structure GreTunnel where
  tunnelNumber : String := ""
  description : String := ""
  ipAddress : String := ""
  mask : String := ""
  ipAddressUnnumberedInterface : String := ""
  sourceType : String := "address"
  sourceValue : String := ""
  destinationAddress : String := ""
  mtu : String := ""
  keepalive : GreKeepalive := {}
  securityZone : String := ""
  greKey : String := ""
  greChecksum : Bool := false
  dfBitEnable : Bool := false
  id : String := ""

def GreTunnel.fields : List (Field GreTunnel) :=
  [.of "tunnel_number" (·.tunnelNumber) fun r v => { r with tunnelNumber := v },
   .of "description" (·.description) fun r v => { r with description := v },
   .of "ip_address" (·.ipAddress) fun r v => { r with ipAddress := v },
   .of "mask" (·.mask) fun r v => { r with mask := v },
   .of "ip_address_unnumbered_interface" (·.ipAddressUnnumberedInterface)
     fun r v => { r with ipAddressUnnumberedInterface := v },
   .of "source_type" (·.sourceType) fun r v => { r with sourceType := v },
   .of "source_value" (·.sourceValue) fun r v => { r with sourceValue := v },
   .of "destination_address" (·.destinationAddress) fun r v => { r with destinationAddress := v },
   .of "mtu" (·.mtu) fun r v => { r with mtu := v },
   .of "keepalive" (·.keepalive) fun r v => { r with keepalive := v },
   .of "security_zone" (·.securityZone) fun r v => { r with securityZone := v },
   .of "gre_key" (·.greKey) fun r v => { r with greKey := v },
   .of "gre_checksum" (·.greChecksum) fun r v => { r with greChecksum := v },
   .of "df_bit_enable" (·.dfBitEnable) fun r v => { r with dfBitEnable := v },
   .of "id" (·.id) fun r v => { r with id := v }]

instance : Described GreTunnel := .record GreTunnel.fields {} .none

structure GreVpn where
  enabled : Bool := false
  tunnels : List GreTunnel := []

def GreVpn.fields : List (Field GreVpn) :=
  [.of "enabled" (·.enabled) fun r v => { r with enabled := v },
   .of "tunnels" (·.tunnels) fun r v => { r with tunnels := v }]

instance : Described GreVpn := .record GreVpn.fields {} .none

end Netscribe
