import Netscribe.Schema.Described
/-!
IPsec policies and the IKE settings they refer to by id.
-/
namespace Netscribe

structure TransformSet where
  name : String := ""
  protocol : String := "esp"
  encapsulationMode : String := "tunnel"
  espEncryption : String := ""
  espAuth : String := ""
  ahAuth : String := ""
  pfs : String := ""
  id : String := ""

def TransformSet.fields : List (Field TransformSet) :=
  [.of "name" (·.name) fun r v => { r with name := v },
   .of "protocol" (·.protocol) fun r v => { r with protocol := v },
   .of "encapsulation_mode" (·.encapsulationMode) fun r v => { r with encapsulationMode := v },
   .of "esp_encryption" (·.espEncryption) fun r v => { r with espEncryption := v },
   .of "esp_auth" (·.espAuth) fun r v => { r with espAuth := v },
   .of "ah_auth" (·.ahAuth) fun r v => { r with ahAuth := v },
   .of "pfs" (·.pfs) fun r v => { r with pfs := v },
   .of "id" (·.id) fun r v => { r with id := v }]

instance : Described TransformSet := .record TransformSet.fields {} .none

structure PresharedKey where
  address : String := ""
  mask : String := ""
  key : String := ""
  id : String := ""

def PresharedKey.fields : List (Field PresharedKey) :=
  [.of "address" (·.address) fun r v => { r with address := v },
   .of "mask" (·.mask) fun r v => { r with mask := v },
   .of "key" (·.key) fun r v => { r with key := v },
   .of "id" (·.id) fun r v => { r with id := v }]

instance : Described PresharedKey := .record PresharedKey.fields {} .none

structure IkeKeychain where
  name : String := ""
  preSharedKeys : List PresharedKey := []
  id : String := ""

def IkeKeychain.fields : List (Field IkeKeychain) :=
  [.of "name" (·.name) fun r v => { r with name := v },
   .of "pre_shared_keys" (·.preSharedKeys) fun r v => { r with preSharedKeys := v },
   .of "id" (·.id) fun r v => { r with id := v }]

instance : Described IkeKeychain := .record IkeKeychain.fields {} .none

structure IkeProfile where
  name : String := ""
  keychainId : String := ""
  matchRemoteAddress : String := ""
  localIdentity : String := ""
  id : String := ""

def IkeProfile.fields : List (Field IkeProfile) :=
  [.of "name" (·.name) fun r v => { r with name := v },
   .of "keychain_id" (·.keychainId) fun r v => { r with keychainId := v },
   .of "match_remote_address" (·.matchRemoteAddress) fun r v => { r with matchRemoteAddress := v },
   .of "local_identity" (·.localIdentity) fun r v => { r with localIdentity := v },
   .of "id" (·.id) fun r v => { r with id := v }]

instance : Described IkeProfile := .record IkeProfile.fields {} .none

structure ManualKeys where
  inboundSpi : String := ""
  outboundSpi : String := ""
  inboundKey : String := ""
  outboundKey : String := ""

def ManualKeys.fields : List (Field ManualKeys) :=
  [.of "inbound_spi" (·.inboundSpi) fun r v => { r with inboundSpi := v },
   .of "outbound_spi" (·.outboundSpi) fun r v => { r with outboundSpi := v },
   .of "inbound_key" (·.inboundKey) fun r v => { r with inboundKey := v },
   .of "outbound_key" (·.outboundKey) fun r v => { r with outboundKey := v }]

instance : Described ManualKeys := .record ManualKeys.fields {} .none

structure ManualAssociation where
  esp : Option ManualKeys := none
  ah : Option ManualKeys := none

def ManualAssociation.fields : List (Field ManualAssociation) :=
  [.of "esp" (·.esp) fun r v => { r with esp := v },
   .of "ah" (·.ah) fun r v => { r with ah := v }]

instance : Described ManualAssociation := .record ManualAssociation.fields {} .none

structure IpsecPolicy where
  name : String := ""
  seqNumber : String := ""
  mode : String := "isakmp"
  aclId : String := ""
  transformSetIds : List String := []
  remoteAddress : String := ""
  localAddress : String := ""
  ikeProfileId : String := ""
  manualSa : Option ManualAssociation := none
  id : String := ""

def IpsecPolicy.fields : List (Field IpsecPolicy) :=
  [.of "name" (·.name) fun r v => { r with name := v },
   .of "seq_number" (·.seqNumber) fun r v => { r with seqNumber := v },
   .of "mode" (·.mode) fun r v => { r with mode := v },
   .of "acl_id" (·.aclId) fun r v => { r with aclId := v },
   .of "transform_set_ids" (·.transformSetIds) fun r v => { r with transformSetIds := v },
   .of "remote_address" (·.remoteAddress) fun r v => { r with remoteAddress := v },
   .of "local_address" (·.localAddress) fun r v => { r with localAddress := v },
   .of "ike_profile_id" (·.ikeProfileId) fun r v => { r with ikeProfileId := v },
   .keyed "manual_sa" "manualSA" (·.manualSa) fun r v => { r with manualSa := v },
   .of "id" (·.id) fun r v => { r with id := v }]

instance : Described IpsecPolicy := .record IpsecPolicy.fields {} .none

structure Ipsec where
  enabled : Bool := false
  transformSets : List TransformSet := []
  ikeKeychains : List IkeKeychain := []
  ikeProfiles : List IkeProfile := []
  policies : List IpsecPolicy := []

def Ipsec.fields : List (Field Ipsec) :=
  [.of "enabled" (·.enabled) fun r v => { r with enabled := v },
   .of "transform_sets" (·.transformSets) fun r v => { r with transformSets := v },
   .of "ike_keychains" (·.ikeKeychains) fun r v => { r with ikeKeychains := v },
   .of "ike_profiles" (·.ikeProfiles) fun r v => { r with ikeProfiles := v },
   .of "policies" (·.policies) fun r v => { r with policies := v }]

instance : Described Ipsec := .record Ipsec.fields {} .none

end Netscribe
