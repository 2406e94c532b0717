import Netscribe.Acl.Commands
import Netscribe.Fault
import Netscribe.Ipsec.Model
/-!
Commands of IPsec and IKE. Policies refer to ACLs, transform sets, keychains and profiles by id; a
reference to something that does not exist leaves its line out.
-/
namespace Netscribe

namespace TransformSet

def usesEsp (protocol : String) : Bool := protocol == "esp" || protocol == "ah-esp"

def usesAh (protocol : String) : Bool := protocol == "ah" || protocol == "ah-esp"

def h3cEntries (t : TransformSet) : List Entry :=
  [.blank, command s!"ipsec transform-set {t.name}" s!"Transform set {t.name}."]
    ++ onlyIf (t.protocol ≠ "") [command s!" protocol {t.protocol}"]
    ++ onlyIf (t.encapsulationMode ≠ "" ∧ t.encapsulationMode ≠ "auto")
      [command s!" encapsulation-mode {t.encapsulationMode}"]
    ++ onlyIf (t.espEncryption ≠ "") [command s!" esp encryption-algorithm {t.espEncryption}"]
    ++ onlyIf (t.espAuth ≠ "") [command s!" esp authentication-algorithm {t.espAuth}"]
    ++ onlyIf (t.ahAuth ≠ "") [command s!" ah authentication-algorithm {t.ahAuth}"]
    ++ [command "quit"]

/-- Algorithms are named only for the protocols that are in use. -/
def huaweiEntries (t : TransformSet) : List Entry :=
  let esp := usesEsp t.protocol
  [.blank, command s!"ipsec proposal {t.name}" s!"IPsec proposal {t.name}."]
    ++ onlyIf (t.protocol ≠ "") [command s!" transform {t.protocol}"]
    ++ onlyIf (t.encapsulationMode ≠ "" ∧ t.encapsulationMode ≠ "auto")
      [command s!" encapsulation-mode {t.encapsulationMode}"]
    ++ onlyIf (esp ∧ t.espEncryption ≠ "")
      [command s!" esp encryption-algorithm {t.espEncryption}"]
    ++ onlyIf (esp ∧ t.espAuth ≠ "") [command s!" esp authentication-algorithm {t.espAuth}"]
    ++ onlyIf (usesAh t.protocol ∧ t.ahAuth ≠ "")
      [command s!" ah authentication-algorithm {t.ahAuth}"]
    ++ [command "quit"]

end TransformSet

namespace IkeKeychain

def block (k : IkeKeychain) (keys : List Entry) : List Entry :=
  [.blank, command s!"ike keychain {k.name}" s!"IKE keychain {k.name}."] ++ keys
    ++ [command "quit"]

def h3cKey (k : PresharedKey) : List Entry :=
  let mask := if k.mask = "" then "0" else k.mask
  onlyIf (k.address ≠ "" ∧ k.key ≠ "")
    [command s!" pre-shared-key address {k.address} {mask} key simple {k.key}"
      s!"Pre-shared key for peer {k.address}."]

/-- A Huawei keychain holds keys only; the address of the peer belongs to the IKE peer. -/
def huaweiKey (k : PresharedKey) : List Entry :=
  onlyIf (k.key ≠ "") [command s!" pre-shared-key key simple {k.key}"]

end IkeKeychain

namespace Ipsec

def findTransformSet? (s : Ipsec) (id : String) : Option TransformSet :=
  s.transformSets.find? (·.id == id)

def findKeychain? (s : Ipsec) (id : String) : Option IkeKeychain :=
  s.ikeKeychains.find? (·.id == id)

def findProfile? (s : Ipsec) (id : String) : Option IkeProfile :=
  s.ikeProfiles.find? (·.id == id)

def h3cProfile (s : Ipsec) (p : IkeProfile) : List Entry :=
  [.blank, command s!"ike profile {p.name}" s!"IKE profile {p.name}."]
    ++ (s.findKeychain? p.keychainId).toList.map (fun k => command s!" keychain {k.name}")
    ++ onlyIf (p.localIdentity ≠ "") [command s!" local-identity {p.localIdentity}"]
    ++ onlyIf (p.matchRemoteAddress ≠ "")
      [command s!" match remote identity address {p.matchRemoteAddress}"]
    ++ [command "quit"]

/-- The first word of the peer's address; an address of blanks alone has none. -/
def remoteAddress (p : IkeProfile) : Except Fault (List Entry) :=
  if p.matchRemoteAddress = "" then .ok []
  else match Text.words p.matchRemoteAddress with
    | [] => .error .noWord
    | address :: _ => .ok [command s!" remote-address {address}"]

def localIdentity (p : IkeProfile) : List Entry :=
  match Text.words p.localIdentity with
  | kind :: value :: _ => [command s!" local-id-type {kind} {value}"]
  | _ => []

def huaweiPeer (s : Ipsec) (p : IkeProfile) : Except Fault (List Entry) := do
  let remote ← remoteAddress p
  return [.blank, command s!"ike peer {p.name}" s!"IKE peer {p.name}."]
    ++ (s.findKeychain? p.keychainId).toList.map (fun k =>
      command s!" pre-shared-key keychain {k.name}")
    ++ remote ++ localIdentity p ++ [command "quit"]

/-- The protocol of the first transform set that a policy refers to. -/
def associationProtocol (s : Ipsec) (p : IpsecPolicy) : String :=
  match s.transformSets.find? fun t => p.transformSetIds.contains t.id with
  | some t => if t.protocol = "" then "esp" else t.protocol
  | none => "esp"

def manualEntries (protocol keyword : String) (keys : ManualKeys) : List Entry :=
  [command s!" sa spi inbound {protocol} {keys.inboundSpi}",
   command s!" sa string-key inbound {protocol} {keyword}{keys.inboundKey}",
   command s!" sa spi outbound {protocol} {keys.outboundSpi}",
   command s!" sa string-key outbound {protocol} {keyword}{keys.outboundKey}"]

/-- The keys of an association without IKE, for each protocol in use. -/
def manualAssociation (s : Ipsec) (p : IpsecPolicy) (keyword : String) : List Entry :=
  let protocol := s.associationProtocol p
  p.manualSa.toList.flatMap fun keys =>
    onlyIf (TransformSet.usesEsp protocol)
        (keys.esp.toList.flatMap (manualEntries "esp" keyword))
      ++ onlyIf (TransformSet.usesAh protocol)
        (keys.ah.toList.flatMap (manualEntries "ah" keyword))

def policyHeader (acls : Acls) (p : IpsecPolicy) : List Entry :=
  [.blank,
   command s!"ipsec policy {p.name} {p.seqNumber} {p.mode}"
    s!"Policy {p.name} sequence {p.seqNumber} ({p.mode})."]
    ++ (acls.find? p.aclId).toList.map (fun a =>
      command s!" security acl {a.number}" s!"Traffic matched by ACL {a.number} is protected.")

def transformReferences (s : Ipsec) (keyword : String) (p : IpsecPolicy) : List Entry :=
  (p.transformSetIds.filterMap s.findTransformSet?).map fun t => command s!" {keyword} {t.name}"

def profileReference (s : Ipsec) (keyword : String) (p : IpsecPolicy) : List Entry :=
  (s.findProfile? p.ikeProfileId).toList.map fun profile => command s!" {keyword} {profile.name}"

def h3cPolicy (s : Ipsec) (acls : Acls) (p : IpsecPolicy) : List Entry :=
  policyHeader acls p ++ s.transformReferences "transform-set" p
    ++ onlyIf (p.remoteAddress ≠ "") [command s!" remote-address {p.remoteAddress}"]
    ++ onlyIf (p.localAddress ≠ "") [command s!" local-address {p.localAddress}"]
    ++ (if p.mode = "isakmp" then s.profileReference "ike-profile" p
      else onlyIf (p.mode = "manual") (s.manualAssociation p "simple "))
    ++ [command "quit"]

def huaweiPolicy (s : Ipsec) (acls : Acls) (p : IpsecPolicy) : List Entry :=
  let tunnelLocal := onlyIf (p.localAddress ≠ "") [command s!" tunnel local {p.localAddress}"]
  policyHeader acls p ++ s.transformReferences "proposal" p
    ++ (if p.mode = "isakmp" then s.profileReference "ike-peer" p ++ tunnelLocal
      else onlyIf (p.mode = "manual")
        (tunnelLocal
          ++ onlyIf (p.remoteAddress ≠ "") [command s!" tunnel remote {p.remoteAddress}"]
          ++ s.manualAssociation p ""))
    ++ [command "quit"]

def namedTransformSets (s : Ipsec) : List TransformSet := s.transformSets.filter (·.name ≠ "")

def namedKeychains (s : Ipsec) : List IkeKeychain := s.ikeKeychains.filter (·.name ≠ "")

def namedProfiles (s : Ipsec) : List IkeProfile := s.ikeProfiles.filter (·.name ≠ "")

def completePolicies (s : Ipsec) : List IpsecPolicy :=
  s.policies.filter fun p => p.name ≠ "" ∧ p.seqNumber ≠ ""

def h3cEntries (acls : Acls) (s : Ipsec) : List Entry :=
  s.namedTransformSets.flatMap TransformSet.h3cEntries
    ++ s.namedKeychains.flatMap (fun k => k.block (k.preSharedKeys.flatMap IkeKeychain.h3cKey))
    ++ s.namedProfiles.flatMap s.h3cProfile
    ++ s.completePolicies.flatMap (s.h3cPolicy acls)

def huaweiEntries (acls : Acls) (s : Ipsec) : Except Fault (List Entry) := do
  let peers ← s.namedProfiles.mapM s.huaweiPeer
  return s.namedTransformSets.flatMap TransformSet.huaweiEntries
    ++ s.namedKeychains.flatMap (fun k => k.block (k.preSharedKeys.flatMap IkeKeychain.huaweiKey))
    ++ peers.flatten
    ++ s.completePolicies.flatMap (s.huaweiPolicy acls)

def render (vendor : Vendor) (acls : Acls) (s : Ipsec) : Except Fault Fragment := do
  if !s.enabled then return .nothing "IPsec is disabled."
  match vendor with
  | .h3c => return finish (s.h3cEntries acls)
  | .huawei => return finish (← s.huaweiEntries acls)
  | _ => return .unsupported "IPsec" vendor.name
where
  finish (entries : List Entry) : Fragment :=
    .ofEntries entries s!"{vendor.name} IPsec configuration generated."
      "No IPsec objects configured."

end Ipsec
end Netscribe
