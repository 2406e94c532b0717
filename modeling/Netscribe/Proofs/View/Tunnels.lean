import Netscribe.Gre.Commands
import Netscribe.Ipsec.Commands
import Netscribe.Proofs.Fault.Reading
import Netscribe.Proofs.View.Routing
/-!
The views of tunnels: the objects that IPsec policies refer to, these policies, and GRE tunnels.
-/
namespace Netscribe

open Outcome (Ensures)
open Text (IsOneLine)

namespace TransformSet

variable {t : TransformSet}

private theorem settled_h3cEntries (h : IsPlain t) : Settled .h3c t.h3cEntries := by
  rw [isPlain_record] at h
  simp [fields] at h
  refine .block ?_
  simp +decide [h]

private theorem settled_huaweiEntries (h : IsPlain t) : Settled .huawei t.huaweiEntries := by
  rw [isPlain_record] at h
  simp [fields] at h
  refine .block ?_
  simp +decide [h]

end TransformSet

namespace IkeKeychain

private theorem areInside_h3cKey {k : PresharedKey} (h : IsPlain k) : AreInside (h3cKey k) := by
  rw [isPlain_record] at h
  simp [PresharedKey.fields] at h
  unfold h3cKey
  simp +decide [h]

private theorem areInside_huaweiKey {k : PresharedKey} (h : IsPlain k) :
    AreInside (huaweiKey k) := by
  rw [isPlain_record] at h
  simp [PresharedKey.fields] at h
  rw [huaweiKey]
  simp +decide [h]

private theorem settled_block {k : IkeKeychain} {vendor : Vendor} (h : IsPlain k)
    (hvendor : vendor.isVrp)
    {key : PresharedKey → List Entry} (hkey : ∀ p, IsPlain p → AreInside (key p)) :
    Settled vendor (k.block (k.preSharedKeys.flatMap key)) := by
  rw [isPlain_record] at h
  simp [fields] at h
  have hkeys : AreInside (k.preSharedKeys.flatMap key) :=
    .flatMap fun p hp => hkey p (h.2.1 p hp)
  have hcloser : vendor.closer = "quit" := if_pos hvendor
  rw [block, ← hcloser]
  refine .block ?_
  simp +decide [↓hkeys, h]

end IkeKeychain

namespace Ipsec

variable {s : Ipsec} {acls : Acls} {p : IpsecPolicy}

private theorem isOneLine_of_findKeychain? (h : IsPlain s) {id : String} {k : IkeKeychain}
    (hk : k ∈ s.findKeychain? id) : IsOneLine k.name := by
  rw [isPlain_record] at h
  simp [fields] at h
  have hplain : IsPlain k := by simp [h, List.mem_of_find?_eq_some hk]
  rw [isPlain_record] at hplain
  simp [IkeKeychain.fields] at hplain
  simp [hplain]

private theorem isPlain_of_findProfile? (h : IsPlain s) {id : String} {profile : IkeProfile}
    (hprofile : profile ∈ s.findProfile? id) : IsPlain profile := by
  rw [isPlain_record] at h
  simp [fields] at h
  simp [h, List.mem_of_find?_eq_some hprofile]

private theorem settled_h3cProfile (h : IsPlain s) {profile : IkeProfile}
    (hprofile : IsPlain profile) :
    Settled .h3c (s.h3cProfile profile) := by
  have hkeychain : AreInside ((s.findKeychain? profile.keychainId).toList.map fun k =>
      command s!" keychain {k.name}") := by
    refine .map fun k hk => ?_
    have hname := isOneLine_of_findKeychain? h (Option.mem_toList.mp hk)
    simp +decide [hname]
  rw [isPlain_record] at hprofile
  simp [IkeProfile.fields] at hprofile
  refine .block ?_
  simp +decide [↓hkeychain, hprofile]

private theorem ensures_remoteAddress (profile : IkeProfile) :
    Ensures AreInside Fault.IsOneLine (remoteAddress profile) := by
  rw [remoteAddress]
  split
  · exact .pure areInside_nil
  · split
    next => exact .throw (show IsOneLine Fault.noWord.message by decide)
    next address rest hwords =>
      have haddress : IsOneLine address :=
        Text.isOneLine_of_mem_words (by rw [hwords]; exact List.mem_cons_self)
      refine .pure ?_
      simp +decide [haddress]

private theorem areInside_localIdentity (profile : IkeProfile) :
    AreInside (localIdentity profile) := by
  rw [localIdentity]
  split
  next kind value rest hwords =>
    have hkind : IsOneLine kind := Text.isOneLine_of_mem_words (by rw [hwords]; simp)
    have hvalue : IsOneLine value := Text.isOneLine_of_mem_words (by rw [hwords]; simp)
    simp +decide [hkind, hvalue]
  next => exact areInside_nil

private theorem ensures_huaweiPeer (h : IsPlain s) {profile : IkeProfile}
    (hprofile : IsPlain profile) :
    Ensures (Settled .huawei) Fault.IsOneLine (s.huaweiPeer profile) := by
  have hkeychain : AreInside ((s.findKeychain? profile.keychainId).toList.map fun k =>
      command s!" pre-shared-key keychain {k.name}") := by
    refine .map fun k hk => ?_
    have hname := isOneLine_of_findKeychain? h (Option.mem_toList.mp hk)
    simp +decide [hname]
  have hidentity := areInside_localIdentity profile
  rw [isPlain_record] at hprofile
  simp [IkeProfile.fields] at hprofile
  unfold huaweiPeer
  refine (ensures_remoteAddress profile).bind fun remote hremote => .pure (.block ?_)
  simp +decide [↓hkeychain, ↓hidentity, ↓hremote, hprofile]

private theorem areInside_manualEntries {protocol keyword : String} {keys : ManualKeys}
    (hprotocol : IsOneLine protocol) (hkeyword : IsOneLine keyword) (h : IsPlain keys) :
    AreInside (manualEntries protocol keyword keys) := by
  rw [isPlain_record] at h
  simp [ManualKeys.fields] at h
  rw [manualEntries]
  simp +decide [hprotocol, hkeyword, h]

private theorem areInside_manualAssociation {keyword : String} (hkeyword : IsOneLine keyword)
    (h : IsPlain p) (s : Ipsec) : AreInside (s.manualAssociation p keyword) := by
  rw [isPlain_record] at h
  simp [IpsecPolicy.fields] at h
  refine .flatMap fun association hassociation => ?_
  have hplain : IsPlain association := by simp [h, Option.mem_toList.mp hassociation]
  rw [isPlain_record] at hplain
  simp [ManualAssociation.fields] at hplain
  have hesp : AreInside (association.esp.toList.flatMap (manualEntries "esp" keyword)) :=
    .flatMap fun keys hkeys => areInside_manualEntries (by decide) hkeyword
      (hplain.1 keys (Option.mem_toList.mp hkeys))
  have hah : AreInside (association.ah.toList.flatMap (manualEntries "ah" keyword)) :=
    .flatMap fun keys hkeys => areInside_manualEntries (by decide) hkeyword
      (hplain.2 keys (Option.mem_toList.mp hkeys))
  simp [↓hesp, ↓hah]

private theorem opens_policyHeader (hacls : IsPlain acls) (h : IsPlain p) :
    Opens (policyHeader acls p) := by
  have hprotected : AreInside ((acls.find? p.aclId).toList.map fun a =>
      command s!" security acl {a.number}"
        s!"Traffic matched by ACL {a.number} is protected.") := by
    refine .map fun a ha => ?_
    have hnumber := (Acls.isOneLine_of_find? hacls (Option.mem_toList.mp ha)).2
    simp +decide [hnumber]
  rw [isPlain_record] at h
  simp [IpsecPolicy.fields] at h
  rw [policyHeader]
  simp +decide [↓hprotected, h]

section References

variable {keyword : String}

private theorem areInside_transformReferences (hkeyword : IsOneLine keyword) (h : IsPlain s)
    (p : IpsecPolicy) : AreInside (s.transformReferences keyword p) := by
  rw [isPlain_record] at h
  simp [fields] at h
  refine .map fun t ht => ?_
  obtain ⟨id, -, hfind⟩ := List.mem_filterMap.mp ht
  have hplain : IsPlain t := by simp [h, List.mem_of_find?_eq_some hfind]
  rw [isPlain_record] at hplain
  simp [TransformSet.fields] at hplain
  simp +decide [hkeyword, hplain]

private theorem areInside_profileReference (hkeyword : IsOneLine keyword) (h : IsPlain s)
    (p : IpsecPolicy) : AreInside (s.profileReference keyword p) := by
  refine .map fun profile hprofile => ?_
  have hplain := isPlain_of_findProfile? h (Option.mem_toList.mp hprofile)
  rw [isPlain_record] at hplain
  simp [IkeProfile.fields] at hplain
  simp +decide [hkeyword, hplain]

end References

private theorem settled_h3cPolicy (h : IsPlain s) (hacls : IsPlain acls) (hp : IsPlain p) :
    Settled .h3c (s.h3cPolicy acls p) := by
  have htransforms : AreInside (s.transformReferences "transform-set" p) :=
    areInside_transformReferences (by decide) h p
  have hprofile : AreInside (s.profileReference "ike-profile" p) :=
    areInside_profileReference (by decide) h p
  have hmanual : AreInside (s.manualAssociation p "simple ") :=
    areInside_manualAssociation (by decide) hp s
  have hheader := opens_policyHeader hacls hp
  rw [isPlain_record] at hp
  simp [IpsecPolicy.fields] at hp
  refine .block ((((hheader.append htransforms).append ?_).append ?_).append ?_)
  · simp +decide [hp]
  · simp +decide [hp]
  · simp [↓hprofile, ↓hmanual]

private theorem settled_huaweiPolicy (h : IsPlain s) (hacls : IsPlain acls) (hp : IsPlain p) :
    Settled .huawei (s.huaweiPolicy acls p) := by
  have htransforms : AreInside (s.transformReferences "proposal" p) :=
    areInside_transformReferences (by decide) h p
  have hprofile : AreInside (s.profileReference "ike-peer" p) :=
    areInside_profileReference (by decide) h p
  have hmanual : AreInside (s.manualAssociation p "") :=
    areInside_manualAssociation (by decide) hp s
  have hheader := opens_policyHeader hacls hp
  rw [isPlain_record] at hp
  simp [IpsecPolicy.fields] at hp
  refine .block ((hheader.append htransforms).append ?_)
  simp +decide [↓hprofile, ↓hmanual, hp]

/-- Transform sets and keychains stand before what refers to them, policies behind. -/
theorem settled_objects {vendor : Vendor} {transform : TransformSet → List Entry}
    {key : PresharedKey → List Entry} {peers : List Entry} {policy : IpsecPolicy → List Entry}
    (h : IsPlain s) (hvendor : vendor.isVrp)
    (htransform : ∀ t, IsPlain t → Settled vendor (transform t))
    (hkey : ∀ k, IsPlain k → AreInside (key k)) (hpeers : Settled vendor peers)
    (hpolicy : ∀ p, IsPlain p → Settled vendor (policy p)) :
    Settled vendor (s.namedTransformSets.flatMap transform
      ++ s.namedKeychains.flatMap (fun k => k.block (k.preSharedKeys.flatMap key))
      ++ peers ++ s.completePolicies.flatMap policy) := by
  rw [isPlain_record] at h
  simp [fields] at h
  obtain ⟨htransforms, hkeychains, -, hpolicies⟩ := h
  refine .append (.append (.append ?_ ?_) hpeers) ?_
  · exact .flatMap fun t ht => htransform t (htransforms t (List.mem_of_mem_filter ht))
  · refine .flatMap fun k hk => ?_
    exact IkeKeychain.settled_block (hkeychains k (List.mem_of_mem_filter hk)) hvendor hkey
  · exact .flatMap fun p hp => hpolicy p (hpolicies p (List.mem_of_mem_filter hp))

private theorem isPlain_of_mem_namedProfiles (h : IsPlain s) {profile : IkeProfile}
    (hprofile : profile ∈ s.namedProfiles) : IsPlain profile := by
  rw [isPlain_record] at h
  simp [fields] at h
  simp [h, List.mem_of_mem_filter hprofile]

private theorem settled_h3cEntries (h : IsPlain s) (hacls : IsPlain acls) :
    Settled .h3c (s.h3cEntries acls) := by
  have hprofiles : Settled .h3c (s.namedProfiles.flatMap s.h3cProfile) :=
    .flatMap fun profile hprofile =>
      settled_h3cProfile h (isPlain_of_mem_namedProfiles h hprofile)
  exact settled_objects h rfl (fun _ => TransformSet.settled_h3cEntries)
    (fun _ => IkeKeychain.areInside_h3cKey) hprofiles fun _ => settled_h3cPolicy h hacls

private theorem ensures_huaweiEntries (h : IsPlain s) (hacls : IsPlain acls) :
    Ensures (Settled .huawei) Fault.IsOneLine (s.huaweiEntries acls) := by
  have hpeers : Ensures (∀ peer ∈ ·, Settled .huawei peer) Fault.IsOneLine
      (s.namedProfiles.mapM s.huaweiPeer) :=
    .mapM fun profile hprofile => ensures_huaweiPeer h (isPlain_of_mem_namedProfiles h hprofile)
  unfold huaweiEntries
  refine hpeers.bind fun peers hpeers => .pure ?_
  exact settled_objects h rfl (fun _ => TransformSet.settled_huaweiEntries)
    (fun _ => IkeKeychain.areInside_huaweiKey) (.flatten hpeers)
    fun _ => settled_huaweiPolicy h hacls

/-- The IPsec of plain settings is tidy, and so are its faults. -/
theorem ensures_render (h : IsPlain s) (hacls : IsPlain acls) (vendor : Vendor) :
    Ensures (Fragment.IsTidy vendor) Fault.IsOneLine (s.render vendor acls) := by
  unfold render
  split
  · exact .pure (Fragment.isTidy_nothing vendor _)
  · cases vendor with
    | h3c => exact .pure ((settled_h3cEntries h hacls).isTidy_ofEntries _ _)
    | huawei =>
      exact (ensures_huaweiEntries h hacls).bind fun entries hentries =>
        .pure (hentries.isTidy_ofEntries _ _)
    | cisco => exact .pure (Fragment.isTidy_unsupported _ (by decide) (by decide))
    | generic => exact .pure (Fragment.isTidy_unsupported _ (by decide) (by decide))

end Ipsec

namespace GreTunnel

variable {t : GreTunnel}

private theorem areInside_addressEntries (h : IsPlain t) : AreInside t.addressEntries := by
  rw [isPlain_record] at h
  simp [fields] at h
  unfold addressEntries
  simp +decide [h]

private theorem areInside_endpointEntries (h : IsPlain t) : AreInside t.endpointEntries := by
  rw [isPlain_record] at h
  simp [fields] at h
  unfold endpointEntries
  simp +decide [h]

private theorem areInside_keepaliveEntries {timers : String} (htimers : IsOneLine timers)
    (t : GreTunnel) :
    AreInside (t.keepaliveEntries timers) := by
  rw [keepaliveEntries]
  simp +decide [htimers]

private theorem isOneLine_huaweiTimers {k : GreKeepalive} (h : IsPlain k) :
    IsOneLine (huaweiTimers k) := by
  rw [isPlain_record] at h
  simp [GreKeepalive.fields] at h
  rw [huaweiTimers]
  simp +decide [h]

private theorem isOneLine_h3cTimers {k : GreKeepalive} (h : IsPlain k) :
    IsOneLine (h3cTimers k) := by
  rw [isPlain_record] at h
  simp [GreKeepalive.fields] at h
  rw [h3cTimers]
  simp +decide [h]

private theorem isOneLine_name (h : IsPlain t) : IsOneLine t.name := by
  rw [isPlain_record] at h
  simp [fields] at h
  rw [name]
  simp +decide [h]

private theorem settled_huaweiEntries (h : IsPlain t) (deviceType : DeviceType) :
    Settled .huawei (t.huaweiEntries deviceType) := by
  have hname := isOneLine_name h
  have haddress := areInside_addressEntries h
  have hendpoint := areInside_endpointEntries h
  rw [isPlain_record] at h
  simp [fields] at h
  have hkeepalive : AreInside (t.keepaliveEntries (huaweiTimers t.keepalive)) :=
    areInside_keepaliveEntries (isOneLine_huaweiTimers (by simp [h])) t
  have hzone : Opens [.blank, command s!"firewall zone {t.securityZone}",
      command s!" add interface {t.name}" s!"Places {t.name} in zone {t.securityZone}."] := by
    simp +decide [hname, h]
  refine .append (.block ?_) (.onlyIf fun _ => .block hzone)
  simp +decide [↓haddress, ↓hendpoint, ↓hkeepalive, hname]

private theorem settled_h3cEntries (h : IsPlain t) : Settled .h3c t.h3cEntries := by
  have hname := isOneLine_name h
  have haddress := areInside_addressEntries h
  have hendpoint := areInside_endpointEntries h
  rw [isPlain_record] at h
  simp [fields] at h
  have hkeepalive : AreInside (t.keepaliveEntries (h3cTimers t.keepalive)) :=
    areInside_keepaliveEntries (isOneLine_h3cTimers (by simp [h])) t
  refine .block ?_
  simp +decide [↓haddress, ↓hendpoint, ↓hkeepalive, hname]

end GreTunnel

namespace GreVpn

private theorem settled_entries {g : GreVpn} {vendor : Vendor} {block : GreTunnel → List Entry}
    (h : IsPlain g) (hblock : ∀ t, IsPlain t → Settled vendor (block t)) :
    Settled vendor (g.entries block) := by
  rw [isPlain_record] at h
  simp [fields] at h
  refine .flatMap fun t ht => .cons_aside Entry.isAside_blank (hblock t ?_)
  simp [h, List.mem_of_mem_filter ht]

/-- The GRE tunnels of plain settings are tidy. -/
theorem isTidy_render {g : GreVpn} (h : IsPlain g) (vendor : Vendor) (deviceType : DeviceType) :
    (g.render vendor deviceType).IsTidy vendor := by
  unfold render
  split
  · exact Fragment.isTidy_nothing vendor _
  · cases vendor with
    | huawei =>
      have hentries : Settled .huawei (g.entries (GreTunnel.huaweiEntries deviceType)) :=
        settled_entries h fun _ ht => GreTunnel.settled_huaweiEntries ht deviceType
      exact hentries.isTidy_ofEntries _ _
    | h3c =>
      have hentries : Settled .h3c (g.entries GreTunnel.h3cEntries) :=
        settled_entries h fun _ => GreTunnel.settled_h3cEntries
      exact hentries.isTidy_ofEntries _ _
    | cisco => exact Fragment.isTidy_unsupported _ (by decide) (by decide)
    | generic => exact Fragment.isTidy_unsupported _ (by decide) (by decide)

end GreVpn
end Netscribe
