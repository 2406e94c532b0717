import Netscribe.Dhcp.Commands
import Netscribe.DhcpRelay.Commands
import Netscribe.DhcpSnooping.Commands
import Netscribe.Proofs.Fault.Reading
import Netscribe.Proofs.Schema.Texts
import Netscribe.Proofs.View.Entries
import Netscribe.Ssh.Commands
import Netscribe.Wireless.Commands
/-!
The views of the services that a device offers: DHCP with its relays and its snooping, remote login,
and wireless access.
-/
namespace Netscribe

open Outcome (Ensures)
open Text (IsOneLine opensCommand opensIndented)

/-- A value stays one line when zero stands in for a missing one. -/
theorem isOneLine_orZero {s : String} (h : IsOneLine s) : IsOneLine (orZero s) := by
  simp +decide [orZero, h]

private theorem isOneLine_of_mem_leaseParts {parts : List String}
    (h : ∀ part ∈ parts, IsOneLine part)
    {part : String} (hpart : part ∈ leaseParts parts) : IsOneLine part := by
  unfold leaseParts at hpart
  dsimp only at hpart
  split at hpart
  · cases hpart
  · obtain ⟨given, hgiven, rfl⟩ := List.mem_map.mp hpart
    exact isOneLine_orZero (h given hgiven)

namespace DhcpPool

variable {p : DhcpPool}

private theorem isOneLine_of_mem_lease (h : IsPlain p) {part : String}
    (hpart : part ∈ p.lease ∨ part ∈ p.leaseWithSeconds) : IsOneLine part := by
  rw [isPlain_record] at h
  simp [fields] at h
  obtain hpart | hpart := hpart
  · exact isOneLine_of_mem_leaseParts (by simp [h]) hpart
  · exact isOneLine_of_mem_leaseParts (by simp [h]) hpart

private theorem areInside_vrpLease {keyword : String} (hkeyword : IsOneLine keyword)
    (h : IsPlain p) :
    AreInside (p.vrpLease keyword) := by
  have hlease : ∀ part ∈ p.lease, IsOneLine part :=
    fun _ hpart => isOneLine_of_mem_lease h (.inl hpart)
  rw [vrpLease]
  split
  next days hours minutes hparts =>
    rw [hparts] at hlease
    simp at hlease
    simp +decide [hkeyword, hlease]
  next => exact areInside_nil

private theorem ensures_encodeOption43 {header : String} (hheader : IsOneLine header) (p : DhcpPool)
    (capital : Bool) : Ensures IsOneLine Fault.IsOneLine (p.encodeOption43 header capital) := by
  refine (Ipv4.ensures_toHex p.option43 capital).bind fun encoded hencoded => ?_
  refine .pure ?_
  simp [hheader, hencoded]

private theorem areInside_option43Entries {encoded : String} (h : IsOneLine encoded)
    (p : DhcpPool) :
    AreInside (p.option43Entries encoded) := by
  rw [option43Entries]
  simp +decide [h]

private theorem isOneLine_binding (h : IsPlain p) {b : DhcpBinding} (hb : b ∈ p.bindings) :
    IsOneLine b.ipAddress ∧ IsOneLine b.macAddress := by
  rw [isPlain_record] at h
  simp [fields] at h
  have hplain : IsPlain b := by simp [h, List.mem_of_mem_filter hb]
  rw [isPlain_record] at hplain
  simpa [DhcpBinding.fields] using hplain

private theorem settled_ciscoBinding (h : IsPlain p) {b : DhcpBinding} (hb : b ∈ p.bindings) :
    Settled .cisco (p.ciscoBinding b) := by
  obtain ⟨hip, hmac⟩ := isOneLine_binding h hb
  rw [isPlain_record] at h
  simp [fields] at h
  have hshown : Text.allBlank s!" host {b.ipAddress} {p.subnetMask}" = false :=
    Text.allBlank_append_left (Text.allBlank_append_left
      (Text.allBlank_append_left (by decide) _) _) _
  have hhost : Text.isIndented (Text.trimEnd s!" host {b.ipAddress} {p.subnetMask}") :=
    View.isIndented_trimEnd (Text.isIndented_of_opensIndented (by simp +decide)) hshown
  have hopens : Opens [command s!"ip dhcp pool STATIC_{Mac.clean b.macAddress}",
      command (Text.trimEnd s!" host {b.ipAddress} {p.subnetMask}"),
      command s!" client-identifier {Mac.clientIdentifier b.macAddress}" (reservation b)] := by
    simp +decide [↓hhost, Mac.isOneLine_clean hmac, Mac.isOneLine_clientIdentifier hmac, hip, h]
  exact .block hopens

private theorem ensures_ciscoEntries (h : IsPlain p) :
    Ensures (Settled .cisco) Fault.IsOneLine p.ciscoEntries := by
  have hbindings : Settled .cisco (p.bindings.flatMap p.ciscoBinding) :=
    .flatMap fun b hb => settled_ciscoBinding h hb
  have hlease : IsOneLine (Text.unwords p.leaseWithSeconds) :=
    Text.isOneLine_unwords.mpr fun _ hpart => isOneLine_of_mem_lease h (.inr hpart)
  rw [isPlain_record] at h
  simp [fields] at h
  unfold ciscoEntries
  refine (ensures_encodeOption43 (by decide) p _).bind fun encoded hencoded => ?_
  refine .pure (.append (.block ?_) hbindings)
  simp +decide [areInside_option43Entries hencoded, hlease, h]

private theorem settled_ciscoExclusion (h : IsPlain p) : Settled .cisco p.ciscoExclusion := by
  rw [isPlain_record] at h
  simp [fields] at h
  refine .onlyIf fun _ => .cons_command ?_ .nil
  simp +decide [h]

private theorem settled_huaweiEntries (h : IsPlain p) : Settled .huawei p.huaweiEntries := by
  have hlease : AreInside (p.vrpLease "lease") := areInside_vrpLease (by decide) h
  have hbindings : AreInside (p.bindings.map fun b =>
      command s!" static-bind ip-address {b.ipAddress} mac-address {Mac.dashed b.macAddress}"
        (reservation b)) := by
    refine .map fun b hb => ?_
    obtain ⟨hip, hmac⟩ := isOneLine_binding h hb
    simp +decide [hip, Mac.isOneLine_dashed hmac]
  rw [isPlain_record] at h
  simp [fields] at h
  refine .block ?_
  simp +decide [↓hlease, ↓hbindings, h]

private theorem ensures_h3cEntries (h : IsPlain p) :
    Ensures (Settled .h3c) Fault.IsOneLine p.h3cEntries := by
  have hlease : AreInside (p.vrpLease "expired") := areInside_vrpLease (by decide) h
  have hbindings : AreInside (p.bindings.map fun b =>
      command
        (s!" static-bind ip-address {b.ipAddress} mask {p.subnetMask} "
          ++ s!"hardware-address {Mac.dashed b.macAddress}")
        (reservation b)) := by
    refine .map fun b hb => ?_
    obtain ⟨hip, hmac⟩ := isOneLine_binding h hb
    rw [isPlain_record] at h
    simp [fields] at h
    simp +decide [hip, Mac.isOneLine_dashed hmac, h]
  rw [isPlain_record] at h
  simp [fields] at h
  unfold h3cEntries
  refine (ensures_encodeOption43 (by decide) p _).bind fun encoded hencoded => ?_
  refine .pure (.block ?_)
  simp +decide [areInside_option43Entries hencoded, ↓hlease, ↓hbindings, h]

end DhcpPool

namespace DhcpServer

variable {s : DhcpServer}

private theorem settled_enabling {vendor : Vendor} {text : String} {entries : List Entry}
    (htext : IsOneLine text) (hopens : opensCommand text) (h : Settled vendor entries) :
    Settled vendor (enabling text :: entries) := by
  refine .cons_command ?_ h
  rw [enabling]
  simp [htext, hopens]

/-- The DHCP server of plain settings is tidy, and so are its faults. -/
theorem ensures_render (h : IsPlain s) (vendor : Vendor) :
    Ensures (·.IsTidy vendor) Fault.IsOneLine (s.render vendor) := by
  have hpools : ∀ p ∈ s.namedPools, IsPlain p := by
    rw [isPlain_record] at h
    simp [fields] at h
    exact fun p hp => h p (List.mem_of_mem_filter hp)
  unfold render
  dsimp only
  split
  · exact .pure (Fragment.isTidy_nothing vendor _)
  · cases vendor with
    | cisco =>
      refine (Ensures.mapM fun p hp => DhcpPool.ensures_ciscoEntries (hpools p hp)).bind
        fun blocks hblocks => ?_
      refine .pure (Settled.isTidy_build (settled_enabling (by decide) (by decide) ?_) _)
      exact .append (.flatMap fun p hp => DhcpPool.settled_ciscoExclusion (hpools p hp))
        (.flatten hblocks)
    | huawei =>
      refine .pure (Settled.isTidy_build (settled_enabling (by decide) (by decide) ?_) _)
      exact .flatMap fun p hp => DhcpPool.settled_huaweiEntries (hpools p hp)
    | h3c =>
      refine (Ensures.mapM fun p hp => DhcpPool.ensures_h3cEntries (hpools p hp)).bind
        fun blocks hblocks => ?_
      refine .pure (Settled.isTidy_build (settled_enabling (by decide) (by decide) ?_) _)
      exact .flatten hblocks
    | generic => exact .pure (Fragment.isTidy_unsupported _ (by decide) (by decide))

end DhcpServer

namespace Option82

variable {o : Option82}

private theorem isOneLine_circuitId (h : IsPlain o) : IsOneLine o.circuitId := by
  rw [isPlain_record] at h
  simp [fields] at h
  unfold circuitId
  simp +decide [h]

private theorem isOneLine_remoteId (h : IsPlain o) : IsOneLine o.remoteId := by
  rw [isPlain_record] at h
  simp [fields] at h
  unfold remoteId
  simp +decide [h]

private theorem opensIndented_circuitId (o : Option82) : opensIndented o.circuitId := by
  unfold circuitId
  simp +decide

private theorem opensIndented_remoteId (o : Option82) : opensIndented o.remoteId := by
  unfold remoteId
  simp +decide

private theorem areInside_entries (h : IsPlain o) : AreInside o.entries := by
  have hcircuit := isOneLine_circuitId h
  have hremote := isOneLine_remoteId h
  rw [isPlain_record] at h
  simp [fields] at h
  rw [entries]
  simp +decide [hcircuit, hremote, opensIndented_circuitId, opensIndented_remoteId, h]

end Option82

namespace DhcpRelay

variable {r : DhcpRelay} {i : RelayInterface}

/-- The block of an interface, once what stands inside is known to. -/
theorem settled_interfaceBlock {vendor : Vendor} (hvendor : vendor.isVrp) {body : List Entry}
    (hname : IsOneLine i.interfaceName) (h : AreInside body) :
    Settled vendor (interfaceBlock i body) := by
  have hcloser : vendor.closer = "quit" := if_pos hvendor
  rw [interfaceBlock, ← hcloser]
  refine .block ?_
  simp +decide [hname, h]

private theorem areOuter_h3cGlobals (h : IsPlain r) : AreOuter r.h3cGlobals := by
  rw [isPlain_record] at h
  simp [fields] at h
  obtain ⟨hsecurity, hdscp, -⟩ := h
  rw [isPlain_record] at hsecurity
  simp [RelaySecurity.fields] at hsecurity
  rw [h3cGlobals]
  simp +decide [hsecurity, hdscp]

private theorem settled_h3cInterface (h : IsPlain i) (r : DhcpRelay) :
    Settled .h3c (r.h3cInterface i) := by
  rw [isPlain_record] at h
  simp [RelayInterface.fields] at h
  have hoption := Option82.areInside_entries h.2.2.1
  have hservers : AreInside ((i.serverAddresses.filter (·.ip ≠ "")).map fun s =>
      command s!" dhcp relay server-address {s.ip}" (relaysTo s)) := by
    refine .map fun s hs => ?_
    have hplain : IsPlain s := by simp [h, List.mem_of_mem_filter hs]
    rw [isPlain_record] at hplain
    simp [RelayServer.fields] at hplain
    simp +decide [hplain]
  refine settled_interfaceBlock rfl h.1 ?_
  simp +decide [↓hservers, hoption]

private theorem areOuter_huaweiGlobals (g : HuaweiRelayGlobals) : AreOuter (huaweiGlobals g) := by
  rw [huaweiGlobals]
  simp +decide

private theorem areInside_huaweiAddresses {o : HuaweiRelayOptions} (h : IsPlain o) :
    AreInside (huaweiAddresses o) := by
  rw [isPlain_record] at h
  simp [HuaweiRelayOptions.fields] at h
  rw [huaweiAddresses]
  simp +decide [h]

private theorem areInside_huaweiOption82 {o : HuaweiRelayOptions} (h : IsPlain o) :
    AreInside (huaweiOption82 o.option82) := by
  rw [isPlain_record] at h
  simp [HuaweiRelayOptions.fields] at h
  obtain ⟨-, -, hoption⟩ := h
  rw [isPlain_record] at hoption
  simp [HuaweiOption82.fields] at hoption
  obtain ⟨hinformation, -⟩ := hoption
  rw [isPlain_record] at hinformation
  simp [RelayInformation.fields] at hinformation
  unfold huaweiOption82
  simp +decide [hinformation]

private theorem settled_huaweiInterface (h : IsPlain i) : Settled .huawei (huaweiInterface i) := by
  rw [isPlain_record] at h
  simp [RelayInterface.fields] at h
  have hoptions : ∀ o ∈ i.huaweiOptions.toList, IsPlain o :=
    fun o ho => by simp [h, Option.mem_toList.mp ho]
  have haddresses : AreInside (i.huaweiOptions.toList.flatMap huaweiAddresses) :=
    .flatMap fun o ho => areInside_huaweiAddresses (hoptions o ho)
  have hsuboptions :
      AreInside (i.huaweiOptions.toList.flatMap fun o => huaweiOption82 o.option82) :=
    .flatMap fun o ho => areInside_huaweiOption82 (hoptions o ho)
  have hservers : AreInside ((i.serverAddresses.filter (·.ip ≠ "")).map huaweiServer) := by
    refine .map fun s hs => ?_
    have hplain : IsPlain s := by simp [h, List.mem_of_mem_filter hs]
    rw [isPlain_record] at hplain
    simp [RelayServer.fields] at hplain
    rw [huaweiServer]
    simp +decide [hplain]
  refine settled_interfaceBlock rfl h.1 ?_
  simp +decide [↓haddresses, ↓hservers, ↓hsuboptions]

/-- The DHCP relay of plain settings is tidy. -/
theorem isTidy_render (h : IsPlain r) (vendor : Vendor) : (r.render vendor).IsTidy vendor := by
  have hinterfaces : ∀ i ∈ r.namedInterfaces, IsPlain i := by
    rw [isPlain_record] at h
    simp [fields] at h
    exact fun i hi => by simp [h, List.mem_of_mem_filter hi]
  have hfinish {globals interfaces : List Entry} (hglobals : AreOuter globals)
      (hinterfaces : Settled vendor interfaces) :
      (render.finish globals interfaces).IsTidy vendor := by
    refine Settled.isTidy_build (.cons_command (by simp +decide) ?_) _
    exact (Settled.titled (by decide) (.of_areOuter hglobals)).append hinterfaces
  unfold render
  split
  · exact Fragment.isTidy_nothing vendor _
  · cases vendor with
    | h3c =>
      exact hfinish (areOuter_h3cGlobals h)
        (.flatMap fun i hi => settled_h3cInterface (hinterfaces i hi) r)
    | huawei =>
      exact hfinish (areOuter_huaweiGlobals _)
        (.flatMap fun i hi => settled_huaweiInterface (hinterfaces i hi))
    | cisco => exact Fragment.isTidy_unsupported _ (by decide) (by decide)
    | generic => exact Fragment.isTidy_unsupported _ (by decide) (by decide)

end DhcpRelay

namespace DhcpSnooping

variable {s : DhcpSnooping}

private theorem areOuter_h3cDatabase {d : BindingDatabase} (h : IsPlain d) :
    AreOuter (h3cDatabase d) := by
  rw [isPlain_record] at h
  simp [BindingDatabase.fields] at h
  rw [h3cDatabase]
  simp +decide [h]

private theorem settled_h3cInterface {i : SnoopingInterface} (h : IsPlain i) :
    Settled .h3c (h3cInterface i) := by
  rw [isPlain_record] at h
  simp [SnoopingInterface.fields] at h
  refine .onlyIf fun _ => .block ?_
  simp +decide [h]

private theorem isCommand_enabling : enabling.IsCommand := by
  rw [enabling]
  simp +decide

private theorem settled_h3cEntries (h : IsPlain s) : Settled .h3c s.h3cEntries := by
  rw [isPlain_record] at h
  simp [fields] at h
  obtain ⟨hinterfaces, hsettings, -⟩ := h
  rw [isPlain_record] at hsettings
  simp [H3cSnooping.fields] at hsettings
  have hdatabase := areOuter_h3cDatabase hsettings
  refine .append (.cons_command isCommand_enabling (.of_areOuter hdatabase)) ?_
  exact .titled (by decide) (.flatMap fun i hi => settled_h3cInterface (hinterfaces i hi))

private theorem areOuter_huaweiAutosave {a : BindingAutosave} (h : IsPlain a) :
    AreOuter (huaweiAutosave a) := by
  rw [isPlain_record] at h
  simp [BindingAutosave.fields] at h
  rw [huaweiAutosave]
  simp +decide [h]

private theorem settled_huaweiTrusted {i : TrustedInterface} (h : IsPlain i) :
    Settled .huawei (huaweiTrusted i) := by
  rw [isPlain_record] at h
  simp [TrustedInterface.fields] at h
  have hopens : Opens [command s!"interface {i.name}",
      command " dhcp snooping trusted" s!"{i.name} may carry DHCP server replies."] := by
    simp +decide [h]
  exact .onlyIf fun _ => .block hopens

private theorem ensures_huaweiEntries {s : HuaweiSnooping} (h : IsPlain s) :
    Ensures (Settled .huawei) Fault.IsOneLine (huaweiEntries s) := by
  rw [isPlain_record] at h
  simp [HuaweiSnooping.fields] at h
  obtain ⟨-, hinterfaces, hautosave⟩ := h
  unfold huaweiEntries
  refine (Vlan.ensures_normalList _).bind fun vlans hvlans => .pure ?_
  have hglobals : AreOuter ([command "dhcp enable" "DHCP must be enabled for snooping.", enabling]
      ++ onlyIf (vlans ≠ "")
        [.blank, command s!"dhcp snooping enable vlan {vlans}" s!"Snooping runs in VLANs {vlans}."]
      ++ huaweiAutosave s.userBindAutosave) := by
    have henabling : enabling.IsOuter := .inr isCommand_enabling
    simp +decide [henabling, hvlans, areOuter_huaweiAutosave hautosave]
  refine .append (.of_areOuter hglobals) (.titled (by decide) ?_)
  exact .flatMap fun i hi => settled_huaweiTrusted (hinterfaces i hi)

/-- DHCP snooping of plain settings is tidy, and so are its faults. -/
theorem ensures_render (h : IsPlain s) (vendor : Vendor) :
    Ensures (·.IsTidy vendor) Fault.IsOneLine (s.render vendor) := by
  have hhuawei : IsPlain s.huawei := by
    rw [isPlain_record] at h
    simp [fields] at h
    exact h.2.2
  unfold render
  split
  · exact .pure (Fragment.isTidy_nothing vendor _)
  · cases vendor with
    | h3c => exact .pure ((settled_h3cEntries h).isTidy_build _)
    | huawei =>
      exact (ensures_huaweiEntries hhuawei).bind fun _ hentries => .pure (hentries.isTidy_build _)
    | cisco => exact .pure (Fragment.isTidy_unsupported _ (by decide) (by decide))
    | generic => exact .pure (Fragment.isTidy_unsupported _ (by decide) (by decide))

end DhcpSnooping

namespace SshServer

variable {s : SshServer} {u : SshUser}

private theorem isPlain_of_mem_usableUsers (h : IsPlain s) (hu : u ∈ s.usableUsers) :
    IsOneLine u.username ∧ IsOneLine u.password := by
  rw [isPlain_record] at h
  simp [fields] at h
  have hplain : IsPlain u := by simp [h, List.mem_of_mem_filter hu]
  rw [isPlain_record] at hplain
  simp [SshUser.fields] at hplain
  simp [hplain]

private theorem isInside_inbound {keyword : String} (hkeyword : IsOneLine keyword) (h : IsPlain s) :
    (s.inbound keyword).IsInside := by
  rw [isPlain_record] at h
  simp [fields] at h
  rw [inbound]
  simp +decide [hkeyword, h]

private theorem settled_h3cUser (hname : IsOneLine u.username) (hpassword : IsOneLine u.password) :
    Settled .h3c (h3cUser u) := by
  have hopens : Opens [.blank,
      command s!"local-user {u.username} class manage" s!"Creates management user {u.username}.",
      command s!" password simple {u.password}",
      command " service-type ssh",
      command " authorization-attribute user-role network-admin"] := by
    simp +decide [hname, hpassword]
  exact .block hopens

private theorem settled_h3cEntries (h : IsPlain s) : Settled .h3c s.h3cEntries := by
  have husers : Settled .h3c (s.usableUsers.flatMap h3cUser) := by
    refine .flatMap fun u hu => ?_
    obtain ⟨hname, hpassword⟩ := isPlain_of_mem_usableUsers h hu
    exact settled_h3cUser hname hpassword
  have hinbound : (s.inbound "protocol inbound").IsInside := isInside_inbound (by decide) h
  rw [isPlain_record] at h
  simp [fields] at h
  have hline : Opens [.blank,
      command s!"line vty {s.vtyLines}",
      command s!" authentication-mode {s.authenticationMode}" "Authenticates vty logins.",
      command " user-role network-admin",
      s.inbound "protocol inbound"] := by
    simp +decide [hinbound, h]
  exact .append (.cons_command (by simp +decide) husers) (.block hline)

private theorem areInside_huaweiUser (hname : IsOneLine u.username)
    (hpassword : IsOneLine u.password) :
    AreInside (huaweiUser u) := by
  rw [huaweiUser]
  simp +decide [hname, hpassword]

private theorem settled_huaweiEntries (h : IsPlain s) : Settled .huawei s.huaweiEntries := by
  have husers : AreInside (s.usableUsers.flatMap huaweiUser) := by
    refine .flatMap fun u hu => ?_
    obtain ⟨hname, hpassword⟩ := isPlain_of_mem_usableUsers h hu
    exact areInside_huaweiUser hname hpassword
  have hlogins : AreOuter (s.usableUsers.map fun u =>
      command s!"ssh user {u.username} authentication-type password") := by
    refine .map fun u hu => ?_
    simp +decide [(isPlain_of_mem_usableUsers h hu).1]
  have hinbound : (s.inbound "protocol inbound").IsInside := isInside_inbound (by decide) h
  rw [isPlain_record] at h
  simp [fields] at h
  have hglobals : AreOuter (command "stelnet server enable" "Enables the STelnet (SSH) server."
      :: onlyIf (s.sourceInterface ≠ "")
        [.blank,
         command s!"ssh server-source -i {s.sourceInterface}"
          "Restricts SSH to this source interface."]) := by
    simp +decide [h]
  have haccounts : Opens ([.blank, command "aaa"] ++ s.usableUsers.flatMap huaweiUser) := by
    simp +decide [↓husers]
  have hline : Opens [.blank,
      command s!"user-interface vty {s.vtyLines}",
      command " authentication-mode aaa" "vty logins authenticate against AAA.",
      command " user privilege level 15",
      s.inbound "protocol inbound"] := by
    simp +decide [hinbound, h]
  have hafter := (Settled.of_areOuter hlogins).append (Settled.block hline : Settled .huawei _)
  have hview := Settled.close haccounts (hafter.cons_aside Entry.isAside_blank) ""
  rw [List.append_assoc] at hview
  rw [huaweiEntries]
  simp only [List.append_assoc]
  exact (Settled.of_areOuter hglobals).append hview

private theorem settled_ciscoEntries (h : IsPlain s) : Settled .cisco s.ciscoEntries := by
  have husers : AreOuter (s.usableUsers.map ciscoUser) := by
    refine .map fun u hu => ?_
    obtain ⟨hname, hpassword⟩ := isPlain_of_mem_usableUsers h hu
    rw [ciscoUser]
    simp +decide [hname, hpassword]
  have hinbound : (s.inbound "transport input").IsInside := isInside_inbound (by decide) h
  rw [isPlain_record] at h
  simp [fields] at h
  have hglobals : AreOuter (onlyIf (s.domainName ≠ "")
        [command s!"ip domain-name {s.domainName}" "The RSA key is named after the domain."]
      ++ [command "crypto key generate rsa modulus 2048" "Generates the host key.",
         command "ip ssh version 2" "Allows SSH version 2 only.",
         .blank]
      ++ s.usableUsers.map ciscoUser) := by
    simp +decide [↓husers, h]
  have hline : Opens [.blank,
      command s!"line vty {s.vtyLines}",
      command " login local" "Authenticates against local users.",
      s.inbound "transport input"] := by
    simp +decide [hinbound, h]
  exact .append (.of_areOuter hglobals) (.block hline)

/-- SSH of plain settings is tidy. -/
theorem isTidy_render (h : IsPlain s) (vendor : Vendor) : (s.render vendor).IsTidy vendor := by
  unfold render
  split
  · exact Fragment.isTidy_nothing vendor _
  · cases vendor with
    | cisco => exact (settled_ciscoEntries h).isTidy_build _
    | huawei => exact (settled_huaweiEntries h).isTidy_build _
    | h3c => exact (settled_h3cEntries h).isTidy_build _
    | generic => exact Fragment.isTidy_unsupported _ (by decide) (by decide)

end SshServer

namespace ServiceTemplate

variable {t : ServiceTemplate}

private theorem areInside_securityLines (mode : String) :
    AreInside ((securityLines mode).map (command ·)) := by
  have hall : ∀ line ∈ [" security-ie wpa", " security-ie rsn", " cipher-suite tkip",
      " cipher-suite ccmp"], IsOneLine line ∧ opensIndented line := by decide
  have hlines : ∀ line ∈ securityLines mode, IsOneLine line ∧ opensIndented line := by
    refine fun line hline => hall line ?_
    rw [securityLines] at hline
    split_ifs at hline <;> simp at hline ⊢ <;> tauto
  refine .map fun line hline => ?_
  obtain ⟨honeLine, hopens⟩ := hlines line hline
  simp [honeLine, hopens]

private theorem areInside_authentication (h : IsPlain t) : AreInside t.authentication := by
  rw [isPlain_record] at h
  simp [fields] at h
  unfold authentication
  simp +decide [↓areInside_securityLines, h]

private theorem settled_entries (h : IsPlain t) : Settled .h3c t.entries := by
  have hauthentication := areInside_authentication h
  rw [isPlain_record] at h
  simp [fields] at h
  refine .block ?_
  simp +decide [hauthentication, h]

end ServiceTemplate

namespace Wireless

variable {w : Wireless} {g : ApGroup} {a : AccessPoint}

private theorem settled_h3cAccessPoint (h : IsPlain a) : Settled .h3c (h3cAccessPoint a) := by
  rw [isPlain_record] at h
  simp [AccessPoint.fields] at h
  refine .onlyIf fun _ => .block ?_
  simp +decide [h]

private theorem areInside_templateEntries (h : IsPlain w) {radioId name : String}
    (hname : IsOneLine name) : AreInside (w.templateEntries radioId name) := by
  rw [isPlain_record] at h
  simp [fields] at h
  refine .map fun t ht => ?_
  have hplain : IsPlain t := by
    have hfound := List.mem_of_find?_eq_some (Option.mem_toList.mp ht)
    simp [h, List.mem_reverse.mp hfound]
  rw [isPlain_record] at hplain
  simp [ServiceTemplate.fields] at hplain
  simp +decide [hname, hplain]

private theorem areInside_radioEntries (h : IsPlain w) (hg : IsPlain g) {radioId : String}
    (hid : IsOneLine radioId) {r : Radio} (hr : IsPlain r) :
    AreInside (w.radioEntries g radioId r) := by
  rw [isPlain_record] at hg hr
  simp [ApGroup.fields] at hg
  simp [Radio.fields] at hr
  have htemplates : AreInside (g.serviceTemplates.flatMap (w.templateEntries radioId)) :=
    .flatMap fun name hname => areInside_templateEntries h (by simp [hg, hname])
  rw [radioEntries]
  simp +decide [↓htemplates, hid, hr]

private theorem isOneLine_of_mem_groupMembers (h : IsPlain w) (ha : a ∈ w.groupMembers g) :
    IsOneLine a.apName ∧ IsOneLine a.model := by
  rw [isPlain_record] at h
  simp [fields] at h
  have hplain : IsPlain a := by simp [h, List.mem_of_mem_filter ha]
  rw [isPlain_record] at hplain
  simp [AccessPoint.fields] at hplain
  simp [hplain]

private theorem areInside_modelEntries (h : IsPlain w) (hg : IsPlain g) {model : String}
    (hmodel : IsOneLine model) :
    AreInside (command s!" ap-model \"{model}\""
      :: w.radioEntries g "1" g.radio5g ++ w.radioEntries g "2" g.radio2g
      ++ [command " quit"]) := by
  have hfields := hg
  rw [isPlain_record] at hfields
  simp [ApGroup.fields] at hfields
  have hfast : AreInside (w.radioEntries g "1" g.radio5g) :=
    areInside_radioEntries h hg (by decide) (by simp [hfields])
  have hslow : AreInside (w.radioEntries g "2" g.radio2g) :=
    areInside_radioEntries h hg (by decide) (by simp [hfields])
  simp +decide [hmodel, hfast, hslow]

private theorem settled_h3cGroup (h : IsPlain w) (hg : IsPlain g) :
    Settled .h3c (w.h3cGroup g) := by
  have hmembers : AreInside ((w.groupMembers g).map fun a => command s!" ap \"{a.apName}\"") := by
    refine .map fun a ha => ?_
    simp +decide [(isOneLine_of_mem_groupMembers h ha).1]
  have hmodels : AreInside
      ((((w.groupMembers g).map (·.model)).filter (· ≠ "")).eraseDups.flatMap fun model =>
        command s!" ap-model \"{model}\"" :: w.radioEntries g "1" g.radio5g
          ++ w.radioEntries g "2" g.radio2g ++ [command " quit"]) := by
    refine .flatMap fun model hmodel => areInside_modelEntries h hg ?_
    obtain ⟨a, ha, rfl⟩ := List.mem_map.mp (List.mem_of_mem_filter (List.mem_eraseDups.mp hmodel))
    exact (isOneLine_of_mem_groupMembers h ha).2
  rw [isPlain_record] at hg
  simp [ApGroup.fields] at hg
  refine .onlyIf fun _ => .block ?_
  simp +decide [↓hmembers, ↓hmodels, hg]

private theorem settled_h3cEntries (h : IsPlain w) : Settled .h3c w.h3cEntries := by
  have hfields := h
  rw [isPlain_record] at hfields
  simp [fields] at hfields
  refine .append (.append (.flatMap fun t ht => ?_) (.flatMap fun a ha => ?_))
    (.flatMap fun g hg => ?_)
  · exact ServiceTemplate.settled_entries (by simp [hfields, List.mem_of_mem_filter ht])
  · exact settled_h3cAccessPoint (by simp [hfields, ha])
  · exact settled_h3cGroup h (by simp [hfields, hg])

private theorem areInside_controllerEntries {c : AccessController} (h : IsPlain c) :
    AreInside (controllerEntries c) := by
  rw [isPlain_record] at h
  simp [AccessController.fields] at h
  rw [controllerEntries]
  simp +decide [h]

private theorem areInside_securityProfile {p : SecurityProfile} (h : IsPlain p) :
    AreInside (securityProfile p) := by
  rw [isPlain_record] at h
  simp [SecurityProfile.fields] at h
  rw [securityProfile]
  simp +decide [h]

private theorem areInside_ssidProfile {p : SsidProfile} (h : IsPlain p) :
    AreInside (ssidProfile p) := by
  rw [isPlain_record] at h
  simp [SsidProfile.fields] at h
  rw [ssidProfile]
  simp +decide [h]

private theorem areInside_vapProfile {p : VapProfile} (h : IsPlain p) :
    AreInside (vapProfile p) := by
  rw [isPlain_record] at h
  simp [VapProfile.fields] at h
  rw [vapProfile]
  simp +decide [h]

private theorem areInside_huaweiGroup (h : IsPlain g) : AreInside (huaweiGroup g) := by
  rw [isPlain_record] at h
  simp [ApGroup.fields] at h
  have hbindings : AreInside ((g.vapBindings.filter (·.vapProfileName ≠ "")).map fun b =>
      command s!"  vap-profile \"{b.vapProfileName}\" wlan 1 radio {b.radio}") := by
    refine .map fun b hb => ?_
    have hplain : IsPlain b := by simp [h, List.mem_of_mem_filter hb]
    rw [isPlain_record] at hplain
    simp [VapBinding.fields] at hplain
    simp +decide [hplain]
  rw [huaweiGroup]
  simp +decide [↓hbindings, h]

private theorem areInside_huaweiAccessPoint (h : IsPlain a) (index : Nat) :
    AreInside (huaweiAccessPoint index a) := by
  rw [isPlain_record] at h
  simp [AccessPoint.fields] at h
  unfold huaweiAccessPoint
  simp +decide [Mac.isOneLine_dashed, h]

private theorem areInside_huaweiAccessPoints (h : IsPlain w) :
    AreInside ((numbered 0 (w.apDevices.filter (·.macAddress ≠ ""))).flatMap
      fun (i, a) => huaweiAccessPoint i a) := by
  rw [isPlain_record] at h
  simp [fields] at h
  refine .flatMap fun a ha => areInside_huaweiAccessPoint ?_ a.1
  simp [h, List.mem_of_mem_filter (mem_of_mem_numbered ha)]

private theorem settled_huaweiEntries (h : IsPlain w) : Settled .huawei w.huaweiEntries := by
  have hpoints := areInside_huaweiAccessPoints h
  rw [isPlain_record] at h
  simp [fields] at h
  have hcontroller : AreInside (controllerEntries w.acConfig) :=
    areInside_controllerEntries (by simp [h])
  have hsecurity : AreInside (w.securityProfiles.flatMap securityProfile) :=
    .flatMap fun p hp => areInside_securityProfile (by simp [h, hp])
  have hssid : AreInside (w.ssidProfiles.flatMap ssidProfile) :=
    .flatMap fun p hp => areInside_ssidProfile (by simp [h, hp])
  have hvap : AreInside (w.vapProfiles.flatMap vapProfile) :=
    .flatMap fun p hp => areInside_vapProfile (by simp [h, hp])
  have hgroups : AreInside (w.apGroups.flatMap huaweiGroup) :=
    .flatMap fun g hg => areInside_huaweiGroup (by simp [h, hg])
  refine .block ?_
  simp +decide [↓hcontroller, ↓hsecurity, ↓hssid, ↓hvap, ↓hgroups, ↓hpoints]

/-- The wireless settings are tidy, if they are plain. -/
theorem isTidy_render (h : IsPlain w) (vendor : Vendor) : (w.render vendor).IsTidy vendor := by
  unfold render
  split
  · exact Fragment.isTidy_nothing vendor _
  · cases vendor with
    | h3c => exact (settled_h3cEntries h).isTidy_ofEntries _ _
    | huawei => exact (settled_huaweiEntries h).isTidy_ofEntries _ _
    | cisco => exact Fragment.isTidy_unsupported _ (by decide) (by decide)
    | generic => exact Fragment.isTidy_unsupported _ (by decide) (by decide)

end Wireless

end Netscribe
