import Netscribe.Mlag.Commands
import Netscribe.Proofs.Fault.Reading
import Netscribe.Proofs.LinkAggregation.Aggregate
import Netscribe.Proofs.Schema.Texts
import Netscribe.Proofs.View.Entries
/-!
The views of aggregates: the interfaces of aggregation groups with their members, and what makes
aggregates span two devices.
-/
namespace Netscribe

open Outcome (Ensures)
open Text (IsOneLine opensCommand opensIndented)
open Vlan (PortLine)

namespace Vlan.PortLine

private theorem isOneLine_of_mem_switching (vendor : Vendor) :
    ∀ line ∈ switching, IsOneLine (line.text vendor) := by
  cases vendor <;> decide

private theorem isOneLine_access (vendor : Vendor) {vlan : String} (h : IsOneLine vlan) :
    IsOneLine ((access vlan).text vendor) := by
  have hwords : IsOneLine (accessWords vendor) := by cases vendor <;> decide
  exact Text.isOneLine_append.mpr ⟨hwords, h⟩

/-- The lines of a port are indented. -/
theorem opensIndented_text (vendor : Vendor) (line : PortLine) :
    opensIndented (line.text vendor) := by
  cases line with
  | plain command => simp +decide [text]
  | access vlan => cases vendor <;> simp +decide [text, accessWords]
  | native vlan => cases vendor <;> simp +decide [text, nativeWords]
  | allowed ids => cases vendor <;> simp +decide [text, allowedWords]

end Vlan.PortLine

private theorem Vlan.isOneLine_listForm (vendor : Vendor) (ids : List Int) :
    IsOneLine (Vlan.listForm vendor ids) := by
  rw [listForm]
  split
  · exact linefeed_not_mem_spacedList ids
  · exact linefeed_not_mem_dashedList ids

namespace AggregationGroup

/-- The parts of a group leave every view, each of them on its own. -/
structure Parts.AreSettled (vendor : Vendor) (p : Parts) : Prop where
  globals : AreOuter p.globals
  aggregate : Settled vendor p.aggregate
  members : Settled vendor p.members

private theorem Parts.AreSettled.entries {vendor : Vendor} {p : Parts} (h : p.AreSettled vendor) :
    Settled vendor p.entries := by
  have hparts : ∀ part ∈ [p.globals, p.aggregate, p.members], Settled vendor part := by
    simp [Settled.of_areOuter h.globals, h.aggregate, h.members]
  exact .flatMap fun part hpart => .onlyIf fun _ =>
    .cons_aside Entry.isAside_blank (hparts part hpart)

private theorem isInside_entry {vendor : Vendor} {line : PortLine}
    (h : IsOneLine (line.text vendor)) :
    (switchedEntries.entry vendor line).IsInside := by
  rw [switchedEntries.entry]
  simp [h, PortLine.opensIndented_text]

private theorem ensures_allowedEntries (g : AggregationGroup) {keyword : String}
    {form : List Int → String}
    (hkeyword : IsOneLine keyword) (hform : ∀ ids, IsOneLine (form ids)) :
    Ensures AreInside Fault.IsOneLine (g.allowedEntries keyword form) := by
  refine (Vlan.ensures_parseIds g.trunkAllowedVlans).bind fun allowed _ => .pure ?_
  simp +decide [hkeyword, hform]

private theorem ensures_trunkEntries (g : AggregationGroup) {keyword : String}
    {form : List Int → String}
    (hkeyword : IsOneLine keyword) (hform : ∀ ids, IsOneLine (form ids)) :
    Ensures AreInside Fault.IsOneLine (g.trunkEntries keyword form) := by
  rw [trunkEntries]
  split
  · exact ensures_allowedEntries g hkeyword hform
  · exact .pure areInside_nil

variable {g : AggregationGroup}

private theorem areInside_modeEntries {access trunk allowed : List Entry} {nativeKeyword : String}
    (h : IsPlain g) (haccess : AreInside access) (htrunk : AreInside trunk)
    (hallowed : AreInside allowed) (hnative : IsOneLine nativeKeyword) :
    AreInside (g.modeEntries access trunk nativeKeyword allowed) := by
  rw [isPlain_record] at h
  simp [fields] at h
  rw [modeEntries]
  simp +decide [haccess, htrunk, hallowed, hnative, h]

/-- An interface that is switched takes single lines within its view, in every dialect. -/
theorem ensures_switchedEntries (h : IsPlain g) (vendor : Vendor)
    {nativeKeyword allowedKeyword : String} (hnative : IsOneLine nativeKeyword)
    (hallowed : IsOneLine allowedKeyword) :
    Ensures AreInside Fault.IsOneLine (g.switchedEntries vendor nativeKeyword allowedKeyword) := by
  have hline : ∀ line ∈ PortLine.switching, (switchedEntries.entry vendor line).IsInside :=
    fun line hline => isInside_entry (Vlan.PortLine.isOneLine_of_mem_switching vendor line hline)
  have hvlan : IsOneLine g.accessVlan := by
    rw [isPlain_record] at h
    simp [fields] at h
    simp [h]
  have haccess : AreInside
      ((PortLine.modeLine vendor "access" ++ [PortLine.access g.accessVlan]).map
        (switchedEntries.entry vendor)) := by
    refine .map (List.forall_mem_append.mpr ⟨?_, List.forall_mem_singleton.mpr ?_⟩)
    · exact fun line hmode => hline line (PortLine.forall_mem_modeLine_access vendor line hmode)
    · exact isInside_entry (Vlan.PortLine.isOneLine_access vendor hvlan)
  have htrunk : AreInside ((PortLine.modeLine vendor "trunk").map (switchedEntries.entry vendor)) :=
    .map fun line hmode => hline line (PortLine.forall_mem_modeLine_trunk vendor line hmode)
  refine (ensures_trunkEntries g hallowed (Vlan.isOneLine_listForm vendor)).bind
    fun allowed hentries => .pure ?_
  exact areInside_modeEntries h haccess htrunk hentries hnative

private theorem ensures_ciscoMode (h : IsPlain g) :
    Ensures AreInside Fault.IsOneLine g.ciscoMode := by
  by_cases hrouted : g.interfaceMode = "l3"
  · rw [ciscoMode, if_pos hrouted]
    refine .pure ?_
    simp +decide
  · rw [ciscoMode_eq g hrouted]
    exact ensures_switchedEntries h .cisco (by decide) (by decide)

private theorem ensures_huaweiMode (h : IsPlain g) :
    Ensures AreInside Fault.IsOneLine g.huaweiMode := by
  by_cases hrouted : g.interfaceMode = "l3"
  · rw [huaweiMode, if_pos hrouted]
    refine .pure ?_
    simp +decide
  · rw [huaweiMode_eq g hrouted]
    exact ensures_switchedEntries h .huawei (by decide) (by decide)

private theorem ensures_h3cMode (h : IsPlain g) : Ensures AreInside Fault.IsOneLine g.h3cMode := by
  rw [h3cMode_eq]
  exact ensures_switchedEntries h .h3c (by decide) (by decide)

/-- The names of aggregates are those that the vendors give them, with the id of the group. -/
theorem isOneLine_interfaceName (h : IsPlain g) (vendor : Vendor) :
    IsOneLine (g.interfaceName vendor) := by
  rw [isPlain_record] at h
  simp [fields] at h
  unfold interfaceName
  cases vendor <;> simp +decide [h]

private theorem isPlain_of_mem_namedMembers (h : IsPlain g) {m : AggregationMember}
    (hm : m ∈ g.namedMembers) : IsPlain m := by
  rw [isPlain_record] at h
  simp [fields] at h
  simp [h, List.mem_of_mem_filter hm]

private theorem settled_ciscoMember (h : IsPlain g) {name : String} (hname : IsOneLine name) :
    Settled .cisco (g.ciscoMember name) := by
  rw [isPlain_record] at h
  simp [fields] at h
  have hopens : Opens [command s!"interface {name}",
      command s!" channel-group {g.groupId} mode {g.mode}"
        s!"Bundles {name} into Port-channel{g.groupId}.",
      command " no shutdown"] := by
    simp +decide [hname, h]
  exact .block hopens

private theorem ensures_ciscoParts (h : IsPlain g) :
    Ensures (Parts.AreSettled .cisco) Fault.IsOneLine g.ciscoParts := by
  have hname := isOneLine_interfaceName h .cisco
  have hmembers : Settled .cisco (g.memberNames.flatMap g.ciscoMember) := by
    refine .flatMap fun name hmember => settled_ciscoMember h ?_
    rw [isPlain_record] at h
    simp [fields] at h
    obtain ⟨m, hm, rfl⟩ := List.mem_map.mp (List.mem_of_mem_filter hmember)
    have hplain : IsPlain m := by simp [h, hm]
    rw [isPlain_record] at hplain
    simp [AggregationMember.fields] at hplain
    simp [hplain]
  unfold ciscoParts
  refine (ensures_ciscoMode h).bind fun mode hmode => .pure ?_
  rw [isPlain_record] at h
  simp [fields] at h
  refine ⟨?_, .block ?_, hmembers⟩
  · simp +decide [h]
  · simp +decide [hname, ↓hmode, h]

private theorem areOuter_huaweiGlobals (h : IsPlain g) : AreOuter g.huaweiGlobals := by
  rw [isPlain_record] at h
  simp [fields] at h
  unfold huaweiGlobals
  simp +decide [h]

private theorem areInside_huaweiPreemption (h : IsPlain g) : AreInside g.huaweiPreemption := by
  rw [isPlain_record] at h
  simp [fields] at h
  rw [huaweiPreemption]
  simp +decide [h]

private theorem settled_huaweiMember (h : IsPlain g) {m : AggregationMember} (hm : IsPlain m) :
    Settled .huawei (g.huaweiMember m) := by
  rw [isPlain_record] at h hm
  simp [fields] at h
  simp [AggregationMember.fields] at hm
  rw [huaweiMember, List.append_cons]
  refine .block ?_
  simp +decide [h, hm]

private theorem ensures_huaweiParts (h : IsPlain g) :
    Ensures (Parts.AreSettled .huawei) Fault.IsOneLine g.huaweiParts := by
  have hname := isOneLine_interfaceName h .huawei
  have hglobals := areOuter_huaweiGlobals h
  have hpreemption := areInside_huaweiPreemption h
  have hmembers : Settled .huawei (g.namedMembers.flatMap g.huaweiMember) :=
    .flatMap fun m hm => settled_huaweiMember h (isPlain_of_mem_namedMembers h hm)
  unfold huaweiParts
  refine (ensures_huaweiMode h).bind fun mode hmode => .pure ?_
  rw [isPlain_record] at h
  simp [fields] at h
  refine ⟨hglobals, .block ?_, hmembers⟩
  simp +decide [hname, ↓hmode, ↓hpreemption, h]

private theorem areInside_h3cLacp {m : AggregationMember} (h : IsPlain m) :
    AreInside (h3cLacp m) := by
  rw [isPlain_record] at h
  simp [AggregationMember.fields] at h
  rw [h3cLacp]
  simp +decide [h]

private theorem settled_h3cMember (h : IsPlain g) {m : AggregationMember} (hm : IsPlain m) :
    Settled .h3c (g.h3cMember m) := by
  have hlacp := areInside_h3cLacp hm
  rw [isPlain_record] at h hm
  simp [fields] at h
  simp [AggregationMember.fields] at hm
  refine .block ?_
  simp +decide [↓hlacp, h, hm]

private theorem ensures_h3cParts (h : IsPlain g) :
    Ensures (Parts.AreSettled .h3c) Fault.IsOneLine g.h3cParts := by
  have hname := isOneLine_interfaceName h .h3c
  have hmembers : Settled .h3c (g.namedMembers.flatMap g.h3cMember) :=
    .flatMap fun m hm => settled_h3cMember h (isPlain_of_mem_namedMembers h hm)
  unfold h3cParts
  refine (ensures_h3cMode h).bind fun mode hmode => .pure ?_
  rw [isPlain_record] at h
  simp [fields] at h
  refine ⟨?_, .block ?_, hmembers⟩
  · simp +decide [h]
  · simp +decide [hname, ↓hmode, h]

private theorem ensures_parts (h : IsPlain g) (vendor : Vendor) :
    Ensures (Parts.AreSettled vendor) Fault.IsOneLine (g.parts vendor) := by
  cases vendor with
  | cisco => exact ensures_ciscoParts h
  | huawei => exact ensures_huaweiParts h
  | h3c => exact ensures_h3cParts h
  | generic => exact .pure ⟨areOuter_nil, .nil, .nil⟩

end AggregationGroup

namespace LinkAggregation

variable {l : LinkAggregation} {vendor : Vendor}

/-- The complete groups of a device leave every view, whatever its vendor. -/
theorem ensures_parts (h : IsPlain l) (vendor : Vendor) :
    Ensures (∀ p ∈ ·, p.AreSettled vendor) Fault.IsOneLine
      (l.completeGroups.mapM (·.parts vendor)) := by
  rw [isPlain_record] at h
  simp [fields] at h
  exact .mapM fun g hg => AggregationGroup.ensures_parts (h g (List.mem_of_mem_filter hg)) vendor

/-- Settled groups are settled together. -/
theorem settled_entries {groups : List AggregationGroup.Parts}
    (h : ∀ parts ∈ groups, parts.AreSettled vendor) :
    Settled vendor (groups.flatMap (·.entries)) :=
  .flatMap fun parts hparts => (h parts hparts).entries

/-- The link aggregation of plain settings is tidy, and so are its faults. -/
theorem ensures_render (h : IsPlain l) (vendor : Vendor) :
    Ensures (Fragment.IsTidy vendor) Fault.IsOneLine (l.render vendor) := by
  have hfinish : Ensures (Fragment.IsTidy vendor) Fault.IsOneLine
      (do return render.finish (← l.completeGroups.mapM (·.parts vendor))) :=
    (ensures_parts h vendor).bind fun groups hsettled =>
      .pure ((settled_entries hsettled).isTidy_ofEntries _ _)
  unfold render
  split
  · exact .pure (Fragment.isTidy_nothing vendor _)
  · cases vendor with
    | cisco | huawei | h3c => exact hfinish
    | generic => exact .pure (Fragment.isTidy_unsupported _ (by decide) (by decide))

end LinkAggregation

namespace H3cMlag

private theorem areOuter_confirmed {text : String} (hopens : opensCommand text)
    (htext : IsOneLine text)
    (why : String) : AreOuter (confirmed text why) := by
  rw [confirmed]
  simp +decide [hopens, htext]

variable {m : H3cMlag}

private theorem areOuter_identityEntries (h : IsPlain m) : AreOuter m.identityEntries := by
  rw [isPlain_record] at h
  simp [fields] at h
  rw [identityEntries]
  simp +decide [areOuter_confirmed, h]

private theorem areOuter_standaloneEntries {s : StandaloneMode} (h : IsPlain s) :
    AreOuter (standaloneEntries s) := by
  rw [isPlain_record] at h
  simp [StandaloneMode.fields] at h
  rw [standaloneEntries]
  simp +decide [h]

private theorem areOuter_keepaliveEntries {k : MlagKeepalive} (h : IsPlain k) :
    AreOuter (keepaliveEntries k) := by
  rw [isPlain_record] at h
  simp [MlagKeepalive.fields] at h
  have htimers : IsOneLine (keepaliveTimers k) := by
    rw [keepaliveTimers]
    simp +decide [h]
  unfold keepaliveEntries
  simp +decide [htimers, h]

private theorem areOuter_detectionEntries {d : MultiActiveDetection} (h : IsPlain d) :
    AreOuter (detectionEntries d) := by
  rw [isPlain_record] at h
  simp [MultiActiveDetection.fields] at h
  have hname {i : NamedInterface} (hi : IsPlain i) : IsOneLine i.name := by
    rw [isPlain_record] at hi
    simp [NamedInterface.fields] at hi
    simp [hi]
  have hexcluded : AreOuter ((d.excludeInterfaces.filter (·.name ≠ "")).map fun i =>
      command s!"m-lag mad exclude interface {i.name}"
        s!"{i.name} stays up on MAD detection.") := by
    refine .map fun i hi => ?_
    simp +decide [hname (h.2.1 i (List.mem_of_mem_filter hi))]
  have hincluded : AreOuter ((d.includeInterfaces.filter (·.name ≠ "")).map fun i =>
      command s!"m-lag mad include interface {i.name}") := by
    refine .map fun i hi => ?_
    simp +decide [hname (h.2.2 i (List.mem_of_mem_filter hi))]
  rw [detectionEntries]
  simp +decide [↓hexcluded, ↓hincluded, h]

private theorem settled_peerLinkEntries (h : IsPlain m) : Settled .h3c m.peerLinkEntries := by
  rw [isPlain_record] at h
  simp [fields] at h
  refine .onlyIf fun _ => .block ?_
  simp +decide [h]

private theorem settled_interfaceEntries {i : DrInterface} (h : IsPlain i) :
    Settled .h3c (interfaceEntries i) := by
  rw [isPlain_record] at h
  simp [DrInterface.fields] at h
  refine .onlyIf fun _ => .block ?_
  simp +decide [h]

private theorem settled_entries (h : IsPlain m) : Settled .h3c m.entries := by
  have hidentity := areOuter_identityEntries h
  have hpeerLink := settled_peerLinkEntries h
  rw [isPlain_record] at h
  simp [fields] at h
  obtain ⟨-, -, -, -, hstandalone, -, hinterfaces, hkeepalive, hdetection⟩ := h
  have hhold : AreOuter (onlyIf m.macAddressHold [command "m-lag peer-link mac-address hold"]) := by
    simp +decide
  have hsettings : AreOuter (m.identityEntries ++ standaloneEntries m.standalone
      ++ onlyIf m.macAddressHold [command "m-lag peer-link mac-address hold"]
      ++ keepaliveEntries m.keepalive) := by
    simp [↓hidentity, ↓areOuter_standaloneEntries hstandalone, ↓hhold,
      ↓areOuter_keepaliveEntries hkeepalive]
  refine .append (.append (.append (.of_areOuter hsettings) ?_) hpeerLink) (.flatMap fun i hi => ?_)
  · exact .titled (by decide) (.of_areOuter (areOuter_detectionEntries hdetection))
  · exact settled_interfaceEntries (hinterfaces i hi)

end H3cMlag

namespace HuaweiMlag

private theorem areInside_electionEntries (m : HuaweiMlag) : AreInside m.electionEntries := by
  have hname {e : StandbyElection} : ∀ name ∈ electionNames e, IsOneLine name := by
    have hall : ∀ name ∈ ["arp", "nd", "igmp", "dhcp"], IsOneLine name := by decide
    intro name hname
    obtain ⟨choice, hchoice, rfl⟩ := List.mem_map.mp hname
    exact hall _ (List.mem_map_of_mem (f := Prod.fst) (List.mem_of_mem_filter hchoice))
  have hnames : IsOneLine
      (Text.unwords (m.activeStandbyElection.toList.flatMap electionNames)) := by
    refine Text.isOneLine_unwords.mpr fun name hmem => ?_
    obtain ⟨election, -, helection⟩ := List.mem_flatMap.mp hmem
    exact hname name helection
  unfold electionEntries
  simp +decide [hnames]

variable {m : HuaweiMlag}

private theorem settled_groupEntries (h : IsPlain m) : Settled .huawei m.groupEntries := by
  have helection := areInside_electionEntries m
  rw [isPlain_record] at h
  simp [fields] at h
  refine .block ?_
  simp +decide [↓helection, h]

private theorem settled_peerLinkEntries (h : IsPlain m) : Settled .huawei m.peerLinkEntries := by
  rw [isPlain_record] at h
  simp [fields] at h
  have hopens : Opens [.blank, remark "Peer-Link Configuration",
      command s!"interface Eth-Trunk{m.peerLinkTrunkId}",
      command s!" peer-link {m.peerLinkTrunkId}" "Carries synchronisation traffic between peers.",
      command " stp enable"] := by
    simp +decide [h]
  exact .onlyIf fun _ => .block hopens

private theorem settled_trunkEntries (h : IsPlain m) {t : MlagTrunk} (ht : IsPlain t) :
    Settled .huawei (m.trunkEntries t) := by
  rw [isPlain_record] at h ht
  simp [fields] at h
  simp [MlagTrunk.fields] at ht
  have hopens : Opens [command s!"interface Eth-Trunk{t.ethTrunkId}",
      command (s!" dfs-group {m.dfsGroupId} m-lag {t.mlagId}"
          ++ textIf (isActiveStandby t) " active-standby")
        s!"Binds Eth-Trunk{t.ethTrunkId} to M-LAG {t.mlagId}."] := by
    simp +decide [h, ht]
  exact .onlyIf fun _ => .block hopens

private theorem settled_entries (h : IsPlain m) : Settled .huawei m.entries := by
  have hgroup := settled_groupEntries h
  have hpeerLink := settled_peerLinkEntries h
  have htrunks : Settled .huawei (m.interfaces.flatMap m.trunkEntries) := by
    refine .flatMap fun t ht => settled_trunkEntries h ?_
    rw [isPlain_record] at h
    simp [fields] at h
    simp [h, ht]
  refine .append (.append (hgroup.cons_aside (Entry.isAside_note _)) hpeerLink) ?_
  exact .titled (by decide) htrunks

end HuaweiMlag

/-- The M-LAG of plain settings is tidy. -/
theorem Mlag.isTidy_render {m : Mlag} (h : IsPlain m) (vendor : Vendor) :
    (m.render vendor).IsTidy vendor := by
  rw [isPlain_record] at h
  simp [fields] at h
  obtain ⟨hh3c, hhuawei⟩ := Field.isPlain_variant h
  unfold render
  split
  · exact Fragment.isTidy_nothing vendor _
  · split
    next settings hsettings => exact (H3cMlag.settled_entries (hh3c _ hsettings)).isTidy_build _
    next settings hsettings =>
      exact (HuaweiMlag.settled_entries (hhuawei _ hsettings)).isTidy_build _
    next => exact Fragment.isTidy_unsupported _ (by decide) (Vendor.isOneLine_name _)

end Netscribe
