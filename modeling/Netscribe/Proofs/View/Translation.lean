import Netscribe.Nat.Commands
import Netscribe.Proofs.Script.Grouping
import Netscribe.Proofs.View.Routing
/-!
The views of NAT: pools of addresses, groups of servers, and the rules that translate.
-/
namespace Netscribe

open Text (IsOneLine opensCommand opensIndented)

@[simp ↓]
theorem isOneLine_spacedParts {parts : List String} :
    IsOneLine (spacedParts parts) ↔ ∀ part ∈ parts, IsOneLine part := by
  have hempty : IsOneLine "" := by decide
  have hblank : IsOneLine " " := by decide
  rw [spacedParts, Text.isOneLine_concat, List.forall_mem_map]
  simp only [Text.isOneLine_append, hblank, true_and]
  constructor
  · intro h part hpart
    by_cases hnone : part = ""
    · exact hnone ▸ hempty
    · exact h part (List.mem_filter.mpr ⟨hpart, by simpa using hnone⟩)
  · exact fun h part hpart => h part (List.mem_of_mem_filter hpart)

namespace HuaweiNat

private theorem areInside_sections {p : HuaweiNatPool} (h : IsPlain p) :
    AreInside ((p.sections.filter (·.startAddress ≠ "")).map sectionEntry) := by
  rw [isPlain_record] at h
  simp [HuaweiNatPool.fields] at h
  refine .map fun s hs => ?_
  have hplain : IsPlain s := by simp [h, List.mem_of_mem_filter hs]
  rw [isPlain_record] at hplain
  simp [PoolSection.fields] at hplain
  unfold sectionEntry
  simp +decide [hplain]

private theorem settled_poolEntries {p : HuaweiNatPool} (h : IsPlain p) :
    Settled .huawei (poolEntries p) := by
  have hsections := areInside_sections h
  rw [isPlain_record] at h
  simp [HuaweiNatPool.fields] at h
  refine .close ?_ (.cons_aside Entry.isAside_blank .nil) ""
  simp +decide [↓hsections, h]

private theorem areInside_ruleEntries {r : HuaweiNatRule} (h : IsPlain r) :
    AreInside (ruleEntries r) := by
  rw [isPlain_record] at h
  simp [HuaweiNatRule.fields] at h
  rw [ruleEntries]
  simp +decide [actionLine, h]

private theorem isOneLine_line {s : NatServer} (h : IsPlain s) (deviceType : DeviceType) :
    IsOneLine (s.line deviceType) := by
  rw [isPlain_record] at h
  simp [NatServer.fields] at h
  have hglobal : IsOneLine s.globalPart := by
    unfold NatServer.globalPart
    simp +decide [h]
  unfold NatServer.line
  simp +decide [hglobal, h]

private theorem isOuter_serverEntry {s : NatServer} (h : IsPlain s) (deviceType : DeviceType) :
    (serverEntry deviceType s).IsOuter := by
  have hopens : opensCommand (s.line deviceType) := by
    unfold NatServer.line
    simp +decide
  rw [serverEntry]
  simp [hopens, isOneLine_line h]

variable {n : HuaweiNat}

private theorem settled_policyEntries (h : IsPlain n) : Settled .huawei n.policyEntries := by
  rw [isPlain_record] at h
  simp [fields] at h
  have hrules : AreInside ((n.rules.filter (·.ruleName ≠ "")).flatMap ruleEntries) :=
    .flatMap fun r hr => areInside_ruleEntries (by simp [h, List.mem_of_mem_filter hr])
  refine .onlyIf fun _ => .block ?_
  simp +decide [↓hrules]

private theorem settled_entries (h : IsPlain n) (deviceType : DeviceType) :
    Settled .huawei (n.entries deviceType) := by
  have hpolicy := settled_policyEntries h
  rw [isPlain_record] at h
  simp [fields] at h
  have hpools : Settled .huawei ((n.addressPools.filter (·.groupName ≠ "")).flatMap poolEntries) :=
    .flatMap fun p hp => settled_poolEntries (by simp [h, List.mem_of_mem_filter hp])
  have hservers : AreOuter ((n.servers.filter (·.name ≠ "")).map (serverEntry deviceType)) :=
    .map fun s hs => isOuter_serverEntry (by simp [h, List.mem_of_mem_filter hs]) deviceType
  refine .append (.append (.titled (by decide) hpools) hpolicy) ?_
  exact .titled (by decide) (.of_areOuter hservers)

end HuaweiNat

private theorem Acls.isOneLine_numberPart {acls : Acls} {keyword : String} (h : IsPlain acls)
    (hkeyword : IsOneLine keyword) (id : String) : IsOneLine (acls.numberPart keyword id) := by
  rw [numberPart]
  split
  next a ha => simp +decide [hkeyword, (isOneLine_of_find? h ha).2]
  next => decide

private theorem forall_mem_ite {α : Type} {p : Prop} [Decidable p] {x y : Option α} {q : α → Prop} :
    (∀ a ∈ (if p then x else y), q a) ↔ (p → ∀ a ∈ x, q a) ∧ (¬p → ∀ a ∈ y, q a) := by
  split
  next hp => simp [hp]
  next hp => simp [hp]

namespace NatStaticRule

variable {r : NatStaticRule} {acls : Acls}

private theorem isOneLine_of_mem_mapping? (h : IsPlain r) :
    ∀ mapping ∈ r.mapping?, IsOneLine mapping := by
  rw [isPlain_record] at h
  simp [fields] at h
  unfold mapping?
  simp only [forall_mem_ite]
  simp +decide [h]

private theorem isCommand_of_mem_line? (h : IsPlain r) (hacls : IsPlain acls) {line : String}
    (hline : line ∈ r.line? acls) : opensCommand line ∧ IsOneLine line := by
  obtain ⟨mapping, hmapping, rfl⟩ := Option.mem_map.mp hline
  have hmappingLine := isOneLine_of_mem_mapping? h mapping hmapping
  have hreference := Acls.isOneLine_numberPart hacls (show IsOneLine "acl " by decide) r.aclId
  rw [isPlain_record] at h
  simp [fields] at h
  exact ⟨by simp +decide, by simp +decide [hmappingLine, hreference, h]⟩

end NatStaticRule

namespace GlobalNatRule

variable {r : GlobalNatRule}

private theorem areInside_ipMatch {keyword kind value : String} (hkeyword : IsOneLine keyword)
    (hkind : IsOneLine kind) (hvalue : IsOneLine value) :
    AreInside (ipMatch keyword kind value) := by
  rw [ipMatch]
  simp +decide [hkeyword, hkind, hvalue]

private theorem areInside_sourceAction (h : IsPlain r) : AreInside r.sourceAction := by
  rw [isPlain_record] at h
  simp [fields] at h
  unfold sourceAction
  simp +decide [h]

private theorem areInside_destinationAction (h : IsPlain r) : AreInside r.destinationAction := by
  rw [isPlain_record] at h
  simp [fields] at h
  rw [destinationAction]
  simp +decide [h]

private theorem areInside_entries (h : IsPlain r) (deviceType : DeviceType) :
    AreInside (r.entries deviceType) := by
  have hsource := areInside_sourceAction h
  have hdestination := areInside_destinationAction h
  rw [isPlain_record] at h
  simp [fields] at h
  have hsourceMatch : AreInside (ipMatch "source-ip" r.sourceIpType r.sourceIpValue) :=
    areInside_ipMatch (by decide) (by simp [h]) (by simp [h])
  have hdestinationMatch :
      AreInside (ipMatch "destination-ip" r.destinationIpType r.destinationIpValue) :=
    areInside_ipMatch (by decide) (by simp [h]) (by simp [h])
  unfold entries
  simp +decide [↓hsource, ↓hdestination, ↓hsourceMatch, ↓hdestinationMatch, h]

end GlobalNatRule

namespace PortMapping

variable {m : PortMapping} {acls : Acls}

private theorem isOneLine_line (h : IsPlain m) (hacls : IsPlain acls) :
    IsOneLine (m.line acls) := by
  rw [isPlain_record] at h
  simp [fields] at h
  have hglobal : IsOneLine (m.globalPart acls) := by
    unfold globalPart
    simp +decide [Acls.isOneLine_numberPart hacls, h]
  have hinside : IsOneLine m.insidePart := by
    unfold insidePart
    simp +decide [h]
  unfold line
  simp +decide [hglobal, hinside, Acls.isOneLine_numberPart hacls, h]

private theorem opensIndented_line (m : PortMapping) (acls : Acls) :
    opensIndented (m.line acls) := by
  unfold line
  simp +decide

end PortMapping

namespace H3cNat

private theorem settled_poolEntries {p : NatAddressPool} (h : IsPlain p) :
    Settled .h3c (poolEntries p) := by
  rw [isPlain_record] at h
  simp [NatAddressPool.fields] at h
  have hopens : Opens
      [command (s!"nat address-group {p.groupId}" ++ textIf (p.name ≠ "") s!" name {p.name}")
        s!"Address group {p.groupId}.",
       command s!" address {p.startAddress} {p.endAddress}"] := by
    simp +decide [h]
  exact .close hopens (.cons_aside Entry.isAside_blank .nil) ""

private theorem settled_serverGroupEntries {g : ServerGroup} (h : IsPlain g) :
    Settled .h3c (serverGroupEntries g) := by
  rw [isPlain_record] at h
  simp [ServerGroup.fields] at h
  have hmembers : AreInside (g.members.map fun m =>
      command s!" inside ip {m.ip} port {m.port} weight {m.weight}") := by
    refine .map fun m hm => ?_
    have hplain : IsPlain m := by simp [h, hm]
    rw [isPlain_record] at hplain
    simp [ServerGroupMember.fields] at hplain
    simp +decide [hplain]
  refine .close ?_ (.cons_aside Entry.isAside_blank .nil) ""
  simp +decide [↓hmembers, h]

variable {n : H3cNat} {acls : Acls}

private theorem areOuter_staticEntries (h : IsPlain n) (hacls : IsPlain acls) :
    AreOuter (n.staticEntries acls) := by
  rw [isPlain_record] at h
  simp [fields] at h
  obtain ⟨hstatic, -⟩ := h
  rw [isPlain_record] at hstatic
  simp [StaticNat.fields] at hstatic
  have hlines : AreOuter ((n.staticOutbound.rules.filterMap fun r => r.line? acls).map fun line =>
      command line "One-to-one or net-to-net static mapping.") := by
    refine .map fun line hline => ?_
    obtain ⟨r, hr, hrline⟩ := List.mem_filterMap.mp hline
    obtain ⟨hopens, honeLine⟩ :=
      NatStaticRule.isCommand_of_mem_line? (hstatic r hr) hacls hrline
    exact (Entry.isOuter_command _ hopens).mpr honeLine
  unfold staticEntries
  simp +decide [↓hlines]

private theorem settled_policyEntries (h : IsPlain n) (deviceType : DeviceType) :
    Settled .h3c (n.policyEntries deviceType) := by
  rw [isPlain_record] at h
  simp [fields] at h
  obtain ⟨-, -, -, -, hpolicy⟩ := h
  rw [isPlain_record] at hpolicy
  simp [GlobalNatPolicy.fields] at hpolicy
  have hrules : AreInside ((n.globalPolicy.rules.filter (·.name ≠ "")).flatMap
      (·.entries deviceType)) :=
    .flatMap fun r hr =>
      GlobalNatRule.areInside_entries (hpolicy r (List.mem_of_mem_filter hr)) deviceType
  refine .onlyIf fun _ => .block ?_
  simp +decide [↓hrules]

private theorem settled_mappingEntries (h : IsPlain n) (hacls : IsPlain acls) :
    Settled .h3c (n.mappingEntries acls) := by
  rw [isPlain_record] at h
  simp [fields] at h
  obtain ⟨-, hmapping, -⟩ := h
  rw [isPlain_record] at hmapping
  simp [PortMappings.fields] at hmapping
  refine .onlyIf fun _ => .flatMap fun (name, group) hgroup => .block ?_
  obtain ⟨⟨first, hfirst, rfl⟩, hmembers⟩ := of_mem_groupByKey hgroup
  have hname : IsOneLine first.interfaceName := by
    have hplain := hmapping first (List.mem_of_mem_filter hfirst)
    rw [isPlain_record] at hplain
    simp [PortMapping.fields] at hplain
    simp [hplain]
  have hlines : AreInside (group.map fun m =>
      command (m.line acls) s!"Port mapping on {first.interfaceName}.") := by
    refine .map fun m hm => ?_
    have hplain := hmapping m (List.mem_of_mem_filter (hmembers m hm))
    simp [PortMapping.isOneLine_line hplain hacls, PortMapping.opensIndented_line]
  simp +decide [↓hlines, hname]

/-- The entries of plain NAT settings are settled. -/
theorem settled_entries (h : IsPlain n) (hacls : IsPlain acls) (deviceType : DeviceType) :
    Settled .h3c (n.entries deviceType acls) := by
  have hstatic := areOuter_staticEntries h hacls
  have hpolicy := settled_policyEntries h deviceType
  have hmapping := settled_mappingEntries h hacls
  rw [isPlain_record] at h
  simp [fields] at h
  obtain ⟨-, -, haddresses, hservers, -⟩ := h
  rw [isPlain_record] at haddresses
  simp [NatAddressPools.fields] at haddresses
  have hpools : Settled .h3c (n.completePools.flatMap poolEntries) :=
    .flatMap fun p hp => settled_poolEntries (haddresses p (List.mem_of_mem_filter hp))
  have hgroups : Settled .h3c (n.serverGroups.flatMap serverGroupEntries) :=
    .flatMap fun g hg => settled_serverGroupEntries (hservers g hg)
  refine .append (.append (.append (.append (.onlyIf fun _ => ?_) ?_) ?_) hpolicy) hmapping
  · exact .titled (by decide) hpools
  · exact .titled (by decide) hgroups
  · exact .of_areOuter hstatic

end H3cNat

namespace NatSettings

private theorem isTidy_finish {vendor : Vendor} {entries : List Entry}
    (h : Settled vendor entries) :
    (finish entries).IsTidy vendor := by
  unfold finish
  dsimp only
  split
  · exact h.isTidy_build _
  · exact Fragment.isTidy_nothing vendor _

/-- The NAT of plain settings is tidy. -/
theorem isTidy_render {n : NatSettings} {acls : Acls} (h : IsPlain n) (hacls : IsPlain acls)
    (vendor : Vendor) (deviceType : DeviceType) :
    (n.render vendor deviceType acls).IsTidy vendor := by
  rw [isPlain_record] at h
  simp [fields] at h
  obtain ⟨hh3c, hhuawei⟩ := Field.isPlain_variant h
  unfold render
  split
  · exact Fragment.isTidy_nothing vendor _
  · split
    next nat hnat => exact isTidy_finish (HuaweiNat.settled_entries (hhuawei nat hnat) deviceType)
    next nat hnat => exact isTidy_finish (H3cNat.settled_entries (hh3c nat hnat) hacls deviceType)
    next => exact Fragment.isTidy_unsupported _ (by decide) (Vendor.isOneLine_name _)

end NatSettings
end Netscribe
