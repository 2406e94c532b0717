import Netscribe.Proofs.Acl.Headers
import Netscribe.Proofs.Script.Assembly
import Netscribe.Proofs.Script.Grouping
/-!
References to ACLs, and which of them name a list that the script has declared. Interfaces refer to
a list by its name if it has one, IPsec and NAT always by its number, and nothing but the section of
the ACLs itself asks whether ACLs are enabled.
-/
namespace Netscribe

namespace RoutedInterface

/-- The id of the ACL that filters one direction. -/
def filterId (i : RoutedInterface) : Direction → String
  | .inbound => i.inboundAcl
  | .outbound => i.outboundAcl

private theorem writes_body {acls : Acls} {i : RoutedInterface} {direction : Direction} {a : Acl}
    (vendor : Vendor) (ipsec : Ipsec) (h : acls.find? (i.filterId direction) = some a) :
    Writes (i.body vendor acls ipsec) (a.filterLine vendor direction) := by
  have hfilter : Writes (filterEntries vendor acls direction (i.filterId direction))
      (a.filterLine vendor direction) := by
    rw [filterEntries, h]
    exact Writes.singleton_iff.mpr rfl
  simp only [body, Writes.append_iff]
  cases direction with
  | inbound => exact .inl (.inl (.inl (.inr hfilter)))
  | outbound => exact .inl (.inl (.inr hfilter))

end RoutedInterface

namespace Ipsec

private theorem writes_policyHeader {acls : Acls} {p : IpsecPolicy} {a : Acl}
    (h : acls.find? p.aclId = some a) :
    Writes (policyHeader acls p) s!" security acl {a.number}" := by
  rw [policyHeader, h, Writes.append_iff]
  exact .inr (Writes.singleton_iff.mpr rfl)

/-- Both vendors start a policy with the traffic that it protects. -/
theorem hasLines_render {vendor : Vendor} (hvrp : vendor.isVrp) {acls : Acls} {s : Ipsec}
    (hon : s.enabled) {fragment : Fragment} (hrender : s.render vendor acls = .ok fragment)
    {p : IpsecPolicy} (hp : p ∈ s.completePolicies) {a : Acl} (ha : acls.find? p.aclId = some a) :
    Text.HasLines fragment.cli [s!" security acl {a.number}"] := by
  have hblank : Text.allBlank s!" security acl {a.number}" = false :=
    Text.allBlank_append_left (by decide) _
  have hpolicies {policy : IpsecPolicy → List Entry}
      (hpolicy : ∃ rest, policy p = policyHeader acls p ++ rest) :
      Writes (s.completePolicies.flatMap policy) s!" security acl {a.number}" := by
    obtain ⟨rest, hrest⟩ := hpolicy
    refine Writes.flatMap_iff.mpr ⟨p, hp, ?_⟩
    rw [hrest, Writes.append_iff]
    exact .inl (writes_policyHeader ha)
  unfold render at hrender
  rw [hon, if_neg (by decide)] at hrender
  cases vendor with
  | h3c =>
    rw [← Except.ok.inj hrender]
    refine Fragment.hasLines_ofEntries ?_ hblank _ _
    rw [h3cEntries, Writes.append_iff]
    refine .inr (hpolicies ?_)
    simp only [h3cPolicy, List.append_assoc]
    exact ⟨_, rfl⟩
  | huawei =>
    obtain ⟨entries, hentries, hfinish⟩ := Outcome.bind_eq_ok_iff.mp hrender
    obtain ⟨peers, _, hvalue⟩ := Outcome.bind_eq_ok_iff.mp hentries
    rw [← Except.ok.inj hfinish]
    refine Fragment.hasLines_ofEntries ?_ hblank _ _
    rw [← Except.ok.inj hvalue, Writes.append_iff]
    refine .inr (hpolicies ?_)
    simp only [huaweiPolicy, List.append_assoc]
    exact ⟨_, rfl⟩
  | cisco | generic => cases hvrp

end Ipsec

namespace NatSettings

private theorem hasLines_finish {entries : List Entry} {line : String} (h : Writes entries line)
    (hblank : Text.allBlank line = false) (hcommand : Text.hasStart "#" line = false) :
    Text.HasLines (finish entries).cli [line] := by
  have hmem := Draft.mem_lines_ofEntries h
  have hhas : hasCommand (Draft.ofEntries entries) := by
    refine List.any_eq_true.mpr ⟨line, hmem, ?_⟩
    rw [hblank, hcommand]
    rfl
  rw [finish, if_pos hhas]
  exact Draft.hasLines_text hmem hblank

private theorem hasLines_render_h3c {settings : NatSettings} {deviceType : DeviceType} {acls : Acls}
    {n : H3cNat} {line : String} (hon : settings.enabled) (hn : settings.variant = .h3c n)
    (h : Writes (n.entries deviceType acls) line) (hblank : Text.allBlank line = false)
    (hcommand : Text.hasStart "#" line = false) :
    Text.HasLines (settings.render .h3c deviceType acls).cli [line] := by
  unfold render
  rw [hon, if_neg (by decide), hn]
  exact hasLines_finish h hblank hcommand

end NatSettings

namespace NatStaticRule

/-- The line of a rule whose ACL was found. -/
def aclLine (r : NatStaticRule) (mapping : String) (a : Acl) : String :=
  s!"nat static {r.direction}" ++ mapping ++ s!" acl {a.number}"
    ++ textIf r.reversible " reversible"

private theorem line?_eq_aclLine {acls : Acls} {r : NatStaticRule} {mapping : String} {a : Acl}
    (hmapping : r.mapping? = some mapping) (ha : acls.find? r.aclId = some a) :
    r.line? acls = some (r.aclLine mapping a) := by
  rw [line?, hmapping, Option.map_some, Acls.numberPart, ha]
  rfl

end NatStaticRule

namespace H3cNat

private theorem writes_staticEntries {acls : Acls} {n : H3cNat} {r : NatStaticRule} {line : String}
    (hon : n.staticOutbound.enabled) (hr : r ∈ n.staticOutbound.rules)
    (hline : r.line? acls = some line) : Writes (n.staticEntries acls) line := by
  have hmem : line ∈ n.staticOutbound.rules.filterMap fun r => r.line? acls :=
    List.mem_filterMap.mpr ⟨r, hr, hline⟩
  rw [staticEntries, Writes.onlyIf_iff]
  refine ⟨⟨hon, List.ne_nil_of_mem hmem⟩, ?_⟩
  rw [Writes.append_iff, Writes.append_iff]
  exact .inl (.inr ⟨_, List.mem_map_of_mem hmem, rfl⟩)

private theorem writes_mappingEntries {n : H3cNat} {m : PortMapping} (acls : Acls)
    (hon : n.portMapping.enabled) (hm : m ∈ n.portMapping.rules) (hname : m.interfaceName ≠ "") :
    Writes (n.mappingEntries acls) (m.line acls) := by
  have hnamed : m ∈ n.portMapping.rules.filter (·.interfaceName ≠ "") :=
    List.mem_filter.mpr ⟨hm, decide_eq_true hname⟩
  obtain ⟨group, hgroup, hmem⟩ := mem_groupByKey (·.interfaceName) hnamed
  rw [mappingEntries, Writes.onlyIf_iff]
  refine ⟨hon, Writes.flatMap_iff.mpr ⟨_, hgroup, ?_⟩⟩
  rw [Writes.append_iff, Writes.append_iff]
  exact .inl (.inr ⟨_, List.mem_map_of_mem hmem, rfl⟩)

end H3cNat

private theorem Acl.allBlank_filterLine (vendor : Vendor) (direction : Direction) (a : Acl) :
    Text.allBlank (a.filterLine vendor direction) = false := by
  unfold filterLine
  cases vendor <;> dsimp only <;> simp only [String.append_assoc] <;>
    exact Text.allBlank_append_left (by decide) _

/-- A filter refers to a list by its label. -/
theorem Acl.hasPart_filterLine {vendor : Vendor} (hvendor : vendor ≠ .generic)
    (direction : Direction) (a : Acl) :
    Text.HasPart (a.filterLine vendor direction) s!" {a.labelRef.text}" := by
  rw [text_labelRef]
  unfold filterLine reference label
  cases vendor with
  | cisco =>
    refine ⟨" ip access-group", " " ++ if direction = .inbound then "in" else "out", ?_⟩
    dsimp only
    rw [if_pos rfl]
    simp only [String.append_assoc]
    rfl
  | huawei =>
    dsimp only
    rw [if_neg (by decide)]
    split
    · refine ⟨s!" traffic-filter {direction.name} acl", "", ?_⟩
      simp only [String.append_assoc, String.append_empty]
      rfl
    · refine ⟨s!" traffic-filter {direction.name} acl name", "", ?_⟩
      simp only [String.append_assoc, String.append_empty]
      rfl
  | h3c =>
    dsimp only
    rw [if_neg (by decide)]
    split
    · refine ⟨" packet-filter", s!" {direction.name}", ?_⟩
      simp only [String.append_assoc]
      rfl
    · refine ⟨" packet-filter name", s!" {direction.name}", ?_⟩
      simp only [String.append_assoc]
      rfl
  | generic => exact absurd rfl hvendor

private theorem Acl.hasPart_clause (a : Acl) :
    Text.HasPart s!" acl {a.number}" s!" {a.number}" := by
  have hclause : s!" acl {a.number}" = " acl" ++ s!" {a.number}" := rfl
  rw [hclause]
  exact (Text.hasPart_self _).append_left _

private theorem NatStaticRule.hasPart_aclLine (r : NatStaticRule) (mapping : String) (a : Acl) :
    Text.HasPart (r.aclLine mapping a) s!" {a.number}" :=
  (a.hasPart_clause.append_left _).append_right _

/-- A server that an ACL selects refers to it in place of a global address, any other in a clause
    of its own. -/
theorem PortMapping.hasPart_line {acls : Acls} {m : PortMapping} {a : Acl}
    (h : acls.find? m.aclId = some a) : Text.HasPart (m.line acls) s!" {a.number}" := by
  have hnumber (keyword : String) : acls.numberPart keyword m.aclId = s!" {keyword}{a.number}" := by
    rw [Acls.numberPart, h]
  unfold line
  cases hbased : m.isAclBased with
  | true =>
    have hglobal : m.globalPart acls = s!" {a.number}" := by
      rw [globalPart, hbased, if_pos rfl, hnumber]
      rfl
    rw [hglobal]
    have hstart := (Text.hasPart_self s!" {a.number}").append_left
      (" nat server" ++ textIf (m.protocol ≠ "" ∧ m.protocol ≠ "all") s!" protocol {m.protocol}"
        ++ " global")
    exact ((((hstart.append_right _).append_right _).append_right _).append_right _).append_right _
  | false =>
    have hclause : textIf (!false) (acls.numberPart "acl " m.aclId) = s!" acl {a.number}" := by
      rw [textIf, if_pos (by decide), hnumber]
      rfl
    rw [hclause]
    exact ((a.hasPart_clause.append_left _).append_right _).append_right _

namespace Node

/-- The lines of a section that refer to an ACL, with what they refer to it by: a name or a number
    in the filters of an interface, a number in IPsec policies and NAT rules. -/
inductive CitesAcl (node : Node) : Section → String → AclRef → Prop
  | vlanInterface {i : VlanInterface} {direction : Direction} {a : Acl}
      (hi : i ∈ node.config.vlan.addressed)
      (ha : node.config.acl.find? ((i.routed node.vendor).filterId direction) = some a) :
      CitesAcl node .vlanInterfaces (a.filterLine node.vendor direction) a.labelRef
  | routedPort {p : RoutedPort} {direction : Direction} {a : Acl}
      (hp : p ∈ node.config.interfaceIp.interfaces) (hname : p.interfaceName ≠ "")
      (ha : node.config.acl.find? (p.routed.filterId direction) = some a) :
      CitesAcl node .physicalInterfaces (a.filterLine node.vendor direction) a.labelRef
  | ipsecPolicy {p : IpsecPolicy} {a : Acl} (hvrp : node.vendor.isVrp)
      (hp : p ∈ node.config.ipsec.completePolicies)
      (ha : node.config.acl.find? p.aclId = some a) :
      CitesAcl node .ipsec s!" security acl {a.number}" (.number a.number)
  | natStatic {n : H3cNat} {r : NatStaticRule} {mapping : String} {a : Acl}
      (hh3c : node.vendor = .h3c) (hn : node.config.nat.variant = .h3c n)
      (hon : n.staticOutbound.enabled) (hr : r ∈ n.staticOutbound.rules)
      (hmapping : r.mapping? = some mapping) (ha : node.config.acl.find? r.aclId = some a) :
      CitesAcl node .nat (r.aclLine mapping a) (.number a.number)
  | natServer {n : H3cNat} {m : PortMapping} {a : Acl}
      (hh3c : node.vendor = .h3c) (hn : node.config.nat.variant = .h3c n)
      (hon : n.portMapping.enabled) (hm : m ∈ n.portMapping.rules) (hname : m.interfaceName ≠ "")
      (ha : node.config.acl.find? m.aclId = some a) :
      CitesAcl node .nat (m.line node.config.acl) (.number a.number)

namespace CitesAcl

variable {node : Node} {connections : List Connection} {s : Section} {line : String} {ref : AclRef}

/-- The section of a reference comes after the ACLs. -/
theorem mem_drop (h : node.CitesAcl s line ref) : s ∈ Section.all.drop 6 := by
  cases h with
  | vlanInterface => exact List.mem_of_getElem? (i := 5) rfl
  | routedPort => exact List.mem_of_getElem? (i := 6) rfl
  | ipsecPolicy => exact List.mem_of_getElem? (i := 1) rfl
  | natStatic | natServer => exact List.mem_of_getElem? (i := 14) rfl

/-- A line that cites a list is not blank, so it survives in the script. -/
theorem allBlank_eq_false (h : node.CitesAcl s line ref) : Text.allBlank line = false := by
  cases h with
  | vlanInterface | routedPort => exact Acl.allBlank_filterLine _ _ _
  | ipsecPolicy => exact Text.allBlank_append_left (by decide) _
  | natStatic =>
    simp only [NatStaticRule.aclLine, String.append_assoc]
    exact Text.allBlank_append_left (by decide) _
  | natServer =>
    unfold PortMapping.line
    simp only [String.append_assoc]
    exact Text.allBlank_append_left (by decide) _

/-- What is referred to by a line stands in it. -/
theorem hasPart (h : node.CitesAcl s line ref) (hvendor : node.vendor ≠ .generic) :
    Text.HasPart line s!" {ref.text}" := by
  cases h with
  | vlanInterface | routedPort => exact Acl.hasPart_filterLine hvendor _ _
  | ipsecPolicy => exact ⟨" security acl", "", by rw [String.append_empty]; rfl⟩
  | natStatic => exact NatStaticRule.hasPart_aclLine _ _ _
  | natServer _ _ _ _ _ ha => exact PortMapping.hasPart_line ha

/-- A line that refers to an ACL is a line of its section. -/
theorem hasLines (h : node.CitesAcl s line ref) (hvendor : node.vendor ≠ .generic)
    (henabled : s.enabled node) {fragment : Fragment}
    (hrender : s.render node connections = .ok fragment) : Text.HasLines fragment.cli [line] := by
  have hblank := h.allBlank_eq_false
  cases h with
  | vlanInterface hi ha =>
    have hbody := RoutedInterface.writes_body node.vendor node.config.ipsec ha
    rw [← Except.ok.inj hrender]
    exact VlanInterfaces.hasLines_render hvendor henabled hi (RoutedInterface.writes_block hbody)
      hblank
  | routedPort hp hname ha =>
    have hbody := RoutedInterface.writes_body node.vendor node.config.ipsec ha
    rw [← Except.ok.inj hrender]
    exact RoutedPorts.hasLines_render hvendor henabled hp hname hbody hblank
  | ipsecPolicy hvrp hp ha => exact Ipsec.hasLines_render hvrp henabled hrender hp ha
  | natStatic hh3c hn hon hr hmapping ha =>
    have hdiverge : Text.diverge "#" "nat static " := by decide
    rw [← Except.ok.inj hrender, hh3c]
    refine NatSettings.hasLines_render_h3c henabled hn ?_ hblank
      (Text.hasStart_eq_false hdiverge ?_)
    · have hline := NatStaticRule.line?_eq_aclLine hmapping ha
      simp only [H3cNat.entries, Writes.append_iff]
      exact .inl (.inl (.inr (H3cNat.writes_staticEntries hon hr hline)))
    · simp only [NatStaticRule.aclLine, String.append_assoc]
      exact Text.hasStart_append _ _
  | natServer hh3c hn hon hm hname ha =>
    have hdiverge : Text.diverge "#" " nat server" := by decide
    rw [← Except.ok.inj hrender, hh3c]
    refine NatSettings.hasLines_render_h3c henabled hn ?_ hblank
      (Text.hasStart_eq_false hdiverge ?_)
    · simp only [H3cNat.entries, Writes.append_iff]
      exact .inr (H3cNat.writes_mappingEntries _ hon hm hname)
    · unfold PortMapping.line
      simp only [String.append_assoc]
      exact Text.hasStart_append _ _

end CitesAcl
end Node
end Netscribe
