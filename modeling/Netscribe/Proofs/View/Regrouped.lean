import Netscribe.Proofs.Outcome
import Netscribe.Proofs.View.Contents
import Netscribe.Proofs.View.Switching
/-!
What is written port by port although it is set otherwise: the port mappings of NAT, which are
listed in any order and written under one block for each interface, and the members of isolation
groups, which are written one by one.
-/
namespace Netscribe

open Text (after? isIndented IsOneLine)

/-- A text and its lines: those of the draft of its entries, or none. -/
structure HasDraft (text : String) (entries : Except Fault (List Entry)) (lines : List String) :
    Prop where
  text_eq : text = Text.unlines lines
  drafted : lines = [] ∨ ∃ given, entries = .ok given ∧ lines = (Draft.ofEntries given).body

namespace HasDraft

variable {text : String} {entries : Except Fault (List Entry)} {given : List Entry}
  {lines : List String} {vendor : Vendor}

private theorem nothing (h : text = Text.unlines []) (entries : Except Fault (List Entry)) :
    HasDraft text entries [] :=
  ⟨h, .inl rfl⟩

private theorem body (htext : text = Text.unlines (Draft.ofEntries given).body)
    (h : entries = .ok given) : HasDraft text entries (Draft.ofEntries given).body :=
  ⟨htext, .inr ⟨given, h, rfl⟩⟩

end HasDraft

namespace PortMapping

/-- What stands behind the words for a server in the line of a mapping. -/
def serverWords (acls : Acls) (m : PortMapping) : String :=
  textIf (m.protocol ≠ "" ∧ m.protocol ≠ "all") s!" protocol {m.protocol}"
    ++ " global" ++ m.globalPart acls ++ " inside" ++ m.insidePart
    ++ textIf (!m.isAclBased) (acls.numberPart "acl " m.aclId)
    ++ textIf m.reversible " reversible"
    ++ textIf (m.policyName ≠ "") s!" rule {m.policyName}"

private theorem line_eq (acls : Acls) (m : PortMapping) :
    m.line acls = " nat server" ++ m.serverWords acls := by
  unfold line serverWords
  simp only [String.append_assoc]

end PortMapping

namespace H3cNat

variable {n : H3cNat} {deviceType : DeviceType} {acls : Acls}

/-- The mappings that are written: those of a named interface. -/
def namedMappings (n : H3cNat) : List PortMapping :=
  n.portMapping.rules.filter (·.interfaceName ≠ "")

def mappingBlock (acls : Acls) (group : String × List PortMapping) : List Entry :=
  [.blank, command s!"interface {group.1}"]
    ++ group.2.map (fun m => command (m.line acls) s!"Port mapping on {group.1}.")
    ++ [command "quit"]

private theorem mappingEntries_eq (henabled : n.portMapping.enabled) (acls : Acls) :
    n.mappingEntries acls =
      (groupByKey (·.interfaceName) n.namedMappings).flatMap (mappingBlock acls) := by
  rw [mappingEntries, onlyIf, if_pos henabled]
  rfl

/-- The entries before the mappings. -/
def otherEntries (deviceType : DeviceType) (acls : Acls) (n : H3cNat) : List Entry :=
  onlyIf n.addressPool.enabled
      (titled "NAT Address Pools" (n.completePools.flatMap poolEntries))
    ++ titled "NAT Server Groups" (n.serverGroups.flatMap serverGroupEntries)
    ++ n.staticEntries acls ++ n.policyEntries deviceType

section Other

variable {keyword : String} (h : keyword = "interface " ∨ keyword = " nat server")
include h

private theorem allWritten_pools (pools : List NatAddressPool) :
    AllWritten (after? keyword · = none) (pools.flatMap poolEntries) := by
  refine .flatMap fun p _ => ?_
  obtain rfl | rfl := h <;> simp +decide [↓Text.after?_of_diverge, poolEntries]

private theorem allWritten_serverGroups (groups : List ServerGroup) :
    AllWritten (after? keyword · = none) (groups.flatMap serverGroupEntries) := by
  refine .flatMap fun g _ => ?_
  have hmembers : AllWritten (after? keyword · = none) (g.members.map fun m =>
      command s!" inside ip {m.ip} port {m.port} weight {m.weight}") := by
    refine .map fun m _ line hline => ?_
    obtain rfl := Option.some.inj hline
    obtain rfl | rfl := h <;> simp +decide [↓Text.after?_of_diverge]
  obtain rfl | rfl := h <;> simp +decide [↓Text.after?_of_diverge, serverGroupEntries, hmembers]

private theorem allWritten_staticEntries (acls : Acls) (n : H3cNat) :
    AllWritten (after? keyword · = none) (n.staticEntries acls) := by
  have hlines : AllWritten (after? keyword · = none)
      ((n.staticOutbound.rules.filterMap fun r => r.line? acls).map fun line =>
        command line "One-to-one or net-to-net static mapping.") := by
    refine .map fun static hstatic line hline => ?_
    obtain rfl := Option.some.inj hline
    obtain ⟨r, -, hline⟩ := List.mem_filterMap.mp hstatic
    obtain ⟨mapping, -, rfl⟩ := Option.map_eq_some_iff.mp hline
    obtain rfl | rfl := h <;> simp +decide [↓Text.after?_of_diverge]
  obtain rfl | rfl := h <;> simp +decide [staticEntries, remark, hlines]

private theorem allWritten_policyEntries (deviceType : DeviceType) (n : H3cNat) :
    AllWritten (after? keyword · = none) (n.policyEntries deviceType) := by
  have hmatch (word kind value : String) :
      AllWritten (after? keyword · = none) (GlobalNatRule.ipMatch word kind value) := by
    obtain rfl | rfl := h <;> simp +decide [↓Text.after?_of_diverge, GlobalNatRule.ipMatch]
  have hrules (rules : List GlobalNatRule) :
      AllWritten (after? keyword · = none) (rules.flatMap (·.entries deviceType)) := by
    refine .flatMap fun r _ => ?_
    obtain rfl | rfl := h <;> simp +decide [↓Text.after?_of_diverge, GlobalNatRule.entries,
      GlobalNatRule.sourceAction, GlobalNatRule.destinationAction, hmatch]
  obtain rfl | rfl := h <;> simp +decide [policyEntries, remark, hrules]

private theorem allWritten_otherEntries (deviceType : DeviceType) (acls : Acls) (n : H3cNat) :
    AllWritten (after? keyword · = none) (n.otherEntries deviceType acls) := by
  have hpools := allWritten_pools h n.completePools
  have hgroups := allWritten_serverGroups h n.serverGroups
  have hstatic := allWritten_staticEntries h acls n
  have hpolicy := allWritten_policyEntries h deviceType n
  obtain rfl | rfl := h <;> simp +decide [otherEntries, titled, remark, hpools, hgroups, hstatic,
    hpolicy]

end Other

private theorem saidBy_mappingBlock (acls : Acls) (group : String × List PortMapping) :
    View.saidBy " nat server" (mappingBlock acls group) = group.2.map (·.serverWords acls) := by
  have hservers : View.saidBy " nat server" (group.2.map fun m =>
      command (m.line acls) s!"Port mapping on {group.1}.") = group.2.map (·.serverWords acls) := by
    refine View.saidBy_map (fun _ => rfl) fun m => ?_
    rw [m.line_eq acls]
    exact Text.after?_append " nat server" (m.serverWords acls)
  simp +decide [↓Text.after?_of_diverge, mappingBlock, hservers]

private theorem writesView_mappingBlock (acls : Acls) (group : String × List PortMapping) :
    View.WritesView "interface " group.1 (mappingBlock acls group) := by
  have hinside : AllWritten (isIndented ·) (group.2.map fun m =>
      command (m.line acls) s!"Port mapping on {group.1}.") := by
    refine .map fun m _ line hline => ?_
    obtain rfl := Option.some.inj hline
    rw [m.line_eq acls]
    simp +decide
  have hopens := View.opensView_blank (View.opensView_command "interface " group.1 "")
  exact (hopens.append hinside).close

private theorem readAs_mappings (acls : Acls) (table : List (String × List PortMapping)) :
    View.ReadAs "interface " " nat server" (table.flatMap (mappingBlock acls))
      (table.map fun group => (group.1, group.2.map (·.serverWords acls))) := by
  rw [List.map_eq_flatMap]
  refine .flatMap fun group _ => ?_
  rw [← saidBy_mappingBlock]
  exact .view (writesView_mappingBlock acls group) (by decide) (by decide) (by decide) (by decide)

end H3cNat

namespace NatSettings

/-- The commands are the lines of the draft, unless it has no command and so no view either. -/
theorem cli_finish (entries : List Entry) :
    (finish entries).cli = Text.unlines (Draft.ofEntries entries).body ∨
      (finish entries).cli = Text.unlines [] ∧
        (Draft.ofEntries entries).body.filterMap (after? "interface ") = [] := by
  rw [finish]
  split
  next => exact .inl rfl
  next hnone =>
    refine .inr ⟨rfl, List.filterMap_eq_nil_iff.mpr fun line hline => ?_⟩
    rw [Option.eq_none_iff_forall_ne_some]
    intro name hname
    refine hnone (List.any_eq_true.mpr ⟨line, Draft.mem_lines_of_mem_body hline, ?_⟩)
    obtain rfl := Text.after?_eq_some_iff.mp hname
    have hcomment : Text.hasStart "#" ("interface " ++ name) = false :=
      Text.hasStart_eq_false (by decide) (Text.hasStart_append "interface " name)
    rw [Text.allBlank_append_left (by decide), hcomment]
    rfl

private theorem render_h3c {s : NatSettings} {n : H3cNat} (henabled : s.enabled)
    (hvariant : s.variant = .h3c n) (deviceType : DeviceType) (acls : Acls) :
    s.render .h3c deviceType acls = finish (n.entries deviceType acls) := by
  unfold render
  rw [henabled, hvariant]
  rfl

/-- The servers in the commands of a device whose port mappings are enabled. -/
theorem exists_lines_render_h3c {s : NatSettings} {n : H3cNat} (henabled : s.enabled)
    (hvariant : s.variant = .h3c n) (hmapping : n.portMapping.enabled) (deviceType : DeviceType)
    (acls : Acls) :
    ∃ lines table, HasDraft (s.render .h3c deviceType acls).cli (.ok (n.entries deviceType acls))
        lines ∧
      IsGrouping (·.interfaceName) n.namedMappings table ∧
      View.contents "interface " " nat server" lines =
        table.map (fun group => (group.1, group.2.map (·.serverWords acls))) ∧
      lines.filterMap (after? " nat server") =
        (table.flatMap (·.2)).map (·.serverWords acls) := by
  have hentries : n.entries deviceType acls = n.otherEntries deviceType acls
      ++ (groupByKey (·.interfaceName) n.namedMappings).flatMap (H3cNat.mappingBlock acls) := by
    rw [← H3cNat.mappingEntries_eq hmapping]
    rfl
  have hgrouping := isGrouping_groupByKey (·.interfaceName) n.namedMappings
  generalize groupByKey (·.interfaceName) n.namedMappings = table at hentries hgrouping
  have hviews : View.contents "interface " " nat server"
      (Draft.ofEntries (n.entries deviceType acls)).body =
        table.map fun group => (group.1, group.2.map (·.serverWords acls)) := by
    rw [hentries]
    exact (View.ReadAs.nothing_append (H3cNat.allWritten_otherEntries (.inl rfl) deviceType acls n)
      (H3cNat.readAs_mappings acls table)).contents_body (by decide)
  have hservers : (Draft.ofEntries (n.entries deviceType acls)).body.filterMap
      (after? " nat server") = (table.flatMap (·.2)).map (·.serverWords acls) := by
    rw [View.filterMap_body (by decide), hentries, View.saidBy_append,
      View.saidBy_eq_nil (H3cNat.allWritten_otherEntries (.inr rfl) deviceType acls n),
      View.saidBy_flatMap, List.map_flatMap, List.nil_append]
    exact List.flatMap_congr fun group _ => H3cNat.saidBy_mappingBlock acls group
  rw [render_h3c henabled hvariant]
  obtain hcli | ⟨hcli, hnone⟩ := cli_finish (n.entries deviceType acls)
  · exact ⟨_, table, .body hcli rfl, hgrouping, hviews, hservers⟩
  · rw [← View.map_fst_contents _ " nat server", hviews, List.map_map, List.map_eq_nil_iff] at hnone
    subst hnone
    exact ⟨[], [], .nothing hcli _, hgrouping, rfl, rfl⟩

end NatSettings

/-- The members of a group that have a name, each with the id of the group. -/
def IsolationGroup.namedPorts (g : IsolationGroup) : List (String × String) :=
  (g.interfaces.filter (· ≠ "")).map (·, g.groupId)

namespace PortIsolation

variable {p : PortIsolation}

/-- The entries before the ports. -/
def modeEntries (p : PortIsolation) (excluded : String) : List Entry :=
  onlyIf (p.mode = "all")
      [command "port-isolate mode all" "Isolates ports at both layer 2 and layer 3."]
    ++ onlyIf (excluded ≠ "")
      [command s!"port-isolate exclude vlan {excluded}"
        "These VLANs are not subject to isolation."]

end PortIsolation

end Netscribe
