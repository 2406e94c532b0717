import Netscribe.Proofs.Port.Ranges
import Netscribe.Proofs.Text.Line
import Netscribe.Proofs.Vlan.ListForms
import Netscribe.Proofs.Vlan.PortLines
import Netscribe.Script.Section
/-!
The ports that get a block of their own among the link modes. A link asks for one block for its port
or for each port of its range, and no port of an aggregation group is given one. The main statement
reads the names of the ports off the headers of the blocks.
-/
namespace Netscribe

namespace LinkConfig

/-- The lines inside the view of a port; none if they cannot be written. -/
def bodyLines (vendor : Vendor) (c : LinkConfig) : List String :=
  (c.body vendor).toOption.getD []

/-- The numbers of the ports that share the mode of a port. -/
def rangeNumbers (c : LinkConfig) : List Int :=
  (Port.parseRange c.applyToPortRange).toOption.getD []

/-- The port itself, or the ports that the range numbers. -/
def siblings (port : String) (c : LinkConfig) : List String :=
  if c.rangeNumbers = [] then [port]
  else c.rangeNumbers.map fun n => Port.base port ++ toString n

private theorem portNames_eq_ok {port : String} {c : LinkConfig} {names : List String}
    (h : c.portNames port = .ok names) :
    Port.parseRange c.applyToPortRange = .ok c.rangeNumbers ∧ names = c.siblings port := by
  obtain ⟨numbers, hnumbers, hnames⟩ := Outcome.bind_eq_ok_iff.mp h
  have hrange : c.rangeNumbers = numbers := by rw [rangeNumbers, hnumbers]; rfl
  refine ⟨hrange ▸ hnumbers, ?_⟩
  rw [siblings, hrange]
  cases numbers <;> cases hnames <;> rfl

private theorem bodyLines_eq {vendor : Vendor} {c : LinkConfig} {lines : List String}
    (h : c.body vendor = .ok lines) : c.bodyLines vendor = lines := by
  rw [bodyLines, h]
  rfl

/-- A link gives its lines to the ports that are not skipped, or nothing at all. -/
theorem render_eq_ok {vendor : Vendor} {port text : String} {skip : String → Bool} {c : LinkConfig}
    (hport : port ≠ "") (h : c.render vendor port skip = .ok text) :
    (c.bodyLines vendor = [] ∧ text = "") ∨
      (c.bodyLines vendor ≠ [] ∧
        Port.parseRange c.applyToPortRange = .ok c.rangeNumbers ∧
        text = Text.unlines (((c.siblings port).filter (!skip ·)).flatMap fun name =>
          s!"interface {name}" :: c.bodyLines vendor ++ [vendor.closer])) := by
  rw [render, if_neg hport] at h
  obtain ⟨lines, hlines, hrest⟩ := Outcome.bind_eq_ok_iff.mp h
  rw [bodyLines_eq hlines]
  by_cases hempty : lines = []
  · rw [if_pos hempty] at hrest
    cases hrest
    exact .inl ⟨hempty, rfl⟩
  · rw [if_neg hempty] at hrest
    obtain ⟨names, hnames, htext⟩ := Outcome.bind_eq_ok_iff.mp hrest
    obtain ⟨hrange, rfl⟩ := portNames_eq_ok hnames
    cases htext
    exact .inr ⟨hempty, hrange, rfl⟩

/-- The lines of a body are those of the settings of the link. -/
theorem exists_portLine_of_mem_bodyLines {vendor : Vendor} {c : LinkConfig} {line : String}
    (h : line ∈ c.bodyLines vendor) :
    ∃ lines, c.portLines vendor = .ok lines ∧ ∃ portLine ∈ lines, line = portLine.text vendor := by
  rw [bodyLines, body_eq] at h
  cases hlines : c.portLines vendor with
  | error fault =>
    rw [hlines] at h
    cases h
  | ok lines =>
    rw [hlines] at h
    obtain ⟨portLine, hmem, htext⟩ := List.mem_map.mp h
    exact ⟨lines, rfl, portLine, hmem, htext.symm⟩

/-- A link whose settings hold no line feed writes none into the view of a port. -/
theorem linefeed_not_mem_bodyLines {vendor : Vendor} {c : LinkConfig}
    (haccess : '\n' ∉ c.accessVlan.toList) (hnative : '\n' ∉ c.trunkNativeVlan.toList)
    {line : String} (hline : line ∈ c.bodyLines vendor) : '\n' ∉ line.toList := by
  have hwords (words text : String) (hwords : '\n' ∉ words.toList) (htext : '\n' ∉ text.toList) :
      '\n' ∉ (words ++ text).toList := by
    rw [String.toList_append, List.mem_append]
    exact not_or.mpr ⟨hwords, htext⟩
  obtain ⟨lines, hlines, portLine, hmem, rfl⟩ := exists_portLine_of_mem_bodyLines hline
  obtain hplain | ⟨_, rfl⟩ | ⟨_, _, rfl⟩ | ⟨_, ids, _, rfl⟩ := mem_portLines hlines hmem
  · have hswitching : ∀ portLine ∈ Vlan.PortLine.switching,
        '\n' ∉ (portLine.text vendor).toList := by
      cases vendor <;> decide +kernel
    exact hswitching portLine hplain
  · have hdefault : '\n' ∉ c.accessOrDefault.toList := by
      rw [accessOrDefault]
      split
      · decide
      · exact haccess
    exact hwords _ _ (by cases vendor <;> decide +kernel) hdefault
  · exact hwords _ _ (by cases vendor <;> decide +kernel) hnative
  · refine hwords _ _ (by cases vendor <;> decide +kernel) ?_
    rw [Vlan.listForm]
    split
    · exact Vlan.linefeed_not_mem_spacedList ids
    · exact Vlan.linefeed_not_mem_dashedList ids

end LinkConfig

namespace LinkAggregation

/-- A name of a member of some group, while aggregation is enabled. -/
def Bundles (l : LinkAggregation) (name : String) : Prop :=
  l.enabled ∧ ∃ g ∈ l.groups, name ∈ g.memberNames

instance (l : LinkAggregation) : DecidablePred l.Bundles :=
  fun name => inferInstanceAs (Decidable (_ ∧ ∃ g ∈ l.groups, name ∈ g.memberNames))

end LinkAggregation

/-- What the headers of blocks name, in the order of the lines. -/
def headerNames (lines : List String) : List String := lines.filterMap (Text.after? "interface ")

namespace Node

private theorem isAggregated_iff (node : Node) (name : String) :
    node.isAggregated name ↔ node.config.linkAggregation.Bundles name := by
  have hnonempty : ∀ g ∈ node.config.linkAggregation.groups, name ∈ g.memberNames → name ≠ "" := by
    intro g _ hname
    simpa using (List.mem_filter.mp hname).2
  simp only [isAggregated, LinkAggregation.isMember, LinkAggregation.Bundles, Bool.and_eq_true,
    decide_eq_true_eq, List.any_eq_true, List.contains_iff_mem]
  constructor
  · rintro ⟨⟨_, henabled⟩, g, hg, hname⟩
    exact ⟨henabled, g, hg, hname⟩
  · rintro ⟨henabled, g, hg, hname⟩
    exact ⟨⟨hnonempty g hg hname, henabled⟩, g, hg, hname⟩

/-- Only a connection with an end on the device has a port there. -/
theorem touches_of_localPort {node : Node} {c : Connection} (h : node.localPort c ≠ "") :
    c.touches node.id := by
  by_contra hnot
  simp only [Connection.touches, Bool.or_eq_true, beq_iff_eq, not_or] at hnot
  refine h ?_
  rw [localPort, Connection.localPortId, if_neg hnot.1, if_neg hnot.2, portName]
  have hnone : node.ports.find? (fun port => some port.id == none) = none :=
    List.find?_eq_none.mpr fun port _ => by simp
  rw [hnone]

/-- A connection that gives blocks to ports: it has an end on the device, at a port that belongs to
    no group, and its mode has commands. -/
def GivesBlocks (node : Node) (c : Connection) : Prop :=
  c.touches node.id ∧ node.localPort c ≠ "" ∧
    ¬ node.config.linkAggregation.Bundles (node.localPort c) ∧
    c.config.bodyLines node.vendor ≠ []

instance (node : Node) : DecidablePred node.GivesBlocks :=
  fun _ => inferInstanceAs (Decidable (_ ∧ _ ∧ _ ∧ _))

/-- The names of the ports to which a connection gives a block. -/
def blockNames (node : Node) (c : Connection) : List String :=
  if node.GivesBlocks c then
    (c.config.siblings (node.localPort c)).filter fun name =>
      ¬ node.config.linkAggregation.Bundles name
  else []

/-- The block of a port: its header, the lines of the mode, and the command that leaves it. -/
def portBlock (node : Node) (c : Connection) (name : String) : List String :=
  s!"interface {name}" :: c.config.bodyLines node.vendor ++ [node.vendor.closer]

def blockLines (node : Node) (c : Connection) : List String :=
  (node.blockNames c).flatMap (node.portBlock c)

private theorem linkMode_eq_ok {node : Node} {c : Connection} {text : String}
    (h : node.linkMode c = .ok text) :
    text = Text.unlines (node.blockLines c) ∧
      (node.GivesBlocks c →
        Port.parseRange c.config.applyToPortRange = .ok c.config.rangeNumbers) := by
  have hnothing (hnot : ¬ node.GivesBlocks c) :
      "" = Text.unlines (node.blockLines c) ∧
        (node.GivesBlocks c →
          Port.parseRange c.config.applyToPortRange = .ok c.config.rangeNumbers) := by
    rw [blockLines, blockNames, if_neg hnot]
    exact ⟨rfl, fun hgives => absurd hgives hnot⟩
  rw [linkMode] at h
  split at h
  next hskip =>
    cases h
    refine hnothing fun ⟨_, hport, hfree, _⟩ => ?_
    rw [Bool.or_eq_true, decide_eq_true_eq, isAggregated_iff] at hskip
    exact hskip.elim hport hfree
  next hkeep =>
    rw [Bool.or_eq_true, decide_eq_true_eq, isAggregated_iff, not_or] at hkeep
    obtain ⟨hport, hfree⟩ := hkeep
    obtain ⟨hempty, rfl⟩ | ⟨hcommands, hrange, rfl⟩ := LinkConfig.render_eq_ok hport h
    · exact hnothing fun ⟨_, _, _, hcommands⟩ => hcommands hempty
    · have hgives : node.GivesBlocks c :=
        ⟨touches_of_localPort hport, hport, hfree, hcommands⟩
      refine ⟨?_, fun _ => hrange⟩
      have hfilter : (c.config.siblings (node.localPort c)).filter
          (fun name => !node.isAggregated name) = node.blockNames c := by
        rw [blockNames, if_pos hgives]
        refine List.filter_congr fun name _ => ?_
        rw [Bool.eq_iff_iff, Bool.not_eq_true', decide_eq_true_eq, ← isAggregated_iff,
          Bool.not_eq_true]
      rw [hfilter, blockLines]
      rfl

/-- The link modes of all connections, line by line. -/
def linkModeLines (node : Node) (connections : List Connection) : List String :=
  connections.flatMap node.blockLines

/-- The lines of the link modes, and that the ranges of ports could be read for them. -/
theorem linkModes_eq_ok {node : Node} {connections : List Connection} {fragment : Fragment}
    (h : node.linkModes connections = .ok fragment) :
    fragment.cli = Text.unlines (node.linkModeLines connections) ∧
      ∀ c ∈ connections, node.GivesBlocks c →
        Port.parseRange c.config.applyToPortRange = .ok c.config.rangeNumbers := by
  obtain ⟨blocks, hblocks, hfragment⟩ := Outcome.bind_eq_ok_iff.mp h
  cases hfragment
  rw [Outcome.mapM_eq_ok_iff] at hblocks
  constructor
  · have htexts : blocks = (connections.map node.blockLines).map Text.unlines := by
      rw [List.map_map, eq_comm, ← List.forall₂_eq_eq_eq, List.forall₂_map_left_iff]
      exact hblocks.imp fun _ _ hc => (linkMode_eq_ok hc).1.symm
    have hnonempty : ∀ group ∈ connections.map node.blockLines, group ≠ [] →
        Text.unlines group ≠ "" := by
      intro group hgroup hne hempty
      obtain ⟨c, _, rfl⟩ := List.mem_map.mp hgroup
      rw [blockLines] at hne hempty
      cases hnames : node.blockNames c with
      | nil => exact hne (by rw [hnames]; rfl)
      | cons name rest =>
        rw [hnames, List.flatMap_cons, portBlock, List.cons_append, List.cons_append] at hempty
        obtain ⟨tail, htail⟩ := Text.exists_toList_join_cons "\n" s!"interface {name}"
          (c.config.bodyLines node.vendor ++ [node.vendor.closer]
            ++ rest.flatMap (node.portBlock c))
        rw [Text.unlines, ← String.toList_inj, htail, String.toList_append, List.append_assoc]
          at hempty
        exact absurd (List.append_eq_nil_iff.mp hempty).1 (by decide)
    rw [htexts, Text.unlines_filter_map_unlines hnonempty, linkModeLines, List.flatMap]
  · intro c hc
    obtain ⟨_, _, hrender⟩ := Outcome.exists_of_forall₂_left hblocks hc
    exact (linkMode_eq_ok hrender).2

private theorem headerNames_portBlock (node : Node) (c : Connection) (name : String) :
    headerNames (node.portBlock c name) = [name] := by
  have hbody : (c.config.bodyLines node.vendor).filterMap (Text.after? "interface ") = [] := by
    rw [List.filterMap_eq_nil_iff]
    intro line hline
    obtain ⟨_, _, portLine, _, rfl⟩ := LinkConfig.exists_portLine_of_mem_bodyLines hline
    exact Text.after?_eq_none (by decide) (Vlan.PortLine.hasStart_text node.vendor portLine)
  have hcloser : Text.after? "interface " node.vendor.closer = none := by
    cases node.vendor <;> decide
  have hheader : Text.after? "interface " s!"interface {name}" = some name :=
    Text.after?_append "interface " name
  rw [headerNames, portBlock, List.cons_append, List.filterMap_cons_some hheader,
    List.filterMap_append, hbody, List.nil_append, List.filterMap_cons_none hcloser,
    List.filterMap_nil]

private theorem headerNames_linkModeLines (node : Node) (connections : List Connection) :
    headerNames (node.linkModeLines connections) = connections.flatMap node.blockNames := by
  rw [headerNames, linkModeLines, List.filterMap_flatMap]
  refine List.flatMap_congr fun c _ => ?_
  rw [blockLines, List.filterMap_flatMap]
  have hsingle : ∀ name ∈ node.blockNames c,
      (node.portBlock c name).filterMap (Text.after? "interface ") = [name] :=
    fun name _ => headerNames_portBlock node c name
  rw [List.flatMap_congr hsingle, List.flatMap_singleton']

/-- No port of a group has a block. -/
theorem not_bundles_of_mem_blockNames {node : Node} {c : Connection} {name : String}
    (h : name ∈ node.blockNames c) : ¬ node.config.linkAggregation.Bundles name := by
  rw [blockNames] at h
  split at h
  · simpa using (List.mem_filter.mp h).2
  · cases h

/-- The names and the VLANs that a connection writes out hold no line feed. -/
def HoldsNoFeed (node : Node) (c : Connection) : Prop :=
  '\n' ∉ (node.localPort c).toList ∧ '\n' ∉ c.config.accessVlan.toList ∧
    '\n' ∉ c.config.trunkNativeVlan.toList

instance (node : Node) : DecidablePred node.HoldsNoFeed :=
  fun _ => inferInstanceAs (Decidable (_ ∧ _ ∧ _))

/-- A block that is named belongs to a link that gives blocks, and to one of its ports. -/
theorem givesBlocks_of_mem_blockNames {node : Node} {c : Connection} {name : String}
    (h : name ∈ node.blockNames c) :
    node.GivesBlocks c ∧ name ∈ c.config.siblings (node.localPort c) := by
  rw [blockNames] at h
  split at h
  next hgives => exact ⟨hgives, (List.mem_filter.mp h).1⟩
  next => cases h

/-- Settings without line feeds are written into lines without line feeds. -/
theorem linefeed_not_mem_linkModeLines {node : Node} {connections : List Connection}
    (h : ∀ c ∈ connections, node.GivesBlocks c → node.HoldsNoFeed c) {line : String}
    (hline : line ∈ node.linkModeLines connections) : '\n' ∉ line.toList := by
  obtain ⟨c, hc, hblock⟩ := List.mem_flatMap.mp hline
  obtain ⟨name, hname, hmem⟩ := List.mem_flatMap.mp hblock
  obtain ⟨hgives, hsibling⟩ := givesBlocks_of_mem_blockNames hname
  obtain ⟨hport, haccess, hnative⟩ := h c hc hgives
  have hnameFeed : '\n' ∉ name.toList := by
    rw [LinkConfig.siblings] at hsibling
    split at hsibling
    · rwa [List.mem_singleton.mp hsibling]
    · obtain ⟨n, _, rfl⟩ := List.mem_map.mp hsibling
      rw [String.toList_append, List.mem_append]
      refine not_or.mpr ⟨fun hbase => hport (Port.mem_of_mem_base hbase), fun hnumber => ?_⟩
      obtain hdigit | hsign := Text.mem_toString_int hnumber
      · exact absurd hdigit (by decide)
      · exact absurd hsign (by decide)
  rw [portBlock, List.cons_append, List.mem_cons, List.mem_append, List.mem_singleton] at hmem
  obtain rfl | hbody | rfl := hmem
  · rw [String.toList_append, List.mem_append]
    exact not_or.mpr ⟨by decide, hnameFeed⟩
  · exact LinkConfig.linefeed_not_mem_bodyLines haccess hnative hbody
  · cases node.vendor <;> decide

/-- What the lines of the text name in headers of blocks. -/
theorem headerNames_splitOn {node : Node} {connections : List Connection}
    (h : ∀ c ∈ connections, node.GivesBlocks c → node.HoldsNoFeed c) :
    headerNames (Text.splitOn '\n' (Text.unlines (node.linkModeLines connections))) =
      connections.flatMap node.blockNames := by
  rw [← headerNames_linkModeLines]
  by_cases hempty : node.linkModeLines connections = []
  · rw [hempty]
    decide
  · rw [Text.splitOn_unlines hempty fun line hline => linefeed_not_mem_linkModeLines h hline]

/-- The link modes of a device consist of one block for each port that a connection gives one to, in
    the order of the connections and of the numbers of a range, and none for a port of an
    aggregation group. Unless a connection that gives blocks smuggles in a line of its own, the
    lines of the text with which blocks start are the headers that were written. -/
theorem linkModes_headers {node : Node} {connections : List Connection} {fragment : Fragment}
    (h : node.linkModes connections = .ok fragment)
    (hfeeds : ∀ c ∈ connections, node.GivesBlocks c → node.HoldsNoFeed c) :
    fragment.cli = Text.unlines (node.linkModeLines connections) ∧
    headerNames (Text.splitOn '\n' fragment.cli) = connections.flatMap node.blockNames ∧
    (∀ name ∈ headerNames (Text.splitOn '\n' fragment.cli),
      ¬ node.config.linkAggregation.Bundles name) ∧
    ∀ c ∈ connections, node.GivesBlocks c →
      Port.parseRange c.config.applyToPortRange = .ok c.config.rangeNumbers ∧
        c.config.rangeNumbers.Pairwise (· < ·) := by
  obtain ⟨hcli, hranges⟩ := linkModes_eq_ok h
  have hheaders := headerNames_splitOn hfeeds
  rw [← hcli] at hheaders
  refine ⟨hcli, hheaders, fun name hname => ?_, fun c hc hgives => ?_⟩
  · rw [hheaders] at hname
    obtain ⟨c, _, hblock⟩ := List.mem_flatMap.mp hname
    exact not_bundles_of_mem_blockNames hblock
  · have hrange := hranges c hc hgives
    exact ⟨hrange, (Port.parseRange_eq_ok hrange).1⟩

/-- A range that reaches a port of a group gives it no block, whatever port the link is at. -/
theorem linkModes_headers_beside_member :
    let group : AggregationGroup := { groupId := "1", members := [{ name := "Gi1/0/2" }] }
    let node : Node :=
      { id := "sw1", vendor := .cisco, ports := [{ id := "p1", name := "Gi1/0/1" }]
        config := { linkAggregation := { enabled := true, groups := [group] } } }
    let link (range : String) : Connection :=
      { source := { nodeId := "sw1", portId := "p1" }
        config := { mode := .access, accessVlan := "10", applyToPortRange := range } }
    ∃ fragment, node.linkModes [link "", link "2", link "3"] = .ok fragment ∧
      (∀ c ∈ [link "", link "2", link "3"], node.HoldsNoFeed c) ∧
      headerNames (Text.splitOn '\n' fragment.cli) = ["Gi1/0/1", "Gi1/0/3"] := by
  intro group node link
  let mode := " switchport mode access\n switchport access vlan 10\nexit"
  have htext : node.linkModes [link "", link "2", link "3"] =
      .ok ⟨s!"interface Gi1/0/1\n{mode}\ninterface Gi1/0/3\n{mode}", ""⟩ := by
    decide +kernel
  have hfeeds : ∀ c ∈ [link "", link "2", link "3"], node.HoldsNoFeed c := by decide +kernel
  obtain ⟨_, hread, _, _⟩ := linkModes_headers htext fun c hc _ => hfeeds c hc
  refine ⟨_, htext, hfeeds, hread.trans ?_⟩
  decide +kernel

/-- A line feed in the VLAN of a link: what follows it is a header for a port of a group. -/
theorem linkModes_header_in_vlan :
    let group : AggregationGroup := { groupId := "1", members := [{ name := "Gi1/0/2" }] }
    let node : Node :=
      { id := "sw1", vendor := .cisco, ports := [{ id := "p1", name := "Gi1/0/1" }]
        config := { linkAggregation := { enabled := true, groups := [group] } } }
    let link : Connection :=
      { source := { nodeId := "sw1", portId := "p1" }
        config := { mode := .access, accessVlan := "10\ninterface Gi1/0/2" } }
    ∃ fragment, node.linkModes [link] = .ok fragment ∧
      [link].flatMap node.blockNames = ["Gi1/0/1"] ∧
      headerNames (Text.splitOn '\n' fragment.cli) = ["Gi1/0/1", "Gi1/0/2"] ∧
      node.config.linkAggregation.Bundles "Gi1/0/2" := by
  intro group node link
  have htext : node.linkModes [link] =
      .ok ⟨"interface Gi1/0/1\n switchport mode access\n switchport access vlan 10\n"
        ++ "interface Gi1/0/2\nexit", ""⟩ := by
    decide +kernel
  exact ⟨_, htext, by decide +kernel, by decide +kernel, by decide +kernel⟩

end Node
end Netscribe
