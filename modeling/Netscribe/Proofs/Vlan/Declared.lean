import Netscribe.Proofs.LinkAggregation.Aggregate
import Netscribe.Proofs.LinkMode.Headers
import Netscribe.Proofs.Script.Assembly
import Netscribe.Proofs.Script.Generic
import Netscribe.Proofs.View.Contents
import Netscribe.Proofs.View.Script
import Netscribe.Proofs.Vlan.Readable
/-!
Every VLAN is declared before it is used. The declarations stand right behind the preamble, and the
VLANs that the later sections use are read off the lines of the script.
-/
namespace Netscribe

namespace Vlan

/-- A line of the VLAN database that declares a VLAN, alone or together with others. -/
def Declares (vendor : Vendor) (line : String) (id : Int) : Prop :=
  match vendor with
  | .cisco => line = s!"vlan {id}"
  | .huawei => ∃ ids : List Int, id ∈ ids ∧ line = "vlan batch " ++ Text.unwords (ids.map toString)
  | .h3c => line = s!"vlan {id}" ∨
      ∃ first last : Int, first ≤ id ∧ id ≤ last ∧ line = s!"vlan {first} to {last}"
  | .generic => False

private theorem exists_declaration {vendor : Vendor} (hvendor : vendor ≠ .generic) {ids : List Int}
    {id : Int} (h : id ∈ ids) (descriptions : List (Int × String)) :
    ∃ line ∈ databaseLines vendor ids descriptions, Declares vendor line id := by
  have hne : ids ≠ [] := List.ne_nil_of_mem h
  cases vendor with
  | cisco =>
    have hlines : databaseLines .cisco ids descriptions =
        ids.flatMap (ciscoDeclaration descriptions) := if_neg hne
    exact ⟨s!"vlan {id}", hlines ▸ List.mem_flatMap.mpr ⟨id, h, List.mem_cons_self⟩, rfl⟩
  | huawei =>
    have hlines : databaseLines .huawei ids descriptions =
        ("vlan batch " ++ Text.unwords (ids.map toString)) :: descriptionLines ids descriptions :=
      if_neg hne
    exact ⟨_, hlines ▸ List.mem_cons_self, ids, h, rfl⟩
  | h3c =>
    have hlines : databaseLines .h3c ids descriptions =
        (contiguousRuns ids).map h3cDeclaration ++ descriptionLines ids descriptions := if_neg hne
    obtain ⟨run, hrun, hfirst, hlast⟩ := exists_inRun_contiguousRuns_iff.mpr h
    refine ⟨h3cDeclaration run, ?_, ?_⟩
    · rw [hlines]
      exact List.mem_append_left _ (List.mem_map_of_mem hrun)
    · rw [h3cDeclaration]
      split
      next hsingle =>
        have hid : run.1 = id := by omega
        exact .inl (by rw [hid])
      next => exact .inr ⟨run.1, run.2, hfirst, hlast, rfl⟩
  | generic => exact absurd rfl hvendor

/-- The VLAN of the interface whose view a line enters. -/
def interfaceIds (vendor : Vendor) (line : String) : List Int :=
  (Text.after? s!"interface {vlanInterfaceName vendor}" line).toList.flatMap singleId

/-- The words that a line has in front of a VLAN. -/
def vlanWords (vendor : Vendor) : List String :=
  [accessWords vendor, nativeWords vendor, allowedWords vendor,
    s!"interface {vlanInterfaceName vendor}"]

section Reading

variable {vendor : Vendor} {line words text blank : String} {read : String → List Int} {id : Int}

private theorem singleId_append_right (h : Text.allBlank blank) :
    singleId (text ++ blank) = singleId text := by
  rw [singleId, singleId, Text.trim_append_right h]

private theorem parseIds_append_right (h : Text.allBlank blank) :
    parseIds (text ++ blank) = parseIds text := by
  have hitems : items (text ++ blank) = items text := by
    rw [items, items, Text.trim_append_right h]
  rw [parseIds, parseIds, hitems]

/-- Where blanks at the end do not count, they do not count behind words either. -/
private theorem mem_flatMap_after?_of_trimEnd
    (hread : ∀ text blank, Text.allBlank blank → read (text ++ blank) = read text)
    (h : id ∈ (Text.after? words (Text.trimEnd line)).toList.flatMap read) :
    id ∈ (Text.after? words line).toList.flatMap read := by
  obtain ⟨rest, hrest, hid⟩ := List.mem_flatMap.mp h
  obtain ⟨blank, hblank, hline⟩ := Text.exists_eq_trimEnd_append line
  rw [Option.mem_toList, Text.after?_eq_some_iff] at hrest
  rw [hrest, String.append_assoc] at hline
  rw [hline, Text.after?_append]
  simpa [hread rest blank hblank] using hid

/-- Words that a VLAN stands behind are neither blank nor a remark. -/
private theorem shown_of_mem_vlanWords : ∀ words ∈ vlanWords vendor,
    Text.allBlank words = false ∧ words.toList.head?.any fun c => !(c == '#' || c == '!') := by
  cases vendor <;> decide +kernel

private theorem not_isAside_of_after? (vendor : Vendor) {rest : String}
    (hwords : words ∈ vlanWords vendor) (h : Text.after? words line = some rest) :
    ¬ View.IsAside line := by
  obtain ⟨hshown, hremark⟩ := shown_of_mem_vlanWords words hwords
  rintro (hblank | hstart)
  · have hline := Text.allBlank_eq_false_of_hasStart hshown (Text.hasStart_of_after? h)
    rw [hblank] at hline
    cases hline
  · have hnone := View.after?_eq_none_of_head? hremark (by simpa [Text.startsRemark] using hstart)
    rw [h] at hnone
    cases hnone

private theorem mem_lineIds_of_trimEnd (h : id ∈ lineIds vendor (Text.trimEnd line)) :
    id ∈ lineIds vendor line := by
  have hsingle (text blank : String) (h : Text.allBlank blank) :
      singleId (text ++ blank) = singleId text := singleId_append_right h
  simp only [lineIds, List.mem_append] at h ⊢
  refine h.imp (Or.imp ?_ ?_) ?_
  · exact mem_flatMap_after?_of_trimEnd hsingle
  · exact mem_flatMap_after?_of_trimEnd hsingle
  · exact mem_flatMap_after?_of_trimEnd fun text blank hblank => by
      rw [parseIds_append_right hblank]

private theorem mem_interfaceIds_of_trimEnd (h : id ∈ interfaceIds vendor (Text.trimEnd line)) :
    id ∈ interfaceIds vendor line :=
  mem_flatMap_after?_of_trimEnd (fun _ _ => singleId_append_right) h

private theorem not_isAside_of_mem_lineIds (h : id ∈ lineIds vendor line) :
    ¬ View.IsAside line := by
  simp only [lineIds, List.mem_append, List.mem_flatMap, Option.mem_toList] at h
  obtain (⟨rest, hrest, _⟩ | ⟨rest, hrest, _⟩) | ⟨rest, hrest, _⟩ := h
  · exact not_isAside_of_after? vendor (by simp [vlanWords]) hrest
  · exact not_isAside_of_after? vendor (by simp [vlanWords]) hrest
  · exact not_isAside_of_after? vendor (by simp [vlanWords]) hrest

private theorem not_isAside_of_mem_interfaceIds (h : id ∈ interfaceIds vendor line) :
    ¬ View.IsAside line := by
  obtain ⟨rest, hrest, _⟩ := List.mem_flatMap.mp h
  rw [Option.mem_toList] at hrest
  exact not_isAside_of_after? vendor (by simp [vlanWords]) hrest

end Reading

end Vlan

private theorem VlanInterface.interfaceIds_header (vendor : Vendor) (i : VlanInterface) :
    Vlan.interfaceIds vendor s!"interface {(i.routed vendor).name}" = Vlan.singleId i.vlanId := by
  have hheader : s!"interface {(i.routed vendor).name}" =
      s!"interface {vlanInterfaceName vendor}" ++ i.vlanId := (String.append_assoc).symm
  rw [Vlan.interfaceIds, hheader, Text.after?_append]
  simp

/-- Within the block of a VLAN interface, only the header names its VLAN. -/
theorem VlanInterface.mem_singleId_of_writes {vendor : Vendor} {i : VlanInterface}
    {body : List Entry} {line : String} {id : Int} (hbody : AreInside body)
    (hline : Writes ((i.routed vendor).block vendor body) line)
    (hid : id ∈ Vlan.interfaceIds vendor line) : id ∈ Vlan.singleId i.vlanId := by
  have hsolid : Text.startsSolid s!"interface {vlanInterfaceName vendor}" :=
    Text.startsSolid_append (by decide) _
  have hinside (hindented : Text.isIndented line) : id ∈ Vlan.singleId i.vlanId := by
    rw [Vlan.interfaceIds, View.after?_eq_none_of_isIndented hsolid hindented] at hid
    cases hid
  simp only [RoutedInterface.block, List.cons_append, Writes.cons_iff, Writes.append_iff,
    Writes.onlyIf_iff, Writes.nil_iff, or_false, text?_command, Option.some.injEq] at hline
  obtain rfl | ((⟨e, he, htext⟩ | ⟨_, rfl⟩) | rfl) := hline
  · rwa [interfaceIds_header] at hid
  · exact hinside (hbody e he line htext).2
  · exact hinside (by decide)
  · have hcloser : Vlan.interfaceIds vendor vendor.closer = [] := by cases vendor <;> decide +kernel
    rw [hcloser] at hid
    cases hid

/-- In the block of VLAN interfaces, the lines name the VLANs of the interfaces. -/
theorem VlanInterfaces.exists_mem_singleId {vendor : Vendor} {v : VlanInterfaces} {acls : Acls}
    {ipsec : Ipsec} {title line : String} {id : Int} (h : IsPlain v) (hacls : IsPlain acls)
    (hipsec : IsPlain ipsec) (hvendor : vendor ≠ .generic) (henabled : v.enabled)
    (htitle : Text.IsOneLine title)
    (hline : line ∈ Text.splitOn '\n' (Section.block title (v.render vendor acls ipsec).cli))
    (hid : id ∈ Vlan.interfaceIds vendor line) :
    ∃ i ∈ v.vlanInterfaces, id ∈ Vlan.singleId i.vlanId := by
  rw [render, henabled, if_neg (by decide), if_neg hvendor] at hline
  obtain haside | ⟨other, hother, hkept⟩ :=
    (settled_blocks h hacls hipsec vendor).exists_writes_of_mem_block htitle hline
  · exact absurd haside (Vlan.not_isAside_of_mem_interfaceIds hid)
  obtain ⟨i, hi, hwrites⟩ := Writes.flatMap_iff.mp hother
  have hotherId : id ∈ Vlan.interfaceIds vendor other := by
    obtain rfl | rfl := hkept
    · exact hid
    · exact Vlan.mem_interfaceIds_of_trimEnd hid
  have hbody := RoutedInterface.areInside_body (isPlain_routed h hi vendor) hacls hipsec vendor
  exact ⟨i, (List.mem_filter.mp hi).1, VlanInterface.mem_singleId_of_writes hbody hwrites hotherId⟩

/-- In the block of the link aggregation, the lines name the VLANs that the groups write. -/
theorem LinkAggregation.exists_writes_of_mem_lineIds {vendor : Vendor} {l : LinkAggregation}
    {fragment : Fragment} {title line : String} {id : Int} (h : IsPlain l)
    (hvendor : vendor ≠ .generic) (henabled : l.enabled) (hrender : l.render vendor = .ok fragment)
    (htitle : Text.IsOneLine title)
    (hline : line ∈ Text.splitOn '\n' (Section.block title fragment.cli))
    (hid : id ∈ Vlan.lineIds vendor line) :
    ∃ g ∈ l.groups, ∃ parts other, g.parts vendor = .ok parts ∧ Writes parts.entries other ∧
      id ∈ Vlan.lineIds vendor other := by
  obtain ⟨groups, hgroups, rfl⟩ := render_eq_ok hvendor henabled hrender
  have hsettled := settled_entries ((ensures_parts h vendor).ok hgroups)
  obtain haside | ⟨other, hother, hkept⟩ := hsettled.exists_writes_of_mem_block htitle hline
  · exact absurd haside (Vlan.not_isAside_of_mem_lineIds hid)
  obtain ⟨parts, hparts, hwrites⟩ := Writes.flatMap_iff.mp hother
  obtain ⟨g, hg, hpart⟩ :=
    Outcome.exists_of_forall₂_right (Outcome.mapM_eq_ok_iff.mp hgroups) hparts
  refine ⟨g, (List.mem_filter.mp hg).1, parts, other, hpart, hwrites, ?_⟩
  obtain rfl | rfl := hkept
  · exact hid
  · exact Vlan.mem_lineIds_of_trimEnd hid

namespace Node

/-- A line of the link modes that comes from what is built in: every connection that writes it
    writes it where nothing is set. -/
def IsBuiltInMode (node : Node) (connections : List Connection) (line : String) : Prop :=
  (∃ c ∈ connections, line ∈ node.blockLines c) ∧
    ∀ c ∈ connections, line ∈ node.blockLines c → c.config.IsBuiltIn node.vendor line

/-- The VLANs that the lines of a block of the script use: in the views of ports, apart from what a
    port without settings has anyway; in the views of aggregate interfaces; and as the numbers of
    VLAN interfaces. -/
inductive UsesVlan (node : Node) (connections : List Connection) : Section → String → Int → Prop
  | port {line : String} {id : Int}
      (hline : line ∈ Text.splitOn '\n' (Section.linkModes.headed node connections))
      (hid : id ∈ Vlan.lineIds node.vendor line) (hset : ¬ node.IsBuiltInMode connections line) :
      UsesVlan node connections .linkModes line id
  | aggregate {line : String} {id : Int}
      (hline : line ∈ Text.splitOn '\n' (Section.linkAggregation.headed node connections))
      (hid : id ∈ Vlan.lineIds node.vendor line) :
      UsesVlan node connections .linkAggregation line id
  | vlanInterface {line : String} {id : Int}
      (hline : line ∈ Text.splitOn '\n' (Section.vlanInterfaces.headed node connections))
      (hid : id ∈ Vlan.interfaceIds node.vendor line) :
      UsesVlan node connections .vlanInterfaces line id

variable {node : Node} {connections : List Connection} {s : Section} {line : String} {id : Int}

private theorem UsesVlan.mem_all (h : node.UsesVlan connections s line id) : s ∈ Section.all := by
  cases h with
  | port => exact Section.linkModes_mem_all
  | aggregate => exact Section.linkAggregation_mem_all
  | vlanInterface => exact Section.vlanInterfaces_mem_all

private theorem UsesVlan.mem_headed (h : node.UsesVlan connections s line id) :
    line ∈ Text.splitOn '\n' (s.headed node connections) := by
  cases h with
  | port hline hid hset => exact hline
  | aggregate hline hid => exact hline
  | vlanInterface hline hid => exact hline

private theorem UsesVlan.not_isAside (h : node.UsesVlan connections s line id) :
    ¬ View.IsAside line := by
  cases h with
  | port hline hid hset => exact Vlan.not_isAside_of_mem_lineIds hid
  | aggregate hline hid => exact Vlan.not_isAside_of_mem_lineIds hid
  | vlanInterface hline hid => exact Vlan.not_isAside_of_mem_interfaceIds hid

private theorem UsesVlan.isShown (h : node.UsesVlan connections s line id)
    (henabled : s.enabled node) :
    s.isShown node connections := by
  have hlines : Text.HasLines (s.headed node connections) [line] := by
    rw [← Text.unlines_splitOn (s.headed node connections)]
    exact Text.hasLines_of_mem h.mem_headed
  have hline : Text.allBlank line = false := by
    simpa using fun hblank => h.not_isAside (.inl hblank)
  have hheaded := Text.allBlank_eq_false_of_hasLines hlines hline
  rw [Section.headed, Section.allBlank_block] at hheaded
  rw [Section.isShown, henabled, hheaded]
  rfl

/-- A section with something but comments in it succeeded. -/
theorem UsesVlan.render_eq_ok (h : node.UsesVlan connections s line id) (hnode : IsPlain node)
    (hconnections : ∀ c ∈ connections, IsPlain c) :
    ∃ fragment, s.render node connections = .ok fragment := by
  have htitle : s.title ≠ "Stacking (IRF)" := by
    cases h <;> decide
  have htidy := Section.isTidy_of_mem_all hnode hconnections h.mem_all htitle
  cases hrender : s.render node connections with
  | ok fragment => exact ⟨fragment, rfl⟩
  | error fault =>
    have haside := Section.isAside_of_error (Section.isOneLine_title s h.mem_all) hrender
      (htidy.error hrender)
    exact absurd (haside line h.mem_headed) h.not_isAside

/-- Some connection writes the line of the link modes that uses a VLAN. -/
theorem exists_mem_blockLines {fragment : Fragment} (hnode : IsPlain node)
    (hconnections : ∀ c ∈ connections, IsPlain c)
    (hrender : node.linkModes connections = .ok fragment)
    (hline : line ∈ Text.splitOn '\n' (Section.linkModes.headed node connections))
    (hid : id ∈ Vlan.lineIds node.vendor line) : ∃ c ∈ connections, line ∈ node.blockLines c := by
  have hlast : ∀ line ∈ (node.linkModeLines connections).getLast?, Text.allBlank line = false := by
    intro line hline
    rw [eq_closer_of_mem_getLast? hline]
    exact View.allBlank_closer node.vendor
  rw [Section.headed_eq hrender, (linkModes_eq_ok hrender).1] at hline
  obtain haside | hmem | ⟨last, hmem, rfl⟩ := View.exists_of_mem_splitOn_block (by decide)
    (isOneLine_of_mem_linkModeLines hnode hconnections) (fun _ => startsSolid_of_mem_head?) hlast
    hline
  · exact absurd haside (Vlan.not_isAside_of_mem_lineIds hid)
  · exact List.mem_flatMap.mp hmem
  · have hcloser : Vlan.lineIds node.vendor (Text.trimEnd node.vendor.closer) = [] := by
      cases node.vendor <;> decide +kernel
    rw [eq_closer_of_mem_getLast? hmem, hcloser] at hid
    cases hid

/-- In the block of a port, a line that names a VLAN stands inside the view. -/
theorem mem_bodyLines_of_mem_lineIds {c : Connection} (hline : line ∈ node.blockLines c)
    (hid : id ∈ Vlan.lineIds node.vendor line) :
    node.GivesBlocks c ∧ line ∈ c.config.bodyLines node.vendor := by
  obtain ⟨name, hname, hblock⟩ := List.mem_flatMap.mp hline
  refine ⟨(givesBlocks_of_mem_blockNames hname).1, ?_⟩
  have hsilent {opening : String} (hopens : Vlan.OpensSilently node.vendor opening)
      (hstart : Text.hasStart opening line) : False := by
    rw [Vlan.lineIds_eq_nil hopens hstart] at hid
    cases hid
  rw [portBlock, List.cons_append, List.mem_cons, List.mem_append, List.mem_singleton] at hblock
  obtain rfl | hbody | rfl := hblock
  · exact absurd (Text.hasStart_append "interface " name)
      (hsilent (by cases node.vendor <;> decide +kernel))
  · exact hbody
  · exact absurd (Text.hasStart_self _) (hsilent (by cases node.vendor <;> decide +kernel))

/-- A VLAN that a line uses is among those that the database collects. -/
theorem UsesVlan.mem_vlanIds (h : node.UsesVlan connections s line id) (hnode : IsPlain node)
    (hconnections : ∀ c ∈ connections, IsPlain c) (hvendor : node.vendor ≠ .generic)
    (henabled : s.enabled node) {ids : List Int} (hids : node.vlanIds connections = .ok ids) :
    id ∈ ids := by
  obtain ⟨fragment, hrender⟩ := h.render_eq_ok hnode hconnections
  obtain ⟨groups, links, hgroups, hlinks, _, hmem⟩ := vlanIds_eq_ok hids
  have hconfig := isPlain_config hnode
  rw [isPlain_record] at hconfig
  simp [NodeConfig.fields] at hconfig
  rw [hmem]
  cases h with
  | port hline hid hset =>
    have hwritten := exists_mem_blockLines hnode hconnections hrender hline hid
    obtain ⟨c, hc, hblock, hnot⟩ : ∃ c ∈ connections, line ∈ node.blockLines c ∧
        ¬ c.config.IsBuiltIn node.vendor line := by
      by_contra hnone
      refine hset ⟨hwritten, fun c hc hblock => ?_⟩
      by_contra hnot
      exact hnone ⟨c, hc, hblock, hnot⟩
    obtain ⟨hgives, hbody⟩ := mem_bodyLines_of_mem_lineIds hblock hid
    obtain ⟨found, hfound, hvlans⟩ := exists_mem_of_linkIds hlinks hc hgives.1
    obtain ⟨lines, hlines, portLine, hportLine, rfl⟩ :=
      LinkConfig.exists_portLine_of_mem_bodyLines hbody
    have hfits := (LinkConfig.fits_or_isBuiltIn hlines hportLine).resolve_right hnot
    exact .inr (.inr ⟨found, hfound, Vlan.PortLine.mem_modeIds_of_fits hvlans hfits hid⟩)
  | aggregate hline hid =>
    rw [Section.headed_eq hrender] at hline
    obtain ⟨g, hg, parts, other, hparts, hwrites, hother⟩ :=
      LinkAggregation.exists_writes_of_mem_lineIds (by simp [hconfig]) hvendor henabled hrender
        (by decide) hline hid
    obtain ⟨found, hfound, hvlans⟩ := exists_mem_of_groupIds hgroups henabled hg
    have hgroup := AggregationGroup.mem_vlanIds_of_writes hvlans hparts hwrites hother
    exact .inr (.inl ⟨found, hfound, hgroup⟩)
  | vlanInterface hline hid =>
    have hinterfaces : IsPlain node.config.vlan := by simp [hconfig]
    rw [Section.headed_eq hrender, ← Except.ok.inj hrender] at hline
    exact .inl (VlanInterfaces.exists_mem_singleId hinterfaces (by simp [hconfig])
      (by simp [hconfig]) hvendor henabled (by decide) hline hid)

/-- Every VLAN is declared before it is used. Where no setting holds a line feed, a line of the
    script that uses a VLAN stands behind the declarations at the start of the script, and one of
    their lines declares it. -/
theorem compile_declares_used_vlans {script : String} (hnode : IsPlain node)
    (hconnections : ∀ c ∈ connections, IsPlain c) (hvendor : node.vendor ≠ .generic)
    (h : node.compile connections = .ok script) (henabled : s.enabled node)
    (huse : node.UsesVlan connections s line id) :
    ∃ ids after, script = Text.unlines (Text.trimNewlines node.preamble
        :: node.databaseBlock ids :: after) ∧
      s.headed node connections ∈ after ∧
      ∃ declaration ∈ Text.splitOn '\n' (node.databaseBlock ids),
        Vlan.Declares node.vendor declaration id ∧
        [declaration, line].Sublist (Text.splitOn '\n' script) := by
  obtain ⟨ids, hids, _⟩ := compile_eq_ok hvendor h
  have hused := huse.mem_vlanIds hnode hconnections hvendor henabled hids
  obtain ⟨declaration, hmem, hdeclares⟩ :=
    Vlan.exists_declaration hvendor hused node.vlanDescriptions
  have hne := List.ne_nil_of_mem hmem
  obtain ⟨after, hscript, hsections⟩ := compile_eq_database_first hvendor h hids hne
  have hblock := hsections s huse.mem_all (huse.isShown henabled)
  have hdeclaration : declaration ∈ Text.splitOn '\n' (node.databaseBlock ids) := by
    rw [splitOn_databaseBlock hnode hne]
    exact List.mem_append_right _ hmem
  refine ⟨ids, after, hscript, hblock, declaration, hdeclaration, hdeclares, ?_⟩
  rw [hscript, Text.splitOn_unlines_eq_flatMap (List.cons_ne_nil _ _), List.flatMap_cons,
    List.flatMap_cons]
  have hline : line ∈ after.flatMap (Text.splitOn '\n') :=
    List.mem_flatMap.mpr ⟨_, hblock, huse.mem_headed⟩
  have hpair := (List.singleton_sublist.mpr hdeclaration).append (List.singleton_sublist.mpr hline)
  exact hpair.trans (List.sublist_append_right _ _)

/-- The access VLAN of a link, in the declarations and in the block of the port. -/
theorem compile_declares_used_vlans_of_access_link :
    let node : Node := { id := "sw1", vendor := .h3c, ports := [{ id := "p1", name := "GE1/0/1" }] }
    let link : Connection :=
      { source := { nodeId := "sw1", portId := "p1" }
        config := { mode := .access, accessVlan := "10" } }
    let modes := "interface GE1/0/1\n port access vlan 10\nquit"
    ∃ script, node.compile [link] = .ok script ∧ IsPlain node ∧ IsPlain link ∧
      ∃ ids after, script = Text.unlines ("system-view" :: node.databaseBlock ids :: after) ∧
        Section.block "Interface Link Modes" modes ∈ after ∧
        ∃ declaration ∈ Text.splitOn '\n' (node.databaseBlock ids),
          Vlan.Declares .h3c declaration 10 ∧
          [declaration, " port access vlan 10"].Sublist (Text.splitOn '\n' script) := by
  intro node link modes
  have hnode : IsPlain node := by decide +kernel
  have hlink : IsPlain link := by decide +kernel
  obtain ⟨script, hcompile⟩ : ∃ script, node.compile [link] = .ok script := ⟨_, rfl⟩
  have hpreamble : Text.trimNewlines node.preamble = "system-view" := by decide +kernel
  have hheaded : Section.linkModes.headed node [link] =
      Section.block "Interface Link Modes" modes := by decide +kernel
  have huse : node.UsesVlan [link] .linkModes " port access vlan 10" 10 := by
    refine .port (by decide +kernel) (by decide +kernel) fun ⟨_, hbuiltIn⟩ => ?_
    obtain ⟨_, hunset, _⟩ | ⟨hmode, _⟩ :=
      hbuiltIn link List.mem_cons_self (by decide +kernel)
    · exact absurd hunset (by decide)
    · exact absurd hmode (by decide)
  have hdeclared := compile_declares_used_vlans hnode (List.forall_mem_singleton.mpr hlink)
    (by decide) hcompile rfl huse
  rw [hpreamble, hheaded] at hdeclared
  exact ⟨script, hcompile, hnode, hlink, hdeclared⟩

/-- A line feed in the VLAN of a link: what follows it uses a VLAN that no line declares. -/
theorem compile_uses_undeclared_vlan :
    let node : Node :=
      { id := "sw1", vendor := .huawei, ports := [{ id := "p1", name := "GE0/0/1" }] }
    let link : Connection :=
      { source := { nodeId := "sw1", portId := "p1" }
        config := { mode := .access, accessVlan := "10\n port default vlan 99" } }
    ∃ script, node.compile [link] = .ok script ∧
      node.UsesVlan [link] .linkModes " port default vlan 99" 99 ∧
      " port default vlan 99" ∈ Text.splitOn '\n' script ∧
      ∀ line ∈ Text.splitOn '\n' script, ¬ Vlan.Declares .huawei line 99 := by
  intro node link
  let lines := ["system-view", "!", "! Interface Link Modes Configuration", "!",
    "interface GE0/0/1", " port link-type access", " port default vlan 10",
    " port default vlan 99", "quit"]
  have hscript : node.compile [link] = .ok (Text.unlines lines) := by decide +kernel
  have hlines : Text.splitOn '\n' (Text.unlines lines) = lines :=
    Text.splitOn_unlines (List.cons_ne_nil _ _) (by decide +kernel)
  have huse : node.UsesVlan [link] .linkModes " port default vlan 99" 99 := by
    refine .port (by decide +kernel) (by decide +kernel) fun ⟨⟨c, hc, hwritten⟩, _⟩ => ?_
    rw [List.mem_singleton.mp hc] at hwritten
    exact absurd hwritten (by decide +kernel)
  refine ⟨_, hscript, huse, ?_, ?_⟩
  · rw [hlines]
    decide
  · rw [hlines]
    rintro line hline ⟨ids, -, rfl⟩
    have hnone : ∀ line ∈ lines, Text.hasStart "vlan batch " line = false := by decide +kernel
    have hstart := Text.hasStart_append "vlan batch " (Text.unwords (ids.map toString))
    rw [hnone _ hline] at hstart
    cases hstart

end Node
end Netscribe
