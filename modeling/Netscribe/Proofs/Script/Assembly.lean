import Netscribe.Proofs.Number.Decimal
import Netscribe.Proofs.Outcome
import Netscribe.Proofs.Script.Written
import Netscribe.Proofs.Text.Line
import Netscribe.Proofs.Text.Trimmed
import Netscribe.Proofs.Vlan.Runs
import Netscribe.Script.Compile
/-!
How a script is put together from its preamble and its blocks. Blocks start and end with characters
that are not blank, so that nothing of them is lost at the seams, and they keep their order. What is
written into the view of a routed interface is a line of the commands of its feature.
-/
namespace Netscribe

namespace Text

private theorem endsSolid_unlines_concat (lines : List String) {last : String}
    (h : endsSolid last) :
    endsSolid (unlines (lines ++ [last])) := by
  by_cases hnil : lines = []
  · subst hnil
    simpa [unlines, join] using h
  · rw [unlines_append hnil (List.cons_ne_nil _ _)]
    exact endsSolid_append _ (by simpa [unlines, join] using h)

end Text

namespace Vlan

/-- The descriptions end where the view of the last described VLAN is left. -/
theorem descriptionLines_cases (ids : List Int) (descriptions : List (Int × String)) :
    descriptionLines ids descriptions = [] ∨
      ∃ lines, descriptionLines ids descriptions = lines ++ ["quit"] := by
  rw [descriptionLines]
  cases hdescribed : ids.filterMap fun id => (descriptions.lookup id).map (id, ·) with
  | nil => exact .inl rfl
  | cons first rest =>
    right
    obtain hnil | ⟨front, last, hlast⟩ := List.eq_nil_or_concat (first :: rest)
    · cases hnil
    refine ⟨"" :: front.flatMap (fun d => [s!"vlan {d.1}", s!" description {d.2}", "quit"])
      ++ [s!"vlan {last.1}", s!" description {last.2}"], ?_⟩
    rw [hlast]
    simp

private theorem endsSolid_unlines_descriptionLines {front : String} (hfront : Text.endsSolid front)
    (lines : List String) (ids : List Int) (descriptions : List (Int × String)) :
    Text.endsSolid (Text.unlines (lines ++ front :: descriptionLines ids descriptions)) := by
  obtain hnone | ⟨more, hmore⟩ := descriptionLines_cases ids descriptions
  · rw [hnone]
    exact Text.endsSolid_unlines_concat lines hfront
  · rw [hmore, ← List.cons_append, ← List.append_assoc]
    exact Text.endsSolid_unlines_concat _ (by decide)

private theorem contiguousRuns_ne_nil {ids : List Int} (h : ids ≠ []) :
    contiguousRuns ids ≠ [] := by
  intro hnil
  obtain ⟨id, rest, rfl⟩ := List.exists_cons_of_ne_nil h
  obtain ⟨run, hrun, _⟩ := exists_inRun_contiguousRuns_iff.mpr (@List.mem_cons_self _ id rest)
  rw [hnil] at hrun
  cases hrun

/-- Declarations end with a command or an id. -/
theorem endsSolid_database {vendor : Vendor} {ids : List Int} {descriptions : List (Int × String)}
    (h : databaseLines vendor ids descriptions ≠ []) :
    Text.endsSolid (database vendor ids descriptions) := by
  have hids : ids ≠ [] := by
    rintro rfl
    exact h rfl
  rw [database]
  cases vendor with
  | cisco =>
    have hlines : databaseLines .cisco ids descriptions =
        ids.flatMap (ciscoDeclaration descriptions) := if_neg hids
    obtain rfl | ⟨front, last, rfl⟩ := List.eq_nil_or_concat' ids
    · exact absurd rfl hids
    · rw [hlines, List.flatMap_append, List.flatMap_singleton, ciscoDeclaration,
        ← List.append_assoc]
      exact Text.endsSolid_unlines_concat _ (by decide)
  | huawei =>
    have hlines : databaseLines .huawei ids descriptions =
        [] ++ ("vlan batch " ++ Text.unwords (ids.map toString))
          :: descriptionLines ids descriptions := if_neg hids
    rw [hlines]
    refine endsSolid_unlines_descriptionLines ?_ _ _ _
    refine Text.endsSolid_append _ (Text.endsSolid_join " " (by simpa using hids) ?_)
    intro item hitem
    obtain ⟨id, _, rfl⟩ := List.mem_map.mp hitem
    exact Text.endsSolid_toString id
  | h3c =>
    have hlines : databaseLines .h3c ids descriptions =
        (contiguousRuns ids).map h3cDeclaration ++ descriptionLines ids descriptions := if_neg hids
    obtain hnil | ⟨runs, run, hlast⟩ := List.eq_nil_or_concat' (contiguousRuns ids)
    · exact absurd hnil (contiguousRuns_ne_nil hids)
    · rw [hlines, hlast, List.map_append, List.map_singleton, List.append_assoc]
      refine endsSolid_unlines_descriptionLines ?_ _ _ _
      rw [h3cDeclaration]
      split
      · exact Text.endsSolid_append _ (Text.endsSolid_toString run.1)
      · exact Text.endsSolid_append _ (Text.endsSolid_toString run.2)
  | generic => exact absurd (if_neg hids) h

end Vlan

/-- A text with no blank character at its ends; it can stand between other blocks. -/
def IsSolid (block : String) : Prop := Text.startsSolid block ∧ Text.endsSolid block

private theorem trimNewlines_of_isSolid {block : String} (h : IsSolid block) :
    Text.trimNewlines block = block := Text.trimNewlines_eq_self h.1 h.2

namespace Section

/-- The headed text of a section. -/
def headed (s : Section) (node : Node) (connections : List Connection) : String :=
  block s.title (s.text node connections)

def acl : Section where
  title := "ACL"
  enabled := (·.config.acl.enabled)
  render := fun n _ => .ok (n.config.acl.render n.vendor)

def ipsec : Section := ofFeature "IPsec" .ipsec (·.config.ipsec.enabled)

def vlanInterfaces : Section := ofFeature "VLAN Interfaces" .vlan (·.config.vlan.enabled)

def physicalInterfaces : Section :=
  ofFeature "Physical Interfaces" .interface (·.config.interfaceIp.enabled)

def linkAggregation : Section :=
  ofFeature "Link Aggregation" .linkAggregation (·.config.linkAggregation.enabled)

def linkModes : Section where
  title := "Interface Link Modes"
  enabled := fun _ => true
  render := Node.linkModes

def nat : Section := ofFeature "NAT" .nat (·.config.nat.enabled)

/-- The VLAN interfaces are a section of the script. -/
theorem vlanInterfaces_mem_all : vlanInterfaces ∈ all := List.mem_of_getElem? (i := 11) rfl

/-- The link aggregation is a section of the script. -/
theorem linkAggregation_mem_all : linkAggregation ∈ all := List.mem_of_getElem? (i := 13) rfl

/-- The link modes are a section of the script. -/
theorem linkModes_mem_all : linkModes ∈ all := List.mem_of_getElem? (i := 15) rfl

/-- The ACLs come before most of the sections. -/
theorem sublist_all_of_mem_drop {s : Section} (h : s ∈ all.drop 6) : [acl, s].Sublist all := by
  have hdrop : all.drop 5 = acl :: all.drop 6 := rfl
  have hpair : [acl, s].Sublist (all.drop 5) := by
    rw [hdrop]
    exact (List.singleton_sublist.mpr h).cons_cons acl
  exact hpair.trans (List.drop_sublist 5 all)

/-- The text of a section that succeeds is that of its commands. -/
theorem text_eq {s : Section} {node : Node} {connections : List Connection} {fragment : Fragment}
    (h : s.render node connections = .ok fragment) : s.text node connections = fragment.cli := by
  rw [text, h]

/-- Whether a device has a section with something in it. -/
def isShown (s : Section) (node : Node) (connections : List Connection) : Bool :=
  s.enabled node && !Text.allBlank (s.text node connections)

/-- A section that succeeds puts its commands under its heading. -/
theorem headed_eq {s : Section} {node : Node} {connections : List Connection}
    {fragment : Fragment} (h : s.render node connections = .ok fragment) :
    s.headed node connections = block s.title fragment.cli := by
  rw [headed, text_eq h]

/-- A section with a line that is not blank is shown. -/
theorem isShown_of_hasLines {s : Section} {node : Node} {connections : List Connection}
    {fragment : Fragment} {line : String} (henabled : s.enabled node)
    (h : s.render node connections = .ok fragment) (hlines : Text.HasLines fragment.cli [line])
    (hline : Text.allBlank line = false) : s.isShown node connections := by
  rw [isShown, henabled, text_eq h, Text.allBlank_eq_false_of_hasLines hlines hline]
  rfl

private theorem isSolid_block {title cli : String} (h : Text.allBlank cli = false) :
    IsSolid (block title cli) := by
  rw [block, h, if_neg (by decide)]
  refine ⟨?_, Text.endsSolid_append _ (Text.endsSolid_trim h)⟩
  have hheading : Text.startsSolid s!"!\n! {title}" := Text.startsSolid_append (by decide) _
  exact Text.startsSolid_append (Text.startsSolid_append hheading _) _

/-- A block is blank exactly if its text is. -/
theorem allBlank_block (title cli : String) :
    Text.allBlank (block title cli) = Text.allBlank cli := by
  cases h : Text.allBlank cli with
  | true =>
    rw [block, h, if_pos rfl]
    rfl
  | false => exact Text.allBlank_eq_false_of_startsSolid (isSolid_block h).1

end Section

namespace Node

/-- The headed declarations of the given VLANs. -/
def databaseBlock (node : Node) (ids : List Int) : String :=
  s!"{Vlan.databaseHeader}\n{Vlan.database node.vendor ids node.vlanDescriptions}"

/-- The blocks of a script with something in them, in order. -/
def scriptBlocks (node : Node) (connections : List Connection) (ids : List Int) : List String :=
  (if Vlan.databaseLines node.vendor ids node.vlanDescriptions = [] then []
    else [node.databaseBlock ids])
  ++ (Section.all.filter (·.isShown node connections)).map (·.headed node connections)

/-- The block of the VLANs is solid where it declares anything. -/
theorem isSolid_databaseBlock {node : Node} {ids : List Int}
    (h : Vlan.databaseLines node.vendor ids node.vlanDescriptions ≠ []) :
    IsSolid (node.databaseBlock ids) :=
  ⟨Text.startsSolid_append (Text.startsSolid_append (by decide) _) _,
    Text.endsSolid_append _ (Vlan.endsSolid_database h)⟩

/-- Every block of the script is solid. -/
theorem isSolid_of_mem_scriptBlocks {node : Node} {connections : List Connection}
    {ids : List Int} {block : String} (h : block ∈ node.scriptBlocks connections ids) :
    IsSolid block := by
  rw [scriptBlocks, List.mem_append] at h
  obtain hdatabase | hsection := h
  · split at hdatabase
    · cases hdatabase
    next hlines => exact List.mem_singleton.mp hdatabase ▸ isSolid_databaseBlock hlines
  · obtain ⟨s, hs, rfl⟩ := List.mem_map.mp hsection
    have hshown := (List.mem_filter.mp hs).2
    rw [Section.isShown, Bool.and_eq_true, Bool.not_eq_true'] at hshown
    exact Section.isSolid_block hshown.2

/-- What the block of the VLANs consists of. -/
theorem vlanDatabase_eq_ok {node : Node} {connections : List Connection} {database : String}
    (h : node.vlanDatabase connections = .ok database) :
    ∃ ids, node.vlanIds connections = .ok ids ∧
      database = if Vlan.databaseLines node.vendor ids node.vlanDescriptions = [] then ""
        else node.databaseBlock ids := by
  obtain ⟨ids, hids, hdatabase⟩ := Outcome.bind_eq_ok_iff.mp h
  refine ⟨ids, hids, ?_⟩
  cases hdatabase
  by_cases hlines : Vlan.databaseLines node.vendor ids node.vlanDescriptions = []
  · rw [if_pos hlines, Vlan.database, hlines]
    rfl
  · have hbody : Vlan.database node.vendor ids node.vlanDescriptions ≠ "" := by
      intro hempty
      have hsolid := Vlan.endsSolid_database hlines
      rw [hempty] at hsolid
      exact absurd hsolid (by decide)
    rw [if_neg hlines, if_neg hbody]
    rfl

/-- Of all blocks of a device, those that are not blank are the blocks of its script. -/
theorem filter_blocks_eq {node : Node} {connections : List Connection} {ids : List Int}
    {database : String}
    (h : database = if Vlan.databaseLines node.vendor ids node.vlanDescriptions = [] then ""
      else node.databaseBlock ids) :
    (database :: node.sectionBlocks connections).filter (fun b => !Text.allBlank b) =
      node.scriptBlocks connections ids := by
  have hsections : (node.sectionBlocks connections).filter (fun b => !Text.allBlank b) =
      (Section.all.filter (·.isShown node connections)).map (·.headed node connections) := by
    rw [sectionBlocks, List.filter_map, List.filter_filter]
    refine congrArg (List.map _) (List.filter_congr fun s _ => ?_)
    rw [Function.comp_apply, Section.allBlank_block, Section.isShown, Bool.and_comm]
  rw [scriptBlocks, ← hsections, h]
  split
  · rfl
  next hlines =>
    have hsolid := Text.allBlank_eq_false_of_startsSolid (isSolid_databaseBlock hlines).1
    rw [List.filter_cons_of_pos (by rw [hsolid]; rfl), List.singleton_append]

/-- The preamble of a known vendor starts at the left. -/
theorem startsSolid_preamble {node : Node} (h : node.vendor ≠ .generic) :
    Text.startsSolid node.preamble := by
  rw [preamble]
  cases hvendor : node.vendor with
  | huawei | h3c | cisco => exact Text.startsSolid_unlines (by decide) _
  | generic => exact absurd hvendor h

/-- Solid blocks are joined with one empty line between them. -/
theorem joinBlocks_eq_join {blocks : List String}
    (hsolid : ∀ block ∈ blocks.filter (fun b => !Text.allBlank b), IsSolid block) :
    joinBlocks "\n\n" blocks = Text.join "\n\n" (blocks.filter fun b => !Text.allBlank b) := by
  rw [joinBlocks]
  refine congrArg (Text.join "\n\n") ?_
  exact (List.map_congr_left fun block hblock =>
    trimNewlines_of_isSolid (hsolid block hblock)).trans (List.map_id _)

/-- Solid blocks stay solid when they are joined. -/
theorem isSolid_join {blocks : List String} (hsolid : ∀ block ∈ blocks, IsSolid block)
    (hne : blocks ≠ []) : IsSolid (Text.join "\n\n" blocks) :=
  ⟨Text.startsSolid_join _ hne fun block hblock => (hsolid block hblock).1,
    Text.endsSolid_join _ hne fun block hblock => (hsolid block hblock).2⟩

/-- The preamble runs straight into what stands behind it. -/
theorem joinBlocks_preamble {preamble body : String} (hpreamble : Text.startsSolid preamble)
    (hbody : IsSolid body) :
    joinBlocks "\n" [preamble, body] = Text.trimNewlines preamble ++ "\n" ++ body := by
  have hfilter : [preamble, body].filter (fun b => !Text.allBlank b) = [preamble, body] := by
    simp [Text.allBlank_eq_false_of_startsSolid hpreamble,
      Text.allBlank_eq_false_of_startsSolid hbody.1]
  rw [joinBlocks, hfilter, List.map_cons, List.map_singleton, trimNewlines_of_isSolid hbody,
    Text.join, String.intercalate_cons_of_ne_nil (List.cons_ne_nil _ _),
    String.intercalate_singleton]

private theorem assemble_eq {preamble : String} {blocks : List String}
    (hpreamble : Text.startsSolid preamble)
    (hsolid : ∀ block ∈ blocks.filter (fun b => !Text.allBlank b), IsSolid block)
    (hne : blocks.filter (fun b => !Text.allBlank b) ≠ []) :
    assemble preamble blocks = Text.unlines (Text.trimNewlines preamble
      :: (blocks.filter fun b => !Text.allBlank b).intersperse "") := by
  have hends := isSolid_join hsolid hne
  have hinner : (blocks.filter fun b => !Text.allBlank b).intersperse "" ≠ [] := by
    intro hnil
    have hsub := Text.sublist_intersperse (blocks.filter fun b => !Text.allBlank b) ""
    rw [hnil, List.sublist_nil] at hsub
    exact hne hsub
  rw [assemble, joinBlocks_eq_join hsolid, joinBlocks_preamble hpreamble hends,
    Text.trim_eq_self,
    Text.unlines_cons hinner,
    ← Text.join_eq_unlines_intersperse]
  · exact Text.startsSolid_append
      (Text.startsSolid_append (Text.startsSolid_trimNewlines hpreamble) _) _
  · exact Text.endsSolid_append _ hends.2

/-- Without a preamble a script is its blocks. -/
theorem assemble_empty {blocks : List String}
    (hsolid : ∀ block ∈ blocks.filter (fun b => !Text.allBlank b), IsSolid block) :
    assemble "" blocks = Text.join "\n\n" (blocks.filter fun b => !Text.allBlank b) := by
  rw [assemble, joinBlocks_eq_join hsolid]
  by_cases hnil : (blocks.filter fun b => !Text.allBlank b) = []
  · rw [hnil]
    decide
  · have hends := isSolid_join hsolid hnil
    have hfilter : ["", Text.join "\n\n" (blocks.filter fun b => !Text.allBlank b)].filter
        (fun b => !Text.allBlank b) =
          [Text.join "\n\n" (blocks.filter fun b => !Text.allBlank b)] := by
      simp [Text.allBlank_eq_false_of_startsSolid hends.1, show Text.allBlank "" from rfl]
    rw [joinBlocks, hfilter, List.map_singleton, trimNewlines_of_isSolid hends, Text.join,
      String.intercalate_singleton]
    exact Text.trim_eq_self hends.1 hends.2

/-- The script of a device is its preamble with its blocks behind it, an empty line between any two
    of them. -/
theorem compile_eq_ok {node : Node} {connections : List Connection} {script : String}
    (hvendor : node.vendor ≠ .generic) (h : node.compile connections = .ok script) :
    ∃ ids, node.vlanIds connections = .ok ids ∧
      (node.scriptBlocks connections ids ≠ [] →
        script = Text.unlines (Text.trimNewlines node.preamble
          :: (node.scriptBlocks connections ids).intersperse "")) := by
  obtain ⟨database, hdatabase, hscript⟩ := Outcome.bind_eq_ok_iff.mp h
  obtain ⟨ids, hids, hvalue⟩ := vlanDatabase_eq_ok hdatabase
  refine ⟨ids, hids, fun hne => ?_⟩
  have hblocks := @filter_blocks_eq node connections ids database hvalue
  have hassembled : script = assemble node.preamble (database :: node.sectionBlocks connections) :=
    (Except.ok.inj hscript).symm
  rw [← hblocks] at hne ⊢
  rw [hassembled]
  refine assemble_eq (startsSolid_preamble hvendor) (fun block hblock => ?_) hne
  rw [hblocks] at hblock
  exact isSolid_of_mem_scriptBlocks hblock

/-- The blocks of sections with something in them keep the order of the sections. -/
theorem hasLines_compile {node : Node} {connections : List Connection} {script : String}
    {sections : List Section} (hvendor : node.vendor ≠ .generic)
    (h : node.compile connections = .ok script) (hne : sections ≠ [])
    (hsub : sections.Sublist Section.all) (hshown : ∀ s ∈ sections, s.isShown node connections) :
    Text.HasLines script (sections.map (·.headed node connections)) := by
  obtain ⟨ids, _, hscript⟩ := compile_eq_ok hvendor h
  have hblocks : (sections.map (·.headed node connections)).Sublist
      (node.scriptBlocks connections ids) := by
    have hfilter : sections.filter (·.isShown node connections) = sections :=
      List.filter_eq_self.mpr hshown
    rw [← hfilter, scriptBlocks]
    exact ((hsub.filter _).map _).trans (List.sublist_append_right _ _)
  have hscriptBlocks : node.scriptBlocks connections ids ≠ [] := by
    intro hnil
    rw [hnil, List.sublist_nil, List.map_eq_nil_iff] at hblocks
    exact hne hblocks
  refine ⟨_, hscript hscriptBlocks, ?_⟩
  exact (hblocks.trans (Text.sublist_intersperse _ _)).cons _

/-- Declarations come right behind the preamble, and every section with something in it after
    them. -/
theorem compile_eq_database_first {node : Node} {connections : List Connection} {script : String}
    {ids : List Int} (hvendor : node.vendor ≠ .generic) (h : node.compile connections = .ok script)
    (hids : node.vlanIds connections = .ok ids)
    (hlines : Vlan.databaseLines node.vendor ids node.vlanDescriptions ≠ []) :
    ∃ after, script = Text.unlines (Text.trimNewlines node.preamble
        :: node.databaseBlock ids :: after) ∧
      ∀ s ∈ Section.all, s.isShown node connections → s.headed node connections ∈ after := by
  obtain ⟨found, hfound, hscript⟩ := compile_eq_ok hvendor h
  obtain rfl : found = ids := Except.ok.inj (hfound.symm.trans hids)
  let sections := (Section.all.filter (·.isShown node connections)).map (·.headed node connections)
  have hblocks : node.scriptBlocks connections found = node.databaseBlock found :: sections := by
    rw [scriptBlocks, if_neg hlines]
    rfl
  have hafter : ∃ after, (node.scriptBlocks connections found).intersperse "" =
      node.databaseBlock found :: after ∧ sections ⊆ after := by
    rw [hblocks]
    cases sections with
    | nil => exact ⟨[], rfl, List.nil_subset _⟩
    | cons first rest =>
      refine ⟨"" :: (first :: rest).intersperse "", List.intersperse_cons_cons, ?_⟩
      exact List.subset_cons_of_subset _ (Text.sublist_intersperse _ _).subset
  obtain ⟨after, hintersperse, hsub⟩ := hafter
  refine ⟨after, ?_, fun s hs hshown => hsub ?_⟩
  · rw [hscript (by rw [hblocks]; exact List.cons_ne_nil _ _), hintersperse]
  · exact List.mem_map_of_mem (List.mem_filter.mpr ⟨hs, hshown⟩)

end Node

/-- The block of an interface writes what its body writes. -/
theorem RoutedInterface.writes_block {vendor : Vendor} {i : RoutedInterface} {body : List Entry}
    {line : String} (h : Writes body line) : Writes (i.block vendor body) line := by
  simp only [block, List.cons_append, Writes.cons_iff, Writes.append_iff]
  exact .inr (.inl (.inl h))

section RoutedInterfaces

variable {vendor : Vendor} {acls : Acls} {ipsec : Ipsec} {line : String}

/-- A VLAN interface with an address puts the lines of its block into the script. -/
theorem VlanInterfaces.hasLines_render {v : VlanInterfaces} (hvendor : vendor ≠ .generic)
    (hon : v.enabled) {i : VlanInterface} (hi : i ∈ v.addressed)
    (h : Writes ((i.routed vendor).block vendor ((i.routed vendor).body vendor acls ipsec)) line)
    (hline : Text.allBlank line = false) :
    Text.HasLines (v.render vendor acls ipsec).cli [line] := by
  rw [render, hon, if_neg (by decide), if_neg hvendor]
  exact Fragment.hasLines_ofEntries (Writes.flatMap_iff.mpr ⟨i, hi, h⟩) hline _ _

/-- A port with a line in its view is not left out. -/
theorem RoutedPorts.hasLines_render {r : RoutedPorts} (hvendor : vendor ≠ .generic)
    (hon : r.enabled) {p : RoutedPort} (hp : p ∈ r.interfaces) (hname : p.interfaceName ≠ "")
    (h : Writes (p.routed.body vendor acls ipsec) line) (hline : Text.allBlank line = false) :
    Text.HasLines (r.render vendor acls ipsec).cli [line] := by
  rw [render, hon, if_neg (by decide), if_neg hvendor]
  refine Fragment.hasLines_ofEntries (Writes.flatMap_iff.mpr ⟨p, hp, ?_⟩) hline _ _
  rw [portEntries, Writes.onlyIf_iff]
  exact ⟨⟨hname, writesLine_of_writes h⟩, RoutedInterface.writes_block h⟩

end RoutedInterfaces

end Netscribe
