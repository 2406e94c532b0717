import Netscribe.Proofs.Script.Assembly
import Netscribe.Proofs.Script.Failures
/-!
What each section puts into the script of a device. A section gives one headed block, or none for a
blank text, and a section that fails gives a comment of one line under its own heading. A block is
that of its section alone, so that a failure changes nothing else in the script.
-/
namespace Netscribe

namespace Section

/-- The lines that open the block of a section. -/
def heading (title : String) : String := s!"!\n! {title} Configuration\n!\n"

/-- The comment that stands for the text of a section that failed. -/
def failure (s : Section) (fault : Fault) : String :=
  s!"# {s.title} generation failed: {fault.message}"

/-- The block of a section, from what the section alone renders; none for a blank text. -/
def ownBlock? (s : Section) (node : Node) (connections : List Connection) : Option String :=
  match s.render node connections with
  | .ok fragment =>
    if Text.allBlank fragment.cli then none else some (heading s.title ++ Text.trim fragment.cli)
  | .error fault => some (heading s.title ++ s.failure fault)

variable {s : Section} {node : Node} {connections : List Connection}

private theorem isSolid_failure (s : Section) {fault : Fault} (h : fault.IsOfReading) :
    IsSolid (s.failure fault) := by
  constructor
  · exact Text.startsSolid_append (Text.startsSolid_append (Text.startsSolid_append
      (by decide) _) _) _
  · exact Text.endsSolid_append _ h.endsSolid_message

/-- What is not blank is put under its heading and trimmed. -/
theorem block_eq {title cli : String} (h : Text.allBlank cli = false) :
    block title cli = heading title ++ Text.trim cli := by
  rw [block, h, if_neg (by decide)]
  rfl

/-- The block of a section is its headed text, unless that is blank. -/
theorem ownBlock?_eq (h : OnlyReads (s.render node connections)) :
    s.ownBlock? node connections =
      if Text.allBlank (s.text node connections) then none
      else some (s.headed node connections) := by
  rw [ownBlock?, headed]
  cases hrender : s.render node connections with
  | ok fragment =>
    rw [text_eq hrender]
    dsimp only
    cases hblank : Text.allBlank fragment.cli with
    | true => rfl
    | false => rw [block_eq hblank]
  | error fault =>
    have htext : s.text node connections = s.failure fault := by
      rw [text, hrender]
      rfl
    have hsolid := s.isSolid_failure (h.error hrender)
    have hblank := Text.allBlank_eq_false_of_startsSolid hsolid.1
    rw [htext, block_eq hblank, hblank, Text.trim_eq_self hsolid.1 hsolid.2]
    rfl

end Section

namespace Node

/-- The declarations of the VLANs, if there are any, and the block of each section that a device
    has, in the order of the sections. -/
def ownBlocks (node : Node) (connections : List Connection) (database : String) : List String :=
  (if database = "" then [] else [database])
  ++ (Section.all.filter (·.enabled node)).filterMap (·.ownBlock? node connections)

variable {node : Node} {connections : List Connection}

private theorem filterMap_ownBlock? : ∀ sections ⊆ Section.all,
    (sections.filter (·.enabled node)).filterMap (·.ownBlock? node connections) =
      (sections.filter (·.isShown node connections)).map (·.headed node connections) := by
  intro sections
  induction sections with
  | nil => exact fun _ => rfl
  | cons s rest ih =>
    intro hall
    obtain ⟨hs, hrest⟩ := List.cons_subset.mp hall
    have hblock := Section.ownBlock?_eq (Section.onlyReads_of_mem_all hs node connections)
    cases henabled : s.enabled node with
    | false => simp [Section.isShown, henabled, ih hrest]
    | true =>
      cases hblank : Text.allBlank (s.text node connections) with
      | true => simp [Section.isShown, henabled, hblank, hblock, ih hrest]
      | false => simp [Section.isShown, henabled, hblank, hblock, ih hrest]

/-- The blocks that sections give on their own are the blocks of the script. -/
theorem ownBlocks_eq {ids : List Int} {database : String}
    (h : database = if Vlan.databaseLines node.vendor ids node.vlanDescriptions = [] then ""
      else node.databaseBlock ids) :
    node.ownBlocks connections database = node.scriptBlocks connections ids := by
  rw [ownBlocks, scriptBlocks, filterMap_ownBlock? Section.all (List.Subset.refl _), h]
  by_cases hlines : Vlan.databaseLines node.vendor ids node.vlanDescriptions = []
  · rw [if_pos hlines, if_pos hlines, if_pos rfl]
  · have hblock : node.databaseBlock ids ≠ "" := by
      intro hempty
      have hsolid := (isSolid_databaseBlock hlines).1
      rw [hempty] at hsolid
      exact absurd hsolid (by decide)
    rw [if_neg hlines, if_neg hlines, if_neg hblock]

/-- A preamble is nothing, or it starts with a command. -/
theorem preamble_cases (node : Node) : node.preamble = "" ∨ Text.startsSolid node.preamble := by
  by_cases hvendor : node.vendor = .generic
  · left
    rw [preamble, hvendor]
  · right
    exact startsSolid_preamble hvendor

/-- A script is its preamble, a line feed and its blocks, apart from what is blank at its ends. -/
theorem assemble_eq_trim {preamble : String} {blocks : List String}
    (hpreamble : preamble = "" ∨ Text.startsSolid preamble)
    (hsolid : ∀ block ∈ blocks.filter (fun b => !Text.allBlank b), IsSolid block) :
    assemble preamble blocks = Text.trim (Text.trimNewlines preamble ++ "\n"
      ++ Text.join "\n\n" (blocks.filter fun b => !Text.allBlank b)) := by
  have hfeed : Text.allBlank "\n" := by decide
  obtain rfl | hstart := hpreamble
  · have hnothing : Text.trimNewlines "" ++ "\n" = "\n" := by decide
    rw [hnothing, Text.trim_append_left hfeed, assemble_empty hsolid]
    by_cases hnil : (blocks.filter fun b => !Text.allBlank b) = []
    · rw [hnil]
      decide
    · have hends := isSolid_join hsolid hnil
      rw [Text.trim_eq_self hends.1 hends.2]
  · rw [assemble, joinBlocks_eq_join hsolid]
    by_cases hnil : (blocks.filter fun b => !Text.allBlank b) = []
    · have hsolidStart := Text.allBlank_eq_false_of_startsSolid hstart
      have hnothing : Text.join "\n\n" [] = "" := rfl
      have halone : joinBlocks "\n" [preamble, ""] = Text.trimNewlines preamble := by
        have hfilter : [preamble, ""].filter (fun b => !Text.allBlank b) = [preamble] := by
          simp [hsolidStart, show Text.allBlank "" from rfl]
        rw [joinBlocks, hfilter, List.map_singleton, Text.join, String.intercalate_singleton]
      rw [hnil, hnothing, halone, String.append_empty, Text.trim_append_right hfeed]
    · rw [joinBlocks_preamble hstart (isSolid_join hsolid hnil)]

/-- Every block starts with the mark of a comment. -/
theorem head?_of_mem_scriptBlocks {ids : List Int} {block : String}
    (h : block ∈ node.scriptBlocks connections ids) : block.toList.head? = some '!' := by
  rw [scriptBlocks, List.mem_append] at h
  obtain hdatabase | hsection := h
  · split at hdatabase
    · cases hdatabase
    · rw [List.mem_singleton.mp hdatabase]
      exact Text.head?_append (Text.head?_append rfl _) _
  · obtain ⟨s, hs, rfl⟩ := List.mem_map.mp hsection
    have hshown := (List.mem_filter.mp hs).2
    rw [Section.isShown, Bool.and_eq_true, Bool.not_eq_true'] at hshown
    rw [Section.headed, Section.block_eq hshown.2]
    exact Text.head?_append (Text.head?_append (Text.head?_append rfl _) _) _

private theorem head?_preamble (hvendor : node.vendor ≠ .generic) :
    ∃ c, (c = 's' ∨ c = 'c') ∧ node.preamble.toList.head? = some c := by
  rw [preamble]
  cases hkind : node.vendor with
  | huawei | h3c => exact ⟨'s', .inl rfl, Text.head?_join rfl _⟩
  | cisco => exact ⟨'c', .inr rfl, Text.head?_join rfl _⟩
  | generic => exact absurd hkind hvendor

/-- A script is its preamble, a line feed and its blocks, apart from what is blank at its ends. -/
theorem compile_eq_trim {script : String} (h : node.compile connections = .ok script) :
    ∃ ids, script = Text.trim (Text.trimNewlines node.preamble ++ "\n"
      ++ Text.join "\n\n" (node.scriptBlocks connections ids)) := by
  obtain ⟨database, hdatabase, hscript⟩ := Outcome.bind_eq_ok_iff.mp h
  obtain ⟨ids, _, hvalue⟩ := vlanDatabase_eq_ok hdatabase
  have hfilter : (database :: node.sectionBlocks connections).filter (fun b => !Text.allBlank b) =
      node.scriptBlocks connections ids := filter_blocks_eq hvalue
  refine ⟨ids, ?_⟩
  rw [← hfilter, ← assemble_eq_trim node.preamble_cases fun block hblock => ?_]
  · exact (Except.ok.inj hscript).symm
  · rw [hfilter] at hblock
    exact isSolid_of_mem_scriptBlocks hblock

/-- A script is empty, or it starts with the first command of the preamble or with a comment. -/
theorem head?_compile {script : String} (h : node.compile connections = .ok script) :
    script = "" ∨ ∃ c, (c = '!' ∨ c = 's' ∨ c = 'c') ∧ script.toList.head? = some c := by
  obtain ⟨ids, rfl⟩ := compile_eq_trim h
  by_cases hvendor : node.vendor = .generic
  · have hpreamble : node.preamble = "" := by rw [preamble, hvendor]
    have hfeed : Text.trimNewlines "" ++ "\n" = "\n" := by decide
    rw [hpreamble, hfeed, Text.trim_append_left (by decide)]
    cases hblocks : node.scriptBlocks connections ids with
    | nil => exact .inl (by decide)
    | cons first rest =>
      have hfirst : first ∈ node.scriptBlocks connections ids := hblocks ▸ List.mem_cons_self
      have hjoin : (Text.join "\n\n" (first :: rest)).toList.head? = some '!' :=
        Text.head?_join (head?_of_mem_scriptBlocks hfirst) rest
      exact .inr ⟨'!', .inl rfl, Text.head?_trim hjoin (by decide)⟩
  · obtain ⟨c, hc, hpreamble⟩ := head?_preamble hvendor
    have hsolid : Text.isBlank c = false := by
      obtain rfl | rfl := hc <;> rfl
    have hkept : (Text.trimNewlines node.preamble).toList.head? = some c := by
      rw [Text.trimNewlines, String.toList_ofList,
        Text.head?_trimChars hpreamble (Text.linefeed_ne_of_solid hsolid)]
    refine .inr ⟨c, .inr hc, Text.head?_trim ?_ hsolid⟩
    exact Text.head?_append (Text.head?_append hkept _) _

/-- The script of a device is its preamble, the declarations of its VLANs and the block of each of
    its sections that has something in it, with one empty line between blocks, none of which is
    blank at its ends. A section that fails gives one comment line, and no other block changes. -/
theorem compile_eq_join_ownBlocks {script : String} (h : node.compile connections = .ok script) :
    ∃ database, node.vlanDatabase connections = .ok database ∧
      script = Text.trim (Text.trimNewlines node.preamble ++ "\n"
        ++ Text.join "\n\n" (node.ownBlocks connections database)) ∧
      (∀ block ∈ node.ownBlocks connections database, IsSolid block) ∧
      ∀ s ∈ Section.all, ∀ fault, s.render node connections = .error fault →
        Text.IsOneLine (s.failure fault) := by
  obtain ⟨database, hdatabase, hscript⟩ := Outcome.bind_eq_ok_iff.mp h
  obtain ⟨ids, _, hvalue⟩ := vlanDatabase_eq_ok hdatabase
  have hblocks : node.ownBlocks connections database = node.scriptBlocks connections ids :=
    ownBlocks_eq hvalue
  have hfilter : (database :: node.sectionBlocks connections).filter (fun b => !Text.allBlank b) =
      node.scriptBlocks connections ids := filter_blocks_eq hvalue
  have hsolid : ∀ block ∈ node.ownBlocks connections database, IsSolid block := by
    intro block hblock
    rw [hblocks] at hblock
    exact isSolid_of_mem_scriptBlocks hblock
  refine ⟨database, hdatabase, ?_, hsolid, ?_⟩
  · rw [hblocks, ← hfilter] at hsolid ⊢
    rw [← assemble_eq_trim node.preamble_cases hsolid]
    exact (Except.ok.inj hscript).symm
  · intro s hs fault hfault
    have hreading := (Section.onlyReads_of_mem_all hs node connections).error hfault
    exact Section.isOneLine_failure (Section.isOneLine_title s hs) hreading.isOneLine

/-- A port range that denotes no numbers: the modes of the links are a comment, and the interface of
    the VLAN before it is written all the same. -/
theorem compile_eq_join_ownBlocks_of_unreadable_range :
    let interface : VlanInterface := { vlanId := "10", ipAddress := "10.0.0.1", subnetMask := "24" }
    let node : Node :=
      { id := "sw1", name := "core", vendor := .huawei, ports := [{ id := "p1", name := "GE0/0/1" }]
        config := { vlan := { enabled := true, vlanInterfaces := [interface] } } }
    let link : Connection :=
      { source := { nodeId := "sw1", portId := "p1" }
        config := { mode := .access, accessVlan := "10", applyToPortRange := "²" } }
    ∃ script database, node.compile [link] = .ok script ∧
      node.ownBlocks [link] database =
        ["!\n! VLAN Database\n!\nvlan batch 10",
         "!\n! VLAN Interfaces Configuration\n!\ninterface Vlanif10\n ip address 10.0.0.1 24\nquit",
         "!\n! Interface Link Modes Configuration\n!\n# Interface Link Modes generation failed: "
           ++ "invalid literal for int() with base 10: '²'"] ∧
      script = Text.trim (Text.trimNewlines node.preamble ++ "\n"
        ++ Text.join "\n\n" (node.ownBlocks [link] database)) := by
  intro interface node link
  obtain ⟨database, hdatabase⟩ : ∃ database, node.vlanDatabase [link] = .ok database := ⟨_, rfl⟩
  have hscript : node.compile [link] =
      .ok (assemble node.preamble (database :: node.sectionBlocks [link])) := by
    rw [compile, hdatabase]
    rfl
  obtain ⟨found, hfound, hjoined, -⟩ := compile_eq_join_ownBlocks hscript
  refine ⟨_, found, hscript, ?_, hjoined⟩
  have hvalue : found = "!\n! VLAN Database\n!\nvlan batch 10" := by
    have hids : node.vlanIds [link] = .ok [10] := by
      simp only [vlanIds, Vlan.sortedDistinct_eq_insertionSort]
      decide +kernel
    have heq : node.vlanDatabase [link] = .ok "!\n! VLAN Database\n!\nvlan batch 10" := by
      rw [vlanDatabase, hids]
      decide +kernel
    exact Except.ok.inj (hfound.symm.trans heq)
  rw [hvalue]
  decide +kernel

end Node
end Netscribe
