import Netscribe.Proofs.Script.Containment
import Netscribe.Proofs.Script.Spacing
import Netscribe.Proofs.View.Runbooks
import Netscribe.Proofs.View.Script
/-!
The normal form of scripts. Empty lines come from drafts, from the declarations of VLANs and from
the seams between blocks; none of these puts one behind another, and a script starts and ends with
characters that are not blank.
-/
namespace Netscribe

open Text (IsOneLine IsSpaced IsCompact)

/-- A script in normal form, with the lines of its preamble and with its blocks. -/
structure IsNormalScript (preamble blocks : List String) (script : String) : Prop where
  /-- No two lines in a row are empty. -/
  spaced : ¬ ["", ""] <:+: Text.splitOn '\n' script
  /-- Nothing blank stands at either end. -/
  trimmed : script = "" ∨ IsSolid script
  /-- No block starts or ends with an empty line. -/
  edges : ∀ block ∈ blocks, "" ∉ (Text.splitOn '\n' block).head? ∧
    "" ∉ (Text.splitOn '\n' block).getLast?
  /-- The first block stands right behind the preamble, and one empty line between any two. -/
  lines : blocks ≠ [] → Text.splitOn '\n' script =
    preamble ++ [""].intercalate (blocks.map (Text.splitOn '\n'))
  /-- Where there are no blocks, the preamble is all there is. -/
  alone : blocks = [] → script = Text.trim (Text.unlines preamble)

/-- The first and the last line of a text with no blank at its ends are not empty. -/
theorem IsSolid.isCompact {text : String} (h : IsSolid text)
    (hspaced : IsSpaced (Text.splitOn '\n' text)) : IsCompact (Text.splitOn '\n' text) := by
  have hfeed : Text.isBlank '\n' := by decide
  have htext := Text.unlines_splitOn text
  refine ⟨hspaced, fun hfirst => ?_, fun hlast => ?_⟩
  · obtain ⟨rest, hlines⟩ := List.head?_eq_some_iff.mp hfirst
    have hstart : Text.startsSolid (Text.unlines ("" :: rest)) = false := by
      by_cases hrest : rest = []
      · rw [hrest]
        decide
      · rw [Text.unlines_cons hrest]
        simp [Text.startsSolid, hfeed]
    rw [← htext, hlines, IsSolid, hstart] at h
    exact absurd h.1 (by decide)
  · obtain ⟨front, hlines⟩ := List.getLast?_eq_some_iff.mp hlast
    have hend : Text.endsSolid (Text.unlines (front ++ [""])) = false := by
      by_cases hfront : front = []
      · rw [hfront]
        decide
      · rw [Text.unlines_append hfront (List.cons_ne_nil _ _)]
        simp [Text.endsSolid, Text.unlines, Text.join, hfeed]
    rw [← htext, hlines, IsSolid, hend] at h
    exact absurd h.2 (by decide)

private theorem trim_eq_empty_or_isSolid (text : String) :
    Text.trim text = "" ∨ IsSolid (Text.trim text) := by
  cases hblank : Text.allBlank text with
  | true =>
    left
    have hnothing : Text.trimChars Text.isBlank text.toList = [] :=
      Text.trimChars_eq_nil_iff.mpr (List.all_eq_true.mp hblank)
    rw [Text.trim, hnothing, String.ofList_nil]
  | false => exact .inr ⟨Text.startsSolid_trim hblank, Text.endsSolid_trim hblank⟩

section Assemble

variable {preamble blocks : List String}

private theorem startsSolid_unlines_of_forall (hne : preamble ≠ [])
    (h : ∀ line ∈ preamble, IsOneLine line ∧ Text.startsSolid line) :
    Text.startsSolid (Text.unlines preamble) := by
  obtain ⟨first, rest, rfl⟩ := List.exists_cons_of_ne_nil hne
  exact Text.startsSolid_unlines (h first List.mem_cons_self).2 rest

/-- Commands have no line feed to lose at their ends. -/
theorem trimNewlines_unlines (h : ∀ line ∈ preamble, IsOneLine line ∧ Text.startsSolid line) :
    Text.trimNewlines (Text.unlines preamble) = Text.unlines preamble := by
  obtain rfl | ⟨front, last, rfl⟩ := List.eq_nil_or_concat' preamble
  · decide
  have hstart := startsSolid_unlines_of_forall (by simp) h
  obtain ⟨honeLine, hlast⟩ := h last (by simp)
  obtain ⟨before, hbefore⟩ := Text.exists_toList_unlines_concat front
  rw [Text.trimNewlines, Text.trimChars_eq_self, String.ofList_toList]
  · cases hhead : (Text.unlines (front ++ [last])).toList.head? with
    | none => simp [Text.startsSolid, hhead] at hstart
    | some c =>
      simpa using Text.linefeed_ne_of_solid (by simpa [Text.startsSolid, hhead] using hstart)
  · have hlastNe : last.toList ≠ [] := by
      intro hnil
      rw [Text.startsSolid, hnil] at hlast
      cases hlast
    rw [hbefore, List.getLast?_append_of_ne_nil _ hlastNe, List.getLast?_eq_some_getLast hlastNe]
    have hfeed : last.toList.getLast hlastNe ≠ '\n' := fun hfeed =>
      honeLine (hfeed ▸ List.getLast_mem hlastNe)
    simpa using hfeed

/-- A script of which the preamble is all there is. -/
theorem isNormalScript_preamble (h : ∀ line ∈ preamble, IsOneLine line ∧ Text.startsSolid line) :
    IsNormalScript preamble [] (Text.trim (Text.unlines preamble)) := by
  refine ⟨?_, trim_eq_empty_or_isSolid _, List.forall_mem_nil _, absurd rfl, fun _ => rfl⟩
  rw [← Text.isSpaced_iff]
  obtain rfl | ⟨front, last, rfl⟩ := List.eq_nil_or_concat' preamble
  · exact Text.isSpaced_singleton ""
  obtain ⟨hfront, hlast⟩ := List.forall_mem_append.mp h
  obtain ⟨honeLine, hlastStart⟩ := List.forall_mem_singleton.mp hlast
  have hshown := Text.allBlank_eq_false_of_startsSolid hlastStart
  have htrimmed : Text.trimEnd last ≠ "" := fun hempty =>
    Text.trimEnd_ne_empty hshown (by rw [hempty]; rfl)
  rw [Text.trim_unlines_concat (startsSolid_unlines_of_forall (by simp) h) hshown,
    Text.splitOn_unlines (by simp) (List.forall_mem_append.mpr
      ⟨fun line hline => (hfront line hline).1, List.forall_mem_singleton.mpr honeLine.trimEnd⟩)]
  refine Text.IsSpaced.concat (Text.isSpaced_of_forall_ne fun line hline => ?_) htrimmed
  exact Text.ne_empty_of_any_head? (hfront line hline).2

private theorem assemble_eq_of_filter_eq_nil
    (h : ∀ line ∈ preamble, IsOneLine line ∧ Text.startsSolid line)
    (hnil : blocks.filter (fun b => !Text.allBlank b) = []) :
    Node.assemble (Text.unlines preamble) blocks = Text.trim (Text.unlines preamble) := by
  have hnone : Text.join "\n\n" [] = "" := rfl
  have hfeed : Text.allBlank "\n" := by decide
  have hpreamble : Text.unlines preamble = "" ∨ Text.startsSolid (Text.unlines preamble) := by
    by_cases hempty : preamble = []
    · exact .inl (by rw [hempty]; rfl)
    · exact .inr (startsSolid_unlines_of_forall hempty h)
  rw [Node.assemble_eq_trim hpreamble (by simp [hnil]), trimNewlines_unlines h, hnil, hnone,
    String.append_empty, Text.trim_append_right hfeed]

/-- The lines of a script are those of its preamble and those of its blocks. -/
theorem splitOn_assemble (h : ∀ line ∈ preamble, IsOneLine line ∧ Text.startsSolid line)
    (hsolid : ∀ block ∈ blocks.filter (fun b => !Text.allBlank b), IsSolid block)
    (hne : blocks.filter (fun b => !Text.allBlank b) ≠ []) :
    Text.splitOn '\n' (Node.assemble (Text.unlines preamble) blocks) = preamble
      ++ [""].intercalate ((blocks.filter fun b => !Text.allBlank b).map (Text.splitOn '\n')) := by
  have hends := Node.isSolid_join hsolid hne
  rw [← Text.splitOn_join hne]
  by_cases hnone : preamble = []
  · have hempty : Text.unlines preamble = "" := by rw [hnone]; rfl
    rw [hempty, Node.assemble_empty hsolid, hnone, List.nil_append]
  · have hstart := startsSolid_unlines_of_forall hnone h
    rw [Node.assemble_eq_trim (.inr hstart) hsolid, trimNewlines_unlines h,
      Text.trim_eq_self (Text.startsSolid_append (Text.startsSolid_append hstart _) _)
        (Text.endsSolid_append _ hends.2),
      Text.splitOn_append_feed, Text.splitOn_unlines hnone fun line hline => (h line hline).1]

/-- Scripts are normal that are put together from commands and from blocks with no two empty lines
    in a row. -/
theorem isNormalScript_assemble (h : ∀ line ∈ preamble, IsOneLine line ∧ Text.startsSolid line)
    (hblocks : ∀ block ∈ blocks.filter (fun b => !Text.allBlank b),
      IsSolid block ∧ IsSpaced (Text.splitOn '\n' block)) :
    IsNormalScript preamble (blocks.filter fun b => !Text.allBlank b)
      (Node.assemble (Text.unlines preamble) blocks) := by
  have hsolid := fun block hblock => (hblocks block hblock).1
  by_cases hne : blocks.filter (fun b => !Text.allBlank b) = []
  · rw [hne, assemble_eq_of_filter_eq_nil h hne]
    exact isNormalScript_preamble h
  have hlines := splitOn_assemble h hsolid hne
  have hcompact : ∀ block ∈ blocks.filter (fun b => !Text.allBlank b),
      IsCompact (Text.splitOn '\n' block) :=
    fun block hblock => (hblocks block hblock).1.isCompact (hblocks block hblock).2
  refine ⟨?_, trim_eq_empty_or_isSolid _,
    fun block hblock => ⟨(hcompact block hblock).first, (hcompact block hblock).last⟩,
    fun _ => hlines, fun hnil => absurd hnil hne⟩
  rw [← Text.isSpaced_iff, hlines]
  have hpreamble : ∀ line ∈ preamble, line ≠ "" :=
    fun line hline => Text.ne_empty_of_any_head? (h line hline).2
  refine (Text.isSpaced_of_forall_ne hpreamble).append
    (fun hlast => hpreamble "" (List.mem_of_getLast? hlast) rfl) ?_
  refine (Text.isCompact_intercalate (by simpa using hne) ?_).isSpaced
  exact List.forall_mem_map.mpr fun block hblock =>
    ⟨Text.splitOn_ne_nil '\n' block, hcompact block hblock⟩

end Assemble

variable {node : Node} {connections : List Connection}

/-- The headed text of a section has no two empty lines in a row. -/
theorem Section.isSpaced_headed_of_mem_all (h : IsPlain node)
    (hconnections : ∀ c ∈ connections, IsPlain c) {s : Section} (hs : s ∈ all) :
    IsSpaced (Text.splitOn '\n' (s.headed node connections)) := by
  have hothers : ∀ s ∈ all.tail, s.title ≠ "Stacking (IRF)" := by decide
  obtain rfl | htail := List.mem_cons.mp hs
  · have hconfig := Node.isPlain_config h
    rw [isPlain_record] at hconfig
    simp [NodeConfig.fields] at hconfig
    exact Stacking.isSpaced_render (by simp [hconfig]) node.vendor (by decide)
  · exact isSpaced_headed hs (isTidy_of_mem_all h hconnections hs (hothers s htail))

namespace Node

/-- The lines of the preamble of a device; where it has none, there are none. -/
def preambleLines (node : Node) : List String :=
  if node.preamble = "" then [] else Text.splitOn '\n' node.preamble

private theorem unlines_preambleLines (node : Node) :
    Text.unlines node.preambleLines = node.preamble := by
  rw [preambleLines]
  split
  next hempty =>
    rw [hempty]
    rfl
  next => exact Text.unlines_splitOn node.preamble

private theorem preambleLines_eq {commands : List String} (hne : commands ≠ [])
    (h : ∀ line ∈ commands, IsOneLine line ∧ Text.startsSolid line)
    (hpreamble : node.preamble = Text.unlines commands) : node.preambleLines = commands := by
  have hshown : node.preamble ≠ "" := by
    rw [hpreamble]
    exact Text.ne_empty_of_any_head? (startsSolid_unlines_of_forall hne h)
  rw [preambleLines, if_neg hshown, hpreamble,
    Text.splitOn_unlines hne fun line hline => (h line hline).1]

/-- A preamble enters the configuration and maybe names the device. -/
theorem isOneLine_of_mem_preambleLines (h : IsPlain node) :
    ∀ line ∈ node.preambleLines, IsOneLine line ∧ Text.startsSolid line := by
  rw [isPlain_record] at h
  simp [fields] at h
  have hcommands {enter keyword : String} (henter : IsOneLine enter ∧ Text.startsSolid enter)
      (hkeyword : IsOneLine keyword ∧ Text.startsSolid keyword)
      (hpreamble : node.preamble = Text.unlines
        (enter :: if node.name = "" then [] else [s!"{keyword} {node.name}"])) :
      ∀ line ∈ node.preambleLines, IsOneLine line ∧ Text.startsSolid line := by
    have hname : IsOneLine s!"{keyword} {node.name}" := by simp +decide [hkeyword, h]
    have hstart : Text.startsSolid s!"{keyword} {node.name}" :=
      Text.startsSolid_append (Text.startsSolid_append hkeyword.2 _) _
    have hall : ∀ line ∈ enter :: (if node.name = "" then [] else [s!"{keyword} {node.name}"]),
        IsOneLine line ∧ Text.startsSolid line := by
      refine List.forall_mem_cons.mpr ⟨henter, ?_⟩
      split
      · exact List.forall_mem_nil _
      · exact List.forall_mem_singleton.mpr ⟨hname, hstart⟩
    rw [preambleLines_eq (List.cons_ne_nil _ _) hall hpreamble]
    exact hall
  cases hvendor : node.vendor with
  | huawei | h3c =>
    exact hcommands (show IsOneLine "system-view" ∧ _ by decide)
      (show IsOneLine "sysname" ∧ _ by decide) (by rw [preamble, hvendor])
  | cisco =>
    exact hcommands (show IsOneLine "configure terminal" ∧ _ by decide)
      (show IsOneLine "hostname" ∧ _ by decide) (by rw [preamble, hvendor])
  | generic =>
    have hnone : node.preambleLines = [] := if_pos (by rw [preamble, hvendor])
    rw [hnone]
    exact List.forall_mem_nil _

/-- Where no setting of a device or of its links holds a line feed, its script is in normal form:
    no two lines in a row are empty, nothing blank stands at either end, the first block stands
    right behind the preamble, and exactly one empty line parts any two blocks. -/
theorem isNormalScript_compile {script : String} (hnode : IsPlain node)
    (hconnections : ∀ c ∈ connections, IsPlain c) (h : node.compile connections = .ok script) :
    ∃ database, node.vlanDatabase connections = .ok database ∧
      IsNormalScript node.preambleLines
        ((database :: node.sectionBlocks connections).filter (!Text.allBlank ·)) script := by
  obtain ⟨database, hdatabase, hscript⟩ := Outcome.bind_eq_ok_iff.mp h
  obtain ⟨ids, -, hvalue⟩ := vlanDatabase_eq_ok hdatabase
  refine ⟨database, hdatabase, ?_⟩
  have hassembled : script =
      assemble (Text.unlines node.preambleLines) (database :: node.sectionBlocks connections) := by
    rw [unlines_preambleLines]
    exact (Except.ok.inj hscript).symm
  rw [hassembled]
  refine isNormalScript_assemble (isOneLine_of_mem_preambleLines hnode) fun block hblock => ⟨?_, ?_⟩
  · rw [filter_blocks_eq hvalue] at hblock
    exact isSolid_of_mem_scriptBlocks hblock
  · obtain rfl | hsection := List.mem_cons.mp (List.mem_of_mem_filter hblock)
    · exact isSpaced_vlanDatabase hnode hdatabase
    · obtain ⟨s, hs, rfl⟩ := List.mem_map.mp hsection
      exact Section.isSpaced_headed_of_mem_all hnode hconnections (List.mem_of_mem_filter hs)

/-- A described VLAN with an interface, and a port that carries it: an empty line stands before the
    description, and one between any two blocks. -/
theorem isNormalScript_compile_access :
    let interface : VlanInterface :=
      { vlanId := "10", ipAddress := "10.0.0.1", subnetMask := "24", vlanDescription := "Users" }
    let node : Node :=
      { id := "sw1", name := "core", vendor := .huawei, ports := [{ id := "p1", name := "GE0/0/1" }]
        config := { vlan := { enabled := true, vlanInterfaces := [interface] } } }
    let link : Connection :=
      { source := { nodeId := "sw1", portId := "p1" }
        config := { mode := .access, accessVlan := "10" } }
    IsPlain node ∧ IsPlain link ∧
      ∃ script database, node.compile [link] = .ok script ∧
        node.vlanDatabase [link] = .ok database ∧
        Text.splitOn '\n' script =
          ["system-view", "sysname core",
           "!", "! VLAN Database", "!", "vlan batch 10", "",
           "vlan 10", " description Users", "quit", "",
           "!", "! VLAN Interfaces Configuration", "!", "interface Vlanif10",
           " ip address 10.0.0.1 24", "quit", "",
           "!", "! Interface Link Modes Configuration", "!", "interface GE0/0/1",
           " port link-type access", " port default vlan 10", "quit"] ∧
        IsNormalScript ["system-view", "sysname core"]
          ((database :: node.sectionBlocks [link]).filter (!Text.allBlank ·)) script := by
  intro interface node link
  have hnode : IsPlain node := by decide +kernel
  have hlink : IsPlain link := by decide +kernel
  have hids : node.vlanIds [link] = .ok [10] := by
    simp only [vlanIds, Vlan.sortedDistinct_eq_insertionSort]
    decide +kernel
  have hdatabase : node.vlanDatabase [link] =
      .ok "!\n! VLAN Database\n!\nvlan batch 10\n\nvlan 10\n description Users\nquit" := by
    rw [vlanDatabase, hids]
    decide +kernel
  obtain ⟨script, hscript⟩ : ∃ script, node.compile [link] = .ok script := by
    rw [compile, hdatabase]
    exact ⟨_, rfl⟩
  obtain ⟨found, hfound, hnormal⟩ :=
    isNormalScript_compile hnode (List.forall_mem_singleton.mpr hlink) hscript
  obtain rfl := Except.ok.inj (hdatabase.symm.trans hfound)
  have hpreamble : node.preambleLines = ["system-view", "sysname core"] := by decide +kernel
  have hblocks : (node.sectionBlocks [link]).filter (!Text.allBlank ·) =
      ["!\n! VLAN Interfaces Configuration\n!\ninterface Vlanif10\n ip address 10.0.0.1 24\nquit",
       "!\n! Interface Link Modes Configuration\n!\ninterface GE0/0/1\n port link-type access"
         ++ "\n port default vlan 10\nquit"] := by decide +kernel
  rw [hpreamble] at hnormal
  have hlines := hnormal.lines
  rw [List.filter_cons_of_pos (by decide), hblocks] at hlines
  refine ⟨hnode, hlink, script, _, hscript, hfound, ?_, hnormal⟩
  rw [hlines (List.cons_ne_nil _ _)]
  decide +kernel

end Node
end Netscribe
