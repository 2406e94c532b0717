import Netscribe.Proofs.LinkMode.Headers
import Netscribe.Proofs.Script.Assembly
import Netscribe.Proofs.View.Script
/-!
The scripts of devices without a dialect. Their features give a comment or nothing; the modes of
links are the one section that writes commands for them.
-/
namespace Netscribe

open Text (IsOneLine)

/-- A fragment without commands: no text, or the comment on a feature that is not supported. -/
inductive Fragment.IsBare : Fragment → Prop
  | nothing (reason : String) : IsBare (.nothing reason)
  | unsupported {feature : String} : IsOneLine feature → IsBare (.unsupported feature "Generic")

section Guarded

variable {p : Prop} [Decidable p] {reason feature : String}

private theorem Fragment.isBare_guarded (h : IsOneLine feature) :
    (if p then Fragment.nothing reason else .unsupported feature "Generic").IsBare := by
  split
  · exact .nothing reason
  · exact .unsupported h

private theorem Fragment.exists_isBare_guarded (h : IsOneLine feature) :
    ∃ fragment, (if p then pure (.nothing reason) else pure (.unsupported feature "Generic") :
      Except Fault Fragment) = .ok fragment ∧ fragment.IsBare := by
  split
  · exact ⟨_, rfl, .nothing reason⟩
  · exact ⟨_, rfl, .unsupported h⟩

end Guarded

/-- No feature has commands for a device without a dialect, and none fails for it. -/
theorem Feature.isBare_render {node : Node} (hvendor : node.vendor = .generic) {feature : Feature}
    (hacl : feature ≠ .acl) : ∃ fragment, feature.render node = .ok fragment ∧ fragment.IsBare := by
  obtain ⟨id, name, vendor, deviceType, ports, config⟩ := node
  obtain rfl : vendor = .generic := hvendor
  cases feature with
  | acl => exact absurd rfl hacl
  | linkAggregation => exact Fragment.exists_isBare_guarded (by decide)
  | portIsolation => exact Fragment.exists_isBare_guarded (by decide)
  | dhcp => exact Fragment.exists_isBare_guarded (by decide)
  | dhcpSnooping => exact Fragment.exists_isBare_guarded (by decide)
  | stp => exact Fragment.exists_isBare_guarded (by decide)
  | ipsec => exact Fragment.exists_isBare_guarded (by decide)
  | _ => exact ⟨_, rfl, Fragment.isBare_guarded (by decide)⟩

namespace View

/-- A headed comment is nothing but comments. -/
theorem isAside_block_remark {title text line : String} (htitle : IsOneLine title)
    (htext : IsOneLine text) (hremark : Text.startsRemark text)
    (hline : line ∈ Text.splitOn '\n' (Section.block title text)) : IsAside line := by
  have hsolid := startsSolid_of_startsRemark hremark
  have hshown := Text.allBlank_eq_false_of_startsSolid hsolid
  have hunlines : Text.unlines ([] ++ [text]) = text := by simp [Text.unlines, Text.join]
  have hlines := splitOn_block htitle (List.forall_mem_singleton.mpr htext) (hunlines.symm ▸ hsolid)
    hshown
  rw [hunlines] at hlines
  have hall : ∀ line ∈ "!" :: s!"! {title} Configuration" :: "!" :: ([] ++ [Text.trimEnd text]),
      Text.startsRemark line := by
    have htrimmed : Text.startsRemark (Text.trimEnd text) := by
      rwa [Text.startsRemark, Text.head?_trimEnd hshown]
    exact List.forall_mem_cons.mpr ⟨rfl, List.forall_mem_cons.mpr ⟨startsRemark_heading title,
      List.forall_mem_cons.mpr ⟨rfl, List.forall_mem_singleton.mpr htrimmed⟩⟩⟩
  rw [hlines] at hline
  exact .inr (hall line hline)

end View

namespace Section

variable {node : Node} {connections : List Connection}

/-- Whether a device takes a section for comments only. -/
def IsAside (node : Node) (connections : List Connection) (s : Section) : Prop :=
  ∀ line ∈ Text.splitOn '\n' (s.headed node connections), View.IsAside line

private theorem isAside_of_blank {s : Section} {fragment : Fragment}
    (hrender : s.render node connections = .ok fragment) (h : fragment.cli = "") :
    s.IsAside node connections := by
  intro line hline
  rw [headed_eq hrender, h] at hline
  have hempty : line ∈ [""] := hline
  rw [List.mem_singleton.mp hempty]
  exact .inl rfl

private theorem isAside_of_isBare {s : Section} {fragment : Fragment} (htitle : IsOneLine s.title)
    (hrender : s.render node connections = .ok fragment) (h : fragment.IsBare) :
    s.IsAside node connections := by
  cases h with
  | nothing reason => exact isAside_of_blank hrender rfl
  | unsupported hfeature =>
    intro line hline
    rw [headed_eq hrender] at hline
    exact View.isAside_block_remark htitle (Fragment.isOneLine_unsupported hfeature (by decide))
      (Fragment.startsRemark_unsupported _ _) hline

/-- A section that fails leaves comments only. -/
theorem isAside_of_error {s : Section} {fault : Fault} (htitle : IsOneLine s.title)
    (hrender : s.render node connections = .error fault) (h : fault.IsOneLine) :
    s.IsAside node connections := by
  intro line hline
  rw [headed, text, hrender] at hline
  exact View.isAside_block_remark htitle (isOneLine_failure htitle h) (startsRemark_failure _ _)
    hline

/-- Every section of a device without a dialect but the one on link modes is bare. -/
theorem render_eq_linkModes_or_isBare (hvendor : node.vendor = .generic) {s : Section}
    (hs : s ∈ all) : s.render = Node.linkModes ∨
      ∃ fragment, s.render node connections = .ok fragment ∧ fragment.IsBare := by
  obtain hmodes | hranges | hacls | ⟨feature, hfeature, hacl, -⟩ := render_cases hs
  · exact .inl hmodes
  · refine .inr ⟨_, congrFun (congrFun hranges node) connections, ?_⟩
    rw [hvendor]
    exact Fragment.isBare_guarded (by decide)
  · refine .inr ⟨_, congrFun (congrFun hacls node) connections, ?_⟩
    rw [hvendor]
    exact Fragment.isBare_guarded (by decide)
  · rw [hfeature]
    exact .inr (Feature.isBare_render hvendor hacl)

end Section

namespace LinkConfig

/-- Without a dialect only routed ports have commands. -/
theorem bodyLines_generic_ne_nil_iff (c : LinkConfig) :
    c.bodyLines .generic ≠ [] ↔ c.mode = .l3 := by
  rw [bodyLines, body]
  cases hmode : c.mode with
  | unconfigured => exact iff_of_false (fun h => h rfl) (by decide)
  | l3 => exact iff_of_true (List.cons_ne_nil _ _) rfl
  | access => exact iff_of_false (fun h => h rfl) (by decide)
  | trunk =>
    refine iff_of_false (fun h => h ?_) (by decide)
    cases c.allowedIds <;> rfl

end LinkConfig

namespace Node

variable {node : Node} {connections : List Connection}

/-- A link at a port of a device that is routed and belongs to no aggregation group. -/
def Routes (node : Node) (c : Connection) : Prop :=
  c.config.mode = .l3 ∧ node.localPort c ≠ "" ∧
    ¬ node.config.linkAggregation.Bundles (node.localPort c)

private theorem givesBlocks_generic_iff (hvendor : node.vendor = .generic) (c : Connection) :
    node.GivesBlocks c ↔ node.Routes c := by
  rw [GivesBlocks, Routes, hvendor, LinkConfig.bodyLines_generic_ne_nil_iff]
  constructor
  · exact fun ⟨_, hport, hfree, hmode⟩ => ⟨hmode, hport, hfree⟩
  · exact fun ⟨hmode, hport, hfree⟩ => ⟨touches_of_localPort hport, hport, hfree, hmode⟩

private theorem blockNames_generic_eq_nil_iff (hvendor : node.vendor = .generic) (c : Connection) :
    node.blockNames c = [] ↔ (node.Routes c → ∀ name ∈ c.config.siblings (node.localPort c),
      node.config.linkAggregation.Bundles name) := by
  rw [blockNames]
  split
  next hgives => simp [← givesBlocks_generic_iff hvendor, hgives]
  next hnot => simp [← givesBlocks_generic_iff hvendor, hnot]

/-- The lines of a script without a dialect are those of its sections. -/
theorem forall_mem_splitOn_compile_generic {script : String} {q : String → Prop} (hempty : q "")
    (hvendor : node.vendor = .generic) (h : node.compile connections = .ok script) :
    (∀ line ∈ Text.splitOn '\n' script, q line) ↔
      ∀ s ∈ Section.all, s.isShown node connections →
        ∀ line ∈ Text.splitOn '\n' (s.headed node connections), q line := by
  obtain ⟨database, hdatabase, hscript⟩ := Outcome.bind_eq_ok_iff.mp h
  obtain ⟨ids, -, hvalue⟩ := vlanDatabase_eq_ok hdatabase
  have hnone : Vlan.databaseLines node.vendor ids node.vlanDescriptions = [] := by
    rw [hvendor]
    exact ite_self _
  have hblocks : (database :: node.sectionBlocks connections).filter (fun b => !Text.allBlank b) =
      (Section.all.filter (·.isShown node connections)).map (·.headed node connections) := by
    rw [filter_blocks_eq hvalue, scriptBlocks, if_pos hnone, List.nil_append]
  have hsolid : ∀ block ∈ (database :: node.sectionBlocks connections).filter
      (fun b => !Text.allBlank b), IsSolid block := by
    rw [filter_blocks_eq hvalue]
    exact fun block => isSolid_of_mem_scriptBlocks
  have hpreamble : node.preamble = "" := by rw [preamble, hvendor]
  have hlines : script = Text.join "\n\n"
      ((Section.all.filter (·.isShown node connections)).map (·.headed node connections)) := by
    rw [← hblocks, ← assemble_empty hsolid, ← hpreamble]
    exact (Except.ok.inj hscript).symm
  rw [hlines, Text.forall_mem_splitOn_join hempty, List.forall_mem_map]
  simp only [List.mem_filter, and_imp]

private theorem linkModeLines_eq_nil_iff :
    node.linkModeLines connections = [] ↔ ∀ c ∈ connections, node.blockNames c = [] := by
  have hblock (c : Connection) : node.blockLines c = [] ↔ node.blockNames c = [] := by
    rw [blockLines, List.flatMap_eq_nil_iff, List.eq_nil_iff_forall_not_mem]
    refine forall₂_congr fun name _ => iff_of_false (fun h => ?_) (fun h => h)
    exact absurd h (List.append_ne_nil_of_right_ne_nil _ (List.cons_ne_nil _ _))
  rw [linkModeLines, List.flatMap_eq_nil_iff]
  exact forall₂_congr fun c _ => hblock c

/-- Where some port has commands, the section on link modes does not consist of comments. -/
theorem not_isAside_linkModes {fragment : Fragment} (h : IsPlain node)
    (hconnections : ∀ c ∈ connections, IsPlain c)
    (hfragment : node.linkModes connections = .ok fragment)
    (hne : node.linkModeLines connections ≠ []) :
    Section.linkModes.isShown node connections ∧ ¬ Section.linkModes.IsAside node connections := by
  have htext : Section.linkModes.text node connections =
      Text.unlines (node.linkModeLines connections) :=
    (Section.text_eq hfragment).trans (linkModes_eq_ok hfragment).1
  have hstart : Text.startsSolid (Text.unlines (node.linkModeLines connections)) := by
    obtain ⟨first, rest, hlines⟩ := List.exists_cons_of_ne_nil hne
    have hfirst : Text.startsSolid first :=
      startsSolid_of_mem_head? (by rw [hlines]; exact Option.mem_some_self first)
    rw [hlines]
    exact Text.startsSolid_unlines hfirst rest
  have hshown := Text.allBlank_eq_false_of_startsSolid hstart
  have honeLine := isOneLine_of_mem_linkModeLines h hconnections
  refine ⟨?_, fun haside => ?_⟩
  · rw [Section.isShown, htext, hshown]
    rfl
  -- The command that leaves the view of the last port is no comment.
  obtain ⟨front, last, hlines⟩ := (List.eq_nil_or_concat' _).resolve_left hne
  obtain rfl : last = node.vendor.closer := eq_closer_of_mem_getLast? (by rw [hlines]; simp)
  have hcloser : Text.trimEnd node.vendor.closer = node.vendor.closer := by
    cases node.vendor <;> decide
  rw [hlines] at htext hstart honeLine
  have hmem : node.vendor.closer ∈
      Text.splitOn '\n' (Section.linkModes.headed node connections) := by
    rw [Section.headed, htext, View.splitOn_block (by decide) honeLine hstart
      (View.allBlank_closer _), hcloser]
    simp
  have hsilent := (haside _ hmem).isSilent
  rw [View.isSilent_closer] at hsilent
  cases hsilent

/-- The script of a device without a dialect is comments and empty lines exactly if its link modes
    fail or no link asks for a routed port of its own. -/
theorem compile_generic_isAside_iff {script : String} (hvendor : node.vendor = .generic)
    (hnode : IsPlain node) (hconnections : ∀ c ∈ connections, IsPlain c)
    (h : node.compile connections = .ok script) :
    (∀ line ∈ Text.splitOn '\n' script, View.IsAside line) ↔
      (∃ fault, node.linkModes connections = .error fault) ∨
        ∀ c ∈ connections, node.Routes c → ∀ name ∈ c.config.siblings (node.localPort c),
          node.config.linkAggregation.Bundles name := by
  rw [forall_mem_splitOn_compile_generic (.inl rfl) hvendor h]
  simp only [← blockNames_generic_eq_nil_iff hvendor, ← linkModeLines_eq_nil_iff]
  constructor
  · intro hall
    cases hmodes : node.linkModes connections with
    | error fault => exact .inl ⟨fault, rfl⟩
    | ok fragment =>
      refine .inr (by_contra fun hne => ?_)
      obtain ⟨hshown, hnot⟩ := not_isAside_linkModes hnode hconnections hmodes hne
      exact hnot (hall _ Section.linkModes_mem_all hshown)
  · intro hmodes s hs _
    have htitle := Section.isOneLine_title s hs
    obtain hrender | ⟨fragment, hrender, hbare⟩ :=
      Section.render_eq_linkModes_or_isBare hvendor hs
    · have hrender := congrFun (congrFun hrender node) connections
      cases hresult : node.linkModes connections with
      | error fault =>
        exact Section.isAside_of_error htitle (hrender.trans hresult)
          ((ensures_linkModes hnode hconnections).error hresult)
      | ok fragment =>
        have hnil := hmodes.resolve_left fun ⟨fault, hfault⟩ => nomatch hresult.symm.trans hfault
        refine Section.isAside_of_blank (hrender.trans hresult) ?_
        rw [(linkModes_eq_ok hresult).1, hnil]
        rfl
    · exact Section.isAside_of_isBare htitle hrender hbare

/-- A switched link gives a device without a dialect no command, and an enabled feature a
    comment. -/
theorem compile_generic_isAside_of_access :
    let node : Node :=
      { id := "n1", ports := [{ id := "p1", name := "eth0" }]
        config := { vrrp := { enabled := true } } }
    let link : Connection :=
      { source := { nodeId := "n1", portId := "p1" }
        config := { mode := .access, accessVlan := "10" } }
    let script := "!\n! VRRP Configuration\n!\n# VRRP for Generic is not supported."
    node.vendor = .generic ∧ IsPlain node ∧ IsPlain link ∧ node.compile [link] = .ok script ∧
      ∀ line ∈ Text.splitOn '\n' script, View.IsAside line := by
  intro node link script
  have hnode : IsPlain node := by decide +kernel
  have hlink : IsPlain link := by decide +kernel
  have hscript : node.compile [link] = .ok script := by decide +kernel
  have hmodes : ∀ c ∈ [link], ¬ node.Routes c :=
    List.forall_mem_singleton.mpr fun hroutes => nomatch hroutes.1
  refine ⟨rfl, hnode, hlink, hscript, ?_⟩
  rw [compile_generic_isAside_iff rfl hnode (List.forall_mem_singleton.mpr hlink) hscript]
  exact .inr fun c hc hroutes => absurd hroutes (hmodes c hc)

/-- A routed link at a port of a device without a dialect gives it commands of a dialect. -/
theorem compile_generic_writes_routed_port : ∃ node connections script,
    Node.parse (.object [("id", .text "n1"),
      ("ports", .list [.object [("id", .text "p1"), ("name", .text "eth0")]])]) = .ok node ∧
    Connection.parseList (some (.list [.object [
      ("from", .object [("nodeId", .text "n1"), ("portId", .text "p1")]),
      ("config", .object [("mode", .text "l3")])]])) = .ok connections ∧
    node.vendor = .generic ∧ IsPlain node ∧ (∀ c ∈ connections, IsPlain c) ∧
    node.compile connections = .ok script ∧
    " no switchport" ∈ Text.splitOn '\n' script ∧ ¬ View.IsAside " no switchport" := by
  refine ⟨_, _, "!\n! Interface Link Modes Configuration\n!\ninterface eth0\n no switchport\nexit",
    rfl, rfl, rfl, by decide +kernel, by decide +kernel, by decide +kernel, by decide +kernel, ?_⟩
  rintro (hblank | hremark)
  · exact absurd hblank (by decide)
  · exact absurd hremark (by decide)

end Node

end Netscribe
