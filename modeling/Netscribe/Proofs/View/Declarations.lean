import Netscribe.Proofs.Fault.Reading
import Netscribe.Proofs.LinkMode.Headers
import Netscribe.Proofs.Schema.Texts
import Netscribe.Proofs.Script.Assembly
import Netscribe.Proofs.Script.Failures
import Netscribe.Proofs.View.Aggregation
/-!
The views that no draft writes: the declarations of VLANs and the ports of links. They are lists of
lines, in which the views follow each other.
-/
namespace Netscribe

open Outcome (Ensures)
open Text (IsOneLine isCommand)

namespace View.Settles

variable {α : Type} {vendor : Vendor}

private theorem flatMap {f : α → List String} {xs : List α}
    (h : ∀ x ∈ xs, Settles vendor false (f x)) :
    Settles vendor false (xs.flatMap f) := by
  induction xs with
  | nil => exact trivial
  | cons x xs ih =>
    obtain ⟨hx, hxs⟩ := List.forall_mem_cons.mp h
    rw [List.flatMap_cons]
    exact hx.append (ih hxs)

private theorem of_commands {lines : List String} (h : ∀ line ∈ lines, isCommand line) :
    Settles vendor false lines := by
  induction lines with
  | nil => exact trivial
  | cons line rest ih =>
    obtain ⟨hline, hrest⟩ := List.forall_mem_cons.mp h
    exact .inr ⟨hline, .inl (ih hrest)⟩

private theorem block {header : String} {body : List String} (hheader : isCommand header)
    (hbody : ∀ line ∈ body, IsInside line) :
    Settles vendor false (header :: body ++ [vendor.closer]) :=
  .inr ⟨hheader, .inr (.inside_append hbody (.inr ⟨rfl, trivial⟩))⟩

end View.Settles

namespace Vlan

variable {descriptions : List (Int × String)}

private theorem isOneLine_of_lookup (h : ∀ d ∈ descriptions, IsOneLine d.2) {id : Int}
    {text : String}
    (htext : descriptions.lookup id = some text) : IsOneLine text := by
  obtain ⟨before, after, rfl, -⟩ := List.lookup_eq_some_iff.mp htext
  exact h (id, text) (List.mem_append_right before List.mem_cons_self)

private theorem settles_ciscoDeclaration (descriptions : List (Int × String)) (id : Int) :
    View.Settles .cisco false (ciscoDeclaration descriptions id) := by
  have hheader : isCommand s!"vlan {id}" := Text.isCommand_of_opensCommand (by simp +decide)
  refine .block hheader (List.forall_mem_map.mpr fun text _ => ?_)
  exact View.isInside_of_opensIndented (by simp +decide)

private theorem isCommand_h3cDeclaration (run : Int × Int) : isCommand (h3cDeclaration run) := by
  rw [h3cDeclaration]
  split
  · exact Text.isCommand_of_opensCommand (by simp +decide)
  · exact Text.isCommand_of_opensCommand (by simp +decide)

private theorem settles_descriptionLines {vendor : Vendor} (hvendor : vendor.isVrp) (ids : List Int)
    (descriptions : List (Int × String)) :
    View.Settles vendor false (descriptionLines ids descriptions) := by
  have hcloser : vendor.closer = "quit" := if_pos hvendor
  have hblock (id : Int) (text : String) :
      View.Settles vendor false [s!"vlan {id}", s!" description {text}", "quit"] := by
    have hheader : isCommand s!"vlan {id}" := Text.isCommand_of_opensCommand (by simp +decide)
    have hdescription : View.IsInside s!" description {text}" :=
      View.isInside_of_opensIndented (by simp +decide)
    rw [← hcloser]
    exact .block hheader (List.forall_mem_singleton.mpr hdescription)
  unfold descriptionLines
  refine .append ?_ (.flatMap fun d _ => hblock d.1 d.2)
  split
  · exact trivial
  · exact .inl ⟨.inl rfl, trivial⟩

/-- The declarations of VLANs leave every view that they enter. -/
theorem settles_databaseLines (vendor : Vendor) (ids : List Int)
    (descriptions : List (Int × String)) :
    View.Settles vendor false (databaseLines vendor ids descriptions) := by
  unfold databaseLines
  split
  · exact trivial
  · cases vendor with
    | cisco => exact .flatMap fun id _ => settles_ciscoDeclaration descriptions id
    | huawei =>
      have hbatch : isCommand ("vlan batch " ++ Text.unwords (ids.map toString)) :=
        Text.isCommand_of_opensCommand (by simp +decide)
      exact .inr ⟨hbatch, .inl (settles_descriptionLines rfl ids descriptions)⟩
    | h3c =>
      refine .append (.of_commands (List.forall_mem_map.mpr fun run _ => ?_))
        (settles_descriptionLines rfl ids descriptions)
      exact isCommand_h3cDeclaration run
    | generic => exact trivial

/-- No declaration of Cisco has an empty line. -/
theorem ne_empty_of_mem_ciscoDeclarations {ids : List Int} :
    ∀ line ∈ ids.flatMap (ciscoDeclaration descriptions), line ≠ "" := by
  intro line hline
  obtain ⟨id, -, hline⟩ := List.mem_flatMap.mp hline
  have hname : ∀ line ∈ (descriptions.lookup id).toList.map fun text => s!" name {text}",
      line ≠ "" := by
    refine List.forall_mem_map.mpr fun text _ => ?_
    simp +decide
  have hall : ∀ line ∈ ciscoDeclaration descriptions id, line ≠ "" :=
    List.forall_mem_append.mpr ⟨List.forall_mem_cons.mpr ⟨by simp +decide, hname⟩, by decide⟩
  exact hall line hline

private theorem isSpaced_ciscoDeclarations (ids : List Int) (descriptions : List (Int × String)) :
    Text.IsSpaced (ids.flatMap (ciscoDeclaration descriptions)) :=
  Text.isSpaced_of_forall_ne ne_empty_of_mem_ciscoDeclarations

/-- An empty line stands before the descriptions, and none among them. -/
theorem isSpaced_descriptionLines (ids : List Int) (descriptions : List (Int × String)) :
    Text.IsSpaced (descriptionLines ids descriptions) := by
  have hall (described : List (Int × String)) : ∀ line ∈ described.flatMap
      (fun d => [s!"vlan {d.1}", s!" description {d.2}", "quit"]), line ≠ "" := by
    intro line hline
    obtain ⟨d, -, hline⟩ := List.mem_flatMap.mp hline
    have hblock : ∀ line ∈ [s!"vlan {d.1}", s!" description {d.2}", "quit"], line ≠ "" := by
      simp +decide
    exact hblock line hline
  have hspaced (described : List (Int × String)) := Text.isSpaced_of_forall_ne (hall described)
  unfold descriptionLines
  dsimp only
  split
  · exact hspaced _
  · exact (hspaced _).cons_of_first fun hempty => hall _ "" (List.mem_of_mem_head? hempty) rfl

private theorem isSpaced_databaseLines (vendor : Vendor) (ids : List Int)
    (descriptions : List (Int × String)) :
    Text.IsSpaced (databaseLines vendor ids descriptions) := by
  have hdescribed := isSpaced_descriptionLines ids descriptions
  unfold databaseLines
  split
  · exact List.isChain_nil
  · cases vendor with
    | cisco => exact isSpaced_ciscoDeclarations ids descriptions
    | huawei => exact hdescribed.cons (by simp +decide)
    | h3c =>
      have hruns : ∀ line ∈ (contiguousRuns ids).map h3cDeclaration, line ≠ "" :=
        List.forall_mem_map.mpr fun run _ =>
          Text.ne_empty_of_isCommand (isCommand_h3cDeclaration run)
      refine (Text.isSpaced_of_forall_ne hruns).append (fun hempty => ?_) hdescribed
      exact hruns "" (List.mem_of_getLast? hempty) rfl
    | generic => exact List.isChain_nil

private theorem isOneLine_of_mem_descriptionLines {ids : List Int}
    (h : ∀ d ∈ descriptions, IsOneLine d.2) :
    ∀ line ∈ descriptionLines ids descriptions, IsOneLine line := by
  unfold descriptionLines
  refine List.forall_mem_append.mpr ⟨fun line hline => ?_, fun line hline => ?_⟩
  · split at hline
    · cases hline
    · rw [List.mem_singleton.mp hline]
      decide
  · obtain ⟨⟨id, text⟩, hdescribed, hline⟩ := List.mem_flatMap.mp hline
    obtain ⟨other, -, hother⟩ := List.mem_filterMap.mp hdescribed
    obtain ⟨found, hfound, heq⟩ := Option.map_eq_some_iff.mp hother
    obtain ⟨rfl, rfl⟩ := Prod.mk.inj heq
    have hall : ∀ line ∈ [s!"vlan {other}", s!" description {found}", "quit"], IsOneLine line := by
      simp +decide [isOneLine_of_lookup h hfound]
    exact hall line hline

/-- The lines of the VLANs are one line each, if the descriptions are. -/
theorem isOneLine_of_mem_databaseLines {ids : List Int} (h : ∀ d ∈ descriptions, IsOneLine d.2)
    (vendor : Vendor) : ∀ line ∈ databaseLines vendor ids descriptions, IsOneLine line := by
  unfold databaseLines
  split
  · exact List.forall_mem_nil _
  · cases vendor with
    | cisco =>
      intro line hline
      obtain ⟨id, -, hline⟩ := List.mem_flatMap.mp hline
      have hname : ∀ name ∈ (descriptions.lookup id).toList.map fun text => s!" name {text}",
          IsOneLine name := by
        refine List.forall_mem_map.mpr fun text htext => ?_
        simp +decide [isOneLine_of_lookup h (Option.mem_toList.mp htext)]
      have hheader : IsOneLine s!"vlan {id}" := by simp +decide
      have hall : ∀ line ∈ ciscoDeclaration descriptions id, IsOneLine line :=
        List.forall_mem_append.mpr ⟨List.forall_mem_cons.mpr ⟨hheader, hname⟩, by decide⟩
      exact hall line hline
    | huawei =>
      have hids : IsOneLine (Text.unwords (ids.map toString)) :=
        Text.isOneLine_unwords.mpr
          (List.forall_mem_map.mpr fun id _ => Text.isOneLine_toString_int id)
      have hbatch : IsOneLine ("vlan batch " ++ Text.unwords (ids.map toString)) := by
        simp +decide [hids]
      exact List.forall_mem_cons.mpr ⟨hbatch, isOneLine_of_mem_descriptionLines h⟩
    | h3c =>
      refine List.forall_mem_append.mpr ⟨?_, isOneLine_of_mem_descriptionLines h⟩
      refine List.forall_mem_map.mpr fun run _ => ?_
      rw [h3cDeclaration]
      simp +decide
    | generic => exact List.forall_mem_nil _

end Vlan

namespace Node

variable {node : Node} {connections : List Connection}

/-- The settings of a plain device are plain. -/
theorem isPlain_config (h : IsPlain node) : IsPlain node.config := by
  rw [isPlain_record] at h
  simp [fields] at h
  simp [h]

private theorem isOneLine_of_mem_vlanDescriptions (h : IsPlain node) :
    ∀ d ∈ node.vlanDescriptions, IsOneLine d.2 := by
  intro d hd
  obtain ⟨i, hi, hdescription⟩ := List.mem_filterMap.mp (List.mem_reverse.mp hd)
  split at hdescription
  · cases hdescription
  · obtain ⟨id, -, rfl⟩ := Option.map_eq_some_iff.mp hdescription
    have hconfig := isPlain_config h
    rw [isPlain_record] at hconfig
    simp [NodeConfig.fields] at hconfig
    have hinterfaces : IsPlain node.config.vlan := by simp [hconfig]
    rw [isPlain_record] at hinterfaces
    simp [VlanInterfaces.fields] at hinterfaces
    have hinterface : IsPlain i := by simp [hinterfaces, hi]
    rw [isPlain_record] at hinterface
    simp [VlanInterface.fields] at hinterface
    simp [hinterface]

/-- The lines of the headed declarations of VLANs. -/
theorem splitOn_databaseBlock {ids : List Int} (h : IsPlain node)
    (hne : Vlan.databaseLines node.vendor ids node.vlanDescriptions ≠ []) :
    Text.splitOn '\n' (node.databaseBlock ids) = ["!", "! VLAN Database", "!"]
      ++ Vlan.databaseLines node.vendor ids node.vlanDescriptions := by
  have hblock : node.databaseBlock ids = Text.unlines (["!", "! VLAN Database", "!"]
      ++ Vlan.databaseLines node.vendor ids node.vlanDescriptions) := by
    rw [databaseBlock, Vlan.database, Text.unlines_append (List.cons_ne_nil _ _) hne]
    rfl
  have hheading : ∀ line ∈ ["!", "! VLAN Database", "!"], IsOneLine line := by decide
  have hlines : ∀ line ∈ Vlan.databaseLines node.vendor ids node.vlanDescriptions,
      IsOneLine line :=
    Vlan.isOneLine_of_mem_databaseLines (isOneLine_of_mem_vlanDescriptions h) node.vendor
  rw [hblock, Text.splitOn_unlines (List.append_ne_nil_of_right_ne_nil _ hne)
    (List.forall_mem_append.mpr ⟨hheading, hlines⟩)]

/-- The database of VLANs leaves the view of every VLAN that it enters. -/
theorem leavesViews_vlanDatabase {database : String} (h : IsPlain node)
    (hdatabase : node.vlanDatabase connections = .ok database) :
    LeavesViews node.vendor.closer (Text.shownLines database) := by
  obtain ⟨ids, -, rfl⟩ := vlanDatabase_eq_ok hdatabase
  split
  next =>
    have hnothing : View.Settles node.vendor false [""] := .inl ⟨.inl rfl, trivial⟩
    exact View.leavesViews_of_settles hnothing
  next hne =>
    rw [Text.shownLines, splitOn_databaseBlock h hne]
    refine View.leavesViews_of_settles ?_
    refine .inl ⟨.inr rfl, .inl ⟨.inr rfl, .inl ⟨.inr rfl, ?_⟩⟩⟩
    exact Vlan.settles_databaseLines node.vendor ids node.vlanDescriptions

/-- The block of the VLANs of a plain device is spaced. -/
theorem isSpaced_vlanDatabase {database : String} (h : IsPlain node)
    (hdatabase : node.vlanDatabase connections = .ok database) :
    Text.IsSpaced (Text.splitOn '\n' database) := by
  obtain ⟨ids, -, rfl⟩ := vlanDatabase_eq_ok hdatabase
  split
  next => exact Text.isSpaced_singleton ""
  next hne =>
    rw [splitOn_databaseBlock h hne]
    refine .cons (by decide) (.cons (by decide) (.cons (by decide) ?_))
    exact Vlan.isSpaced_databaseLines node.vendor ids node.vlanDescriptions

private theorem isPlain_linkConfig {c : Connection} (h : IsPlain c) : IsPlain c.config := by
  rw [isPlain_record] at h
  simp [Connection.fields] at h
  simp [h]

private theorem isOneLine_localPort (h : IsPlain node) (c : Connection) :
    IsOneLine (node.localPort c) := by
  rw [isPlain_record] at h
  simp [fields] at h
  rw [localPort, portName]
  split
  next port hport =>
    have hplain : IsPlain port := by simp [h, List.mem_of_find?_eq_some hport]
    rw [isPlain_record] at hplain
    simp [Port.fields] at hplain
    simp [hplain]
  next => decide

/-- The link modes of a plain device are one line each. -/
theorem isOneLine_of_mem_linkModeLines (h : IsPlain node)
    (hconnections : ∀ c ∈ connections, IsPlain c) :
    ∀ line ∈ node.linkModeLines connections, IsOneLine line := by
  intro line hline
  refine linefeed_not_mem_linkModeLines (fun c hc _ => ⟨isOneLine_localPort h c, ?_⟩) hline
  have hconfig := isPlain_linkConfig (hconnections c hc)
  rw [isPlain_record] at hconfig
  simp [LinkConfig.fields] at hconfig
  obtain ⟨-, haccess, hnative, -⟩ := hconfig
  exact ⟨haccess, hnative⟩

/-- A block for a port opens its view, fills it and leaves it. -/
theorem settles_portBlock (node : Node) (c : Connection) (name : String) :
    View.Settles node.vendor false (node.portBlock c name) := by
  have hheader : isCommand s!"interface {name}" := Text.isCommand_of_opensCommand (by simp +decide)
  refine .block hheader fun line hline => ?_
  obtain ⟨_, _, portLine, _, rfl⟩ := LinkConfig.exists_portLine_of_mem_bodyLines hline
  exact View.isInside_of_opensIndented (Vlan.PortLine.opensIndented_text node.vendor portLine)

/-- The link modes start with a line that is not indented. -/
theorem startsSolid_of_mem_head? {line : String}
    (h : line ∈ (node.linkModeLines connections).head?) : Text.startsSolid line := by
  rw [linkModeLines, List.head?_flatMap] at h
  obtain ⟨c, -, hblocks⟩ := List.exists_of_findSome?_eq_some h
  rw [blockLines, List.head?_flatMap] at hblocks
  obtain ⟨name, -, hblock⟩ := List.exists_of_findSome?_eq_some hblocks
  obtain rfl : s!"interface {name}" = line := Option.some.inj hblock
  exact Text.startsSolid_append (by decide) name

/-- The link modes end with the closer of the vendor. -/
theorem eq_closer_of_mem_getLast? {line : String}
    (h : line ∈ (node.linkModeLines connections).getLast?) : line = node.vendor.closer := by
  rw [linkModeLines, List.getLast?_flatMap] at h
  obtain ⟨c, -, hblocks⟩ := List.exists_of_findSome?_eq_some h
  rw [blockLines, List.getLast?_flatMap] at hblocks
  obtain ⟨name, -, hblock⟩ := List.exists_of_findSome?_eq_some hblocks
  rw [portBlock, List.getLast?_concat] at hblock
  exact (Option.some.inj hblock).symm

private theorem ne_empty_of_mem_linkModeLines {line : String}
    (h : line ∈ node.linkModeLines connections) : line ≠ "" := by
  obtain ⟨c, -, hblocks⟩ := List.mem_flatMap.mp h
  obtain ⟨name, -, hblock⟩ := List.mem_flatMap.mp hblocks
  rw [portBlock, List.cons_append, List.mem_cons, List.mem_append, List.mem_singleton] at hblock
  obtain rfl | hbody | rfl := hblock
  · simp +decide
  · obtain ⟨_, _, portLine, _, rfl⟩ := LinkConfig.exists_portLine_of_mem_bodyLines hbody
    exact Text.ne_empty_of_any_head? (Text.isIndented_of_opensIndented
      (Vlan.PortLine.opensIndented_text node.vendor portLine))
  · cases node.vendor <;> decide

/-- The modes of links leave the view of every port that they enter. -/
theorem isTidy_linkModes {fragment : Fragment} (h : IsPlain node)
    (hconnections : ∀ c ∈ connections, IsPlain c)
    (hfragment : node.linkModes connections = .ok fragment) : fragment.IsTidy node.vendor := by
  obtain ⟨hcli, -⟩ := linkModes_eq_ok hfragment
  have hlines := isOneLine_of_mem_linkModeLines h hconnections
  have hfirst : ∀ line ∈ (node.linkModeLines connections).head?, Text.allBlank line = false :=
    fun line hline => Text.allBlank_eq_false_of_startsSolid (startsSolid_of_mem_head? hline)
  have hlast : ∀ line ∈ (node.linkModeLines connections).getLast?, Text.allBlank line = false := by
    intro line hline
    rw [eq_closer_of_mem_getLast? hline]
    exact View.allBlank_closer node.vendor
  refine ⟨fun title htitle => ?_, fun title htitle => ?_⟩
  · rw [hcli]
    exact View.leavesViews_block title htitle hlines
      (.flatMap fun c _ => .flatMap fun name _ => settles_portBlock node c name) hfirst hlast
  · rw [hcli]
    exact View.isSpaced_block title htitle hlines
      (Text.isSpaced_of_forall_ne fun line => ne_empty_of_mem_linkModeLines)
      hfirst hlast

/-- The link modes of a plain device are tidy, and so are their faults. -/
theorem ensures_linkModes (h : IsPlain node) (hconnections : ∀ c ∈ connections, IsPlain c) :
    Ensures (Fragment.IsTidy node.vendor) Fault.IsOneLine (node.linkModes connections) :=
  ⟨isTidy_linkModes h hconnections, (node.onlyReads_linkModes connections).ensures.error⟩

end Node

end Netscribe
