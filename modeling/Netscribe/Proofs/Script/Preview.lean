import Netscribe.Proofs.Script.Containment
/-!
What a feature shows when it is looked at on its own, against what it becomes in the whole script.
The script asks whether a device has a section before it renders it, a preview does not; the two
agree because a feature that is switched off renders nothing.
-/
namespace Netscribe

namespace Section

/-- What stands up to the first line feed is determined by the text. -/
theorem eq_of_prefix_line {first second rest more : List Char} (hfirst : '\n' ∉ first)
    (hsecond : '\n' ∉ second) (h : first ++ '\n' :: rest <+: second ++ '\n' :: more) :
    first = second := by
  obtain ⟨behind, hbehind⟩ := h
  rw [List.append_assoc, List.cons_append] at hbehind
  have hline {line : List Char} (hfeed : '\n' ∉ line) (after : List Char) :
      (line ++ '\n' :: after).takeWhile (· ≠ '\n') = line := by
    have hkept : ∀ c ∈ line, decide (c ≠ '\n') = true := by
      intro c hc
      rw [decide_eq_true_eq]
      rintro rfl
      exact hfeed hc
    rw [List.takeWhile_append_of_pos hkept, List.takeWhile_cons_of_neg (by decide),
      List.append_nil]
  rw [← hline hfirst (rest ++ behind), hbehind, hline hsecond more]

/-- A text that is headed like a section has the title of the section in its second line. -/
theorem line_eq_of_hasStart {title line rest : String} (htitle : Text.IsOneLine title)
    (hline : Text.IsOneLine line)
    (h : Text.hasStart (heading title) ("!\n! " ++ line ++ "\n" ++ rest)) :
    line = title ++ " Configuration" := by
  have hwhole : Text.IsOneLine (title ++ " Configuration") :=
    Text.isOneLine_append.mpr ⟨htitle, by decide⟩
  have hstart : heading title = "!\n! " ++ (title ++ " Configuration") ++ "\n" ++ "!\n" := by
    simp only [heading, String.append_assoc]
    rfl
  have hfeed : "\n".toList = ['\n'] := rfl
  rw [Text.hasStart, List.isPrefixOf_iff_prefix, hstart] at h
  simp only [String.toList_append, hfeed, List.append_assoc, List.singleton_append,
    List.prefix_append_right_inj] at h
  rw [← List.append_assoc, ← String.toList_append] at h
  exact (String.toList_inj.mp (eq_of_prefix_line hwhole hline h)).symm

private theorem hasStart_empty (title : String) : Text.hasStart (heading title) "" = false := by
  rw [Bool.eq_false_iff, ne_eq, Text.hasStart, List.isPrefixOf_iff_prefix]
  intro hprefix
  have hnil : heading title = "" := String.toList_inj.mp (List.prefix_nil.mp hprefix)
  have hsolid : Text.startsSolid (heading title) :=
    Text.startsSolid_append (Text.startsSolid_append (by decide) _) _
  rw [hnil] at hsolid
  exact absurd hsolid (by decide)

/-- The headings of two sections are apart where their titles are. -/
theorem hasStart_block {title other cli : String} (htitle : Text.IsOneLine title)
    (hother : Text.IsOneLine other) :
    Text.hasStart (heading title) (block other cli) =
      (decide (other = title) && !Text.allBlank cli) := by
  cases hblank : Text.allBlank cli with
  | true =>
    have hnothing : block other cli = "" := by rw [block, if_pos hblank]
    rw [hnothing, hasStart_empty, Bool.not_true, Bool.and_false]
  | false =>
    rw [block_eq hblank, Bool.not_false, Bool.and_true, Bool.eq_iff_iff, decide_eq_true_eq]
    constructor
    · intro hstart
      have hwhole : Text.IsOneLine (other ++ " Configuration") :=
        Text.isOneLine_append.mpr ⟨hother, by decide⟩
      have hshape : heading other ++ Text.trim cli =
          "!\n! " ++ (other ++ " Configuration") ++ "\n" ++ ("!\n" ++ Text.trim cli) := by
        simp only [heading, String.append_assoc]
        rfl
      rw [hshape] at hstart
      have hline := line_eq_of_hasStart htitle hwhole hstart
      have hcharacters := congrArg String.toList hline
      rw [String.toList_append, String.toList_append] at hcharacters
      exact String.toList_inj.mp (List.append_cancel_right hcharacters)
    · rintro rfl
      rw [Text.hasStart, List.isPrefixOf_iff_prefix, String.toList_append]
      exact List.prefix_append _ _

private theorem nodup_titles : (all.map (·.title)).Nodup := by
  decide

/-- Where titles are distinct, a section is the only one with its title. -/
theorem filter_title_eq {sections : List Section} (h : (sections.map (·.title)).Nodup)
    {s : Section} (hs : s ∈ sections) :
    sections.filter (fun other => decide (other.title = s.title)) = [s] := by
  induction sections with
  | nil => cases hs
  | cons first rest ih =>
    rw [List.map_cons, List.nodup_cons, List.mem_map] at h
    obtain ⟨hfirst, hrest⟩ := h
    obtain rfl | hs := List.mem_cons.mp hs
    · have hnone : rest.filter (fun other => decide (other.title = s.title)) = [] := by
        rw [List.filter_eq_nil_iff]
        intro other hother htitle
        exact hfirst ⟨other, hother, of_decide_eq_true htitle⟩
      rw [List.filter_cons_of_pos (by exact decide_eq_true rfl), hnone]
    · have hapart : ¬ decide (first.title = s.title) := by
        intro htitle
        exact hfirst ⟨s, hs, (of_decide_eq_true htitle).symm⟩
      rw [List.filter_cons_of_neg (by exact hapart), ih hrest hs]

variable {node : Node} {connections : List Connection}

/-- The blocks with the heading of a section: its own one, if there is something in it. -/
theorem filter_sectionBlocks {s : Section} (hs : s ∈ all) :
    (node.sectionBlocks connections).filter (Text.hasStart (heading s.title)) =
      if s.isShown node connections then [s.headed node connections] else [] := by
  have hsame : ∀ other ∈ all,
      (Text.hasStart (heading s.title) (other.headed node connections) && other.enabled node) =
        (other.isShown node connections && decide (other.title = s.title)) := by
    intro other hother
    rw [headed, hasStart_block (isOneLine_title s hs) (isOneLine_title other hother), isShown]
    cases decide (other.title = s.title) <;> cases other.enabled node <;> simp
  have halone : all.filter (fun other =>
      Text.hasStart (heading s.title) (other.headed node connections) && other.enabled node) =
        [s].filter (·.isShown node connections) := by
    rw [List.filter_congr hsame, ← List.filter_filter, filter_title_eq nodup_titles hs]
  rw [Node.sectionBlocks, List.filter_map, List.filter_filter]
  refine (congrArg (List.map _) halone).trans ?_
  by_cases hshown : s.isShown node connections
  · rw [List.filter_cons_of_pos (by exact hshown), if_pos hshown]
    rfl
  · rw [List.filter_cons_of_neg (by exact hshown), if_neg hshown]
    rfl

/-- The declarations of VLANs are not headed like a section. -/
theorem hasStart_vlanDatabase {s : Section} (hs : s ∈ all) {database : String}
    (h : node.vlanDatabase connections = .ok database) :
    Text.hasStart (heading s.title) database = false := by
  obtain ⟨ids, _, rfl⟩ := Node.vlanDatabase_eq_ok h
  split
  · exact hasStart_empty s.title
  · have hshape : node.databaseBlock ids = "!\n! " ++ "VLAN Database" ++ "\n"
        ++ ("!\n" ++ Vlan.database node.vendor ids node.vlanDescriptions) := by
      rw [Node.databaseBlock, ← String.append_assoc]
      rfl
    have hapart : ∀ s ∈ all, "VLAN Database" ≠ s.title ++ " Configuration" := by decide
    rw [hshape, Bool.eq_false_iff]
    intro hstart
    exact hapart s hs (line_eq_of_hasStart (isOneLine_title s hs) (by decide) hstart)

/-- The section on the time ranges of a device. -/
def timeRanges : Section where
  title := "Time Ranges"
  enabled n := !n.config.timeRanges.isEmpty
  render n _ := .ok (TimeRange.render n.vendor n.config.timeRanges)

private theorem text_timeRanges_of_disabled (h : timeRanges.enabled node = false) :
    timeRanges.text node connections = "" := by
  have hnone : node.config.timeRanges = [] := by
    simpa [timeRanges] using h
  have htext : timeRanges.text node connections =
      (TimeRange.render node.vendor node.config.timeRanges).cli := rfl
  rw [htext, hnone]
  rfl

private theorem text_acl_of_disabled (h : acl.enabled node = false) :
    acl.text node connections = "" := by
  have hoff : (!node.config.acl.enabled) = true := by
    rw [show node.config.acl.enabled = false from h]
    rfl
  exact congrArg Fragment.cli (if_pos hoff)

end Section

namespace Feature

/-- The title of the section that a feature becomes in a script. -/
def title : Feature → String
  | dhcp => "DHCP Server"
  | vlan => "VLAN Interfaces"
  | interface => "Physical Interfaces"
  | stp => "Spanning Tree Protocol"
  | ha => "High Availability (HA)"
  | ssh => "SSH Server"
  | feature => feature.name

/-- Whether scripts of a vendor have the section of a feature at all. -/
def isFor (vendor : Vendor) : Feature → Bool
  | stacking => vendor != .generic
  | mlag => vendor.isVrp
  | _ => true

/-- Whether a feature is switched on. -/
def isEnabled (node : Node) : Feature → Bool
  | linkAggregation => node.config.linkAggregation.enabled
  | portIsolation => node.config.portIsolation.enabled
  | stacking => node.config.stacking.enabled
  | mlag => node.config.mlag.enabled
  | dhcp => node.config.dhcp.enabled
  | dhcpRelay => node.config.dhcpRelay.enabled
  | dhcpSnooping => node.config.dhcpSnooping.enabled
  | vlan => node.config.vlan.enabled
  | interface => node.config.interfaceIp.enabled
  | stp => node.config.stp.enabled
  | routing => node.config.routing.isConfigured
  | vrrp => node.config.vrrp.enabled
  | ha => node.config.ha.enabled
  | acl => node.config.acl.enabled
  | nat => node.config.nat.enabled
  | wireless => node.config.wireless.enabled
  | ssh => node.config.ssh.enabled
  | security => node.config.security.zonesEnabled || node.config.security.policiesEnabled
  | objectGroups => node.config.objectGroups.anyEnabled
  | ipsec => node.config.ipsec.enabled
  | gre => node.config.gre.enabled

variable {node : Node} {connections : List Connection} {feature : Feature}

/-- A feature that is switched off renders nothing, for every vendor and with all its other
    settings. The ACLs are left out: they are shown together with the time ranges. -/
theorem render_of_disabled (hacl : feature ≠ .acl) (h : feature.isEnabled node = false) :
    ∃ reason, feature.render node = .ok (.nothing reason) := by
  have hoff : (!feature.isEnabled node) = true := by
    rw [h]
    rfl
  have hoffOr (empty : Bool) : (!feature.isEnabled node || empty) = true := by
    rw [hoff, Bool.true_or]
  cases feature with
  | acl => exact absurd rfl hacl
  | linkAggregation | dhcpSnooping | stp | ipsec => exact ⟨_, if_pos hoff⟩
  | portIsolation | dhcp => exact ⟨_, if_pos (hoffOr _)⟩
  | gre => exact ⟨_, congrArg Except.ok (if_pos (hoffOr _))⟩
  | stacking | mlag | dhcpRelay | vlan | interface | routing | vrrp | ha | nat | wireless | ssh
  | security | objectGroups => exact ⟨_, congrArg Except.ok (if_pos hoff)⟩

/-- Every feature but the ACLs is one section of the script, which a device has if the feature is
    switched on and is one for its vendor. -/
theorem exists_section (node : Node) (hacl : feature ≠ .acl) :
    ∃ s ∈ Section.all, s.title = feature.title ∧
      s.enabled node = (feature.isEnabled node && feature.isFor node.vendor) ∧
      ∀ connections, s.render node connections = feature.render node := by
  have hsection {s : Section} (hs : s ∈ Section.all) (htitle : s.title = feature.title)
      (henabled : s.enabled node = feature.isEnabled node) (hfor : feature.isFor node.vendor = true)
      (hrender : ∀ connections, s.render node connections = feature.render node) :
      ∃ s ∈ Section.all, s.title = feature.title ∧
        s.enabled node = (feature.isEnabled node && feature.isFor node.vendor) ∧
        ∀ connections, s.render node connections = feature.render node := by
    refine ⟨s, hs, htitle, ?_, hrender⟩
    rw [henabled, hfor, Bool.and_true]
  have hplace {s : Section} (i : Nat) (h : Section.all[i]? = some s) : s ∈ Section.all :=
    List.mem_of_getElem? h
  cases feature with
  | acl => exact absurd rfl hacl
  | stacking => exact ⟨_, hplace 0 rfl, rfl, rfl, fun _ => rfl⟩
  | mlag => exact ⟨_, hplace 1 rfl, rfl, rfl, fun _ => rfl⟩
  | ssh => exact hsection (hplace 2 rfl) rfl rfl rfl fun _ => rfl
  | objectGroups => exact hsection (hplace 4 rfl) rfl rfl rfl fun _ => rfl
  | security => exact hsection (hplace 6 rfl) rfl rfl rfl fun _ => rfl
  | ipsec => exact hsection (hplace 7 rfl) rfl rfl rfl fun _ => rfl
  | dhcp => exact hsection (hplace 8 rfl) rfl rfl rfl fun _ => rfl
  | dhcpRelay => exact hsection (hplace 9 rfl) rfl rfl rfl fun _ => rfl
  | dhcpSnooping => exact hsection (hplace 10 rfl) rfl rfl rfl fun _ => rfl
  | vlan => exact hsection (hplace 11 rfl) rfl rfl rfl fun _ => rfl
  | interface => exact hsection (hplace 12 rfl) rfl rfl rfl fun _ => rfl
  | linkAggregation => exact hsection (hplace 13 rfl) rfl rfl rfl fun _ => rfl
  | portIsolation => exact hsection (hplace 14 rfl) rfl rfl rfl fun _ => rfl
  | stp => exact hsection (hplace 16 rfl) rfl rfl rfl fun _ => rfl
  | routing => exact hsection (hplace 17 rfl) rfl rfl rfl fun _ => rfl
  | vrrp => exact hsection (hplace 18 rfl) rfl rfl rfl fun _ => rfl
  | ha => exact hsection (hplace 19 rfl) rfl rfl rfl fun _ => rfl
  | nat => exact hsection (hplace 20 rfl) rfl rfl rfl fun _ => rfl
  | wireless => exact hsection (hplace 21 rfl) rfl rfl rfl fun _ => rfl
  | gre => exact hsection (hplace 22 rfl) rfl rfl rfl fun _ => rfl

/-- The preview of a feature is what its section renders. -/
theorem preview_eq (node : Node) (feature : Feature) :
    preview node feature.name = feature.render node := by
  have hfound : ofName? feature.name = some feature := by
    cases feature <;> rfl
  rw [preview, hfound]

/-- The list of blocks has the section of a feature exactly if its preview is not blank, with the
    trimmed preview as its text. -/
theorem filter_blocks_eq_preview {database : String} {fragment : Fragment} (hacl : feature ≠ .acl)
    (hfor : feature.isFor node.vendor) (hdatabase : node.vlanDatabase connections = .ok database)
    (hrender : feature.render node = .ok fragment) :
    (database :: node.sectionBlocks connections).filter
        (Text.hasStart (Section.heading feature.title)) =
      if Text.allBlank fragment.cli then []
      else [Section.heading feature.title ++ Text.trim fragment.cli] := by
  obtain ⟨s, hs, htitle, henabled, hsection⟩ := exists_section node hacl
  have htext : s.text node connections = fragment.cli :=
    Section.text_eq ((hsection connections).trans hrender)
  have hnoDatabase := Section.hasStart_vlanDatabase hs hdatabase
  rw [← htitle, List.filter_cons_of_neg (by rw [hnoDatabase]; decide),
    Section.filter_sectionBlocks hs, Section.isShown, Section.headed, htext, henabled, hfor,
    Bool.and_true]
  cases hswitch : feature.isEnabled node with
  | true =>
    cases hblank : Text.allBlank fragment.cli with
    | true => rfl
    | false => rw [Section.block_eq hblank]; rfl
  | false =>
    obtain ⟨reason, hnothing⟩ := render_of_disabled hacl hswitch
    obtain rfl : fragment = .nothing reason := Except.ok.inj (hrender.symm.trans hnothing)
    rfl

/-- Sections that a device does not have leave no trace among joined blocks if they are empty. -/
theorem joinBlocks_filter_enabled (separator : String) {sections : List Section}
    (h : ∀ s ∈ sections, s.enabled node = false → s.text node connections = "") :
    joinBlocks separator ((sections.filter (·.enabled node)).map (·.text node connections)) =
      joinBlocks separator (sections.map (·.text node connections)) := by
  have hblank : Text.allBlank "" = true := rfl
  rw [joinBlocks, joinBlocks, List.filter_map, List.filter_map, List.filter_filter]
  congr 3
  apply List.filter_congr
  intro s hs
  cases henabled : s.enabled node with
  | true => rw [Bool.and_true]
  | false => rw [Bool.and_false, Function.comp_apply, h s hs henabled, hblank, Bool.not_true]

/-- The ACLs are shown behind the time ranges, each as the section of the script has them, and
    neither where a device does not have the section. -/
theorem aclWithTimeRanges_eq (node : Node) (connections : List Connection) :
    (aclWithTimeRanges node).cli = Text.trim (joinBlocks "\n\n"
      (((Section.all.filter fun s => s.title = "Time Ranges" ∨ s.title = "ACL").filter
        (·.enabled node)).map (·.text node connections))) := by
  have hboth : (Section.all.filter fun s => s.title = "Time Ranges" ∨ s.title = "ACL") =
      [Section.timeRanges, Section.acl] := rfl
  have hshown : (aclWithTimeRanges node).cli = Text.trim (joinBlocks "\n\n"
      [Section.timeRanges.text node connections, Section.acl.text node connections]) := rfl
  have hempty : ∀ s ∈ [Section.timeRanges, Section.acl], s.enabled node = false →
      s.text node connections = "" :=
    List.forall_mem_cons.mpr ⟨Section.text_timeRanges_of_disabled,
      List.forall_mem_singleton.mpr Section.text_acl_of_disabled⟩
  rw [hboth, joinBlocks_filter_enabled "\n\n" hempty]
  exact hshown

/-- A preview agrees with the whole script. Of the blocks that the script is put together from, the
    one with the heading of the feature is there exactly if the preview is not blank, and its text
    is the preview without what is blank at its ends. The preview of the ACLs is what the sections
    on time ranges and on ACLs give, those of them that the device has. -/
theorem preview_agrees_compile {script : String} {fragment : Fragment}
    (hcompile : node.compile connections = .ok script)
    (hpreview : preview node feature.name = .ok fragment) :
    ∃ database, node.vlanDatabase connections = .ok database ∧
      script = Node.assemble node.preamble (database :: node.sectionBlocks connections) ∧
      (feature ≠ .acl → feature.isFor node.vendor →
        (database :: node.sectionBlocks connections).filter
            (Text.hasStart s!"!\n! {feature.title} Configuration\n!\n") =
          if Text.allBlank fragment.cli then []
          else [s!"!\n! {feature.title} Configuration\n!\n" ++ Text.trim fragment.cli]) ∧
      (feature = .acl → fragment.cli = Text.trim (joinBlocks "\n\n"
        (((Section.all.filter fun s => s.title = "Time Ranges" ∨ s.title = "ACL").filter
          (·.enabled node)).map (·.text node connections)))) := by
  obtain ⟨database, hdatabase, hscript⟩ := Outcome.bind_eq_ok_iff.mp hcompile
  have hrender : feature.render node = .ok fragment := (preview_eq node feature).symm.trans hpreview
  refine ⟨database, hdatabase, (Except.ok.inj hscript).symm, ?_, ?_⟩
  · intro hacl hfor
    exact filter_blocks_eq_preview hacl hfor hdatabase hrender
  · rintro rfl
    obtain rfl : aclWithTimeRanges node = fragment := Except.ok.inj hrender
    exact aclWithTimeRanges_eq node connections

/-- A device with a VLAN interface and a time range, whose ACLs are switched off: the interface is
    shown as its section has it, and the ACLs are shown as the time range alone. -/
theorem preview_agrees_compile_interface :
    let interface : VlanInterface := { vlanId := "10", ipAddress := "10.0.0.1", subnetMask := "24" }
    let daily : PeriodicTime :=
      { enabled := true, startTime := "08:00", endTime := "18:00", days := { daily := true } }
    let node : Node :=
      { id := "sw1", vendor := .huawei
        config :=
          { vlan := { enabled := true, vlanInterfaces := [interface] }
            timeRanges := [{ name := "work", periodic := daily }] } }
    let text := "interface Vlanif10\n ip address 10.0.0.1 24\nquit"
    ∃ script database interfaces acls, node.compile [] = .ok script ∧
      node.vlanDatabase [] = .ok database ∧
      preview node "VLAN" = .ok interfaces ∧ interfaces.cli = text ∧
      (database :: node.sectionBlocks []).filter
          (Text.hasStart "!\n! VLAN Interfaces Configuration\n!\n") =
        ["!\n! VLAN Interfaces Configuration\n!\n" ++ text] ∧
      preview node "ACL" = .ok acls ∧ acls.cli = "time-range work 08:00 to 18:00 daily" := by
  intro interface daily node text
  obtain ⟨script, hscript⟩ : ∃ script, node.compile [] = .ok script := ⟨_, rfl⟩
  obtain ⟨interfaces, hinterfaces⟩ : ∃ interfaces, preview node vlan.name = .ok interfaces :=
    ⟨_, rfl⟩
  obtain ⟨acls, hacls⟩ : ∃ acls, preview node acl.name = .ok acls := ⟨_, rfl⟩
  have htext : interfaces.cli = text := by
    obtain rfl := Except.ok.inj hinterfaces
    decide +kernel
  have hshown : acls.cli = "time-range work 08:00 to 18:00 daily" := by
    obtain ⟨-, -, -, -, hjoined⟩ := preview_agrees_compile hscript hacls
    rw [hjoined rfl]
    decide +kernel
  obtain ⟨database, hdatabase, -, hblocks, -⟩ := preview_agrees_compile hscript hinterfaces
  refine ⟨script, database, interfaces, acls, hscript, hdatabase, hinterfaces, htext, ?_, hacls,
    hshown⟩
  have hfound := hblocks (by decide) rfl
  rw [htext] at hfound
  exact hfound.trans (by decide +kernel)

end Feature
end Netscribe
