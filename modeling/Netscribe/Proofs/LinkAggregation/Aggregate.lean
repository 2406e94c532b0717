import Netscribe.Proofs.Vlan.Uses
/-!
The view of an aggregate interface: what of it names VLANs, and that it names those of its group.
-/
namespace Netscribe

open Vlan (PortLine)

namespace AggregationGroup

/-- The parts of a group in the dialect of a vendor. -/
def parts (vendor : Vendor) (g : AggregationGroup) : Except Fault Parts :=
  match vendor with
  | .cisco => g.ciscoParts
  | .huawei => g.huaweiParts
  | .h3c => g.h3cParts
  | .generic => .ok {}

/-- A line that says how the aggregate interface of a group is switched. -/
def IsModeLine (g : AggregationGroup) : PortLine → Prop :=
  PortLine.Fits g.interfaceMode g.accessVlan g.trunkNativeVlan g.trunkAllowedVlans

private theorem writes_modeEntries {g : AggregationGroup} {access trunk allowed : List Entry}
    {nativeKeyword line : String}
    (h : Writes (g.modeEntries access trunk nativeKeyword allowed) line) :
    (g.interfaceMode = "access" ∧ Writes access line) ∨
    g.interfaceMode = "trunk" ∧
      (Writes trunk line ∨ line = s!" {nativeKeyword} {g.trunkNativeVlan}" ∨
        Writes allowed line) := by
  rw [modeEntries] at h
  split at h
  next hmode => exact .inl ⟨hmode, (Writes.onlyIf_iff.mp h).2⟩
  next =>
    obtain ⟨hmode, hwrites⟩ := Writes.onlyIf_iff.mp h
    rw [Writes.append_iff, Writes.append_iff, Writes.onlyIf_iff, Writes.singleton_iff] at hwrites
    obtain (htrunk | ⟨_, hnative⟩) | hallowed := hwrites
    · exact .inr ⟨hmode, .inl htrunk⟩
    · exact .inr ⟨hmode, .inr (.inl hnative)⟩
    · exact .inr ⟨hmode, .inr (.inr hallowed)⟩

/-- The allowed VLANs of a trunk; an interface in another mode has none. -/
def trunkEntries (g : AggregationGroup) (keyword : String) (form : List Int → String) :
    Except Fault (List Entry) :=
  if g.interfaceMode = "trunk" then g.allowedEntries keyword form else .ok []

/-- The entries for an interface that is switched, in the words of a vendor. -/
def switchedEntries (vendor : Vendor) (nativeKeyword allowedKeyword : String)
    (g : AggregationGroup) : Except Fault (List Entry) := do
  let allowed ← g.trunkEntries allowedKeyword (Vlan.listForm vendor)
  return g.modeEntries
    ((PortLine.modeLine vendor "access" ++ [PortLine.access g.accessVlan]).map (entry vendor))
    ((PortLine.modeLine vendor "trunk").map (entry vendor)) nativeKeyword allowed
where
  entry (vendor : Vendor) (line : PortLine) : Entry := command (line.text vendor)

/-- A group that switches has the entries of its mode in the words of Cisco. -/
theorem ciscoMode_eq (g : AggregationGroup) (hmode : g.interfaceMode ≠ "l3") :
    g.ciscoMode =
      g.switchedEntries .cisco "switchport trunk native vlan" "switchport trunk allowed vlan" := by
  rw [ciscoMode, if_neg hmode, switchedEntries, trunkEntries]
  split <;> rfl

/-- A group that switches has the entries of its mode in the words of Huawei. -/
theorem huaweiMode_eq (g : AggregationGroup) (hmode : g.interfaceMode ≠ "l3") :
    g.huaweiMode =
      g.switchedEntries .huawei "port trunk pvid vlan" "port trunk allow-pass vlan" := by
  rw [huaweiMode, if_neg hmode, switchedEntries, trunkEntries]
  split <;> rfl

/-- A group of H3C has the entries of its mode whatever the mode is. -/
theorem h3cMode_eq (g : AggregationGroup) :
    g.h3cMode = g.switchedEntries .h3c "port trunk pvid vlan" "port trunk permit vlan" := by
  rw [h3cMode, switchedEntries, trunkEntries]
  split <;> rfl

private theorem writes_allowedEntries {g : AggregationGroup} {keyword line : String}
    {form : List Int → String} {entries : List Entry}
    (hentries : g.allowedEntries keyword form = .ok entries) (h : Writes entries line) :
    ∃ ids, Vlan.parseIds g.trunkAllowedVlans = .ok ids ∧ line = s!" {keyword} {form ids}" := by
  obtain ⟨ids, hids, hvalue⟩ := Outcome.bind_eq_ok_iff.mp hentries
  cases hvalue
  rw [Writes.onlyIf_iff, Writes.singleton_iff] at h
  exact ⟨ids, hids, h.2⟩

private theorem exists_mem_of_writes_map {vendor : Vendor} {lines : List PortLine} {line : String}
    (h : Writes (lines.map (switchedEntries.entry vendor)) line) :
    ∃ portLine ∈ lines, line = portLine.text vendor := by
  obtain ⟨e, he, htext⟩ := h
  obtain ⟨portLine, hmem, rfl⟩ := List.mem_map.mp he
  exact ⟨portLine, hmem, (Option.some.inj htext).symm⟩

/-- The mode entries of every vendor hold mode lines, whatever its keywords are. -/
theorem exists_modeLine {vendor : Vendor} {g : AggregationGroup}
    {nativeKeyword allowedKeyword line : String} {mode : List Entry}
    (hmode : g.switchedEntries vendor nativeKeyword allowedKeyword = .ok mode)
    (hnative : ∀ vlan, s!" {nativeKeyword} {vlan}" = PortLine.text vendor (.native vlan))
    (hlist : ∀ ids, s!" {allowedKeyword} {Vlan.listForm vendor ids}" =
      PortLine.text vendor (.allowed ids))
    (h : Writes mode line) : ∃ portLine, g.IsModeLine portLine ∧ line = portLine.text vendor := by
  obtain ⟨allowed, hallowed, hvalue⟩ := Outcome.bind_eq_ok_iff.mp hmode
  cases hvalue
  obtain ⟨hmode, hwrites⟩ | ⟨hmode, hwrites⟩ := writes_modeEntries h
  · obtain ⟨portLine, hmem, rfl⟩ := exists_mem_of_writes_map hwrites
    rw [List.mem_append, List.mem_singleton] at hmem
    obtain hswitching | rfl := hmem
    · have hmem := PortLine.forall_mem_modeLine_access vendor portLine hswitching
      exact ⟨portLine, PortLine.fits_of_mem_switching hmem, rfl⟩
    · exact ⟨.access g.accessVlan, ⟨hmode, rfl⟩, rfl⟩
  · obtain hwrites | rfl | hwrites := hwrites
    · obtain ⟨portLine, hswitching, rfl⟩ := exists_mem_of_writes_map hwrites
      have hmem := PortLine.forall_mem_modeLine_trunk vendor portLine hswitching
      exact ⟨portLine, PortLine.fits_of_mem_switching hmem, rfl⟩
    · exact ⟨.native g.trunkNativeVlan, ⟨hmode, rfl⟩, hnative g.trunkNativeVlan⟩
    · rw [trunkEntries, if_pos hmode] at hallowed
      obtain ⟨ids, hids, rfl⟩ := writes_allowedEntries hallowed hwrites
      exact ⟨.allowed ids, ⟨hmode, hids⟩, hlist ids⟩

private theorem exists_ciscoMode_line {g : AggregationGroup} {mode : List Entry} {line : String}
    (hmode : g.ciscoMode = .ok mode) (h : Writes mode line) :
    ∃ portLine, g.IsModeLine portLine ∧ line = portLine.text .cisco := by
  by_cases hrouted : g.interfaceMode = "l3"
  · rw [ciscoMode, if_pos hrouted] at hmode
    cases hmode
    rw [Writes.singleton_iff] at h
    exact ⟨.plain "no switchport", PortLine.fits_of_mem_switching (by decide), h⟩
  · rw [ciscoMode_eq g hrouted] at hmode
    exact exists_modeLine hmode (fun _ => rfl) (fun _ => rfl) h

private theorem exists_huaweiMode_line {g : AggregationGroup} {mode : List Entry} {line : String}
    (hmode : g.huaweiMode = .ok mode) (h : Writes mode line) :
    ∃ portLine, g.IsModeLine portLine ∧ line = portLine.text .huawei := by
  by_cases hrouted : g.interfaceMode = "l3"
  · rw [huaweiMode, if_pos hrouted] at hmode
    cases hmode
    rw [Writes.singleton_iff] at h
    exact ⟨.plain "undo portswitch", PortLine.fits_of_mem_switching (by decide), h⟩
  · rw [huaweiMode_eq g hrouted] at hmode
    exact exists_modeLine hmode (fun _ => rfl) (fun _ => rfl) h

private theorem exists_h3cMode_line {g : AggregationGroup} {mode : List Entry} {line : String}
    (hmode : g.h3cMode = .ok mode) (h : Writes mode line) :
    ∃ portLine, g.IsModeLine portLine ∧ line = portLine.text .h3c := by
  rw [h3cMode_eq] at hmode
  exact exists_modeLine hmode (fun _ => rfl) (fun _ => rfl) h

/-- A line of the view says how the interface is switched, or it names no VLAN. -/
def IsViewLine (vendor : Vendor) (g : AggregationGroup) (line : String) : Prop :=
  (∃ portLine, g.IsModeLine portLine ∧ line = portLine.text vendor) ∨
    ∃ opening, Vlan.OpensSilently vendor opening ∧ Text.hasStart opening line

/-- How the lines of a group open that say nothing about the VLANs of its interface. -/
def silentOpenings : Vendor → List String
  | .cisco => ["port-channel load-balance ", "interface ", " description ", " channel-group ",
      " no shutdown", "exit"]
  | .huawei => ["lacp priority-command-mode system-priority", "lacp system-priority ",
      "lacp priority ", "interface ", " mode manual load-balance", " mode lacp-static",
      " load-balance ", " description \"", " lacp preempt enable", " lacp preempt delay ",
      " undo lacp preempt enable", " lacp timeout ", " lacp priority ", " eth-trunk ", "quit"]
  | .h3c => ["lacp system-priority ", "link-aggregation global load-sharing mode ", "interface ",
      " description \"", " link-aggregation mode ", " port link-aggregation group ",
      " link-aggregation port-priority ", " lacp mode passive", " undo lacp mode",
      " lacp period short", "quit"]
  | .generic => []

private theorem opensSilently_of_mem {vendor : Vendor} :
    ∀ opening ∈ silentOpenings vendor, Vlan.OpensSilently vendor opening := by
  cases vendor <;> decide +kernel

private theorem isViewLine_of_opening {vendor : Vendor} {g : AggregationGroup} {opening : String}
    (h : opening ∈ silentOpenings vendor) (rest : String) : g.IsViewLine vendor (opening ++ rest) :=
  .inr ⟨opening, opensSilently_of_mem opening h, Text.hasStart_append opening rest⟩

private theorem isViewLine_of_opens {vendor : Vendor} {g : AggregationGroup} {line : String}
    (h : line ∈ silentOpenings vendor) : g.IsViewLine vendor line :=
  .inr ⟨line, opensSilently_of_mem line h, Text.hasStart_self line⟩

private theorem isViewLine_ciscoParts {g : AggregationGroup} {p : Parts} {line : String}
    (hparts : g.ciscoParts = .ok p) (h : Writes p.aggregate line) : g.IsViewLine .cisco line := by
  obtain ⟨mode, hmode, hvalue⟩ := Outcome.bind_eq_ok_iff.mp hparts
  cases hvalue
  simp only [List.cons_append, Writes.cons_iff, Writes.append_iff, Writes.onlyIf_iff,
    Writes.nil_iff, or_false, text?_command, Option.some.injEq] at h
  obtain rfl | (⟨_, rfl⟩ | hline) | rfl := h
  · exact isViewLine_of_opening (by simp [silentOpenings, toString]) _
  · exact isViewLine_of_opening (by simp [silentOpenings, toString]) _
  · exact .inl (exists_ciscoMode_line hmode hline)
  · exact isViewLine_of_opens (by simp [silentOpenings])

private theorem isViewLine_huaweiPreemption {g : AggregationGroup} {line : String}
    (h : Writes g.huaweiPreemption line) : g.IsViewLine .huawei line := by
  rw [huaweiPreemption] at h
  split at h
  · rw [Writes.cons_iff, Writes.onlyIf_iff, Writes.singleton_iff] at h
    obtain hline | ⟨_, rfl⟩ := h
    · cases hline
      exact isViewLine_of_opens (by simp [silentOpenings])
    · exact isViewLine_of_opening (by simp [silentOpenings, toString]) _
  · rw [Writes.singleton_iff] at h
    exact h ▸ isViewLine_of_opens (by simp [silentOpenings])

private theorem isViewLine_huaweiParts {g : AggregationGroup} {p : Parts} {line : String}
    (hparts : g.huaweiParts = .ok p) (h : Writes p.aggregate line) :
    g.IsViewLine .huawei line := by
  obtain ⟨mode, hmode, hvalue⟩ := Outcome.bind_eq_ok_iff.mp hparts
  cases hvalue
  have hbalance : Writes (if g.mode = "manual" then
        [command " mode manual load-balance" "Static aggregation without LACP."]
      else onlyIf g.usesLacp [command " mode lacp-static" "Negotiates membership with LACP."])
      line → g.IsViewLine .huawei line := by
    intro hline
    split at hline
    · rw [Writes.singleton_iff] at hline
      exact hline ▸ isViewLine_of_opens (by simp [silentOpenings])
    · rw [Writes.onlyIf_iff, Writes.singleton_iff] at hline
      exact hline.2 ▸ isViewLine_of_opens (by simp [silentOpenings])
  simp only [List.cons_append, Writes.cons_iff, Writes.append_iff, Writes.nil_iff, or_false,
    text?_command, Option.some.injEq] at h
  obtain rfl | (((((hline | hline) | hline) | hline) | hline) | rfl) := h
  · exact isViewLine_of_opening (by simp [silentOpenings, toString]) _
  · exact hbalance hline
  · rw [Writes.onlyIf_iff, Writes.singleton_iff] at hline
    exact hline.2 ▸ isViewLine_of_opening (by simp [silentOpenings, toString]) _
  · rw [Writes.onlyIf_iff, Writes.singleton_iff] at hline
    rw [hline.2, String.append_assoc]
    exact isViewLine_of_opening (by simp [silentOpenings, toString]) _
  · rw [Writes.onlyIf_iff, Writes.append_iff, Writes.onlyIf_iff, Writes.singleton_iff] at hline
    obtain ⟨_, hline | ⟨_, rfl⟩⟩ := hline
    · exact isViewLine_huaweiPreemption hline
    · exact isViewLine_of_opening (by simp [silentOpenings, toString]) _
  · exact .inl (exists_huaweiMode_line hmode hline)
  · exact isViewLine_of_opens (by simp [silentOpenings])

private theorem isViewLine_h3cParts {g : AggregationGroup} {p : Parts} {line : String}
    (hparts : g.h3cParts = .ok p) (h : Writes p.aggregate line) : g.IsViewLine .h3c line := by
  obtain ⟨mode, hmode, hvalue⟩ := Outcome.bind_eq_ok_iff.mp hparts
  cases hvalue
  simp only [List.cons_append, Writes.cons_iff, Writes.append_iff, Writes.onlyIf_iff,
    Writes.nil_iff, or_false, text?_command, Option.some.injEq] at h
  obtain rfl | ((⟨_, rfl⟩ | hline) | ⟨_, rfl⟩) | rfl := h
  · have hopens : "interface " ∈ silentOpenings .h3c := by simp [silentOpenings]
    rw [interfaceName]
    exact isViewLine_of_opening hopens _
  · rw [String.append_assoc]
    exact isViewLine_of_opening (by simp [silentOpenings, toString]) _
  · exact .inl (exists_h3cMode_line hmode hline)
  · exact isViewLine_of_opening (by simp [silentOpenings, toString]) _
  · exact isViewLine_of_opens (by simp [silentOpenings])

private theorem isViewLine_parts {vendor : Vendor} {g : AggregationGroup} {p : Parts}
    {line : String}
    (hparts : g.parts vendor = .ok p) (h : Writes p.aggregate line) : g.IsViewLine vendor line := by
  cases vendor with
  | cisco => exact isViewLine_ciscoParts hparts h
  | huawei => exact isViewLine_huaweiParts hparts h
  | h3c => exact isViewLine_h3cParts hparts h
  | generic =>
    cases hparts
    exact absurd h Writes.nil_iff.mp

/-- A line before or behind the view of the aggregate interface names no VLAN. -/
theorem isViewLine_beside_cisco {g : AggregationGroup} {p : Parts} {line : String}
    (hparts : g.ciscoParts = .ok p) (h : Writes p.globals line ∨ Writes p.members line) :
    g.IsViewLine .cisco line := by
  obtain ⟨mode, hmode, hvalue⟩ := Outcome.bind_eq_ok_iff.mp hparts
  cases hvalue
  obtain hglobal | hmember := h
  · rw [Writes.onlyIf_iff, Writes.singleton_iff] at hglobal
    exact hglobal.2 ▸ isViewLine_of_opening (by simp [silentOpenings, toString]) _
  · obtain ⟨name, _, hline⟩ := Writes.flatMap_iff.mp hmember
    simp only [ciscoMember, Writes.cons_iff, Writes.nil_iff, or_false, text?_command,
      Option.some.injEq] at hline
    obtain rfl | rfl | rfl | rfl := hline
    · exact isViewLine_of_opening (by simp [silentOpenings, toString]) _
    · rw [String.append_assoc, String.append_assoc]
      exact isViewLine_of_opening (by simp [silentOpenings, toString]) _
    · exact isViewLine_of_opens (by simp [silentOpenings])
    · exact isViewLine_of_opens (by simp [silentOpenings])

private theorem isViewLine_beside_huawei {g : AggregationGroup} {p : Parts} {line : String}
    (hparts : g.huaweiParts = .ok p) (h : Writes p.globals line ∨ Writes p.members line) :
    g.IsViewLine .huawei line := by
  obtain ⟨mode, hmode, hvalue⟩ := Outcome.bind_eq_ok_iff.mp hparts
  cases hvalue
  obtain hglobal | hmember := h
  · simp only [huaweiGlobals, Writes.onlyIf_iff, Writes.append_iff, Writes.singleton_iff]
      at hglobal
    obtain ⟨_, ⟨_, rfl⟩ | ⟨_, rfl⟩⟩ := hglobal
    · exact isViewLine_of_opens (by simp [silentOpenings])
    · split
      · exact isViewLine_of_opening (by simp [silentOpenings, toString]) _
      · exact isViewLine_of_opening (by simp [silentOpenings, toString]) _
  · obtain ⟨m, _, hline⟩ := Writes.flatMap_iff.mp hmember
    simp only [huaweiMember, List.cons_append, Writes.cons_iff, Writes.append_iff,
      Writes.onlyIf_iff, Writes.nil_iff, or_false, text?_command, Option.some.injEq] at hline
    obtain rfl | ⟨_, rfl⟩ | rfl | rfl := hline
    · exact isViewLine_of_opening (by simp [silentOpenings, toString]) _
    · exact isViewLine_of_opening (by simp [silentOpenings, toString]) _
    · exact isViewLine_of_opening (by simp [silentOpenings, toString]) _
    · exact isViewLine_of_opens (by simp [silentOpenings])

private theorem isViewLine_h3cLacp {g : AggregationGroup} {m : AggregationMember} {line : String}
    (h : Writes (h3cLacp m) line) : g.IsViewLine .h3c line := by
  simp only [h3cLacp, Writes.append_iff, Writes.onlyIf_iff, Writes.singleton_iff] at h
  obtain (⟨_, rfl⟩ | rfl) | ⟨_, rfl⟩ := h
  · exact isViewLine_of_opening (by simp [silentOpenings, toString]) _
  · split
    · exact isViewLine_of_opens (by simp [silentOpenings])
    · exact isViewLine_of_opens (by simp [silentOpenings])
  · exact isViewLine_of_opens (by simp [silentOpenings])

private theorem isViewLine_beside_h3c {g : AggregationGroup} {p : Parts} {line : String}
    (hparts : g.h3cParts = .ok p) (h : Writes p.globals line ∨ Writes p.members line) :
    g.IsViewLine .h3c line := by
  obtain ⟨mode, hmode, hvalue⟩ := Outcome.bind_eq_ok_iff.mp hparts
  cases hvalue
  obtain hglobal | hmember := h
  · rw [Writes.append_iff, Writes.onlyIf_iff, Writes.onlyIf_iff, Writes.singleton_iff,
      Writes.singleton_iff] at hglobal
    obtain ⟨_, rfl⟩ | ⟨_, rfl⟩ := hglobal
    · exact isViewLine_of_opening (by simp [silentOpenings, toString]) _
    · exact isViewLine_of_opening (by simp [silentOpenings, toString]) _
  · obtain ⟨m, _, hline⟩ := Writes.flatMap_iff.mp hmember
    simp only [h3cMember, List.cons_append, List.nil_append, Writes.cons_iff, Writes.append_iff,
      Writes.onlyIf_iff, Writes.nil_iff, or_false, text?_command, Option.some.injEq] at hline
    obtain rfl | rfl | ⟨_, hlacp⟩ | rfl := hline
    · exact isViewLine_of_opening (by simp [silentOpenings, toString]) _
    · exact isViewLine_of_opening (by simp [silentOpenings, toString]) _
    · exact isViewLine_h3cLacp hlacp
    · exact isViewLine_of_opens (by simp [silentOpenings])

/-- Whatever a group writes, it names VLANs only to say how its interface is switched. -/
theorem isViewLine_entries {vendor : Vendor} {g : AggregationGroup} {p : Parts} {line : String}
    (hparts : g.parts vendor = .ok p) (h : Writes p.entries line) : g.IsViewLine vendor line := by
  obtain ⟨part, hpart, hline⟩ := Writes.flatMap_iff.mp h
  obtain ⟨_, hline⟩ := Writes.onlyIf_iff.mp hline
  rw [Writes.cons_iff, or_iff_right nofun] at hline
  simp only [List.mem_cons, List.not_mem_nil, or_false] at hpart
  have hbeside (hbeside : Writes p.globals line ∨ Writes p.members line) :
      g.IsViewLine vendor line := by
    cases vendor with
    | cisco => exact isViewLine_beside_cisco hparts hbeside
    | huawei => exact isViewLine_beside_huawei hparts hbeside
    | h3c => exact isViewLine_beside_h3c hparts hbeside
    | generic =>
      cases hparts
      exact absurd hbeside (by simp [Writes.nil_iff])
  obtain rfl | rfl | rfl := hpart
  · exact hbeside (.inl hline)
  · exact isViewLine_parts hparts hline
  · exact hbeside (.inr hline)

/-- The VLANs that the lines of a group use are among those of the group. -/
theorem mem_vlanIds_of_writes {vendor : Vendor} {g : AggregationGroup} {p : Parts} {line : String}
    {found : List Int} {id : Int} (hfound : g.vlanIds = .ok found) (hparts : g.parts vendor = .ok p)
    (hline : Writes p.entries line) (hid : id ∈ Vlan.lineIds vendor line) : id ∈ found := by
  obtain ⟨portLine, hmode, rfl⟩ | ⟨opening, hopens, hstart⟩ := isViewLine_entries hparts hline
  · exact PortLine.mem_modeIds_of_fits hfound hmode hid
  · rw [Vlan.lineIds_eq_nil hopens hstart] at hid
    cases hid

end AggregationGroup

namespace LinkAggregation

/-- The commands of an enabled aggregation are those of its complete groups. -/
theorem render_eq_ok {vendor : Vendor} {l : LinkAggregation} {fragment : Fragment}
    (hvendor : vendor ≠ .generic) (henabled : l.enabled) (h : l.render vendor = .ok fragment) :
    ∃ parts, l.completeGroups.mapM (·.parts vendor) = .ok parts ∧
      fragment = render.finish parts := by
  have hrender : (do return render.finish (← l.completeGroups.mapM (·.parts vendor))) =
      (.ok fragment : Except Fault Fragment) := by
    rw [← h]
    unfold render
    rw [henabled]
    cases vendor with
    | generic => exact absurd rfl hvendor
    | _ => rfl
  obtain ⟨parts, hparts, hvalue⟩ := Outcome.bind_eq_ok_iff.mp hrender
  exact ⟨parts, hparts, (Except.ok.inj hvalue).symm⟩

end LinkAggregation
end Netscribe
