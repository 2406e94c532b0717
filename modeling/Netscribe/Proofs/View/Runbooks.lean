import Netscribe.Proofs.Schema.Texts
import Netscribe.Proofs.View.Entries
import Netscribe.Stacking.Commands
/-!
Runbooks for stacking. They run over several sessions with a device, which sets them apart from the
other sections: a session may end within a view, or with the answer to a question. What they write
are lines all the same, none of them empty, and empty lines stand between phases only.
-/
namespace Netscribe

open Text (IsOneLine)

namespace Entry

/-- An entry that writes a single line, if anything, and no empty one. -/
def IsLine (e : Entry) : Prop := ∀ line ∈ e.text?, IsOneLine line ∧ line ≠ ""

@[simp ↓]
theorem isLine_blank : blank.IsLine := fun _ h => nomatch h

@[simp ↓]
theorem isLine_command (text why : String) :
    (command text why).IsLine ↔ IsOneLine text ∧ text ≠ "" := by
  simp [IsLine]

private theorem isLine_comment {marker : String} (text : String)
    (hmarker : Text.startsRemark marker) :
    (comment text marker).IsLine ↔ IsOneLine marker ∧ IsOneLine text := by
  have hstart : Text.startsRemark (Draft.commentLine marker text) :=
    any_head?_commentLine text hmarker
  simp [IsLine, text?, isOneLine_commentLine, Text.ne_empty_of_any_head? hstart]

@[simp ↓]
theorem isLine_remark (text : String) : (remark text).IsLine ↔ IsOneLine text := by
  rw [remark, isLine_comment text (by decide)]
  exact and_iff_right (by decide)

@[simp ↓]
theorem isLine_ciscoRemark (text : String) :
    (Stacking.ciscoRemark text).IsLine ↔ IsOneLine text := by
  rw [Stacking.ciscoRemark, isLine_comment text (by decide)]
  exact and_iff_right (by decide)

end Entry

/-- Entries that write lines. -/
def AreLines (entries : List Entry) : Prop := ∀ e ∈ entries, e.IsLine

section Lines

variable {α : Type} {p : Prop} [Decidable p] {e : Entry} {entries rest before after : List Entry}

@[simp ↓]
theorem areLines_nil : AreLines [] := fun _ h => nomatch h

@[simp ↓]
theorem areLines_cons : AreLines (e :: rest) ↔ e.IsLine ∧ AreLines rest := List.forall_mem_cons

@[simp ↓]
theorem areLines_append : AreLines (before ++ after) ↔ AreLines before ∧ AreLines after :=
  List.forall_mem_append

@[simp ↓]
theorem areLines_ite :
    AreLines (if p then before else after) ↔ (p → AreLines before) ∧ (¬p → AreLines after) := by
  split
  next hp => simp [hp]
  next hp => simp [hp]

@[simp ↓]
theorem areLines_onlyIf : AreLines (onlyIf p entries) ↔ (p → AreLines entries) := by
  rw [onlyIf, areLines_ite, and_iff_left fun _ => areLines_nil]

/-- Entries of single lines write single lines. -/
theorem AreLines.isOneLine_of_mem_written (h : AreLines entries) :
    ∀ line ∈ written entries, IsOneLine line := by
  intro line hline
  obtain ⟨e, he, htext⟩ := List.mem_filterMap.mp hline
  exact (h e he line htext).1

private theorem AreLines.flatMap {f : α → List Entry} {xs : List α} (h : ∀ x ∈ xs, AreLines (f x)) :
    AreLines (xs.flatMap f) := by
  intro e he
  obtain ⟨x, hx, he⟩ := List.mem_flatMap.mp he
  exact h x hx e he

private theorem AreLines.map {f : α → Entry} {xs : List α} (h : ∀ x ∈ xs, (f x).IsLine) :
    AreLines (xs.map f) := List.forall_mem_map.mpr h

end Lines

namespace StackMember

variable {m : StackMember}

private theorem isOneLine_fields (h : IsPlain m) :
    IsOneLine m.memberId ∧ IsOneLine m.newMemberId ∧ IsOneLine m.priority ∧
      ∀ port ∈ m.irfPorts, IsOneLine port.id ∧ ∀ name ∈ port.portGroup, IsOneLine name := by
  rw [isPlain_record] at h
  simp [fields] at h
  obtain ⟨hid, hnew, hpriority, hports⟩ := h
  refine ⟨hid, hnew, hpriority, fun port hport => ?_⟩
  have hplain := hports port hport
  rw [isPlain_record] at hplain
  simpa [StackPort.fields] using hplain

private theorem isOneLine_effectiveId (h : IsPlain m) : IsOneLine m.effectiveId := by
  obtain ⟨hid, hnew, -⟩ := isOneLine_fields h
  rw [effectiveId]
  simp [hid, hnew]

private theorem isOneLine_firstPortId (h : IsPlain m) : IsOneLine m.firstPortId := by
  obtain ⟨-, -, -, hports⟩ := isOneLine_fields h
  unfold firstPortId
  split
  next => decide
  next port _ hcons => exact (hports port (by simp [hcons])).1

private theorem isOneLine_of_mem_stackInterfaces (h : IsPlain m) {name : String}
    (hname : name ∈ m.stackInterfaces) : IsOneLine name := by
  obtain ⟨-, -, -, hports⟩ := isOneLine_fields h
  unfold stackInterfaces at hname
  split at hname
  next => cases hname
  next port _ hcons => exact (hports port (by simp [hcons])).2 name (List.mem_of_mem_filter hname)

end StackMember

namespace Stacking

private theorem of_slashNumber? {cs number rest : List Char}
    (h : slashNumber? cs = some (number, rest)) :
    number ⊆ cs ∧ rest ⊆ cs := by
  unfold slashNumber? at h
  split at h
  next tail =>
    split at h
    next => cases h
    next digits hdigits =>
      obtain ⟨rfl, rfl⟩ := Prod.mk.inj (Option.some.inj h)
      refine ⟨List.cons_subset_cons _ ?_, ?_⟩
      · exact (List.takeWhile_prefix _).subset
      · exact List.subset_cons_of_subset _ (List.dropWhile_sublist _).subset
  next => cases h

/-- The parts of a name are made of its characters. -/
theorem of_splitInterface? {name word member rest : List Char}
    (h : splitInterface? name = some (word, member, rest)) : word ⊆ name ∧ rest ⊆ name := by
  simp only [splitInterface?, Option.bind_eq_bind, Option.bind_eq_some_iff] at h
  obtain ⟨⟨slot, behind⟩, hslot, ⟨port, last⟩, hport, h⟩ := h
  have hnumbers : (name.dropWhile isInterfaceWord).dropWhile Text.isDecimal ⊆ name :=
    ((List.dropWhile_sublist _).trans (List.dropWhile_sublist _)).subset
  obtain ⟨hslotChars, hbehind⟩ := of_slashNumber? hslot
  obtain ⟨hportChars, -⟩ := of_slashNumber? hport
  split at h
  next =>
    cases h
    refine ⟨(List.takeWhile_prefix _).subset, List.append_subset.mpr ⟨?_, ?_⟩⟩
    · exact List.Subset.trans hslotChars hnumbers
    · exact List.Subset.trans hportChars (List.Subset.trans hbehind hnumbers)
  next => cases h

private theorem isOneLine_renumberInterface {name newMemberId : String} (hname : IsOneLine name)
    (hnew : IsOneLine newMemberId) (memberId : String) :
    IsOneLine (renumberInterface name memberId newMemberId) := by
  unfold renumberInterface
  refine Text.isOneLine_ite.mpr ⟨fun _ => hname, fun _ => ?_⟩
  split
  next word member rest hsplit =>
    obtain ⟨hword, hrest⟩ := of_splitInterface? hsplit
    refine Text.isOneLine_ite.mpr ⟨fun _ => Text.isOneLine_ofList fun hfeed => ?_, fun _ => hname⟩
    rw [List.append_assoc, List.mem_append, List.mem_append] at hfeed
    obtain hfeed | hfeed | hfeed := hfeed
    · exact hname (hword hfeed)
    · exact hnew hfeed
    · exact hname (hrest hfeed)
  next => exact hname

variable {s : Stacking} {m : StackMember} {names : List String} {slot : String}

private theorem isPlain_of_mem_members (h : IsPlain s) (hm : m ∈ s.members) : IsPlain m := by
  rw [isPlain_record] at h
  simp [fields] at h
  simp [h, hm]

private theorem isOneLine_domainId (h : IsPlain s) : IsOneLine s.domainId := by
  rw [isPlain_record] at h
  simp [fields] at h
  simp [h]

section H3c

private theorem areLines_switchPorts {text : String} (htext : IsOneLine text ∧ text ≠ "")
    (h : ∀ name ∈ names, IsOneLine name) : AreLines (names.flatMap (switchPort text)) := by
  refine .flatMap fun name hname => ?_
  rw [switchPort]
  simp +decide [htext, h name hname]

private theorem areLines_shut (h : ∀ name ∈ names, IsOneLine name) : AreLines (shut names) :=
  areLines_switchPorts (by decide) h

private theorem areLines_bringUp (h : ∀ name ∈ names, IsOneLine name) : AreLines (bringUp names) :=
  areLines_switchPorts (by decide) h

private theorem isOneLine_of_mem_allInterfaces (h : IsPlain s) :
    ∀ name ∈ s.allInterfaces, IsOneLine name := by
  intro name hname
  have hlisted := List.mem_of_mem_filter (List.mem_eraseDups.mp hname)
  obtain ⟨m, hm, hmember⟩ := List.mem_flatMap.mp hlisted
  obtain ⟨port, hport, hgroup⟩ := List.mem_flatMap.mp hmember
  obtain ⟨-, -, -, hports⟩ := StackMember.isOneLine_fields (isPlain_of_mem_members h hm)
  exact (hports port hport).2 name hgroup

private theorem areLines_h3cNewMember (h : IsPlain m) : AreLines (h3cNewMember m) := by
  have hport := StackMember.isOneLine_firstPortId h
  obtain ⟨hid, -, hpriority, -⟩ := StackMember.isOneLine_fields h
  have hbindings : AreLines (m.stackInterfaces.map fun name =>
      command s!" port group interface {name}" s!"Binds {name} to IRF port {m.firstPortId}.") := by
    refine .map fun name hname => ?_
    simp +decide [StackMember.isOneLine_of_mem_stackInterfaces h hname]
  rw [h3cNewMember]
  simp +decide [↓hbindings, hport, hid, hpriority]

private theorem isLine_domainEntry (h : IsPlain s) : (domainEntry s.domainId).IsLine := by
  rw [domainEntry]
  simp +decide [isOneLine_domainId h]

/-- The newer runbook of plain settings has single lines. -/
theorem areLines_h3cNewEntries (h : IsPlain s) : AreLines s.h3cNewEntries := by
  have hnames := isOneLine_of_mem_allInterfaces h
  have hmembers : AreLines (s.members.flatMap h3cNewMember) :=
    .flatMap fun m hm => areLines_h3cNewMember (isPlain_of_mem_members h hm)
  rw [h3cNewEntries]
  simp +decide [↓hmembers, areLines_shut hnames, areLines_bringUp hnames, isLine_domainEntry h]

private theorem areLines_h3cRenumbering (h : IsPlain m) : AreLines (h3cRenumbering m) := by
  have hid := StackMember.isOneLine_effectiveId h
  obtain ⟨hold, hnew, hpriority, -⟩ := StackMember.isOneLine_fields h
  rw [h3cRenumbering]
  simp +decide [hid, hold, hnew, hpriority]

private theorem isOneLine_of_mem_renamings (h : IsPlain s) {pair : String × String}
    (hpair : pair ∈ s.renamings) : IsOneLine pair.1 ∧ IsOneLine pair.2 := by
  obtain ⟨m, hm, hrenamed⟩ := List.mem_flatMap.mp hpair
  obtain ⟨name, hname, rfl⟩ := List.mem_map.mp hrenamed
  have hplain := isPlain_of_mem_members h hm
  have hline := StackMember.isOneLine_of_mem_stackInterfaces hplain hname
  obtain ⟨-, hnew, -⟩ := StackMember.isOneLine_fields hplain
  exact ⟨hline, isOneLine_renumberInterface hline hnew m.memberId⟩

private theorem isOneLine_renamed (h : IsPlain s) {name : String} (hname : IsOneLine name) :
    IsOneLine (renamed s.renamings name) := by
  unfold renamed
  cases hlookup : s.renamings.reverse.lookup name with
  | none => exact hname
  | some new =>
    obtain ⟨before, after, hsplit, -⟩ := List.lookup_eq_some_iff.mp hlookup
    have hmem : (name, new) ∈ s.renamings.reverse := by simp [hsplit]
    exact (isOneLine_of_mem_renamings h (List.mem_reverse.mp hmem)).2

private theorem areLines_h3cBinding (h : IsPlain s) (hm : m ∈ s.members) :
    AreLines (h3cBinding s.renamings m) := by
  have hplain := isPlain_of_mem_members h hm
  have hid := StackMember.isOneLine_effectiveId hplain
  have hport := StackMember.isOneLine_firstPortId hplain
  have hbindings : AreLines (m.stackInterfaces.map fun name =>
      command s!" port group interface {renamed s.renamings name}") := by
    refine .map fun name hname => ?_
    have hline := StackMember.isOneLine_of_mem_stackInterfaces hplain hname
    simp +decide [isOneLine_renamed h hline]
  rw [h3cBinding]
  simp +decide [↓hbindings, hid, hport]

/-- The older runbook of plain settings has single lines. -/
theorem areLines_h3cOldEntries (h : IsPlain s) : AreLines s.h3cOldEntries := by
  have hnames : ∀ name ∈ ((s.renamings.map (·.1)).eraseDups.map (renamed s.renamings)).eraseDups,
      IsOneLine name := by
    intro name hname
    obtain ⟨old, hold, rfl⟩ := List.mem_map.mp (List.mem_eraseDups.mp hname)
    obtain ⟨pair, hpair, rfl⟩ := List.mem_map.mp (List.mem_eraseDups.mp hold)
    exact isOneLine_renamed h (isOneLine_of_mem_renamings h hpair).1
  have hrenumberings : AreLines (s.members.flatMap h3cRenumbering) :=
    .flatMap fun m hm => areLines_h3cRenumbering (isPlain_of_mem_members h hm)
  have hbindings : AreLines (s.members.flatMap (h3cBinding s.renamings)) :=
    .flatMap fun m hm => areLines_h3cBinding h hm
  rw [h3cOldEntries]
  simp +decide [↓hrenumberings, ↓hbindings, areLines_shut hnames, areLines_bringUp hnames,
    isLine_domainEntry h]

end H3c

section Huawei

private theorem areLines_huaweiPorts (h : IsPlain m) (hslot : IsOneLine slot) :
    AreLines (huaweiPorts slot m) := by
  refine .flatMap fun numberedName hname => ?_
  have hline := StackMember.isOneLine_of_mem_stackInterfaces h (mem_of_mem_numbered hname)
  simp +decide [hline, hslot]

private theorem areLines_huaweiPriority (h : IsPlain m) (hslot : IsOneLine slot) :
    AreLines (huaweiPriority slot m) := by
  obtain ⟨-, -, hpriority, -⟩ := StackMember.isOneLine_fields h
  rw [huaweiPriority]
  simp +decide [hslot, hpriority]

private theorem areLines_huaweiSave : AreLines huaweiSave := by
  rw [huaweiSave]
  simp +decide

private theorem areLines_huaweiDomain (h : IsPlain s) : AreLines s.huaweiDomain := by
  rw [huaweiDomain]
  simp +decide [isOneLine_domainId h]

private theorem areLines_huaweiNewMember (h : IsPlain s) (hm : m ∈ s.members) :
    AreLines (s.huaweiNewMember m) := by
  have hplain := isPlain_of_mem_members h hm
  obtain ⟨hid, -⟩ := StackMember.isOneLine_fields hplain
  rw [huaweiNewMember]
  simp +decide [areLines_huaweiDomain h, areLines_huaweiPorts hplain hid,
    areLines_huaweiPriority hplain hid, areLines_huaweiSave, hid]

private theorem areLines_huaweiBase (h : IsPlain s) : AreLines s.huaweiBase := by
  have hnew : AreLines (s.members.flatMap s.huaweiNewMember) :=
    .flatMap fun m hm => areLines_huaweiNewMember h hm
  have hpriorities : AreLines
      ((s.members.filter (·.priority ≠ "")).flatMap fun m => huaweiPriority m.memberId m) := by
    refine .flatMap fun m hm => ?_
    have hplain := isPlain_of_mem_members h (List.mem_of_mem_filter hm)
    exact areLines_huaweiPriority hplain (StackMember.isOneLine_fields hplain).1
  have hports : AreLines (s.members.flatMap fun m => huaweiPorts m.effectiveId m) := by
    refine .flatMap fun m hm => ?_
    have hplain := isPlain_of_mem_members h hm
    exact areLines_huaweiPorts hplain (StackMember.isOneLine_effectiveId hplain)
  rw [huaweiBase]
  simp +decide [↓hnew, ↓hpriorities, ↓hports, areLines_huaweiDomain h, areLines_huaweiSave]

private theorem areLines_huaweiRenumbering (h : IsPlain m) : AreLines (huaweiRenumbering m) := by
  obtain ⟨hid, hnew, -⟩ := StackMember.isOneLine_fields h
  rw [huaweiRenumbering]
  simp +decide [areLines_huaweiSave, hid, hnew]

private theorem areLines_huaweiEntries (h : IsPlain s) : AreLines s.huaweiEntries := by
  have hrenumberings : AreLines ((s.members.filter (·.renumbers)).flatMap huaweiRenumbering) :=
    .flatMap fun m hm =>
      areLines_huaweiRenumbering (isPlain_of_mem_members h (List.mem_of_mem_filter hm))
  have hpriorities : AreLines ((s.members.filter (·.priority ≠ "")).flatMap fun m =>
      command "system-view" :: huaweiPriority m.effectiveId m
        ++ command "quit" :: huaweiSave) := by
    refine .flatMap fun m hm => ?_
    have hplain := isPlain_of_mem_members h (List.mem_of_mem_filter hm)
    have hid := StackMember.isOneLine_effectiveId hplain
    simp +decide [areLines_huaweiPriority hplain hid, areLines_huaweiSave]
  rw [huaweiEntries]
  simp +decide [↓hrenumberings, ↓hpriorities, areLines_huaweiBase h]

end Huawei

section Cisco

private theorem areLines_ciscoSession {entries : List Entry} (h : AreLines entries) :
    AreLines (ciscoSession entries) := by
  rw [ciscoSession]
  simp +decide [h]

private theorem areLines_ciscoLinks (h : IsPlain m) : AreLines (ciscoLinks m) := by
  refine .flatMap fun numberedName hname => ?_
  have hline := StackMember.isOneLine_of_mem_stackInterfaces h (mem_of_mem_numbered hname)
  simp +decide [hline]

private theorem areLines_ciscoMember (h : IsPlain s) (hm : m ∈ s.members) :
    AreLines (s.ciscoMember m) := by
  have hplain := isPlain_of_mem_members h hm
  obtain ⟨hid, -, hpriority, -⟩ := StackMember.isOneLine_fields hplain
  have hsession : AreLines (ciscoSession
      (onlyIf s.isVirtual
          (onlyIf (s.domainId ≠ "") [command s!"stackwise-virtual domain {s.domainId}"]
            ++ ciscoLinks m)
        ++ onlyIf (m.priority ≠ "" ∧ !s.isRenumbering)
          [command s!"switch {m.memberId} priority {m.priority}"])) := by
    refine areLines_ciscoSession ?_
    simp +decide [isOneLine_domainId h, areLines_ciscoLinks hplain, hid, hpriority]
  rw [ciscoMember]
  simp +decide [↓hsession, hid]

private theorem mem_members_of_mem_ciscoMembers (hm : m ∈ s.ciscoMembers) : m ∈ s.members := by
  unfold ciscoMembers at hm
  split at hm
  · exact List.mem_of_mem_take hm
  · exact hm

private theorem areLines_ciscoEntries (h : IsPlain s) : AreLines s.ciscoEntries := by
  have hplain {m : StackMember} (hm : m ∈ s.ciscoMembers) : IsPlain m :=
    isPlain_of_mem_members h (mem_members_of_mem_ciscoMembers hm)
  have hmembers : AreLines (s.ciscoMembers.flatMap s.ciscoMember) :=
    .flatMap fun m hm => areLines_ciscoMember h (mem_members_of_mem_ciscoMembers hm)
  have hrenumberings : AreLines ((s.ciscoMembers.filter (·.renumbers)).flatMap fun m =>
      ciscoSession [command s!"switch {m.memberId} renumber {m.newMemberId}"]) := by
    refine .flatMap fun m hm => areLines_ciscoSession ?_
    obtain ⟨hid, hnew, -⟩ := StackMember.isOneLine_fields (hplain (List.mem_of_mem_filter hm))
    simp +decide [hid, hnew]
  have hpriorities : AreLines ((s.ciscoMembers.filter (·.priority ≠ "")).flatMap fun m =>
      ciscoSession [command s!"switch {m.effectiveId} priority {m.priority}"]) := by
    refine .flatMap fun m hm => areLines_ciscoSession ?_
    have hmember := hplain (List.mem_of_mem_filter hm)
    obtain ⟨-, -, hpriority, -⟩ := StackMember.isOneLine_fields hmember
    simp +decide [StackMember.isOneLine_effectiveId hmember, hpriority]
  rw [ciscoEntries]
  simp +decide [↓hmembers, ↓hrenumberings, ↓hpriorities]

end Cisco

/-- No runbook has two empty lines in a row. -/
theorem isSpaced_render (h : IsPlain s) (vendor : Vendor) {title : String}
    (htitle : IsOneLine title) :
    Text.IsSpaced (Text.splitOn '\n' (Section.block title (s.render vendor).cli)) := by
  have hbuild {entries : List Entry} (hlines : AreLines entries) (summary : String) :
      Text.IsSpaced (Text.splitOn '\n'
        (Section.block title ((Draft.ofEntries entries).build summary).cli)) := by
    refine Draft.isSpaced_block htitle fun line hline => ?_
    obtain ⟨e, he, htext⟩ := List.mem_filterMap.mp hline
    exact hlines e he line htext
  unfold render
  split
  · exact (Fragment.isTidy_nothing vendor _).isSpaced title htitle
  · split
    next =>
      refine hbuild ?_ _
      rw [h3cEntries]
      simp [areLines_h3cNewEntries h, areLines_h3cOldEntries h]
    next => exact hbuild (areLines_huaweiEntries h) _
    next => exact hbuild (areLines_ciscoEntries h) _
    next =>
      exact (Fragment.isTidy_unsupported .generic (by decide) (by decide)).isSpaced title htitle

end Stacking
end Netscribe
