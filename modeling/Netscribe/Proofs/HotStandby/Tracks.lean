import Netscribe.Proofs.View.Contents
import Netscribe.Proofs.View.Routing
/-!
The tracks of a remote-backup group. They are declared at the outermost level and referred to within
the group: one list of watched items is written out twice, under two different conditions.
-/
namespace Netscribe

open Text (after? isIndented IsOneLine)

/-- Every track that is referred to is declared before. -/
def TracksAreDeclared (lines : List String) : Prop :=
  ∀ before name after, lines = before ++ (" track " ++ name) :: after →
    ∃ port, "track " ++ name ++ " interface " ++ port ∈ before

/-- Every track that is declared is referred to. -/
def TracksAreReferenced (lines : List String) : Prop :=
  ∀ words, "track " ++ words ∈ lines →
    ∃ name port, words = name ++ " interface " ++ port ∧ " track " ++ name ∈ lines

/-- The lines of a text about tracks: declarations, and references to them. -/
def aboutTrack (line : String) : Bool :=
  (after? "track " line).isSome || (after? " track " line).isSome

private theorem aboutTrack_declaration (words : String) : aboutTrack ("track " ++ words) := by
  rw [aboutTrack, Text.after?_append]
  rfl

private theorem aboutTrack_reference (name : String) : aboutTrack (" track " ++ name) := by
  rw [aboutTrack, Text.after?_append]
  exact Bool.or_true _

private theorem aboutTrack_of_allBlank {line : String} (h : Text.allBlank line) :
    aboutTrack line = false := by
  rw [aboutTrack, View.after?_of_allBlank (by decide) h, View.after?_of_allBlank (by decide) h]
  rfl

private theorem declaration_ne_reference (words name : String) :
    "track " ++ words ≠ " track " ++ name := by
  intro h
  have hhead := congrArg (·.toList.head?) h
  simp at hhead

namespace TrackItem

/-- What stands behind the word for a track in the declaration of an item. -/
def declared (t : TrackItem) : String := t.id ++ " interface " ++ t.value

/-- Whether an item is declared: it has an id, and follows an interface with a name. -/
def isDeclared (t : TrackItem) : Bool := t.id ≠ "" && t.value ≠ "" && t.kind = "interface"

/-- An item whose declaration can be read as one of a name. -/
def Declares (t : TrackItem) (name : String) : Prop :=
  t.isDeclared ∧ ∃ port, t.declared = name ++ " interface " ++ port

private theorem id_ne_empty_of_isDeclared {t : TrackItem} (h : t.isDeclared) : t.id ≠ "" := by
  rw [isDeclared, Bool.and_eq_true, Bool.and_eq_true] at h
  exact of_decide_eq_true h.1.1

/-- A declaration is read as one of the id alone, unless there is a blank in the id. -/
theorem declares_iff {t : TrackItem} {name : String} (ht : ' ' ∉ t.id.toList)
    (hname : ' ' ∉ name.toList) : t.Declares name ↔ t.isDeclared ∧ t.id = name := by
  have hblank (word port : String) :
      word ++ " interface " ++ port = word ++ " " ++ ("interface " ++ port) := by
    simp only [String.append_assoc]
    rfl
  refine and_congr_right fun _ => ⟨?_, ?_⟩
  · rintro ⟨port, hport⟩
    rw [declared, hblank, hblank] at hport
    exact ((Text.append_blank_inj ht hname).mp hport).1
  · rintro rfl
    exact ⟨t.value, rfl⟩

end TrackItem

/-- Of the lines about tracks, the declarations of the items come first and the references to them
    last. -/
def ListsTracks (ts : List TrackItem) (lines : List String) : Prop :=
  lines.filter aboutTrack =
    (ts.filter (·.isDeclared)).map (fun t => "track " ++ t.declared) ++
      (ts.filter (·.id ≠ "")).map (fun t => " track " ++ t.id)

namespace RemoteBackup

section Items

variable (ts : List TrackItem)

private theorem filter_declarations : (written (ts.flatMap declaration)).filter aboutTrack =
    (ts.filter (·.isDeclared)).map fun t => "track " ++ t.declared := by
  rw [written, List.filterMap_flatMap, List.filter_flatMap, List.map_eq_flatMap, flatMap_filter]
  refine List.flatMap_congr fun t _ => ?_
  have hline : s!"track {t.id} interface {t.value}" = "track " ++ t.declared := by
    simp only [TrackItem.declared, ← String.append_assoc]
    rfl
  have hquit : aboutTrack "quit" = false := by decide
  by_cases h : t.id ≠ "" ∧ t.value ≠ "" ∧ t.kind = "interface"
  · have hdeclared : t.isDeclared := by simp [TrackItem.isDeclared, h]
    rw [declaration, onlyIf, if_pos h, if_pos hdeclared, hline]
    refine (List.filter_cons_of_pos (aboutTrack_declaration t.declared)).trans ?_
    simp [command, Entry.text?, hquit]
  · have hnot : ¬t.isDeclared := by simpa [TrackItem.isDeclared, and_assoc] using h
    rw [declaration, onlyIf, if_neg h, if_neg hnot]
    rfl

private theorem filter_references : (written (ts.flatMap reference)).filter aboutTrack =
    (ts.filter (·.id ≠ "")).map fun t => " track " ++ t.id := by
  rw [written, List.filterMap_flatMap, List.filter_flatMap, List.map_eq_flatMap, flatMap_filter]
  refine List.flatMap_congr fun t _ => ?_
  by_cases h : t.id ≠ ""
  · rw [reference, onlyIf, if_pos h, if_pos (decide_eq_true h)]
    exact List.filter_cons_of_pos (aboutTrack_reference t.id)
  · rw [reference, onlyIf, if_neg h, if_neg (by simpa using h)]
    rfl

private theorem saidBy_references : View.saidBy " track " (ts.flatMap reference) =
    (ts.filter (·.id ≠ "")).map (·.id) := by
  rw [View.saidBy_flatMap, List.map_eq_flatMap, flatMap_filter]
  refine List.flatMap_congr fun t _ => ?_
  have hid : after? " track " s!" track {t.id}" = some t.id := Text.after?_append " track " t.id
  simp [reference, hid]

private theorem allWritten_isIndented_reference (t : TrackItem) :
    AllWritten (isIndented ·) (reference t) := by
  simp +decide [reference]

end Items

variable (b : RemoteBackup)

/-- The settings of the group, which come before its tracks. -/
def settingEntries : List Entry :=
  let delay := orElse b.failback.delayTime "30"
  [command s!" device-role {b.deviceRole}",
      if b.workMode = "dual-active" then
        command " backup-mode dual-active" "Both devices forward traffic."
      else command " undo backup-mode" "Active/standby operation."]
    ++ channelEntries b.controlChannel
    ++ onlyIf (b.dataChannelInterface ≠ "")
      [command s!" data-channel interface {b.dataChannelInterface}"
        "Carries session backup traffic."]
    ++ [toggle b.hotBackupEnabled "hot-backup enable",
       toggle b.autoSyncEnabled "configuration auto-sync enable",
       toggle b.syncCheckEnabled "configuration sync-check"]
    ++ onlyIf b.failback.enabled [command s!" delay-time {delay}" "Failback delay."]

/-- The group from its command to the one that leaves it. -/
def groupEntries : List Entry :=
  [command "remote-backup group" "Enters the RBM remote-backup group."]
    ++ (b.settingEntries ++ b.monitoring.tracks.flatMap reference) ++ [command "quit"]

private theorem entries_eq :
    b.entries = b.monitoring.tracks.flatMap declaration ++ .blank :: b.groupEntries := by
  unfold entries groupEntries settingEntries
  simp only [List.append_assoc, List.cons_append, List.nil_append]

private theorem allWritten_isIndented_settingEntries :
    AllWritten (isIndented ·) b.settingEntries := by
  simp +decide [settingEntries, channelEntries, toggle]

private theorem allWritten_settingEntries :
    AllWritten (after? " track " · = none) b.settingEntries := by
  simp +decide [↓Text.after?_of_diverge, settingEntries, channelEntries, toggle]

/-- In the group nothing comes before the tracks that is about tracks. -/
theorem filter_settingEntries : (written b.settingEntries).filter aboutTrack = [] := by
  refine List.filter_eq_nil_iff.mpr fun line hline => ?_
  have hindented := allWritten_isIndented_settingEntries b line hline
  rw [aboutTrack, View.after?_eq_none_of_isIndented (by decide) hindented,
    allWritten_settingEntries b line hline]
  decide

private theorem listsTracks_body :
    ListsTracks b.monitoring.tracks (Draft.ofEntries b.entries).body := by
  have hopening : (written [command "remote-backup group"
      "Enters the RBM remote-backup group."]).filter aboutTrack = [] := by decide
  have hclosing : (written [command "quit"]).filter aboutTrack = [] := by decide
  rw [ListsTracks, Draft.filter_body_of_allBlank fun _ => aboutTrack_of_allBlank, entries_eq,
    written_append, List.filter_append, filter_declarations, written_cons_of_none rfl,
    groupEntries, written_append, written_append, written_append, List.filter_append,
    List.filter_append, List.filter_append, hopening, hclosing, filter_settingEntries,
    filter_references, List.nil_append, List.nil_append, List.append_nil]

private theorem writesView_groupEntries :
    View.WritesView "remote-backup group" "" b.groupEntries := by
  have hreferences : AllWritten (isIndented ·) (b.monitoring.tracks.flatMap reference) :=
    .flatMap fun t _ => allWritten_isIndented_reference t
  refine (View.OpensView.append (View.opensView_command "remote-backup group" "" _) ?_).close
  exact allWritten_append.mpr ⟨allWritten_isIndented_settingEntries b, hreferences⟩

private theorem contents_body :
    View.contents "remote-backup group" " track " (Draft.ofEntries b.entries).body =
      [("", (b.monitoring.tracks.filter (·.id ≠ "")).map (·.id))] := by
  have hdeclarations : AllWritten (after? "remote-backup group" · = none)
      (b.monitoring.tracks.flatMap declaration) := by
    refine .flatMap fun t _ => ?_
    simp +decide [↓Text.after?_of_diverge, declaration]
  have hsaid : View.saidBy " track " b.groupEntries =
      (b.monitoring.tracks.filter (·.id ≠ "")).map (·.id) := by
    have hopening : after? " track " "remote-backup group" = none := by decide
    have hclosing : after? " track " "quit" = none := by decide
    simp [groupEntries, hopening, hclosing, View.saidBy_eq_nil (allWritten_settingEntries b),
      saidBy_references]
  rw [entries_eq, ← hsaid]
  refine (View.ReadAs.nothing_append hdeclarations ?_).contents_body (by decide)
  exact .view (writesView_groupEntries b) (by decide) (by decide) (by decide) (by decide)

end RemoteBackup

/-- Where the members of a kind come in two parts, the first part stands before each member of the
    second. -/
theorem mem_before_of_filter_eq_append {α : Type} {p : α → Bool} {x y : α}
    {xs first second before after : List α} (h : xs.filter p = first ++ second)
    (hsplit : xs = before ++ x :: after) (hx : p x) (hfirst : x ∉ first) (hy : y ∈ first) :
    y ∈ before := by
  rw [hsplit, List.filter_append, List.filter_cons_of_pos hx] at h
  refine (List.mem_filter.mp (?_ : y ∈ before.filter p)).1
  obtain ⟨more, hmore, hrest⟩ | ⟨more, hmore, -⟩ := List.append_eq_append_iff.mp h
  · cases more with
    | nil => rwa [hmore, List.append_nil] at hy
    | cons z more =>
      obtain ⟨rfl, -⟩ := List.cons.inj hrest
      exact absurd (by simp [hmore]) hfirst
  · rw [hmore]
    exact List.mem_append_left _ hy

namespace ListsTracks

variable {ts : List TrackItem} {lines : List String} {words name : String}

private theorem mem_declaration_iff (h : ListsTracks ts lines) :
    "track " ++ words ∈ lines ↔ ∃ t ∈ ts, t.isDeclared ∧ t.declared = words := by
  have hfilter : "track " ++ words ∈ lines ↔ "track " ++ words ∈ lines.filter aboutTrack := by
    rw [List.mem_filter, and_iff_left (aboutTrack_declaration words)]
  rw [hfilter, h, List.mem_append, List.mem_map, List.mem_map, or_iff_left]
  · simp [and_assoc]
  · rintro ⟨t, -, ht⟩
    exact declaration_ne_reference words t.id ht.symm

private theorem mem_reference_iff (h : ListsTracks ts lines) :
    " track " ++ name ∈ lines ↔ ∃ t ∈ ts, t.id ≠ "" ∧ t.id = name := by
  have hfilter : " track " ++ name ∈ lines ↔ " track " ++ name ∈ lines.filter aboutTrack := by
    rw [List.mem_filter, and_iff_left (aboutTrack_reference name)]
  rw [hfilter, h, List.mem_append, List.mem_map, List.mem_map, or_iff_right]
  · simp [and_assoc]
  · rintro ⟨t, -, ht⟩
    exact declaration_ne_reference t.declared name ht

private theorem filterMap_reference (h : ListsTracks ts lines) :
    lines.filterMap (after? " track ") = (ts.filter (·.id ≠ "")).map (·.id) := by
  have hfilter : (lines.filter aboutTrack).filterMap (after? " track ") =
      lines.filterMap (after? " track ") := by
    rw [List.filterMap_filter]
    refine List.filterMap_congr fun line _ => ?_
    cases hline : after? " track " line with
    | none => exact ite_self none
    | some name =>
      obtain rfl := Text.after?_eq_some_iff.mp hline
      rw [if_pos (aboutTrack_reference name)]
  have hdeclarations (words : String) : after? " track " ("track " ++ words) = none :=
    Text.after?_of_diverge (Text.diverge_append (by decide) words)
  rw [← hfilter, h, List.filterMap_append, List.filterMap_map, List.filterMap_map]
  simp [hdeclarations, Text.after?_append]

private theorem tracksAreReferenced (h : ListsTracks ts lines) : TracksAreReferenced lines := by
  intro words hwords
  obtain ⟨t, ht, hdeclared, rfl⟩ := h.mem_declaration_iff.mp hwords
  have hid := TrackItem.id_ne_empty_of_isDeclared hdeclared
  exact ⟨t.id, t.value, rfl, h.mem_reference_iff.mpr ⟨t, ht, hid, rfl⟩⟩

/-- The declarations come before all references, so that it only matters which there are. -/
theorem tracksAreDeclared_iff (h : ListsTracks ts lines) :
    TracksAreDeclared lines ↔ ∀ t ∈ ts, t.id ≠ "" → ∃ u ∈ ts, u.Declares t.id := by
  constructor
  · intro hlines t ht hid
    have hreference := h.mem_reference_iff.mpr ⟨t, ht, hid, rfl⟩
    obtain ⟨before, after, hsplit⟩ := List.append_of_mem hreference
    obtain ⟨port, hport⟩ := hlines before t.id after hsplit
    have hmem : "track " ++ (t.id ++ " interface " ++ port) ∈ lines := by
      rw [hsplit, ← String.append_assoc, ← String.append_assoc]
      exact List.mem_append_left _ hport
    obtain ⟨u, hu, hdeclared, heq⟩ := h.mem_declaration_iff.mp hmem
    exact ⟨u, hu, hdeclared, port, heq⟩
  · intro hitems before name after hsplit
    have hmem : " track " ++ name ∈ lines := by
      rw [hsplit]
      exact List.mem_append_right _ List.mem_cons_self
    obtain ⟨t, ht, hid, rfl⟩ := h.mem_reference_iff.mp hmem
    obtain ⟨u, hu, hdeclared, port, hport⟩ := hitems t ht hid
    refine ⟨port, ?_⟩
    have hline : "track " ++ t.id ++ " interface " ++ port = "track " ++ u.declared := by
      rw [hport]
      simp only [String.append_assoc]
    have hnot : " track " ++ t.id ∉
        (ts.filter (·.isDeclared)).map fun t => "track " ++ t.declared := by
      intro hdeclaration
      obtain ⟨other, -, hother⟩ := List.mem_map.mp hdeclaration
      exact declaration_ne_reference other.declared t.id hother
    rw [hline]
    -- No declaration reads like a reference, so that the text is split behind all of them.
    refine mem_before_of_filter_eq_append h hsplit (aboutTrack_reference t.id) hnot ?_
    exact List.mem_map.mpr ⟨u, List.mem_filter.mpr ⟨hu, hdeclared⟩, rfl⟩

end ListsTracks

namespace HotStandby

variable {h : HotStandby} {b : RemoteBackup}

/-- The items that a remote-backup group watches, if there is a group. -/
def tracks (h : HotStandby) : List TrackItem :=
  match h.enabled, h.variant with
  | true, .h3c backup => backup.monitoring.tracks
  | _, _ => []

private theorem tracks_eq (henabled : h.enabled) (hvariant : h.variant = .h3c b) :
    h.tracks = b.monitoring.tracks := by
  unfold tracks
  rw [henabled, hvariant]

private theorem tracks_eq_nil (hnot : ¬∃ b, h.enabled ∧ h.variant = .h3c b) : h.tracks = [] := by
  unfold tracks
  split
  next b henabled hvariant => exact absurd ⟨b, henabled, hvariant⟩ hnot
  next => rfl

private theorem cli_render_h3c (henabled : h.enabled) (hvariant : h.variant = .h3c b) :
    (h.render .h3c).cli = Text.unlines (Draft.ofEntries b.entries).body := by
  unfold render
  rw [henabled, hvariant]
  exact Draft.cli_build _ _

/-- Without a group there are no commands, or there is one comment. -/
theorem cli_of_no_group (hnot : ¬∃ b, h.enabled ∧ h.variant = .h3c b) :
    (h.render .h3c).cli = Text.unlines [] ∨
      (h.render .h3c).cli = Text.unlines ["# HA for H3C is not supported."] := by
  unfold render
  split
  next => exact .inl rfl
  next henabled =>
    split
    next b _ hvariant => exact absurd ⟨b, by simpa using henabled, hvariant⟩ hnot
    next hvendor _ => cases hvendor
    next => exact .inr rfl

private theorem exists_lines_render_h3c (h : HotStandby) :
    ∃ lines, (h.render .h3c).cli = Text.unlines lines ∧
      (IsPlain h → ∀ line ∈ lines, IsOneLine line) ∧ ListsTracks h.tracks lines ∧
      (View.contents "remote-backup group" " track " lines).flatMap (·.2) =
        (h.tracks.filter (·.id ≠ "")).map (·.id) := by
  by_cases hgroup : ∃ b, h.enabled ∧ h.variant = .h3c b
  · obtain ⟨b, henabled, hvariant⟩ := hgroup
    have hcli := cli_render_h3c henabled hvariant
    rw [tracks_eq henabled hvariant]
    refine ⟨(Draft.ofEntries b.entries).body, hcli, fun hplain => ?_, b.listsTracks_body, ?_⟩
    · rw [isPlain_record] at hplain
      simp [fields] at hplain
      have hbackup := (Field.isPlain_variant hplain).1 b hvariant
      exact (RemoteBackup.settled_entries hbackup).isOneLine_of_mem_body
    · rw [RemoteBackup.contents_body]
      exact List.append_nil _
  · rw [tracks_eq_nil hgroup]
    obtain hcli | hcli := cli_of_no_group hgroup
    · exact ⟨[], hcli, fun _ => List.forall_mem_nil _, rfl, rfl⟩
    · have hline : IsOneLine "# HA for H3C is not supported." := by decide
      exact ⟨_, hcli, fun _ => List.forall_mem_singleton.mpr hline, rfl, rfl⟩

/-- A remote-backup group refers to every watched item with an id, nothing outside the group refers
    to a track, and no track is declared without a reference to it. Every reference comes after its
    declaration exactly when each of these ids is that of an item which follows an interface with a
    name, or can be read as that. -/
theorem tracks_are_declared_iff (h : HotStandby) :
    ∃ lines, (h.render .h3c).cli = Text.unlines lines ∧
      (IsPlain h → ∀ line ∈ lines, IsOneLine line) ∧
      (View.contents "remote-backup group" " track " lines).flatMap (·.2) =
        (h.tracks.filter (·.id ≠ "")).map (·.id) ∧
      lines.filterMap (after? " track ") = (h.tracks.filter (·.id ≠ "")).map (·.id) ∧
      TracksAreReferenced lines ∧
      (TracksAreDeclared lines ↔
        ∀ t ∈ h.tracks, t.id ≠ "" → ∃ u ∈ h.tracks, u.Declares t.id) ∧
      ((∀ t ∈ h.tracks, ' ' ∉ t.id.toList) → (TracksAreDeclared lines ↔
        ∀ t ∈ h.tracks, t.id ≠ "" → ∃ u ∈ h.tracks, u.isDeclared ∧ u.id = t.id)) := by
  obtain ⟨lines, hcli, hline, hlists, hcontents⟩ := h.exists_lines_render_h3c
  refine ⟨lines, hcli, hline, hcontents, hlists.filterMap_reference, hlists.tracksAreReferenced,
    hlists.tracksAreDeclared_iff, fun hblank => ?_⟩
  rw [hlists.tracksAreDeclared_iff]
  refine forall₂_congr fun t ht => imp_congr_right fun _ => ?_
  refine exists_congr fun u => and_congr_right fun hu => ?_
  exact TrackItem.declares_iff (hblank u hu) (hblank t ht)

/-- An item that follows no interface is referred to and never declared. -/
theorem group_refers_to_undeclared_track :
    let backup : RemoteBackup :=
      { monitoring := { kind := "track", trackItems := [{ id := "1" }] } }
    let h : HotStandby := { enabled := true, variant := .h3c backup }
    let before := ["remote-backup group", " device-role primary", " undo backup-mode",
      " undo hot-backup enable", " undo configuration auto-sync enable",
      " undo configuration sync-check"]
    (h.render .h3c).cli = Text.unlines (before ++ [" track 1", "quit"]) ∧
      (∀ line ∈ before, IsOneLine line) ∧
      ¬TracksAreDeclared (before ++ [" track 1", "quit"]) := by
  refine ⟨by decide +kernel, by decide, fun hdeclared => ?_⟩
  obtain ⟨port, hport⟩ := hdeclared _ "1" ["quit"] rfl
  simp [← String.toList_inj] at hport

end HotStandby
end Netscribe
