import Mathlib.Data.List.Count
import Netscribe.Proofs.View.Contents
import Netscribe.Proofs.View.Runbooks
/-!
When stack interfaces are shut, bound to stack ports and brought back up, read back from the lines
of a runbook. The interfaces to shut and those to bind are listed in different ways; the former are
each listed once and include the latter.
-/
namespace Netscribe

open Text (after? allBlank)

private theorem nodup_eraseDups {α : Type} [BEq α] [LawfulBEq α] : ∀ xs : List α, xs.eraseDups.Nodup
  | [] => by simp
  | x :: rest => by
    rw [List.eraseDups_cons, List.nodup_cons, List.mem_eraseDups, List.mem_filter]
    exact ⟨by simp, nodup_eraseDups _⟩
termination_by xs => xs.length
decreasing_by exact Nat.lt_succ_of_le (List.length_filter_le _ _)

private theorem StackMember.exists_of_mem_stackInterfaces {m : StackMember} {name : String}
    (h : name ∈ m.stackInterfaces) : name ≠ "" ∧ ∃ port ∈ m.irfPorts, name ∈ port.portGroup := by
  rw [stackInterfaces] at h
  split at h
  next => cases h
  next port rest hports =>
    obtain ⟨hlisted, hne⟩ := List.mem_filter.mp h
    exact ⟨by simpa using hne, port, hports ▸ List.mem_cons_self, hlisted⟩

namespace Stacking

section Names

variable {s : Stacking} {name : String}

/-- The interfaces that the members bind, in order. -/
def boundNames (s : Stacking) : List String :=
  if s.modelType = "new" then s.members.flatMap StackMember.stackInterfaces
  else s.members.flatMap fun m => m.stackInterfaces.map (renamed s.renamings)

/-- The interfaces that are shut, and brought back up in the end. -/
def shutNames (s : Stacking) : List String :=
  if s.modelType = "new" then s.allInterfaces
  else ((s.renamings.map (·.1)).eraseDups.map (renamed s.renamings)).eraseDups

private theorem nodup_shutNames (s : Stacking) : s.shutNames.Nodup := by
  rw [shutNames]
  split
  · exact nodup_eraseDups _
  · exact nodup_eraseDups _

private theorem mem_allInterfaces {m : StackMember} (hm : m ∈ s.members)
    (hname : name ∈ m.stackInterfaces) : name ∈ s.allInterfaces := by
  obtain ⟨hne, port, hport, hlisted⟩ := StackMember.exists_of_mem_stackInterfaces hname
  refine List.mem_eraseDups.mpr (List.mem_filter.mpr ⟨?_, by simpa using hne⟩)
  exact List.mem_flatMap.mpr ⟨m, hm, List.mem_flatMap.mpr ⟨port, hport, hlisted⟩⟩

/-- Whichever name an interface gets, it is shut by this name. -/
theorem mem_shutNames (h : name ∈ s.boundNames) : name ∈ s.shutNames := by
  rw [boundNames] at h
  rw [shutNames]
  split_ifs at h ⊢
  · obtain ⟨m, hm, hname⟩ := List.mem_flatMap.mp h
    exact mem_allInterfaces hm hname
  · obtain ⟨m, hm, hrenamed⟩ := List.mem_flatMap.mp h
    obtain ⟨old, hold, rfl⟩ := List.mem_map.mp hrenamed
    have hpair : (old, renumberInterface old m.memberId m.newMemberId) ∈ s.renamings :=
      List.mem_flatMap.mpr ⟨m, hm, List.mem_map_of_mem hold⟩
    have hlisted : old ∈ (s.renamings.map (·.1)).eraseDups :=
      List.mem_eraseDups.mpr (List.mem_map.mpr ⟨_, hpair, rfl⟩)
    exact List.mem_eraseDups.mpr (List.mem_map_of_mem hlisted)

end Names

/-- What a runbook does to a stack interface. -/
inductive Switching
  | shut (name : String)
  | bind (name : String)
  | bringUp (name : String)
  deriving DecidableEq, Repr

namespace Switching

/-- Shutting comes before binding, and binding before bringing up. -/
def phase : Switching → Nat
  | shut _ => 0
  | bind _ => 1
  | bringUp _ => 2

/-- The lines that do it. -/
def lines : Switching → List String
  | shut name => ["interface " ++ name, " shutdown", "quit"]
  | bind name => [" port group interface " ++ name]
  | bringUp name => ["interface " ++ name, " undo shutdown", "quit"]

/-- What some lines start with doing. -/
def read? : List String → Option Switching
  | [] => none
  | line :: rest =>
    match after? " port group interface " line with
    | some name => some (.bind name)
    | none => (after? "interface " line).bind fun name =>
      if [" shutdown", "quit"] <+: rest then some (.shut name)
      else if [" undo shutdown", "quit"] <+: rest then some (.bringUp name)
      else none

/-- What is done from the first to the last of some lines. -/
def readAll : List String → List Switching
  | [] => []
  | line :: rest => (read? (line :: rest)).toList ++ readAll rest

private theorem after?_bind_of_interface (name : String) :
    after? " port group interface " ("interface " ++ name) = none :=
  Text.after?_of_diverge (Text.diverge_append (by decide) name)

/-- What some lines do to stack interfaces, in order. Blank lines do not count. -/
def ofLines (lines : List String) : List Switching := readAll (lines.filter (!allBlank ·))

/-- Exactly the lines of a step are read as this step. -/
theorem read?_eq_some_iff {step : Switching} {lines : List String} :
    read? lines = some step ↔ step.lines <+: lines := by
  constructor
  · intro h
    cases lines with
    | nil => cases h
    | cons line rest =>
      rw [read?] at h
      split at h
      next name hname =>
        obtain rfl := Option.some.inj h
        rw [Text.after?_eq_some_iff.mp hname]
        exact List.prefix_append [_] rest
      next =>
        obtain ⟨name, hname, hstep⟩ := Option.bind_eq_some_iff.mp h
        rw [Text.after?_eq_some_iff.mp hname]
        split_ifs at hstep with hshut hbringUp
        · obtain rfl := Option.some.inj hstep
          exact List.cons_prefix_cons.mpr ⟨rfl, hshut⟩
        · obtain rfl := Option.some.inj hstep
          exact List.cons_prefix_cons.mpr ⟨rfl, hbringUp⟩
  · rintro ⟨behind, rfl⟩
    cases step with
    | bind name =>
      change read? ((" port group interface " ++ name) :: behind) = _
      rw [read?, Text.after?_append]
    | shut name =>
      have hshut : [" shutdown", "quit"] <+: " shutdown" :: "quit" :: behind := ⟨behind, rfl⟩
      change read? (("interface " ++ name) :: " shutdown" :: "quit" :: behind) = _
      rw [read?, after?_bind_of_interface, Text.after?_append]
      dsimp only
      rw [Option.bind_some, if_pos hshut]
    | bringUp name =>
      have hbringUp : [" undo shutdown", "quit"] <+: " undo shutdown" :: "quit" :: behind :=
        ⟨behind, rfl⟩
      have hshut : ¬ [" shutdown", "quit"] <+: " undo shutdown" :: "quit" :: behind := fun hstart =>
        absurd (List.cons_prefix_cons.mp hstart).1 (by decide)
      change read? (("interface " ++ name) :: " undo shutdown" :: "quit" :: behind) = _
      rw [read?, after?_bind_of_interface, Text.after?_append]
      dsimp only
      rw [Option.bind_some, if_neg hshut, if_pos hbringUp]

/-- A line that starts no step. -/
def IsQuiet (line : String) : Prop :=
  after? " port group interface " line = none ∧ after? "interface " line = none

private theorem isQuiet_of_mem_remark (text : String) :
    ∀ line ∈ (remark text).text?, IsQuiet line := by
  rintro line ⟨⟩
  have hstart := Entry.hasStart_commentLine "#" text
  exact ⟨Text.after?_eq_none (by decide) hstart, Text.after?_eq_none (by decide) hstart⟩

private theorem readAll_cons_of_isQuiet {line : String} (h : IsQuiet line) (rest : List String) :
    readAll (line :: rest) = readAll rest := by
  have hread : read? (line :: rest) = none := by
    rw [read?, h.1, h.2]
    rfl
  rw [readAll, hread]
  rfl

private theorem readAll_append_of_isQuiet {lines : List String} (h : ∀ line ∈ lines, IsQuiet line)
    (rest : List String) : readAll (lines ++ rest) = readAll rest := by
  induction lines with
  | nil => rfl
  | cons line lines ih =>
    obtain ⟨hline, hlines⟩ := List.forall_mem_cons.mp h
    rw [List.cons_append, readAll_cons_of_isQuiet hline, ih hlines]

private theorem readAll_lines_append (step : Switching) (rest : List String) :
    readAll (step.lines ++ rest) = step :: readAll rest := by
  have hread := read?_eq_some_iff.mpr (List.prefix_append step.lines rest)
  obtain ⟨line, more, hlines, hmore⟩ :
      ∃ line more, step.lines = line :: more ∧ ∀ other ∈ more, IsQuiet other := by
    cases step with
    | bind => exact ⟨_, [], rfl, List.forall_mem_nil _⟩
    | shut => exact ⟨_, [" shutdown", "quit"], rfl, by simp +decide [IsQuiet]⟩
    | bringUp => exact ⟨_, [" undo shutdown", "quit"], rfl, by simp +decide [IsQuiet]⟩
  rw [hlines, List.cons_append] at hread ⊢
  rw [readAll, hread, readAll_append_of_isQuiet hmore]
  rfl

private theorem allBlank_of_mem_lines {step : Switching} :
    ∀ line ∈ step.lines, allBlank line = false := by
  have hshown {start : String} (hstart : allBlank start = false) (name : String) :
      allBlank (start ++ name) = false :=
    Text.allBlank_eq_false_of_hasStart hstart (Text.hasStart_append start name)
  cases step with
  | bind name => exact List.forall_mem_singleton.mpr (hshown (by decide) name)
  | shut name =>
    exact List.forall_mem_cons.mpr ⟨hshown (by decide) name, by decide⟩
  | bringUp name =>
    exact List.forall_mem_cons.mpr ⟨hshown (by decide) name, by decide⟩

section Entries

variable {entries : List Entry} {found : List Switching}

private theorem finds_nothing (h : AllWritten IsQuiet entries) : Finds ofLines entries [] := by
  intro rest
  rw [ofLines, List.filter_append]
  exact readAll_append_of_isQuiet (fun line hline => h line (List.mem_of_mem_filter hline)) _

private theorem finds_step {step : Switching} (h : written entries = step.lines) :
    Finds ofLines entries [step] := by
  have hall : step.lines.filter (!allBlank ·) = step.lines :=
    List.filter_eq_self.mpr fun line hline => by rw [allBlank_of_mem_lines line hline]; rfl
  intro rest
  rw [ofLines, List.filter_append, h, hall, readAll_lines_append]
  rfl

/-- Items of a list that write the lines of one step each. -/
theorem finds_steps {α : Type} {f : α → List Entry} {g : α → Switching}
    (h : ∀ x, written (f x) = (g x).lines) (xs : List α) :
    Finds ofLines (xs.flatMap f) (xs.map g) := by
  rw [List.map_eq_flatMap]
  exact .flatMap fun x _ => finds_step (h x)

/-- Entries that are there only where there are names to write about. -/
theorem finds_onlyIf {names : List String} {g : String → Switching}
    (h : Finds ofLines entries (names.map g)) :
    Finds ofLines (onlyIf (names ≠ []) entries) (names.map g) := by
  by_cases hnone : names = []
  · rw [hnone]
    exact fun _ => rfl
  · rw [onlyIf, if_pos hnone]
    exact h

/-- The reading of a whole draft. -/
theorem ofLines_body (h : Finds ofLines entries found) :
    ofLines (Draft.ofEntries entries).body = found := by
  have hall := h []
  rw [List.append_nil, ofLines] at hall
  rw [ofLines, Draft.filter_body, Draft.filter_lines_ofEntries, hall]
  exact List.append_nil found

end Entries

section Flows

variable (s : Stacking) (m : StackMember)

private theorem finds_shut (names : List String) :
    Finds ofLines (Stacking.shut names) (names.map .shut) :=
  finds_steps (fun _ => rfl) names

private theorem finds_bringUp (names : List String) :
    Finds ofLines (Stacking.bringUp names) (names.map .bringUp) :=
  finds_steps (fun _ => rfl) names

/-- The view of a stack port binds the interfaces that are listed in it. -/
theorem finds_stackPort {header : String} (hheader : IsQuiet header) (bound why : String → String)
    (names : List String) :
    Finds ofLines (onlyIf (names ≠ []) (command header
        :: names.map (fun name => command s!" port group interface {bound name}" (why name))
        ++ [command "quit"]))
      (names.map fun name => .bind (bound name)) := by
  have hopening : AllWritten IsQuiet [command header] := by
    simpa [text?_command] using hheader
  have hclosing : AllWritten IsQuiet [command "quit"] := by simp +decide [IsQuiet]
  have hbindings : Finds ofLines
      (names.map fun name => command s!" port group interface {bound name}" (why name))
      (names.map fun name => .bind (bound name)) := by
    rw [List.map_eq_flatMap]
    exact finds_steps (fun name => rfl) names
  have hview := ((finds_nothing hopening).append hbindings).append_nothing (finds_nothing hclosing)
  exact finds_onlyIf hview

private theorem finds_h3cNewMember :
    Finds ofLines (h3cNewMember m) (m.stackInterfaces.map fun name => .bind name) := by
  have hheader : IsQuiet s!"irf-port {m.firstPortId}" := by
    simp +decide [↓Text.after?_of_diverge, IsQuiet]
  have hremark := isQuiet_of_mem_remark s!"Intended member ID {m.memberId}"
  rw [h3cNewMember]
  refine (finds_nothing ?_).append (finds_stackPort hheader (fun name => name) _ m.stackInterfaces)
  simpa +decide [↓Text.after?_of_diverge, IsQuiet] using hremark

private theorem finds_h3cBinding (renamings : List (String × String)) :
    Finds ofLines (h3cBinding renamings m)
      (m.stackInterfaces.map fun name => .bind (renamed renamings name)) := by
  have hheader : IsQuiet s!"irf-port {m.effectiveId}/{m.firstPortId}" := by
    simp +decide [↓Text.after?_of_diverge, IsQuiet]
  exact finds_stackPort hheader (renamed renamings) (fun _ => "") m.stackInterfaces

private theorem finds_h3cNewEntries (h : s.modelType = "new") :
    Finds ofLines s.h3cNewEntries
      (s.shutNames.map .shut ++ s.boundNames.map .bind ++ s.shutNames.map .bringUp) := by
  have hremark (text : String) : AllWritten IsQuiet [remark text] := by
    simpa using isQuiet_of_mem_remark text
  have hshut : Finds ofLines
      (remark "Phase 1: pre-configure IRF in independent mode on each switch."
        :: onlyIf (s.allInterfaces ≠ []) (remark "Shut IRF physical ports before binding them."
          :: Stacking.shut s.allInterfaces)) (s.allInterfaces.map .shut) :=
    (finds_nothing (hremark _)).append
      (finds_onlyIf ((finds_nothing (hremark _)).append (finds_shut s.allInterfaces)))
  have hmembers : Finds ofLines (s.members.flatMap h3cNewMember) (s.boundNames.map .bind) := by
    rw [boundNames, if_pos h, List.map_flatMap]
    exact .flatMap fun m _ => finds_h3cNewMember m
  have hbringUp : Finds ofLines (onlyIf (s.allInterfaces ≠ [])
      (.blank :: remark "Bring IRF physical ports back up."
        :: Stacking.bringUp s.allInterfaces)) (s.allInterfaces.map .bringUp) :=
    finds_onlyIf ((finds_nothing (hremark _)).append (finds_bringUp s.allInterfaces))
  rw [shutNames, if_pos h, h3cNewEntries]
  refine (((hshut.append hmembers).append hbringUp).append_nothing ?_).append_nothing ?_
  · refine finds_nothing ?_
    simp +decide [IsQuiet]
  · refine finds_nothing ?_
    simp +decide [↓Text.after?_of_diverge, IsQuiet, domainEntry]

private theorem finds_h3cOldEntries (h : s.modelType ≠ "new") :
    Finds ofLines s.h3cOldEntries
      (s.shutNames.map .shut ++ s.boundNames.map .bind ++ s.shutNames.map .bringUp) := by
  have hbefore : AllWritten IsQuiet (onlyIf (s.domainId ≠ "") [domainEntry s.domainId]
      ++ s.members.flatMap h3cRenumbering) := by
    refine allWritten_append.mpr ⟨?_, .flatMap fun m _ => ?_⟩
    · simp +decide [↓Text.after?_of_diverge, IsQuiet, domainEntry]
    · simp +decide [↓Text.after?_of_diverge, IsQuiet, h3cRenumbering]
  have hmembers : Finds ofLines (s.members.flatMap (h3cBinding s.renamings))
      (s.boundNames.map .bind) := by
    rw [boundNames, if_neg h, List.map_flatMap]
    refine .flatMap fun m _ => ?_
    rw [List.map_map]
    exact finds_h3cBinding m s.renamings
  rw [shutNames, if_neg h, h3cOldEntries]
  refine ((Finds.append ?_ hmembers).append (finds_bringUp _)).append_nothing (finds_nothing ?_)
  · exact (finds_nothing hbefore).append (finds_shut _)
  · simp +decide [IsQuiet]

private theorem finds_h3cEntries : Finds ofLines s.h3cEntries
    (s.shutNames.map .shut ++ s.boundNames.map .bind ++ s.shutNames.map .bringUp) := by
  rw [h3cEntries]
  split
  next h => exact finds_h3cNewEntries s h
  next h => exact finds_h3cOldEntries s h

end Flows

end Switching

/-- Interfaces are bound only while they are shut, and none is left shut. -/
structure BindsWhileShut (steps : List Switching) : Prop where
  shut_once : ∀ name, .bind name ∈ steps → steps.count (.shut name) = 1
  broughtUp_once : ∀ name, .bind name ∈ steps → steps.count (.bringUp name) = 1
  ordered : steps.Pairwise (·.phase ≤ ·.phase)
  shut_iff_broughtUp : ∀ name, .shut name ∈ steps ↔ .bringUp name ∈ steps

private theorem bindsWhileShut_of_phases {names bound : List String} (hnames : names.Nodup)
    (hbound : bound ⊆ names) :
    BindsWhileShut (names.map .shut ++ bound.map .bind ++ names.map .bringUp) := by
  have honce {f : String → Switching} (hf : f.Injective) {name : String} (hname : name ∈ names) :
      (names.map f).count (f name) = 1 := by
    rw [List.count_map_of_injective names f hf, hnames.count, if_pos hname]
  have hphase (f : String → Switching) (hf : ∀ name other, (f name).phase ≤ (f other).phase)
      (listed : List String) : (listed.map f).Pairwise (·.phase ≤ ·.phase) :=
    List.pairwise_map.mpr (List.pairwise_of_forall hf)
  constructor
  case shut_once =>
    intro name hname
    have hlisted : name ∈ names := hbound (by simpa using hname)
    have hother : Switching.shut name ∉ bound.map .bind ∧
        Switching.shut name ∉ names.map .bringUp := by simp
    rw [List.count_append, List.count_append, honce (fun _ _ => Switching.shut.inj) hlisted,
      List.count_eq_zero.mpr hother.1, List.count_eq_zero.mpr hother.2]
  case broughtUp_once =>
    intro name hname
    have hlisted : name ∈ names := hbound (by simpa using hname)
    have hother : Switching.bringUp name ∉ names.map .shut ∧
        Switching.bringUp name ∉ bound.map .bind := by simp
    rw [List.count_append, List.count_append, honce (fun _ _ => Switching.bringUp.inj) hlisted,
      List.count_eq_zero.mpr hother.1, List.count_eq_zero.mpr hother.2]
  case ordered =>
    refine List.pairwise_append.mpr ⟨List.pairwise_append.mpr ⟨?_, ?_, ?_⟩, ?_, ?_⟩
    · exact hphase .shut (fun _ _ => le_rfl) names
    · exact hphase .bind (fun _ _ => le_rfl) bound
    · simp [Switching.phase]
    · exact hphase .bringUp (fun _ _ => le_rfl) names
    · simp [Switching.phase, or_imp, forall_and]
  case shut_iff_broughtUp => simp

private theorem areLines_h3cEntries {s : Stacking} (h : IsPlain s) : AreLines s.h3cEntries := by
  rw [h3cEntries]
  split
  · exact areLines_h3cNewEntries h
  · exact areLines_h3cOldEntries h

private theorem cli_render_h3c {s : Stacking} (h : s.enabled) :
    (s.render .h3c).cli = Text.unlines (Draft.ofEntries s.h3cEntries).body := by
  rw [render, h]
  rfl

/-- What the lines of the commands do to stack interfaces. -/
theorem ofLines_render_h3c {s : Stacking} (h : IsPlain s) :
    Switching.ofLines (Text.splitOn '\n' (s.render .h3c).cli) =
      if s.enabled then
        s.shutNames.map .shut ++ s.boundNames.map .bind ++ s.shutNames.map .bringUp
      else [] := by
  cases henabled : s.enabled with
  | false =>
    rw [render, henabled]
    rfl
  | true =>
    have hlines : ∀ line ∈ (Draft.ofEntries s.h3cEntries).body, Text.IsOneLine line :=
      Draft.forall_mem_body_ofEntries (areLines_h3cEntries h).isOneLine_of_mem_written
    rw [cli_render_h3c henabled, Switching.ofLines, Text.filter_splitOn_unlines hlines]
    exact Switching.ofLines_body (Switching.finds_h3cEntries s)

/-- In the runbook for either kind of devices the interfaces of the first stack port of each member
    are bound. Each interface that is bound is shut once, before anything is bound, and brought back
    up once, after everything is bound; what is shut is what is brought back up. All this is read
    from the lines of the commands. -/
theorem h3c_binds_while_shut {s : Stacking} (h : IsPlain s) :
    Switching.ofLines (Text.splitOn '\n' (s.render .h3c).cli) =
      (if s.enabled then
        s.shutNames.map .shut ++ s.boundNames.map .bind ++ s.shutNames.map .bringUp
      else []) ∧
    BindsWhileShut (Switching.ofLines (Text.splitOn '\n' (s.render .h3c).cli)) := by
  refine ⟨ofLines_render_h3c h, ?_⟩
  rw [ofLines_render_h3c h]
  split
  · exact bindsWhileShut_of_phases s.nodup_shutNames fun _ => mem_shutNames
  · exact bindsWhileShut_of_phases List.nodup_nil (List.Subset.refl [])

/-- Two interfaces that get the same name are shut as one. -/
theorem h3c_binds_renamed_while_shut :
    let s : Stacking := { enabled := true, modelType := "old", members := [
      { memberId := "1", newMemberId := "2", irfPorts := [{ portGroup := ["GE1/0/1"] }] },
      { memberId := "2", irfPorts := [{ portGroup := ["GE2/0/1"] }] }] }
    IsPlain s ∧
    Switching.ofLines (Text.splitOn '\n' (s.render .h3c).cli) =
      [.shut "GE2/0/1", .bind "GE2/0/1", .bind "GE2/0/1", .bringUp "GE2/0/1"] ∧
    BindsWhileShut (Switching.ofLines (Text.splitOn '\n' (s.render .h3c).cli)) := by
  intro s
  have hplain : IsPlain s := by decide +kernel
  obtain ⟨hsteps, hbinds⟩ := h3c_binds_while_shut hplain
  exact ⟨hplain, hsteps.trans (by decide +kernel), hbinds⟩

/-- An interface name with a line feed in it: what follows the line feed is bound and never shut. -/
theorem h3c_binds_second_line_of_name :
    let s : Stacking := { enabled := true, modelType := "old", members := [
      { memberId := "1", irfPorts := [{ portGroup := ["X\n port group interface Y"] }] }] }
    Switching.ofLines (Text.splitOn '\n' (s.render .h3c).cli) =
      [.bind "Y", .bind "X", .bind "Y", .bind "Y"] ∧
    ¬ BindsWhileShut (Switching.ofLines (Text.splitOn '\n' (s.render .h3c).cli)) := by
  intro s
  have hsteps : Switching.ofLines (Text.splitOn '\n' (s.render .h3c).cli) =
      [.bind "Y", .bind "X", .bind "Y", .bind "Y"] := by
    have hbody : (Draft.ofEntries s.h3cEntries).body ≠ [] := by decide +kernel
    rw [cli_render_h3c rfl, Text.splitOn_unlines_eq_flatMap hbody]
    decide +kernel
  refine ⟨hsteps, fun h => ?_⟩
  rw [hsteps] at h
  exact absurd (h.shut_once "X" (by simp)) (by decide)

end Stacking
end Netscribe
