import Netscribe.Proofs.View.Contents
import Netscribe.Stacking.Commands
/-!
The commands of a runbook that name a member of the stack. They are kept with the position of their
member, as ids do not tell members apart while these are being renumbered, and the lines of the
runbook that name members are the lines of these commands.
-/
namespace Netscribe

open Text (diverge hasStart)

namespace Stacking

/-- A command that names a member by an id. -/
inductive MemberCommand
  | port (id : String) (number : Nat) (name : String)
  | priority (id value : String)
  | renumber (id new : String)
  deriving DecidableEq, Repr

namespace MemberCommand

/-- The id that a command names a member by. -/
def id : MemberCommand → String
  | port id .. | priority id _ | renumber id _ => id

inductive Kind
  | port | priority | renumber
  deriving DecidableEq, Repr

def kind : MemberCommand → Kind
  | port .. => .port
  | priority .. => .priority
  | renumber .. => .renumber

/-- The lines of a command, up to the one that closes a view. The links of virtual stacks do not
    name a member. -/
def lines : Vendor → MemberCommand → List String
  | .cisco, port .. => []
  | .cisco, priority id value => [s!"switch {id} priority {value}"]
  | .cisco, renumber id new => [s!"switch {id} renumber {new}"]
  | _, port id number name =>
    [s!"interface stack-port {id}/{number}", s!" port interface {name} enable"]
  | _, priority id value => [s!"stack slot {id}", s!" priority {value}"]
  | _, renumber id new => [s!"stack slot {id}", s!" renumber {new}"]

end MemberCommand

/-- What the lines that name a member, and those of their views, start with. -/
def memberOpenings : Vendor → List String
  | .cisco => ["switch "]
  | _ => ["interface stack-port ", " port interface ", "stack slot ", " priority ", " renumber "]

def addressesMember (vendor : Vendor) (line : String) : Bool :=
  (memberOpenings vendor).any (hasStart · line)

/-- The lines of entries that name a member. -/
def memberLines (vendor : Vendor) (entries : List Entry) : List String :=
  (written entries).filter (addressesMember vendor)

section Lines

variable {α : Type} {vendor : Vendor} {e : Entry} {entries before after : List Entry}

@[simp ↓]
theorem addressesMember_append_append (s t u : String) :
    addressesMember vendor (s ++ t ++ u) = addressesMember vendor (s ++ (t ++ u)) := by
  rw [String.append_assoc]

@[simp ↓]
theorem addressesMember_append {s : String} (h : addressesMember vendor s) (t : String) :
    addressesMember vendor (s ++ t) := by
  obtain ⟨opening, hopening, hstart⟩ := List.any_eq_true.mp h
  exact List.any_eq_true.mpr ⟨opening, hopening, Text.hasStart_append_right hstart t⟩

private theorem addressesMember_eq_false {start line : String}
    (h : (memberOpenings vendor).all (diverge · start)) (hstart : hasStart start line) :
    addressesMember vendor line = false := by
  rw [addressesMember, List.any_eq_false]
  intro opening hopening
  rw [Text.hasStart_eq_false (List.all_eq_true.mp h opening hopening) hstart]
  decide

@[simp ↓]
theorem addressesMember_append_eq_false {s : String}
    (h : (memberOpenings vendor).all (diverge · s)) (t : String) :
    addressesMember vendor (s ++ t) = false :=
  addressesMember_eq_false h (Text.hasStart_append s t)

private theorem addressesMember_commentLine {marker : String} (text : String)
    (h : (memberOpenings vendor).all (diverge · marker)) :
    addressesMember vendor (Draft.commentLine marker text) = false :=
  addressesMember_eq_false h (Entry.hasStart_commentLine marker text)

@[simp ↓]
theorem memberLines_nil : memberLines vendor [] = [] := rfl

@[simp ↓]
theorem memberLines_append :
    memberLines vendor (before ++ after) =
      memberLines vendor before ++ memberLines vendor after := by
  rw [memberLines, written_append, List.filter_append]
  rfl

@[simp ↓]
theorem memberLines_command (line why : String) :
    memberLines vendor (command line why :: entries) =
      if addressesMember vendor line then line :: memberLines vendor entries
      else memberLines vendor entries := by
  rw [memberLines, written_cons_of_some (text?_command line why), List.filter_cons]
  rfl

@[simp ↓]
theorem memberLines_blank : memberLines vendor (.blank :: entries) = memberLines vendor entries :=
  rfl

@[simp ↓]
theorem memberLines_comment {marker : String} (text : String)
    (h : (memberOpenings vendor).all (diverge · marker)) :
    memberLines vendor (.comment text marker :: entries) = memberLines vendor entries := by
  have hline := addressesMember_commentLine text h
  rw [memberLines, written_cons_of_some rfl, List.filter_cons_of_neg (by simp [hline])]
  rfl

@[simp ↓]
theorem memberLines_ite {c : Prop} [Decidable c] :
    memberLines vendor (if c then before else after) =
      if c then memberLines vendor before else memberLines vendor after := by
  split
  · rfl
  · rfl

@[simp ↓]
theorem memberLines_onlyIf {c : Prop} [Decidable c] :
    memberLines vendor (onlyIf c entries) = if c then memberLines vendor entries else [] := by
  rw [onlyIf, memberLines_ite, memberLines_nil]

@[simp ↓]
theorem memberLines_flatMap (f : α → List Entry) (xs : List α) :
    memberLines vendor (xs.flatMap f) = xs.flatMap fun x => memberLines vendor (f x) := by
  induction xs with
  | nil => rfl
  | cons x xs ih => rw [List.flatMap_cons, memberLines_append, ih, List.flatMap_cons]

/-- Lines that name a member show in a draft as they are written. -/
theorem filter_body_eq_memberLines (vendor : Vendor) (entries : List Entry) :
    (Draft.ofEntries entries).body.filter (addressesMember vendor) =
      memberLines vendor entries := by
  have hshown : ∀ opening ∈ memberOpenings vendor, Text.allBlank opening = false := by
    cases vendor <;> decide
  refine Draft.filter_body_of_allBlank (fun line hline => ?_) entries
  rw [Bool.eq_false_iff]
  intro haddresses
  obtain ⟨opening, hopening, hstart⟩ := List.any_eq_true.mp haddresses
  rw [Text.allBlank_eq_false_of_hasStart (hshown opening hopening) hstart] at hline
  cases hline

end Lines

/-- Commands for the members of a list, each with the position of its member. -/
def attributed (commands : StackMember → List MemberCommand) :
    Nat → List StackMember → List (Nat × MemberCommand)
  | _, [] => []
  | first, m :: rest => (commands m).map (first, ·) ++ attributed commands (first + 1) rest

def portCommands (slot : String) (m : StackMember) : List MemberCommand :=
  (numbered 1 m.stackInterfaces).map fun (i, name) => .port slot i name

/-- The priority of a member in the first phase, which has it unless some member is renumbered. -/
def earlyPriority (s : Stacking) (m : StackMember) : List MemberCommand :=
  if m.priority ≠ "" ∧ !s.isRenumbering then [.priority m.memberId m.priority] else []

def renumberings (m : StackMember) : List MemberCommand :=
  if m.renumbers then [.renumber m.memberId m.newMemberId] else []

/-- The priority of a member in the last phase. -/
def latePriority (s : Stacking) (m : StackMember) : List MemberCommand :=
  if m.priority ≠ "" ∧ s.isRenumbering then [.priority m.effectiveId m.priority] else []

/-- The members that a runbook is about. -/
def coveredMembers (s : Stacking) : Vendor → List StackMember
  | .cisco => s.ciscoMembers
  | _ => s.members

def baseCommands (s : Stacking) : Vendor → List (Nat × MemberCommand)
  | .cisco => attributed s.earlyPriority 0 s.ciscoMembers
  | _ =>
    if s.modelType = "new" then
      attributed (fun m => portCommands m.memberId m ++ s.earlyPriority m) 0 s.members
    else
      attributed s.earlyPriority 0 s.members
        ++ attributed (fun m => portCommands m.effectiveId m) 0 s.members

/-- The commands of a runbook that name members, phase by phase. -/
def memberCommands (s : Stacking) (vendor : Vendor) : List (Nat × MemberCommand) :=
  s.baseCommands vendor ++ attributed renumberings 0 (s.coveredMembers vendor)
    ++ attributed s.latePriority 0 (s.coveredMembers vendor)

/-- The runbooks that address members by ids of the stack. -/
def runbook (s : Stacking) : Vendor → List Entry
  | .cisco => s.ciscoEntries
  | _ => s.huaweiEntries

section Runbook

variable {s : Stacking} {vendor : Vendor} {commands : StackMember → List MemberCommand}

private theorem flatMap_lines_attributed (first : Nat) (members : List StackMember) :
    (attributed commands first members).flatMap (·.2.lines vendor) =
      members.flatMap fun m => (commands m).flatMap (·.lines vendor) := by
  induction members generalizing first with
  | nil => rfl
  | cons m rest ih =>
    rw [attributed, List.flatMap_append, ih, List.flatMap_map, List.flatMap_cons]

private theorem memberLines_huaweiPorts (slot : String) (m : StackMember) :
    memberLines .huawei (huaweiPorts slot m) =
      (portCommands slot m).flatMap (·.lines .huawei) := by
  rw [huaweiPorts, memberLines_flatMap, portCommands, List.flatMap_map]
  refine List.flatMap_congr fun (i, name) _ => ?_
  simp +decide [MemberCommand.lines]

private theorem memberLines_huaweiPriority (slot : String) (m : StackMember) :
    memberLines .huawei (huaweiPriority slot m) =
      (MemberCommand.priority slot m.priority).lines .huawei := by
  simp +decide [huaweiPriority, MemberCommand.lines]

private theorem flatMap_lines_ite {c : Prop} [Decidable c] (command : MemberCommand) :
    (if c then [command] else []).flatMap (·.lines vendor) =
      if c then command.lines vendor else [] := by
  split
  · exact List.flatMap_singleton _ _
  · rfl

private theorem memberLines_huaweiNewMember (s : Stacking) (m : StackMember) :
    memberLines .huawei (s.huaweiNewMember m) =
      (portCommands m.memberId m ++ s.earlyPriority m).flatMap (·.lines .huawei) := by
  rw [List.flatMap_append, earlyPriority, flatMap_lines_ite]
  simp +decide [huaweiNewMember, huaweiDomain, huaweiSave, remark, memberLines_huaweiPorts,
    memberLines_huaweiPriority]

private theorem memberLines_huaweiBase (s : Stacking) :
    memberLines .huawei s.huaweiBase = (s.baseCommands .huawei).flatMap (·.2.lines .huawei) := by
  simp only [huaweiBase, baseCommands]
  split
  next =>
    rw [flatMap_lines_attributed]
    simp +decide [remark, memberLines_huaweiNewMember]
  next =>
    rw [List.flatMap_append, flatMap_lines_attributed, flatMap_lines_attributed]
    simp only [earlyPriority, flatMap_lines_ite]
    cases hphase : s.isRenumbering with
    | true => simp +decide [remark, huaweiDomain, huaweiSave, memberLines_huaweiPorts]
    | false =>
      simp +decide [remark, huaweiDomain, huaweiSave, memberLines_huaweiPorts,
        memberLines_huaweiPriority, flatMap_filter]

private theorem memberLines_huaweiRenumbering (m : StackMember) :
    memberLines .huawei (huaweiRenumbering m) =
      (MemberCommand.renumber m.memberId m.newMemberId).lines .huawei := by
  simp +decide [huaweiRenumbering, huaweiSave, MemberCommand.lines]

/-- The members that a vendor covers are members of the stack. -/
theorem mem_members_of_mem_coveredMembers {m : StackMember} (h : m ∈ s.coveredMembers vendor) :
    m ∈ s.members := by
  cases vendor with
  | cisco =>
    rw [coveredMembers, ciscoMembers] at h
    split at h
    · exact List.mem_of_mem_take h
    · exact h
  | huawei | h3c | generic => exact h

/-- Nobody is renumbered in a runbook without the phase for it. -/
theorem renumbers_eq_false {m : StackMember} (hm : m ∈ s.members) (h : s.isRenumbering = false) :
    m.renumbers = false := by
  simpa using List.any_eq_false.mp h m hm

private theorem flatMap_renumberings_eq_nil (vendor : Vendor) (h : s.isRenumbering = false) :
    (s.coveredMembers vendor).flatMap (fun m => (renumberings m).flatMap (·.lines vendor)) =
      [] := by
  rw [List.flatMap_eq_nil_iff]
  intro m hm
  rw [renumberings, renumbers_eq_false (mem_members_of_mem_coveredMembers hm) h]
  rfl

private theorem memberLines_huaweiEntries (s : Stacking) :
    memberLines .huawei s.huaweiEntries =
      (s.memberCommands .huawei).flatMap (·.2.lines .huawei) := by
  rw [memberCommands, List.flatMap_append, List.flatMap_append, ← memberLines_huaweiBase,
    flatMap_lines_attributed, flatMap_lines_attributed]
  cases hphase : s.isRenumbering with
  | true =>
    simp only [renumberings, latePriority, flatMap_lines_ite]
    simp +decide [huaweiEntries, remark, huaweiSave, flatMap_filter, memberLines_huaweiRenumbering,
      memberLines_huaweiPriority, coveredMembers, hphase]
  | false =>
    rw [flatMap_renumberings_eq_nil .huawei hphase]
    simp +decide [huaweiEntries, remark, latePriority, hphase]

private theorem memberLines_ciscoLinks (m : StackMember) :
    memberLines .cisco (ciscoLinks m) = [] := by
  rw [ciscoLinks, memberLines_flatMap, List.flatMap_eq_nil_iff]
  rintro ⟨i, name⟩ -
  simp +decide

private theorem memberLines_ciscoSession (entries : List Entry) :
    memberLines .cisco (ciscoSession entries) = memberLines .cisco entries := by
  simp +decide [ciscoSession]

private theorem memberLines_ciscoMember (s : Stacking) (m : StackMember) :
    memberLines .cisco (s.ciscoMember m) = (s.earlyPriority m).flatMap (·.lines .cisco) := by
  rw [earlyPriority, flatMap_lines_ite]
  simp +decide [ciscoMember, ciscoRemark, memberLines_ciscoSession, memberLines_ciscoLinks,
    MemberCommand.lines]

private theorem memberLines_ciscoEntries (s : Stacking) :
    memberLines .cisco s.ciscoEntries = (s.memberCommands .cisco).flatMap (·.2.lines .cisco) := by
  rw [memberCommands, List.flatMap_append, List.flatMap_append, baseCommands,
    flatMap_lines_attributed, flatMap_lines_attributed, flatMap_lines_attributed]
  cases hphase : s.isRenumbering with
  | true =>
    simp only [renumberings, latePriority, flatMap_lines_ite]
    simp +decide [ciscoEntries, ciscoRemark, flatMap_filter, memberLines_ciscoMember,
      memberLines_ciscoSession, coveredMembers, MemberCommand.lines, hphase]
  | false =>
    rw [flatMap_renumberings_eq_nil .cisco hphase]
    simp +decide [ciscoEntries, ciscoRemark, memberLines_ciscoMember, latePriority, hphase]

/-- The lines of a runbook that name members are those of its commands. -/
theorem memberLines_runbook (s : Stacking) (hvendor : vendor = .huawei ∨ vendor = .cisco) :
    (Draft.ofEntries (s.runbook vendor)).body.filter (addressesMember vendor) =
      (s.memberCommands vendor).flatMap (·.2.lines vendor) := by
  rw [filter_body_eq_memberLines]
  obtain rfl | rfl := hvendor
  · exact memberLines_huaweiEntries s
  · exact memberLines_ciscoEntries s

end Runbook

end Stacking
end Netscribe
