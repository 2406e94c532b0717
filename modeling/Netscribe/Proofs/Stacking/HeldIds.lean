import Netscribe.Proofs.Stacking.MemberCommands
/-!
The ids that members hold while a runbook is carried out. A member is known by its old id until its
command for renumbering, and by the new one from then on.
-/
namespace Netscribe

namespace StackMember

variable {m : StackMember}

private theorem effectiveId_of_renumbers (h : m.renumbers) : m.effectiveId = m.newMemberId := by
  simp only [renumbers, Bool.and_eq_true, decide_eq_true_eq] at h
  rw [effectiveId, if_neg h.1.2]

private theorem effectiveId_of_not_renumbers (hid : m.memberId ≠ "") (h : m.renumbers = false) :
    m.effectiveId = m.memberId := by
  rw [effectiveId]
  split
  · rfl
  next hnew =>
    have hsame : m.memberId = m.newMemberId := by simpa [renumbers, hid, hnew] using h
    exact hsame.symm

private theorem effectiveId_eq_memberId_iff (hid : m.memberId ≠ "") :
    m.effectiveId = m.memberId ↔ m.renumbers = false := by
  refine ⟨fun heq => ?_, effectiveId_of_not_renumbers hid⟩
  rw [Bool.eq_false_iff]
  intro h
  rw [effectiveId_of_renumbers h] at heq
  simp [renumbers, heq] at h

end StackMember

namespace Stacking

/-- The ids of all members after a command to the one at a position. -/
def MemberCommand.heldAfter (position : Nat) (held : List String) : MemberCommand → List String
  | renumber _ new => held.set position new
  | port .. | priority .. => held

/-- The ids of all members after commands. -/
def heldAfter (held : List String) (commands : List (Nat × MemberCommand)) : List String :=
  commands.foldl (fun held act => act.2.heldAfter act.1 held) held

/-- Whether each command names its member by the id that it holds at that step. -/
def AddressesHeld : List String → List (Nat × MemberCommand) → Prop
  | _, [] => True
  | held, (position, command) :: rest =>
    held[position]? = some command.id ∧ AddressesHeld (command.heldAfter position held) rest

instance decidableAddressesHeld : (held : List String) → (commands : List (Nat × MemberCommand)) →
    Decidable (AddressesHeld held commands)
  | _, [] => .isTrue trivial
  | held, (position, command) :: rest =>
    @instDecidableAnd _ _ _ (decidableAddressesHeld (command.heldAfter position held) rest)

/-- The commands to the member at a position. -/
def commandsTo (position : Nat) (commands : List (Nat × MemberCommand)) : List MemberCommand :=
  commands.filterMap fun (other, command) => if other = position then some command else none

def ofKind (kind : MemberCommand.Kind) (commands : List MemberCommand) : List MemberCommand :=
  commands.filter (·.kind = kind)

section Steps

variable {held : List String} {before after acts : List (Nat × MemberCommand)}

private theorem addressesHeld_append :
    AddressesHeld held (before ++ after) ↔
      AddressesHeld held before ∧ AddressesHeld (heldAfter held before) after := by
  induction before generalizing held with
  | nil => exact (and_iff_right trivial).symm
  | cons act rest ih =>
    rw [List.cons_append, AddressesHeld, ih, ← and_assoc]
    rfl

private theorem heldAfter_append :
    heldAfter held (before ++ after) = heldAfter (heldAfter held before) after :=
  List.foldl_append

private theorem MemberCommand.heldAfter_of_not_renumber {command : MemberCommand}
    (h : command.kind ≠ .renumber) (position : Nat) :
    command.heldAfter position held = held := by
  cases command with
  | port | priority => rfl
  | renumber => exact absurd rfl h

/-- Without renumbering all members keep their ids. -/
theorem heldAfter_of_forall (h : ∀ act ∈ acts, act.2.kind ≠ .renumber) :
    heldAfter held acts = held := by
  induction acts with
  | nil => rfl
  | cons act rest ih =>
    obtain ⟨hact, hrest⟩ := List.forall_mem_cons.mp h
    rw [heldAfter, List.foldl_cons, MemberCommand.heldAfter_of_not_renumber hact]
    exact ih hrest

private theorem addressesHeld_iff_of_forall (h : ∀ act ∈ acts, act.2.kind ≠ .renumber) :
    AddressesHeld held acts ↔ ∀ act ∈ acts, held[act.1]? = some act.2.id := by
  induction acts with
  | nil => simp [AddressesHeld]
  | cons act rest ih =>
    obtain ⟨hact, hrest⟩ := List.forall_mem_cons.mp h
    rw [AddressesHeld, MemberCommand.heldAfter_of_not_renumber hact, ih hrest,
      List.forall_mem_cons]

end Steps

section Attributed

variable {commands : StackMember → List MemberCommand} {members : List StackMember}

private theorem mem_attributed {first : Nat} {act : Nat × MemberCommand} :
    act ∈ attributed commands first members ↔
      ∃ k m, members[k]? = some m ∧ act.1 = first + k ∧ act.2 ∈ commands m := by
  induction members generalizing first with
  | nil => simp [attributed]
  | cons m rest ih =>
    rw [attributed, List.mem_append, ih, List.mem_map]
    constructor
    · rintro (⟨command, hcommand, rfl⟩ | ⟨k, other, hother, hposition, hcommand⟩)
      · exact ⟨0, m, rfl, rfl, hcommand⟩
      · exact ⟨k + 1, other, hother, by omega, hcommand⟩
    · rintro ⟨k, other, hother, hposition, hcommand⟩
      cases k with
      | zero =>
        obtain rfl := Option.some.inj hother
        exact .inl ⟨act.2, hcommand, Prod.ext hposition.symm rfl⟩
      | succ k => exact .inr ⟨k, other, hother, by omega, hcommand⟩

private theorem exists_mem_of_mem_attributed {first : Nat} {act : Nat × MemberCommand}
    (h : act ∈ attributed commands first members) : ∃ m ∈ members, act.2 ∈ commands m := by
  obtain ⟨k, m, hm, -, hcommand⟩ := mem_attributed.mp h
  exact ⟨m, List.mem_of_getElem? hm, hcommand⟩

private theorem lt_of_mem_attributed {act : Nat × MemberCommand}
    (h : act ∈ attributed commands 0 members) : act.1 < members.length := by
  obtain ⟨k, m, hm, hposition, -⟩ := mem_attributed.mp h
  obtain ⟨hlt, -⟩ := List.getElem?_eq_some_iff.mp hm
  omega

private theorem commandsTo_append (position : Nat) (before after : List (Nat × MemberCommand)) :
    commandsTo position (before ++ after) =
      commandsTo position before ++ commandsTo position after :=
  List.filterMap_append

private theorem commandsTo_attributed_of_lt {first position : Nat} (h : position < first) :
    commandsTo position (attributed commands first members) = [] := by
  rw [commandsTo, List.filterMap_eq_nil_iff]
  intro act hact
  obtain ⟨k, m, -, hposition, -⟩ := mem_attributed.mp hact
  exact if_neg (by omega)

private theorem commandsTo_attributed (commands : StackMember → List MemberCommand) (first : Nat)
    {k : Nat}
    {m : StackMember} (hm : members[k]? = some m) :
    commandsTo (first + k) (attributed commands first members) = commands m := by
  induction members generalizing first k with
  | nil => cases hm
  | cons other rest ih =>
    rw [attributed, commandsTo_append]
    cases k with
    | zero =>
      obtain rfl := Option.some.inj hm
      rw [Nat.add_zero, commandsTo_attributed_of_lt (Nat.lt_succ_self first), List.append_nil,
        commandsTo, List.filterMap_map]
      simp
    | succ k =>
      have hnone : commandsTo (first + (k + 1)) ((commands other).map (first, ·)) = [] := by
        rw [commandsTo, List.filterMap_map, List.filterMap_eq_nil_iff]
        exact fun command _ => if_neg (by omega)
      rw [hnone, List.nil_append, ← ih (first + 1) hm]
      congr 1
      omega

/-- Commands other than for renumbering, read off the members themselves. -/
theorem addressesHeld_attributed_iff {id : StackMember → String}
    (h : ∀ m ∈ members, ∀ command ∈ commands m, command.kind ≠ .renumber) :
    AddressesHeld (members.map id) (attributed commands 0 members) ↔
      ∀ m ∈ members, ∀ command ∈ commands m, id m = command.id := by
  have hquiet : ∀ act ∈ attributed commands 0 members, act.2.kind ≠ .renumber := by
    intro act hact
    obtain ⟨m, hm, hcommand⟩ := exists_mem_of_mem_attributed hact
    exact h m hm act.2 hcommand
  rw [addressesHeld_iff_of_forall hquiet]
  constructor
  · intro hall m hm command hcommand
    obtain ⟨k, hk⟩ := List.getElem?_of_mem hm
    have hact := hall (k, command) (mem_attributed.mpr ⟨k, m, hk, by omega, hcommand⟩)
    rw [List.getElem?_map, hk] at hact
    exact Option.some.inj hact
  · intro hall act hact
    obtain ⟨k, m, hm, hposition, hcommand⟩ := mem_attributed.mp hact
    rw [hposition, Nat.zero_add, List.getElem?_map, hm,
      ← hall m (List.mem_of_getElem? hm) _ hcommand]
    rfl

/-- The phase of renumbering, begun by some members with others to come: each command names its
    member by the old id, and all members end up with their new ones. -/
theorem addressesHeld_renumberings (done : List String)
    (hids : ∀ m ∈ members, m.memberId ≠ "") :
    AddressesHeld (done ++ members.map (·.memberId)) (attributed renumberings done.length members) ∧
      heldAfter (done ++ members.map (·.memberId)) (attributed renumberings done.length members) =
        done ++ members.map (·.effectiveId) := by
  induction members generalizing done with
  | nil => exact ⟨trivial, rfl⟩
  | cons m rest ih =>
    obtain ⟨hid, hrest⟩ := List.forall_mem_cons.mp hids
    have hnext := ih (done ++ [m.effectiveId]) hrest
    rw [List.append_assoc, List.append_assoc, List.length_append, List.singleton_append,
      List.singleton_append, List.length_singleton] at hnext
    rw [attributed, renumberings]
    cases hrenumbers : m.renumbers with
    | true =>
      rw [m.effectiveId_of_renumbers hrenumbers] at hnext
      simpa [AddressesHeld, heldAfter, MemberCommand.heldAfter, MemberCommand.id,
        StackMember.effectiveId_of_renumbers hrenumbers] using hnext
    | false =>
      rw [StackMember.effectiveId_of_not_renumbers hid hrenumbers] at hnext
      simpa [StackMember.effectiveId_of_not_renumbers hid hrenumbers] using hnext

end Attributed

section Runbook

variable {s : Stacking} {vendor : Vendor} {m : StackMember} {k : Nat} {slot : String}
  {command : MemberCommand}

private theorem of_mem_portCommands (h : command ∈ portCommands slot m) :
    command.kind = .port ∧ command.id = slot := by
  obtain ⟨⟨i, name⟩, -, rfl⟩ := List.mem_map.mp h
  exact ⟨rfl, rfl⟩

private theorem exists_mem_portCommands (slot : String) (h : m.stackInterfaces ≠ []) :
    ∃ command, command ∈ portCommands slot m := by
  obtain ⟨name, rest, hnames⟩ := List.exists_cons_of_ne_nil h
  refine ⟨.port slot 1 name, ?_⟩
  simp [portCommands, numbered, hnames]

private theorem of_mem_earlyPriority (h : command ∈ s.earlyPriority m) :
    command.kind = .priority ∧ command.id = m.memberId ∧ s.isRenumbering = false := by
  rw [earlyPriority] at h
  split at h
  next hearly =>
    obtain rfl := List.mem_singleton.mp h
    exact ⟨rfl, rfl, by simpa using hearly.2⟩
  next => cases h

private theorem of_mem_renumberings (h : command ∈ renumberings m) :
    command.kind = .renumber ∧ m.renumbers := by
  rw [renumberings] at h
  split at h
  next hrenumbers =>
    obtain rfl := List.mem_singleton.mp h
    exact ⟨rfl, hrenumbers⟩
  next => cases h

private theorem of_mem_latePriority (h : command ∈ s.latePriority m) :
    command.kind = .priority ∧ command.id = m.effectiveId := by
  rw [latePriority] at h
  split at h
  next =>
    obtain rfl := List.mem_singleton.mp h
    exact ⟨rfl, rfl⟩
  next => cases h

/-- The commands of the first phase to one member. -/
def ownBase (s : Stacking) (m : StackMember) : Vendor → List MemberCommand
  | .cisco => s.earlyPriority m
  | _ =>
    if s.modelType = "new" then portCommands m.memberId m ++ s.earlyPriority m
    else s.earlyPriority m ++ portCommands m.effectiveId m

private theorem commandsTo_memberCommands (hm : (s.coveredMembers vendor)[k]? = some m) :
    commandsTo k (s.memberCommands vendor) =
      s.ownBase m vendor ++ renumberings m ++ s.latePriority m := by
  have hto (commands : StackMember → List MemberCommand) :
      commandsTo k (attributed commands 0 (s.coveredMembers vendor)) = commands m := by
    have h := commandsTo_attributed commands 0 hm
    rwa [Nat.zero_add] at h
  have hbase : commandsTo k (s.baseCommands vendor) = s.ownBase m vendor := by
    cases vendor with
    | cisco => exact hto s.earlyPriority
    | huawei | h3c | generic =>
      simp only [baseCommands, ownBase]
      split
      · exact hto fun m => portCommands m.memberId m ++ s.earlyPriority m
      · rw [commandsTo_append]
        exact congrArg₂ _ (hto s.earlyPriority) (hto fun m => portCommands m.effectiveId m)
  rw [memberCommands, commandsTo_append, commandsTo_append, hbase, hto, hto]

section Kinds

variable {kind other : MemberCommand.Kind} {commands : List MemberCommand}

@[simp]
theorem ofKind_append (before after : List MemberCommand) :
    ofKind kind (before ++ after) = ofKind kind before ++ ofKind kind after :=
  List.filter_append _ _

private theorem ofKind_eq (h : ∀ command ∈ commands, command.kind = other) :
    ofKind kind commands = if other = kind then commands else [] := by
  split
  next heq =>
    exact List.filter_eq_self.mpr fun command hcommand => by simp [h command hcommand, heq]
  next hne =>
    exact List.filter_eq_nil_iff.mpr fun command hcommand => by simp [h command hcommand, hne]

@[simp]
theorem ofKind_portCommands (slot : String) (m : StackMember) :
    ofKind kind (portCommands slot m) =
      if MemberCommand.Kind.port = kind then portCommands slot m else [] :=
  ofKind_eq fun _ h => (of_mem_portCommands h).1

@[simp]
theorem ofKind_earlyPriority : ofKind kind (s.earlyPriority m) =
    if MemberCommand.Kind.priority = kind then s.earlyPriority m else [] :=
  ofKind_eq fun _ h => (of_mem_earlyPriority h).1

@[simp]
theorem ofKind_renumberings : ofKind kind (renumberings m) =
    if MemberCommand.Kind.renumber = kind then renumberings m else [] :=
  ofKind_eq fun _ h => (of_mem_renumberings h).1

@[simp]
theorem ofKind_latePriority : ofKind kind (s.latePriority m) =
    if MemberCommand.Kind.priority = kind then s.latePriority m else [] :=
  ofKind_eq fun _ h => (of_mem_latePriority h).1

/-- The slot under which the ports of a member are set up. -/
def portSlot (s : Stacking) (m : StackMember) : String :=
  if s.modelType = "new" then m.memberId else m.effectiveId

private theorem ofKind_ownBase : ofKind kind (s.ownBase m vendor) =
    match kind with
    | .port => if vendor = .cisco then [] else portCommands (s.portSlot m) m
    | .priority => s.earlyPriority m
    | .renumber => [] := by
  unfold ownBase portSlot
  cases vendor with
  | cisco => cases kind <;> simp
  | huawei | h3c | generic =>
    by_cases hmodel : s.modelType = "new"
    · cases kind <;> simp [hmodel]
    · cases kind <;> simp [hmodel]

end Kinds

/-- A member gets its priority in one of two phases, under the id that it ends up with. -/
theorem earlyPriority_append_latePriority (hm : m ∈ s.members) (hid : m.memberId ≠ "") :
    s.earlyPriority m ++ s.latePriority m =
      if m.priority ≠ "" then [.priority m.effectiveId m.priority] else [] := by
  rw [earlyPriority, latePriority]
  cases hphase : s.isRenumbering with
  | true => simp
  | false =>
    rw [StackMember.effectiveId_of_not_renumbers hid (renumbers_eq_false hm hphase)]
    simp

/-- What the first phase says to the members, one by one. -/
theorem exists_mem_of_mem_baseCommands {act : Nat × MemberCommand}
    (h : act ∈ s.baseCommands vendor) :
    ∃ m ∈ s.members, act.2 ∈ s.earlyPriority m ∨ ∃ slot, act.2 ∈ portCommands slot m := by
  unfold baseCommands at h
  split at h
  next =>
    obtain ⟨m, hm, hearly⟩ := exists_mem_of_mem_attributed h
    have hcovered : m ∈ s.coveredMembers .cisco := hm
    exact ⟨m, mem_members_of_mem_coveredMembers hcovered, .inl hearly⟩
  next =>
    split at h
    next =>
      obtain ⟨m, hm, hcommand⟩ := exists_mem_of_mem_attributed h
      exact ⟨m, hm, (List.mem_append.mp hcommand).elim (fun hport => .inr ⟨_, hport⟩) .inl⟩
    next =>
      obtain hearly | hport := List.mem_append.mp h
      · obtain ⟨m, hm, hcommand⟩ := exists_mem_of_mem_attributed hearly
        exact ⟨m, hm, .inl hcommand⟩
      · obtain ⟨m, hm, hcommand⟩ := exists_mem_of_mem_attributed hport
        exact ⟨m, hm, .inr ⟨_, hcommand⟩⟩

private theorem kind_of_mem_baseCommands {act : Nat × MemberCommand}
    (h : act ∈ s.baseCommands vendor) :
    act.2.kind ≠ .renumber ∧ (act.2.kind = .priority → s.isRenumbering = false) := by
  obtain ⟨m, hm, hearly | ⟨slot, hport⟩⟩ := exists_mem_of_mem_baseCommands h
  · obtain ⟨hkind, -, hphase⟩ := of_mem_earlyPriority hearly
    exact ⟨by simp [hkind], fun _ => hphase⟩
  · obtain ⟨hkind, -⟩ := of_mem_portCommands hport
    exact ⟨by simp [hkind], by simp [hkind]⟩

/-- Nobody but the covered members is addressed. -/
theorem lt_of_mem_memberCommands {act : Nat × MemberCommand} (h : act ∈ s.memberCommands vendor) :
    act.1 < (s.coveredMembers vendor).length := by
  rw [memberCommands, List.mem_append, List.mem_append] at h
  obtain (hbase | hrenumber) | hlate := h
  · cases vendor with
    | cisco => exact lt_of_mem_attributed hbase
    | huawei | h3c | generic =>
      simp only [baseCommands] at hbase
      split at hbase
      · exact lt_of_mem_attributed hbase
      · exact (List.mem_append.mp hbase).elim lt_of_mem_attributed lt_of_mem_attributed
  · exact lt_of_mem_attributed hrenumber
  · exact lt_of_mem_attributed hlate

/-- No priority is set before somebody is renumbered. -/
theorem pairwise_memberCommands (s : Stacking) (vendor : Vendor) :
    (s.memberCommands vendor).Pairwise fun before after =>
      before.2.kind = .priority → after.2.kind ≠ .renumber := by
  have hrenumber : ∀ act ∈ attributed renumberings 0 (s.coveredMembers vendor),
      act.2.kind = .renumber ∧ s.isRenumbering := by
    intro act hact
    obtain ⟨m, hm, hcommand⟩ := exists_mem_of_mem_attributed hact
    obtain ⟨hkind, hrenumbers⟩ := of_mem_renumberings hcommand
    exact ⟨hkind, List.any_eq_true.mpr ⟨m, mem_members_of_mem_coveredMembers hm, hrenumbers⟩⟩
  have hlate : ∀ act ∈ attributed s.latePriority 0 (s.coveredMembers vendor),
      act.2.kind ≠ .renumber := by
    intro act hact
    obtain ⟨m, -, hcommand⟩ := exists_mem_of_mem_attributed hact
    simp [(of_mem_latePriority hcommand).1]
  rw [memberCommands, List.pairwise_append, List.pairwise_append]
  refine ⟨⟨?_, ?_, ?_⟩, ?_, ?_⟩
  · exact List.pairwise_of_forall_mem_list fun _ _ after hafter _ =>
      (kind_of_mem_baseCommands hafter).1
  · refine List.pairwise_of_forall_mem_list fun before hbefore _ _ hpriority => ?_
    rw [(hrenumber before hbefore).1] at hpriority
    cases hpriority
  · intro before hbefore after hafter hpriority
    have hphase := (kind_of_mem_baseCommands hbefore).2 hpriority
    rw [(hrenumber after hafter).2] at hphase
    cases hphase
  · exact List.pairwise_of_forall_mem_list fun _ _ after hafter _ => hlate after hafter
  · exact fun _ _ after hafter _ => hlate after hafter

private theorem addressesHeld_earlyPriority (s : Stacking) (members : List StackMember) :
    AddressesHeld (members.map (·.memberId)) (attributed s.earlyPriority 0 members) := by
  refine (addressesHeld_attributed_iff fun m _ command hcommand => ?_).mpr ?_
  · simp [(of_mem_earlyPriority hcommand).1]
  · exact fun m _ command hcommand => (of_mem_earlyPriority hcommand).2.1.symm

/-- Ports that are set up under the ids that members end up with are set up under those that they
    hold if none with ports is renumbered. -/
theorem addressesHeld_portCommands_iff {members : List StackMember}
    (hids : ∀ m ∈ members, m.memberId ≠ "") :
    AddressesHeld (members.map (·.memberId))
        (attributed (fun m => portCommands m.effectiveId m) 0 members) ↔
      ∀ m ∈ members, m.renumbers → m.stackInterfaces = [] := by
  have hkind : ∀ m ∈ members, ∀ command ∈ portCommands m.effectiveId m,
      command.kind ≠ .renumber := by
    intro m _ command hcommand
    simp [(of_mem_portCommands hcommand).1]
  rw [addressesHeld_attributed_iff hkind]
  refine forall₂_congr fun m hm => ?_
  have hkeeps := StackMember.effectiveId_eq_memberId_iff (hids m hm)
  constructor
  · intro h hrenumbers
    by_contra hports
    obtain ⟨command, hcommand⟩ := exists_mem_portCommands m.effectiveId hports
    have hid := h command hcommand
    rw [(of_mem_portCommands hcommand).2, eq_comm, hkeeps, hrenumbers] at hid
    cases hid
  · intro h command hcommand
    rw [(of_mem_portCommands hcommand).2, eq_comm, hkeeps, Bool.eq_false_iff]
    intro hrenumbers
    rw [portCommands, h hrenumbers] at hcommand
    cases hcommand

private theorem addressesHeld_baseCommands_iff (hids : ∀ m ∈ s.members, m.memberId ≠ "") :
    AddressesHeld ((s.coveredMembers vendor).map (·.memberId)) (s.baseCommands vendor) ↔
      vendor = .cisco ∨ s.modelType = "new" ∨
        ∀ m ∈ s.members, m.renumbers → m.stackInterfaces = [] := by
  cases vendor with
  | cisco => exact iff_of_true (addressesHeld_earlyPriority s _) (.inl rfl)
  | huawei | h3c | generic =>
    simp only [coveredMembers, baseCommands]
    by_cases hmodel : s.modelType = "new"
    · rw [if_pos hmodel]
      refine iff_of_true ?_ (.inr (.inl hmodel))
      refine (addressesHeld_attributed_iff fun m _ command hcommand => ?_).mpr
        fun m _ command hcommand => ?_
      · obtain hport | hearly := List.mem_append.mp hcommand
        · simp [(of_mem_portCommands hport).1]
        · simp [(of_mem_earlyPriority hearly).1]
      · obtain hport | hearly := List.mem_append.mp hcommand
        · exact (of_mem_portCommands hport).2.symm
        · exact (of_mem_earlyPriority hearly).2.1.symm
    · have hquiet : ∀ act ∈ attributed s.earlyPriority 0 s.members, act.2.kind ≠ .renumber := by
        intro act hact
        obtain ⟨m, -, hcommand⟩ := exists_mem_of_mem_attributed hact
        simp [(of_mem_earlyPriority hcommand).1]
      rw [if_neg hmodel, addressesHeld_append, heldAfter_of_forall hquiet,
        and_iff_right (addressesHeld_earlyPriority s _), addressesHeld_portCommands_iff hids]
      simp [hmodel]

/-- The phases after the first one name members by the ids that they hold. -/
theorem addressesHeld_memberCommands_iff (hids : ∀ m ∈ s.members, m.memberId ≠ "") :
    AddressesHeld ((s.coveredMembers vendor).map (·.memberId)) (s.memberCommands vendor) ↔
      AddressesHeld ((s.coveredMembers vendor).map (·.memberId)) (s.baseCommands vendor) := by
  have hbase : ∀ act ∈ s.baseCommands vendor, act.2.kind ≠ .renumber :=
    fun act hact => (kind_of_mem_baseCommands hact).1
  have hcovered : ∀ m ∈ s.coveredMembers vendor, m.memberId ≠ "" :=
    fun m hm => hids m (mem_members_of_mem_coveredMembers hm)
  obtain ⟨hrenumber, hheld⟩ := addressesHeld_renumberings [] hcovered
  have hlate : AddressesHeld ((s.coveredMembers vendor).map (·.effectiveId))
      (attributed s.latePriority 0 (s.coveredMembers vendor)) := by
    refine (addressesHeld_attributed_iff fun m _ command hcommand => ?_).mpr
      fun m _ command hcommand => (of_mem_latePriority hcommand).2.symm
    simp [(of_mem_latePriority hcommand).1]
  rw [List.nil_append] at hrenumber hheld
  rw [memberCommands, addressesHeld_append, addressesHeld_append, heldAfter_append,
    heldAfter_of_forall hbase]
  rw [List.length_nil] at hrenumber hheld
  rw [hheld, and_assoc, and_iff_left ⟨hrenumber, hlate⟩]

end Runbook

section Whole

variable {s : Stacking} {vendor : Vendor}

/-- The lines of a runbook that name members are those of commands to the members that it covers.
    Each member is renumbered once if at all, gets one priority if it has one, under the id that it
    ends up with, and has its own interfaces bound; no priority comes before a renumbering. Every
    command names its member by the id that it holds at that step, unless the ports of members are
    set up in advance under the ids that they are yet to get. -/
theorem runbook_addresses_held_ids_iff (hvendor : vendor = .huawei ∨ vendor = .cisco)
    (hids : ∀ m ∈ s.members, m.memberId ≠ "") :
    (s.enabled →
      (s.render vendor).cli = Text.unlines (Draft.ofEntries (s.runbook vendor)).body) ∧
    (Draft.ofEntries (s.runbook vendor)).body.filter (addressesMember vendor) =
      (s.memberCommands vendor).flatMap (·.2.lines vendor) ∧
    (∀ act ∈ s.memberCommands vendor, act.1 < (s.coveredMembers vendor).length) ∧
    (∀ k m, (s.coveredMembers vendor)[k]? = some m →
      ofKind .port (commandsTo k (s.memberCommands vendor)) =
        (if vendor = .cisco then [] else portCommands (s.portSlot m) m) ∧
      ofKind .renumber (commandsTo k (s.memberCommands vendor)) =
        (if m.renumbers then [.renumber m.memberId m.newMemberId] else []) ∧
      ofKind .priority (commandsTo k (s.memberCommands vendor)) =
        (if m.priority ≠ "" then [.priority m.effectiveId m.priority] else [])) ∧
    ((s.memberCommands vendor).Pairwise fun before after =>
      before.2.kind = .priority → after.2.kind ≠ .renumber) ∧
    (AddressesHeld ((s.coveredMembers vendor).map (·.memberId)) (s.memberCommands vendor) ↔
      vendor = .cisco ∨ s.modelType = "new" ∨
        ∀ m ∈ s.members, m.renumbers → m.stackInterfaces = []) := by
  refine ⟨fun henabled => ?_, memberLines_runbook s hvendor, fun _ => lt_of_mem_memberCommands,
    fun k m hm => ?_, pairwise_memberCommands s vendor, ?_⟩
  · unfold render
    rw [henabled]
    obtain rfl | rfl := hvendor
    · rfl
    · rfl
  · have hmember := mem_members_of_mem_coveredMembers (List.mem_of_getElem? hm)
    rw [commandsTo_memberCommands hm, ← earlyPriority_append_latePriority hmember
      (hids m hmember), ← renumberings]
    simp [ofKind_ownBase]
  · rw [addressesHeld_memberCommands_iff hids, addressesHeld_baseCommands_iff hids]

/-- Two members with ports, one of which is renumbered, on devices of the newer kind. -/
theorem runbook_addresses_held_ids_of_new :
    let s : Stacking := { modelType := "new", members := [
      { memberId := "1", newMemberId := "3", priority := "20",
        irfPorts := [{ portGroup := ["XGE0/0/1"] }] },
      { memberId := "2", irfPorts := [{ portGroup := ["XGE0/0/2"] }] }] }
    AddressesHeld ((s.coveredMembers .huawei).map (·.memberId)) (s.memberCommands .huawei) :=
  (runbook_addresses_held_ids_iff (.inl rfl) (by decide)).2.2.2.2.2.mpr (.inr (.inl rfl))

/-- On devices of the older kind the port of a member that is renumbered from 1 to 2 is set up
    under the id 2, which nobody holds before the renumbering. -/
theorem runbook_addresses_id_ahead :
    let s : Stacking := { modelType := "old", members := [
      { memberId := "1", newMemberId := "2", irfPorts := [{ portGroup := ["XGE0/0/1"] }] }] }
    (Draft.ofEntries s.huaweiEntries).body.filter (addressesMember .huawei) =
      ["interface stack-port 2/1", " port interface XGE0/0/1 enable",
       "stack slot 1", " renumber 2"] ∧
    ¬ AddressesHeld ["1"] (s.memberCommands .huawei) := by
  decide

end Whole

end Stacking
end Netscribe
