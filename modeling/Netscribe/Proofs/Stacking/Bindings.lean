import Netscribe.Proofs.View.Contents
import Netscribe.Stacking.Commands
/-!
Which interfaces the stack ports of members bind. The new name of an interface is looked up by its
old name alone, in one table for all members, so that a member gets its own names exactly if nobody
who lists the same interface after it names it otherwise.
-/
namespace Netscribe

open Text (after?)

/-- The name that an interface gets by the renumbering of this very member. -/
def StackMember.ownName (m : StackMember) (name : String) : String :=
  Stacking.renumberInterface name m.memberId m.newMemberId

namespace Stacking

variable {s : Stacking} {m : StackMember} {name : String}

/-- The last member that lists an interface on its first stack port. -/
def lastLister? (s : Stacking) (name : String) : Option StackMember :=
  s.members.reverse.find? (name ∈ ·.stackInterfaces)

/-- The name that the last member to list an interface gives it. -/
def givenName (s : Stacking) (name : String) : String :=
  (s.lastLister? name).elim name (·.ownName name)

/-- The members that open the view of a stack port. -/
def bindingMembers (s : Stacking) : List StackMember :=
  s.members.filter (·.stackInterfaces ≠ [])

private theorem lookup_reverse_ownNames (m : StackMember) (name : String) :
    ((m.stackInterfaces.map fun name => (name, m.ownName name)).reverse).lookup name =
      if name ∈ m.stackInterfaces then some (m.ownName name) else none := by
  rw [← List.map_reverse]
  split
  next hmem => exact List.lookup_graph m.ownName (List.mem_reverse.mpr hmem)
  next hmem =>
    rw [List.lookup_eq_none_iff]
    intro pair hpair
    obtain ⟨other, hother, rfl⟩ := List.mem_map.mp hpair
    have hne : name ≠ other := by
      rintro rfl
      exact hmem (List.mem_reverse.mp hother)
    simpa using hne

private theorem lookup_reverse_renamings (s : Stacking) (name : String) :
    s.renamings.reverse.lookup name = (s.lastLister? name).map (·.ownName name) := by
  rw [renamings, List.reverse_flatMap, lastLister?]
  induction s.members.reverse with
  | nil => rfl
  | cons m rest ih =>
    have hfirst := lookup_reverse_ownNames m name
    rw [List.flatMap_cons, List.lookup_append, ih, Function.comp_apply]
    by_cases hmem : name ∈ m.stackInterfaces
    · rw [if_pos hmem] at hfirst
      rw [List.find?_cons_of_pos (by simpa using hmem)]
      exact congrArg (Option.or · _) hfirst
    · rw [if_neg hmem] at hfirst
      rw [List.find?_cons_of_neg (by simpa using hmem)]
      exact congrArg (Option.or · _) hfirst

private theorem renamed_renamings (s : Stacking) (name : String) :
    renamed s.renamings name = s.givenName name := by
  rw [renamed, lookup_reverse_renamings, givenName]
  cases s.lastLister? name with
  | none => rfl
  | some last => rfl

/-- Whoever lists an interface makes sure that somebody is the last to list it. -/
theorem exists_lastLister (hm : m ∈ s.members) (hname : name ∈ m.stackInterfaces) :
    ∃ last, s.lastLister? name = some last := by
  refine Option.isSome_iff_exists.mp (List.find?_isSome.mpr ?_)
  exact ⟨m, List.mem_reverse.mpr hm, by simpa using hname⟩

private theorem givenName_eq_ownName_iff (hm : m ∈ s.members) (hname : name ∈ m.stackInterfaces) :
    s.givenName name = m.ownName name ↔
      ∀ last, s.lastLister? name = some last → last.ownName name = m.ownName name := by
  obtain ⟨last, hlast⟩ := exists_lastLister hm hname
  rw [givenName, hlast]
  constructor
  · intro h other hother
    obtain rfl := Option.some.inj hother
    exact h
  · intro h
    exact h last rfl

section Read

private theorem allWritten_switchPort {text : String} (htext : after? "irf-port " text = none)
    (names : List String) :
    AllWritten (after? "irf-port " · = none) (names.flatMap (switchPort text)) := by
  refine .flatMap fun name _ => ?_
  simp +decide [↓Text.after?_of_diverge, switchPort, htext]

private theorem allWritten_h3cRenumbering (members : List StackMember) :
    AllWritten (after? "irf-port " · = none) (members.flatMap h3cRenumbering) := by
  refine .flatMap fun m _ => ?_
  simp +decide [↓Text.after?_of_diverge, h3cRenumbering]

/-- What a member with stack ports binds. -/
theorem readAs_h3cBinding (renamings : List (String × String)) (h : m.stackInterfaces ≠ []) :
    View.ReadAs "irf-port " " port group interface " (h3cBinding renamings m)
      [(s!"{m.effectiveId}/{m.firstPortId}", m.stackInterfaces.map (renamed renamings))] := by
  have hheader : s!"irf-port {m.effectiveId}/{m.firstPortId}" =
      "irf-port " ++ s!"{m.effectiveId}/{m.firstPortId}" := by
    simp only [String.append_assoc]
    rfl
  have hinside : AllWritten (Text.isIndented ·) (m.stackInterfaces.map fun name =>
      command s!" port group interface {renamed renamings name}") := by
    refine .map fun name _ line hline => ?_
    obtain rfl := Option.some.inj hline
    simp +decide
  have hopens := (View.opensView_command "irf-port " s!"{m.effectiveId}/{m.firstPortId}" "").append
    hinside
  have hsaid : View.saidBy " port group interface " (h3cBinding renamings m) =
      m.stackInterfaces.map (renamed renamings) := by
    have hnames : View.saidBy " port group interface " (m.stackInterfaces.map fun name =>
        command s!" port group interface {renamed renamings name}") =
          m.stackInterfaces.map (renamed renamings) :=
      View.saidBy_map (fun _ => rfl) fun _ => Text.after?_append " port group interface " _
    rw [h3cBinding, onlyIf, if_pos h]
    simp +decide [↓Text.after?_of_diverge, hnames]
  rw [← hsaid]
  refine .view ?_ (by decide) (by decide) (by decide) (by decide)
  rw [h3cBinding, onlyIf, if_pos h, hheader]
  exact hopens.close

private theorem readAs_h3cOldEntries (s : Stacking) :
    View.ReadAs "irf-port " " port group interface " s.h3cOldEntries
      (s.bindingMembers.map fun m =>
        (s!"{m.effectiveId}/{m.firstPortId}", m.stackInterfaces.map s.givenName)) := by
  have hnames : renamed s.renamings = s.givenName := funext s.renamed_renamings
  have hbindings : View.ReadAs "irf-port " " port group interface "
      (s.members.flatMap (h3cBinding s.renamings)) (s.bindingMembers.map fun m =>
        (s!"{m.effectiveId}/{m.firstPortId}", m.stackInterfaces.map s.givenName)) := by
    rw [← hnames]
    refine .flatMap_filter (fun m _ hm => readAs_h3cBinding _ (by simpa using hm))
      fun m _ hm => ?_
    rw [h3cBinding, onlyIf, if_neg (by simpa using hm)]
    exact fun _ => rfl
  have hbefore (names : List String) : AllWritten (after? "irf-port " · = none)
      (onlyIf (s.domainId ≠ "") [domainEntry s.domainId]
        ++ s.members.flatMap h3cRenumbering ++ shut names) := by
    simp +decide [↓Text.after?_of_diverge, domainEntry, shut, allWritten_h3cRenumbering,
      allWritten_switchPort]
  rw [h3cOldEntries]
  refine ((hbindings.nothing_append (hbefore _)).append_nothing ?_).append_nothing ?_
  · exact allWritten_switchPort (by decide) _
  · simp +decide

end Read

/-- Each member with stack ports gets a view with its interfaces in order, under the names that the
    last members to list them give them. These are its own names exactly if those members would
    not name any of them otherwise. -/
theorem h3cOld_binds_own_names_iff (hmodel : s.modelType ≠ "new") :
    (s.enabled → (s.render .h3c).cli = Text.unlines (Draft.ofEntries s.h3cEntries).body) ∧
    View.contents "irf-port " " port group interface " (Draft.ofEntries s.h3cEntries).body =
      s.bindingMembers.map (fun m =>
        (s!"{m.effectiveId}/{m.firstPortId}", m.stackInterfaces.map s.givenName)) ∧
    ∀ m ∈ s.members, (m.stackInterfaces.map s.givenName = m.stackInterfaces.map m.ownName ↔
      ∀ name ∈ m.stackInterfaces, ∀ last, s.lastLister? name = some last →
        last.ownName name = m.ownName name) := by
  refine ⟨fun henabled => ?_, ?_, fun m hm => ?_⟩
  · rw [render, henabled]
    rfl
  · rw [h3cEntries, if_neg hmodel]
    exact (readAs_h3cOldEntries s).contents_body (by decide)
  · rw [List.map_inj_left]
    exact forall₂_congr fun name hname => givenName_eq_ownName_iff hm hname

/-- Two members that list different interfaces. -/
theorem h3cOld_binds_own_names_of_apart :
    let s : Stacking := { modelType := "old", members := [
      { memberId := "1", newMemberId := "2", irfPorts := [{ portGroup := ["GE1/0/1"] }] },
      { memberId := "1", newMemberId := "3", irfPorts := [{ portGroup := ["GE1/0/2"] }] }] }
    View.contents "irf-port " " port group interface " (Draft.ofEntries s.h3cEntries).body =
      [("2/1", ["GE2/0/1"]), ("3/1", ["GE3/0/2"])] :=
  (h3cOld_binds_own_names_iff (by decide)).2.1.trans (by decide)

/-- Two switches that both come as member 1 and list the same interface: the one that becomes
    member 2 is told to bind the interface by its name on the one that becomes member 3. -/
theorem h3cOld_binds_name_of_later_member :
    let s : Stacking := { modelType := "old", members := [
      { memberId := "1", newMemberId := "2", irfPorts := [{ portGroup := ["GE1/0/1"] }] },
      { memberId := "1", newMemberId := "3", irfPorts := [{ portGroup := ["GE1/0/1"] }] }] }
    View.contents "irf-port " " port group interface " (Draft.ofEntries s.h3cEntries).body =
      [("2/1", ["GE3/0/1"]), ("3/1", ["GE3/0/1"])] ∧
    renumberInterface "GE1/0/1" "1" "2" = "GE2/0/1" := by
  decide

end Stacking
end Netscribe
