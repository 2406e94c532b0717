import Netscribe.Device.Vendor
import Netscribe.Script.Draft
import Netscribe.Script.Grouping
import Netscribe.Stacking.Model
import Netscribe.Text.Digit
/-!
Runbooks for stacking. Stacking takes several phases with restarts between them, so that the output
groups commands by phase. When some member is renumbered, priorities are set after that.
-/
namespace Netscribe

namespace StackMember

/-- The id of a member once it is renumbered. -/
def effectiveId (m : StackMember) : String :=
  if m.newMemberId = "" then m.memberId else m.newMemberId

def renumbers (m : StackMember) : Bool :=
  m.memberId ≠ "" && m.newMemberId ≠ "" && m.memberId != m.newMemberId

/-- The interfaces of the first stack port. -/
def stackInterfaces (m : StackMember) : List String :=
  match m.irfPorts with
  | [] => []
  | port :: _ => port.portGroup.filter (· ≠ "")

def firstPortId (m : StackMember) : String :=
  match m.irfPorts with
  | [] => ""
  | port :: _ => port.id

end StackMember

namespace Stacking

def isInterfaceWord (c : Char) : Bool := c.isAlpha || c == '-'

/-- A slash and digits, and what follows them. -/
def slashNumber? : List Char → Option (List Char × List Char)
  | '/' :: rest =>
    match rest.takeWhile Text.isDecimal with
    | [] => none
    | digits => some ('/' :: digits, rest.dropWhile Text.isDecimal)
  | _ => none

/-- A name such as `GE1/0/3` as its word, its first number and the rest. A line feed at the very
    end is not part of the rest. -/
def splitInterface? (name : List Char) : Option (List Char × List Char × List Char) := do
  let word := name.takeWhile isInterfaceWord
  let numbers := name.dropWhile isInterfaceWord
  let member := numbers.takeWhile Text.isDecimal
  let (slot, rest) ← slashNumber? (numbers.dropWhile Text.isDecimal)
  let (port, rest) ← slashNumber? rest
  if word ≠ [] ∧ member ≠ [] ∧ (rest = [] ∨ rest = ['\n']) then return (word, member, slot ++ port)
  else none

/-- An interface name with the member number of a renumbered member in it. -/
def renumberInterface (name memberId newMemberId : String) : String :=
  if newMemberId = "" ∨ memberId = newMemberId then name
  else match splitInterface? name.toList with
    | some (word, member, rest) =>
      if member = memberId.toList then .ofList (word ++ newMemberId.toList ++ rest) else name
    | none => name

def switchPort (text : String) (name : String) : List Entry :=
  [command s!"interface {name}", command text, command "quit"]

def shut (names : List String) : List Entry := names.flatMap (switchPort " shutdown")

def bringUp (names : List String) : List Entry := names.flatMap (switchPort " undo shutdown")

/-- The interfaces of all stack ports, each once. -/
def allInterfaces (s : Stacking) : List String :=
  ((s.members.flatMap fun m => m.irfPorts.flatMap (·.portGroup)).filter (· ≠ "")).eraseDups

def h3cNewMember (m : StackMember) : List Entry :=
  let names := m.stackInterfaces
  let port := m.firstPortId
  [.blank, remark s!"Intended member ID {m.memberId}",
   command s!"irf member {m.memberId}" "Sets the member ID used after conversion."]
    ++ onlyIf (m.priority ≠ "")
      [command s!"irf priority {m.priority}" "Higher priority wins the master election."]
    ++ onlyIf (names ≠ [])
      (command s!"irf-port {port}"
        :: names.map (fun name =>
          command s!" port group interface {name}" s!"Binds {name} to IRF port {port}.")
        ++ [command "quit"])

def domainEntry (domain : String) : Entry :=
  command s!"irf domain {domain}" "Distinguishes this IRF fabric from neighbours."

/-- Devices that are converted to stack mode as a whole. -/
def h3cNewEntries (s : Stacking) : List Entry :=
  let names := s.allInterfaces
  remark "Phase 1: pre-configure IRF in independent mode on each switch."
    :: onlyIf (names ≠ []) (remark "Shut IRF physical ports before binding them." :: shut names)
    ++ s.members.flatMap h3cNewMember
    ++ onlyIf (names ≠ [])
      (.blank :: remark "Bring IRF physical ports back up." :: bringUp names)
    ++ [.blank, remark "Phase 2: save and convert to IRF mode. The switch reboots.",
       command "save force",
       command "chassis convert mode irf" "Converts the switch to IRF mode; triggers a reboot."]
    ++ onlyIf (s.domainId ≠ "")
      [.blank, remark "Phase 3: on the master after the stack forms.", domainEntry s.domainId]

def h3cRenumbering (m : StackMember) : List Entry :=
  onlyIf (m.memberId ≠ "" ∧ m.newMemberId ≠ "")
      [command s!"irf member {m.memberId} renumber {m.newMemberId}"
        "Renumbering takes effect after reboot."]
    ++ onlyIf (m.effectiveId ≠ "" ∧ m.priority ≠ "")
      [command s!"irf member {m.effectiveId} priority {m.priority}"]

/-- Each stack interface of each member with the name that it gets by renumbering. -/
def renamings (s : Stacking) : List (String × String) :=
  s.members.flatMap fun m => m.stackInterfaces.map fun name =>
    (name, renumberInterface name m.memberId m.newMemberId)

/-- The new name of an interface. Of several members that list it, the last one decides. -/
def renamed (renamings : List (String × String)) (name : String) : String :=
  (renamings.reverse.lookup name).getD name

def h3cBinding (renamings : List (String × String)) (m : StackMember) : List Entry :=
  let names := m.stackInterfaces
  onlyIf (names ≠ [])
    (command s!"irf-port {m.effectiveId}/{m.firstPortId}"
      :: names.map (fun name => command s!" port group interface {renamed renamings name}")
      ++ [command "quit"])

/-- Devices that are in stack mode from the start. -/
def h3cOldEntries (s : Stacking) : List Entry :=
  let renamings := s.renamings
  let names := ((renamings.map (·.1)).eraseDups.map (renamed renamings)).eraseDups
  onlyIf (s.domainId ≠ "") [domainEntry s.domainId]
    ++ s.members.flatMap h3cRenumbering
    ++ shut names ++ s.members.flatMap (h3cBinding renamings) ++ bringUp names
    ++ [.blank, remark "Save the configuration before activating IRF ports.",
       command "save force", .blank,
       remark "Activating IRF ports may reboot member devices.",
       command "irf-port-configuration active" "Activates the IRF port bindings."]

def huaweiPorts (slot : String) (m : StackMember) : List Entry :=
  (numbered 1 m.stackInterfaces).flatMap fun (i, name) =>
    [command s!"interface stack-port {slot}/{i}",
     command s!" port interface {name} enable" s!"Adds {name} to stack port {slot}/{i}.",
     command " quit"]

def huaweiPriority (slot : String) (m : StackMember) : List Entry :=
  [command s!"stack slot {slot}",
   command s!" priority {m.priority}" "Higher priority wins the master election.",
   command " quit"]

/-- Saving asks back and is confirmed. -/
def huaweiSave : List Entry := [command "save", command "y"]

def isRenumbering (s : Stacking) : Bool := s.members.any (·.renumbers)

def huaweiDomain (s : Stacking) : List Entry :=
  onlyIf (s.domainId ≠ "") [command s!"stack domain {s.domainId}"]

/-- Stack ports belong to the slot that the member has before it is renumbered. -/
def huaweiNewMember (s : Stacking) (m : StackMember) : List Entry :=
  [.blank, remark s!"Switch currently in slot {m.memberId}", command "system-view"]
    ++ s.huaweiDomain ++ huaweiPorts m.memberId m
    ++ onlyIf (m.priority ≠ "" ∧ !s.isRenumbering) (huaweiPriority m.memberId m)
    ++ command "quit" :: huaweiSave

def huaweiBase (s : Stacking) : List Entry :=
  if s.modelType = "new" then
    remark "Phase 1: base configuration on each switch." :: s.members.flatMap s.huaweiNewMember
  else
    [remark "Phase 1: base configuration.", command "system-view"]
      ++ s.huaweiDomain
      ++ onlyIf (!s.isRenumbering)
        ((s.members.filter (·.priority ≠ "")).flatMap fun m => huaweiPriority m.memberId m)
      ++ s.members.flatMap (fun m => huaweiPorts m.effectiveId m)
      ++ command "quit" :: huaweiSave

def huaweiRenumbering (m : StackMember) : List Entry :=
  [command "system-view", command s!"stack slot {m.memberId}",
   command s!" renumber {m.newMemberId}" s!"Slot {m.memberId} becomes {m.newMemberId}.",
   command " quit", command "quit"] ++ huaweiSave

def huaweiEntries (s : Stacking) : List Entry :=
  remark "Huawei stacking (iStack/CSS): configure, renumber, save, then reboot." :: s.huaweiBase
    ++ onlyIf s.isRenumbering
      ([.blank, remark "Phase 2: renumber members. Each renumbered switch reboots."]
        ++ (s.members.filter (·.renumbers)).flatMap huaweiRenumbering
        ++ [.blank, remark "Phase 3: set priorities after all members have rebooted."]
        ++ (s.members.filter (·.priority ≠ "")).flatMap fun m =>
          command "system-view" :: huaweiPriority m.effectiveId m ++ command "quit" :: huaweiSave)
    ++ [.blank, remark "Connect the stack cables, then verify:", remark "display stack",
       remark "display stack topology"]

def ciscoRemark (text : String) : Entry := .comment text "!"

/-- Virtual stacks consist of two switches and have links of their own. -/
def isVirtual (s : Stacking) : Bool := s.modelType == "new"

def ciscoMembers (s : Stacking) : List StackMember :=
  if s.isVirtual then s.members.take 2 else s.members

def ciscoSession (entries : List Entry) : List Entry :=
  command "configure terminal" :: entries
    ++ [command "end", command "copy running-config startup-config"]

def ciscoLinks (m : StackMember) : List Entry :=
  (numbered 1 m.stackInterfaces).flatMap fun (i, name) =>
    [command s!"interface {name}",
     command s!" stackwise-virtual link {i}" s!"{name} carries virtual link {i}.",
     command " no shutdown", command "exit"]

def ciscoMember (s : Stacking) (m : StackMember) : List Entry :=
  [.blank, ciscoRemark s!"Phase 1: switch {m.memberId}"]
    ++ ciscoSession
      (onlyIf s.isVirtual
          (onlyIf (s.domainId ≠ "") [command s!"stackwise-virtual domain {s.domainId}"]
            ++ ciscoLinks m)
        ++ onlyIf (m.priority ≠ "" ∧ !s.isRenumbering)
          [command s!"switch {m.memberId} priority {m.priority}"])

def ciscoEntries (s : Stacking) : List Entry :=
  let members := s.ciscoMembers
  let title := if s.isVirtual then "StackWise Virtual" else "StackWise"
  ciscoRemark s!"Cisco {title}: configure, renumber, save, then reload."
    :: members.flatMap s.ciscoMember
    ++ onlyIf (s.isVirtual ∧ 2 < s.members.length)
      [ciscoRemark "StackWise Virtual supports two switches; further members are ignored."]
    ++ onlyIf s.isRenumbering
      ([.blank, ciscoRemark "Phase 2: renumber members. Each renumbered switch reloads."]
        ++ (members.filter (·.renumbers)).flatMap (fun m =>
          ciscoSession [command s!"switch {m.memberId} renumber {m.newMemberId}"])
        ++ [.blank, ciscoRemark "Phase 3: set priorities after the reload."]
        ++ (members.filter (·.priority ≠ "")).flatMap fun m =>
          ciscoSession [command s!"switch {m.effectiveId} priority {m.priority}"])
    ++ [.blank, ciscoRemark "Verify with:",
       ciscoRemark (if s.isVirtual then "show switch virtual" else "show switch")]

def h3cEntries (s : Stacking) : List Entry :=
  if s.modelType = "new" then s.h3cNewEntries else s.h3cOldEntries

def render (vendor : Vendor) (s : Stacking) : Fragment :=
  if !s.enabled then .nothing "Stacking (IRF) is disabled."
  else match vendor with
    | .h3c => (Draft.ofEntries s.h3cEntries).build "H3C Stacking (IRF) configuration generated."
    | .huawei =>
      (Draft.ofEntries s.huaweiEntries).build
        "Huawei stacking configuration generated: configure, renumber, save, then reboot."
    | .cisco => (Draft.ofEntries s.ciscoEntries).build "Cisco StackWise configuration generated."
    | .generic => .unsupported "Stacking" vendor.name

end Stacking
end Netscribe
