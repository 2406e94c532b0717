import Netscribe.LinkAggregation.Commands
import Netscribe.LinkMode.Commands
import Netscribe.Proofs.Outcome
import Netscribe.Proofs.Text.Line
/-!
The lines in the view of a switched port or of an aggregate interface, told apart by what they say
about VLANs.
-/
namespace Netscribe

namespace Vlan

def accessWords : Vendor → String
  | .cisco => " switchport access vlan "
  | .huawei => " port default vlan "
  | .h3c | .generic => " port access vlan "

def nativeWords : Vendor → String
  | .cisco => " switchport trunk native vlan "
  | .huawei | .h3c | .generic => " port trunk pvid vlan "

def allowedWords : Vendor → String
  | .cisco => " switchport trunk allowed vlan "
  | .huawei => " port trunk allow-pass vlan "
  | .h3c | .generic => " port trunk permit vlan "

/-- The form in which a vendor lists VLANs. -/
def listForm (vendor : Vendor) (ids : List Int) : String :=
  if vendor.isVrp then spacedList ids else dashedList ids

/-- A line in the view of a port. Only the last three kinds name VLANs. -/
inductive PortLine
  | plain (command : String)
  | access (vlan : String)
  | native (vlan : String)
  | allowed (ids : List Int)
  deriving DecidableEq

namespace PortLine

def text (vendor : Vendor) : PortLine → String
  | plain command => s!" {command}"
  | access vlan => accessWords vendor ++ vlan
  | native vlan => nativeWords vendor ++ vlan
  | allowed ids => allowedWords vendor ++ listForm vendor ids

/-- The plain lines that choose how a port is switched. -/
def switching : List PortLine :=
  [plain "no switchport", plain "undo portswitch", plain "switchport mode access",
   plain "switchport mode trunk", plain "port link-type access", plain "port link-type trunk"]

/-- The line that chooses a mode, if the vendor needs one. -/
def modeLine (vendor : Vendor) (mode : String) : List PortLine :=
  match vendor, mode with
  | .cisco, mode => [plain s!"switchport mode {mode}"]
  | .huawei, mode => [plain s!"port link-type {mode}"]
  | .h3c, "trunk" => [plain "port link-type trunk"]
  | .h3c, _ | .generic, _ => []

/-- The lines of an access port are among those of switching. -/
theorem forall_mem_modeLine_access (vendor : Vendor) :
    ∀ line ∈ modeLine vendor "access", line ∈ switching := by
  cases vendor <;> decide

/-- The lines of a trunk are among those of switching. -/
theorem forall_mem_modeLine_trunk (vendor : Vendor) :
    ∀ line ∈ modeLine vendor "trunk", line ∈ switching := by
  cases vendor <;> decide

/-- The lines of a port are indented by a blank. -/
theorem hasStart_text (vendor : Vendor) (line : PortLine) :
    Text.hasStart " " (line.text vendor) := by
  cases line with
  | plain command => exact Text.hasStart_append " " command
  | access vlan => cases vendor <;> exact Text.hasStart_append_right rfl vlan
  | native vlan => cases vendor <;> exact Text.hasStart_append_right rfl vlan
  | allowed ids => cases vendor <;> exact Text.hasStart_append_right rfl _

end PortLine
end Vlan

open Vlan (PortLine)

namespace LinkConfig

/-- The access VLAN, or the one that a port has without a setting. -/
def accessOrDefault (c : LinkConfig) : String :=
  if c.accessVlan = "" then defaultAccessVlan else c.accessVlan

/-- The body of a link mode, line by line. -/
def portLines (vendor : Vendor) (c : LinkConfig) : Except Fault (List PortLine) := do
  match c.mode with
  | .unconfigured => return []
  | .l3 => return [.plain "no switchport"]
  | .access =>
    return if vendor = .generic then []
      else PortLine.modeLine vendor "access" ++ [.access c.accessOrDefault]
  | .trunk =>
    let allowed ← c.allowedIds
    return if vendor = .generic then []
      else PortLine.modeLine vendor "trunk"
        ++ (if c.trunkNativeVlan = "" then [] else [.native c.trunkNativeVlan])
        ++ [.allowed allowed]

/-- The body of a link is the text of its lines. -/
theorem body_eq (vendor : Vendor) (c : LinkConfig) :
    c.body vendor = (do return (← c.portLines vendor).map (PortLine.text vendor)) := by
  rw [body, portLines]
  cases c.mode with
  | unconfigured => rfl
  | l3 => rfl
  | access => cases vendor <;> rfl
  | trunk =>
    cases c.allowedIds with
    | error fault => rfl
    | ok allowed =>
      unfold nativeLine
      by_cases hnative : c.trunkNativeVlan = ""
      · simp only [hnative, if_true]
        cases vendor <;> rfl
      · simp only [hnative, if_false]
        cases vendor <;> rfl

/-- A line of a link mode chooses the mode or names the VLANs of its setting. -/
theorem mem_portLines {vendor : Vendor} {c : LinkConfig} {lines : List PortLine}
    (h : c.portLines vendor = .ok lines) {line : PortLine} (hline : line ∈ lines) :
    line ∈ PortLine.switching ∨
    (c.mode = .access ∧ line = .access c.accessOrDefault) ∨
    (c.mode = .trunk ∧ c.trunkNativeVlan ≠ "" ∧ line = .native c.trunkNativeVlan) ∨
    c.mode = .trunk ∧ ∃ ids, c.allowedIds = .ok ids ∧ line = .allowed ids := by
  rw [portLines] at h
  split at h
  · cases h
    cases hline
  · cases h
    rw [List.mem_singleton.mp hline]
    exact .inl (by decide)
  next hmode =>
    cases h
    split at hline
    · cases hline
    · obtain hmodeLine | hvlan := List.mem_append.mp hline
      · exact .inl (PortLine.forall_mem_modeLine_access vendor line hmodeLine)
      · exact .inr (.inl ⟨hmode, List.mem_singleton.mp hvlan⟩)
  next hmode =>
    obtain ⟨allowed, hallowed, hlines⟩ := Outcome.bind_eq_ok_iff.mp h
    cases hlines
    split at hline
    · cases hline
    · obtain hfront | hlist := List.mem_append.mp hline
      · obtain hmodeLine | hnative := List.mem_append.mp hfront
        · exact .inl (PortLine.forall_mem_modeLine_trunk vendor line hmodeLine)
        · split at hnative
          · cases hnative
          next hset => exact .inr (.inr (.inl ⟨hmode, hset, List.mem_singleton.mp hnative⟩))
      · exact .inr (.inr (.inr ⟨hmode, allowed, hallowed, List.mem_singleton.mp hlist⟩))

end LinkConfig
end Netscribe
