import Netscribe.Proofs.Script.Written
import Netscribe.Proofs.Vlan.ListForms
import Netscribe.Proofs.Vlan.PortLines
import Netscribe.Vlan.Database
/-!
The VLANs that a line of a script uses, read off the text of the line. Lines that were written for a
setting are read as the VLANs of the setting, and the other lines around them as none.
-/
namespace Netscribe

open Vlan (PortLine)

namespace Vlan

/-- The VLANs that a line in the view of a port uses: as access VLAN, as native VLAN, or in a list
    of allowed ones. -/
def lineIds (vendor : Vendor) (line : String) : List Int :=
  (Text.after? (accessWords vendor) line).toList.flatMap singleId
    ++ (Text.after? (nativeWords vendor) line).toList.flatMap singleId
    ++ (Text.after? (allowedWords vendor) line).toList.flatMap
      fun list => (parseIds list).toOption.getD []

/-- A line opens with words that no use of a VLAN opens with. -/
def OpensSilently (vendor : Vendor) (opening : String) : Prop :=
  Text.diverge (accessWords vendor) opening ∧ Text.diverge (nativeWords vendor) opening ∧
    Text.diverge (allowedWords vendor) opening

instance (vendor : Vendor) (opening : String) : Decidable (OpensSilently vendor opening) :=
  inferInstanceAs (Decidable (_ ∧ _ ∧ _))

/-- A line with a silent opening uses no VLAN. -/
theorem lineIds_eq_nil {vendor : Vendor} {opening line : String}
    (h : OpensSilently vendor opening) (hline : Text.hasStart opening line) :
    lineIds vendor line = [] := by
  obtain ⟨haccess, hnative, hallowed⟩ := h
  simp [lineIds, Text.after?_eq_none haccess hline, Text.after?_eq_none hnative hline,
    Text.after?_eq_none hallowed hline]

namespace PortLine

/-- The VLANs that a line names. -/
def ids : PortLine → List Int
  | plain _ => []
  | access vlan | native vlan => singleId vlan
  | allowed ids => sortedDistinct (validIds ids)

private theorem lineIds_switching (vendor : Vendor) :
    ∀ line ∈ switching, lineIds vendor (line.text vendor) = [] := by
  intro line hline
  have hopens : OpensSilently vendor (line.text vendor) := by
    revert line
    cases vendor <;> decide +kernel
  exact lineIds_eq_nil hopens (Text.hasStart_self _)

/-- A line that was written for the given settings of a port: it chooses how the port is switched,
    or it names the VLANs that the settings name in that mode. -/
def Fits (mode access native allowed : String) : PortLine → Prop
  | plain command => plain command ∈ switching
  | .access vlan => mode = InterfaceMode.access.name ∧ vlan = access
  | .native vlan => mode = InterfaceMode.trunk.name ∧ vlan = native
  | .allowed ids => mode = InterfaceMode.trunk.name ∧ parseIds allowed = .ok ids

variable {mode access native allowed : String} {vendor : Vendor} {line : PortLine}

/-- The lines of switching name no VLAN and so fit every mode. -/
theorem fits_of_mem_switching (h : line ∈ switching) : line.Fits mode access native allowed := by
  cases line with
  | plain command => exact h
  | _ => exact absurd h (by simp [switching])

/-- What a line was written for is what is read off it. -/
theorem lineIds_text (h : line.Fits mode access native allowed) :
    lineIds vendor (line.text vendor) = line.ids := by
  have hdiverge : Text.diverge (accessWords vendor) (nativeWords vendor) ∧
      Text.diverge (accessWords vendor) (allowedWords vendor) ∧
      Text.diverge (nativeWords vendor) (accessWords vendor) ∧
      Text.diverge (nativeWords vendor) (allowedWords vendor) ∧
      Text.diverge (allowedWords vendor) (accessWords vendor) ∧
      Text.diverge (allowedWords vendor) (nativeWords vendor) := by
    cases vendor <;> decide +kernel
  obtain ⟨han, hal, hna, hnl, hla, hln⟩ := hdiverge
  cases line with
  | plain command => exact lineIds_switching vendor _ h
  | access vlan =>
    have hopening := Text.hasStart_append (accessWords vendor) vlan
    simp [lineIds, text, ids, Text.after?_append, Text.after?_eq_none hna hopening,
      Text.after?_eq_none hla hopening]
  | native vlan =>
    have hopening := Text.hasStart_append (nativeWords vendor) vlan
    simp [lineIds, text, ids, Text.after?_append, Text.after?_eq_none han hopening,
      Text.after?_eq_none hln hopening]
  | allowed list =>
    have hopening := Text.hasStart_append (allowedWords vendor) (listForm vendor list)
    have hpositive : ∀ id ∈ list, 0 ≤ id := fun id hid =>
      (le_of_mem_parseIds h.2 hid).1.trans' (by decide)
    have hread : parseIds (listForm vendor list) = .ok (sortedDistinct (validIds list)) := by
      rw [listForm]
      split
      · exact parseIds_spacedList hpositive
      · exact parseIds_dashedList hpositive
    simp [lineIds, text, ids, Text.after?_append, Text.after?_eq_none hal hopening,
      Text.after?_eq_none hnl hopening, hread, Except.toOption]

/-- What such a line names, the VLAN database reads from the settings as well. -/
theorem mem_modeIds_of_fits {found : List Int}
    (hfound : modeIds mode access native allowed = .ok found)
    (h : line.Fits mode access native allowed) {id : Int}
    (hid : id ∈ lineIds vendor (line.text vendor)) : id ∈ found := by
  rw [lineIds_text h] at hid
  rw [modeIds] at hfound
  cases line with
  | plain command => cases hid
  | access vlan =>
    obtain ⟨hmode, rfl⟩ := h
    rw [if_pos hmode] at hfound
    exact Except.ok.inj hfound ▸ hid
  | native vlan =>
    obtain ⟨hmode, rfl⟩ := h
    rw [if_neg (by rw [hmode]; decide), if_pos hmode] at hfound
    obtain ⟨list, _, hvalue⟩ := Outcome.bind_eq_ok_iff.mp hfound
    exact Except.ok.inj hvalue ▸ List.mem_append_left _ hid
  | allowed list =>
    obtain ⟨hmode, hlist⟩ := h
    rw [if_neg (by rw [hmode]; decide), if_pos hmode] at hfound
    obtain ⟨read, hread, hvalue⟩ := Outcome.bind_eq_ok_iff.mp hfound
    obtain rfl : list = read := Except.ok.inj (hlist.symm.trans hread)
    rw [ids, mem_sortedDistinct] at hid
    exact Except.ok.inj hvalue ▸ List.mem_append_right _ (List.mem_filter.mp hid).1

end PortLine
end Vlan

namespace LinkConfig

/-- A line that says what a port without settings has anyway: access to the first VLAN, or a trunk
    for all of them. -/
def IsBuiltIn (vendor : Vendor) (c : LinkConfig) (line : String) : Prop :=
  (c.mode = .access ∧ c.accessVlan = "" ∧
    line = PortLine.text vendor (.access defaultAccessVlan)) ∨
  (c.mode = .trunk ∧ Vlan.parseIds c.trunkAllowedVlans = .ok [] ∧
    line = PortLine.text vendor (.allowed allIds))

/-- Apart from what is built in, the lines of a link mode were written for its settings. -/
theorem fits_or_isBuiltIn {vendor : Vendor} {c : LinkConfig} {lines : List PortLine}
    (h : c.portLines vendor = .ok lines) {line : PortLine} (hline : line ∈ lines) :
    line.Fits c.mode.name c.accessVlan c.trunkNativeVlan c.trunkAllowedVlans ∨
      c.IsBuiltIn vendor (line.text vendor) := by
  obtain hplain | ⟨hmode, rfl⟩ | ⟨hmode, _, rfl⟩ | ⟨hmode, ids, hids, rfl⟩ := mem_portLines h hline
  · exact .inl (PortLine.fits_of_mem_switching hplain)
  · rw [accessOrDefault]
    split
    next hunset => exact .inr (.inl ⟨hmode, hunset, rfl⟩)
    next => exact .inl ⟨congrArg InterfaceMode.name hmode, rfl⟩
  · exact .inl ⟨congrArg InterfaceMode.name hmode, rfl⟩
  · obtain ⟨read, hread, hvalue⟩ := Outcome.bind_eq_ok_iff.mp hids
    have hchoice := Except.ok.inj hvalue
    by_cases hnone : read = []
    · rw [if_pos hnone] at hchoice
      subst hnone hchoice
      exact .inr (.inr ⟨hmode, hread, rfl⟩)
    · rw [if_neg hnone] at hchoice
      subst hchoice
      exact .inl ⟨congrArg InterfaceMode.name hmode, hread⟩

end LinkConfig
end Netscribe
