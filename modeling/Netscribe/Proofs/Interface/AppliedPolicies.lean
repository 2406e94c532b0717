import Netscribe.Interface.Commands
import Netscribe.Proofs.Ipsec.References
/-!
Which IPsec policies are applied to routed interfaces, read back from their views.
-/
namespace Netscribe

open Text (after? isIndented)

/-- The names of the policy that an interface applies: one, or none where its id is not set or
    names no policy. -/
def Ipsec.applied (s : Ipsec) (id : String) : List String :=
  if id = "" then [] else (s.findPolicy? id).toList.map (·.name)

namespace RoutedInterface

def policyKeyword (vendor : Vendor) : String :=
  if vendor = .huawei then " ipsec policy " else " ipsec apply policy "

/-- A line in the view of an interface that applies no policy. -/
def AppliesNothing (vendor : Vendor) (line : String) : Prop :=
  isIndented line ∧ after? (policyKeyword vendor) line = none

instance {vendor : Vendor} {line : String} : Decidable (AppliesNothing vendor line) :=
  inferInstanceAs (Decidable (_ ∧ _))

section Lines

variable {vendor : Vendor} {line : String} {acls : Acls} {ipsec : Ipsec}

@[simp ↓]
theorem appliesNothing_append {s : String} (hs : Text.opensIndented s)
    (h : Text.diverge (policyKeyword vendor) s) (t : String) : AppliesNothing vendor (s ++ t) :=
  ⟨Text.isIndented_of_opensIndented (Text.opensIndented_append t hs),
    Text.after?_eq_none h (Text.hasStart_append s t)⟩

private theorem appliesNothing_filterLine (hvrp : vendor.isVrp) (direction : Direction) (a : Acl) :
    AppliesNothing vendor (a.filterLine vendor direction) := by
  unfold Acl.filterLine
  cases vendor with
  | h3c | huawei => simp +decide
  | cisco | generic => cases hvrp

private theorem allWritten_filterEntries (hvrp : vendor.isVrp) (acls : Acls) (direction : Direction)
    (id : String) :
    AllWritten (AppliesNothing vendor) (filterEntries vendor acls direction id) := by
  refine .map fun a _ line hline => ?_
  obtain rfl := Option.some.inj hline
  exact appliesNothing_filterLine hvrp direction a

private theorem allWritten_dhcpEntries (hvrp : vendor.isVrp) (i : RoutedInterface) :
    AllWritten (AppliesNothing vendor) (i.dhcpEntries vendor) := by
  have hpool (pool : InterfacePool) : AllWritten (AppliesNothing .huawei) pool.entries := by
    simp +decide [InterfacePool.entries]
  unfold dhcpEntries
  cases vendor with
  | h3c => simp +decide [h3cDhcp]
  | huawei =>
    have hpools : AllWritten (AppliesNothing .huawei)
        (i.pool.toList.flatMap InterfacePool.entries) := .flatMap fun pool _ => hpool pool
    simp +decide [huaweiDhcp, hpools]
  | cisco | generic => cases hvrp

private theorem allWritten_natEntries (hvrp : vendor.isVrp) (i : RoutedInterface) :
    AllWritten (AppliesNothing vendor) (i.natEntries vendor) := by
  unfold natEntries
  cases vendor with
  | h3c | huawei => simp +decide
  | cisco | generic => cases hvrp

private theorem allWritten_addressEntries (hvrp : vendor.isVrp) (i : RoutedInterface) :
    AllWritten (AppliesNothing vendor) i.addressEntries := by
  unfold addressEntries
  cases vendor with
  | h3c | huawei => simp +decide
  | cisco | generic => cases hvrp

private theorem policyLine_eq (hvrp : vendor.isVrp) (name : String) :
    policyLine name vendor = policyKeyword vendor ++ name := by
  cases vendor with
  | h3c | huawei => rfl
  | cisco | generic => cases hvrp

private theorem isIndented_policyKeyword (vendor : Vendor) : isIndented (policyKeyword vendor) := by
  cases vendor <;> decide

private theorem allBlank_policyKeyword (vendor : Vendor) :
    Text.allBlank (policyKeyword vendor) = false := by
  cases vendor <;> decide

private theorem saidBy_ipsecEntries (hvrp : vendor.isVrp) (ipsec : Ipsec) (i : RoutedInterface) :
    View.saidBy (policyKeyword vendor) (i.ipsecEntries vendor ipsec) =
      ipsec.active.applied i.ipsecPolicy := by
  have hfound : View.saidBy (policyKeyword vendor) ((ipsec.findPolicy? i.ipsecPolicy).toList.map
      fun p => command (policyLine p.name vendor) s!"Applies IPsec policy {p.name}.") =
        (ipsec.findPolicy? i.ipsecPolicy).toList.map (·.name) := by
    refine View.saidBy_map (fun _ => rfl) fun p => ?_
    rw [policyLine_eq hvrp]
    exact Text.after?_append _ p.name
  rw [ipsecEntries, View.saidBy_onlyIf, hfound, Ipsec.applied, Ipsec.active]
  cases ipsec.enabled with
  | false => by_cases hid : i.ipsecPolicy = "" <;> simp [hid, Ipsec.findPolicy?]
  | true => by_cases hid : i.ipsecPolicy = "" <;> simp [hid]

private theorem isIndented_ipsecEntries (hvrp : vendor.isVrp) (ipsec : Ipsec)
    (i : RoutedInterface) :
    AllWritten (isIndented ·) (i.ipsecEntries vendor ipsec) := by
  refine allWritten_onlyIf.mpr fun _ => .map fun p _ line hline => ?_
  obtain rfl := Option.some.inj hline
  rw [policyLine_eq hvrp]
  exact Text.any_head?_append (isIndented_policyKeyword vendor) p.name

/-- The view of an interface applies its policy and no other one. -/
theorem readAs_block (hvrp : vendor.isVrp) (acls : Acls) (ipsec : Ipsec) (i : RoutedInterface) :
    View.ReadAs "interface " (policyKeyword vendor) (i.block vendor (i.body vendor acls ipsec))
      [(i.name, ipsec.active.applied i.ipsecPolicy)] := by
  have hothers {entries : List Entry} (h : AllWritten (AppliesNothing vendor) entries) :
      AllWritten (isIndented ·) entries ∧ View.saidBy (policyKeyword vendor) entries = [] :=
    ⟨fun line hline => (h line hline).1, View.saidBy_eq_nil fun line hline => (h line hline).2⟩
  obtain ⟨haddress, haddressSaid⟩ := hothers (allWritten_addressEntries hvrp i)
  obtain ⟨hdhcp, hdhcpSaid⟩ := hothers (allWritten_dhcpEntries hvrp i)
  obtain ⟨hin, hinSaid⟩ := hothers (allWritten_filterEntries hvrp acls .inbound i.inboundAcl)
  obtain ⟨hout, houtSaid⟩ := hothers (allWritten_filterEntries hvrp acls .outbound i.outboundAcl)
  obtain ⟨hnat, hnatSaid⟩ := hothers (allWritten_natEntries hvrp i)
  have hinside : AllWritten (isIndented ·) (i.body vendor acls ipsec) := by
    simp only [body, allWritten_append]
    exact ⟨⟨⟨⟨⟨haddress, hdhcp⟩, hin⟩, hout⟩, isIndented_ipsecEntries hvrp ipsec i⟩, hnat⟩
  have hsaid : View.saidBy (policyKeyword vendor) (i.body vendor acls ipsec) =
      ipsec.active.applied i.ipsecPolicy := by
    simp only [body, View.saidBy_append, haddressSaid, hdhcpSaid, hinSaid, houtSaid, hnatSaid,
      saidBy_ipsecEntries hvrp, List.nil_append, List.append_nil]
  have hblock : i.block vendor (i.body vendor acls ipsec) =
      [command ("interface " ++ i.name) s!"Enters interface {i.name}."]
        ++ i.body vendor acls ipsec ++ [command "quit"] := by
    have hvendor : vendor ≠ .cisco := by
      rintro rfl
      cases hvrp
    rw [block, onlyIf, if_neg hvendor, Vendor.closer, hvrp, if_pos rfl, List.append_nil]
    rfl
  have hwhole : View.saidBy (policyKeyword vendor) (i.block vendor (i.body vendor acls ipsec)) =
      ipsec.active.applied i.ipsecPolicy := by
    have hquiet (line why : String) (hline : Text.startsSolid line) :=
      View.saidBy_command_of_startsSolid (isIndented_policyKeyword vendor) hline why []
    rw [hblock, View.saidBy_append, View.saidBy_append, hsaid,
      hquiet _ _ (Text.startsSolid_append (by decide) i.name), hquiet _ _ (by decide)]
    exact List.append_nil _
  rw [← hwhole]
  refine .view ?_ (by decide) (by decide) (isIndented_policyKeyword vendor)
    (allBlank_policyKeyword vendor)
  rw [hblock]
  exact ((View.opensView_command "interface " i.name _).append hinside).close

end Lines

end RoutedInterface

section Sections

variable {vendor : Vendor}

/-- The interfaces of VLANs that are written, with the ids of their policies. -/
def VlanInterfaces.policyIds (v : VlanInterfaces) (vendor : Vendor) : List (String × String) :=
  if v.enabled then v.addressed.map fun i => (vlanInterfaceName vendor ++ i.vlanId, i.ipsecPolicyId)
  else []

/-- The ports that are written, with the ids of their policies. -/
def RoutedPorts.policyIds (r : RoutedPorts) (vendor : Vendor) (acls : Acls) (ipsec : Ipsec) :
    List (String × String) :=
  if r.enabled then
    (r.interfaces.filter fun p =>
      p.interfaceName ≠ "" ∧ writesLine (p.routed.body vendor acls ipsec)).map fun p =>
        (p.interfaceName, p.ipsecPolicyId)
  else []

/-- The views of the VLAN interfaces name the policies that the interfaces apply. -/
theorem VlanInterfaces.exists_lines_render (hvrp : vendor.isVrp) (acls : Acls) (ipsec : Ipsec)
    (v : VlanInterfaces) :
    ∃ lines, (v.render vendor acls ipsec).cli = Text.unlines lines ∧
      View.contents "interface " (RoutedInterface.policyKeyword vendor) lines =
        (v.policyIds vendor).map fun entry => (entry.1, ipsec.active.applied entry.2) := by
  have hvendor : vendor ≠ .generic := by
    rintro rfl
    cases hvrp
  unfold render policyIds
  cases v.enabled with
  | false => exact ⟨[], rfl, rfl⟩
  | true =>
    rw [if_neg (by decide), if_neg hvendor, if_pos rfl]
    refine ⟨_, Fragment.cli_ofEntries _ _ _, ?_⟩
    rw [List.map_map, List.map_eq_flatMap]
    refine (View.ReadAs.flatMap fun i _ => ?_).contents_body (by decide)
    exact RoutedInterface.readAs_block hvrp acls ipsec (i.routed vendor)

/-- The views of the routed ports name the policies that the ports apply. -/
theorem RoutedPorts.exists_lines_render (hvrp : vendor.isVrp) (acls : Acls) (ipsec : Ipsec)
    (r : RoutedPorts) :
    ∃ lines, (r.render vendor acls ipsec).cli = Text.unlines lines ∧
      View.contents "interface " (RoutedInterface.policyKeyword vendor) lines =
        (r.policyIds vendor acls ipsec).map fun entry =>
          (entry.1, ipsec.active.applied entry.2) := by
  have hvendor : vendor ≠ .generic := by
    rintro rfl
    cases hvrp
  unfold render policyIds
  cases r.enabled with
  | false => exact ⟨[], rfl, rfl⟩
  | true =>
    rw [if_neg (by decide), if_neg hvendor, if_pos rfl]
    refine ⟨_, Fragment.cli_ofEntries _ _ _, ?_⟩
    rw [List.map_map]
    refine (View.ReadAs.flatMap_filter (fun p _ hp => ?_) fun p _ hp => ?_).contents_body
      (by decide)
    · rw [portEntries, onlyIf, if_pos (by simpa using hp)]
      exact RoutedInterface.readAs_block hvrp acls ipsec p.routed
    · rw [portEntries, onlyIf, if_neg (by simpa using hp)]
      exact fun _ => rfl

end Sections
end Netscribe
