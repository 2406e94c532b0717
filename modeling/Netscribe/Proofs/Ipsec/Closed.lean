import Netscribe.Proofs.Interface.AppliedPolicies
import Netscribe.Script.Feature
/-!
Whether the references of a device's IPsec text are closed. Lookups go by id and know nothing of
what the text leaves out, so that what they find may have no name, or may not be written at all.
-/
namespace Netscribe

open RoutedInterface (policyKeyword)
open Text (after?)

namespace Ipsec

/-- The references of a text are closed: those within IPsec, and those of the given texts of
    interfaces. -/
structure TextIsClosed (s : Ipsec) (vendor : Vendor) (lines : List String)
    (interfaces : List (List String)) : Prop where
  /-- What is not set refers to nothing. -/
  unset : ∀ r : Reference, View.contents (r.owner vendor) (r.keyword vendor) lines =
    (s.referrers r).map fun referrer =>
      (referrer.1, (referrer.2.filter (· ≠ "")).filterMap (s.target? r))
  /-- What is referred to has a name, under which it is defined. -/
  defined : ∀ r : Reference, ∀ view ∈ View.contents (r.owner vendor) (r.keyword vendor) lines,
    ∀ name ∈ view.2, name ≠ "" ∧ name ∈ lines.filterMap (after? (r.definer vendor))
  /-- A policy that is applied has a name, and entries of that name. -/
  applied : ∀ text ∈ interfaces,
    ∀ view ∈ View.contents "interface " (policyKeyword vendor) text, ∀ name ∈ view.2,
      name ≠ "" ∧ ∃ p ∈ s.completePolicies, p.name = name ∧
        policyLabel p ∈ lines.filterMap (after? "ipsec policy ")

/-- What closed references take of the settings, given the ids of the policies of interfaces. -/
structure ReferencesAreSound (s : Ipsec) (applied : List String) : Prop where
  /-- No object that is looked up by an id that is not set has none itself. -/
  unset : ∀ r : Reference, ∀ referrer ∈ s.referrers r, "" ∈ referrer.2 → s.target? r "" = none
  /-- Every object that is looked up has a name. -/
  named : ∀ r : Reference, ∀ referrer ∈ s.referrers r, ∀ id ∈ referrer.2, s.target? r id ≠ some ""
  /-- Of every name that is applied some policy has a sequence number. -/
  complete : ∀ id ∈ applied, ∀ name ∈ s.applied id, ∃ p ∈ s.completePolicies, p.name = name

section Settings

variable {s : Ipsec} {r : Reference} {id name : String}

private theorem filterMap_filter_eq_iff {α : Type} (f : String → Option α) (ids : List String) :
    ids.filterMap f = (ids.filter (· ≠ "")).filterMap f ↔ ("" ∈ ids → f "" = none) := by
  induction ids with
  | nil => simp
  | cons id rest ih =>
    by_cases hid : id = ""
    · subst hid
      rw [List.filter_cons_of_neg (by simp)]
      constructor
      · intro h _
        by_contra hfound
        obtain ⟨a, ha⟩ := Option.ne_none_iff_exists'.mp hfound
        have hlength := congrArg List.length h
        rw [List.filterMap_cons_some ha, List.length_cons] at hlength
        have hle := (List.Sublist.filterMap f
          (List.filter_sublist (p := (decide <| · ≠ "")) (l := rest))).length_le
        omega
      · intro h
        have hnone := h List.mem_cons_self
        rw [List.filterMap_cons_none hnone, ih]
        exact fun _ => hnone
    · have hmem : "" ∈ id :: rest ↔ "" ∈ rest := by simp [Ne.symm hid]
      rw [List.filter_cons_of_pos (by simpa using hid), hmem, ← ih, List.filterMap_cons,
        List.filterMap_cons]
      cases f id with
      | none => exact Iff.rfl
      | some a => exact List.cons_inj_right a

/-- What is found under a name is defined. -/
theorem mem_definitions (h : s.target? r id = some name) (hname : name ≠ "") :
    name ∈ s.definitions r := by
  cases r with
  | keychain =>
    obtain ⟨k, hk, rfl⟩ := Option.map_eq_some_iff.mp h
    exact List.mem_map_of_mem (List.mem_filter.mpr ⟨List.mem_of_find?_eq_some hk, by simpa⟩)
  | transformSet =>
    obtain ⟨t, ht, rfl⟩ := Option.map_eq_some_iff.mp h
    exact List.mem_map_of_mem (List.mem_filter.mpr ⟨List.mem_of_find?_eq_some ht, by simpa⟩)
  | profile =>
    obtain ⟨p, hp, rfl⟩ := Option.map_eq_some_iff.mp h
    exact List.mem_map_of_mem (List.mem_filter.mpr ⟨List.mem_of_find?_eq_some hp, by simpa⟩)

end Settings

section Text

variable {s : Ipsec} {vendor : Vendor} {lines : List String}
  (hcontents : ∀ r : Reference, View.contents (r.owner vendor) (r.keyword vendor) lines =
    (s.referrers r).map fun referrer => (referrer.1, referrer.2.filterMap (s.target? r)))

include hcontents

private theorem unset_iff (r : Reference) :
    View.contents (r.owner vendor) (r.keyword vendor) lines =
        (s.referrers r).map (fun referrer =>
          (referrer.1, (referrer.2.filter (· ≠ "")).filterMap (s.target? r))) ↔
      ∀ referrer ∈ s.referrers r, "" ∈ referrer.2 → s.target? r "" = none := by
  rw [hcontents, List.map_inj_left]
  refine forall₂_congr fun referrer _ => ?_
  rw [Prod.mk.injEq, and_iff_right rfl, filterMap_filter_eq_iff]

private theorem defined_iff (r : Reference)
    (hdefiners : lines.filterMap (after? (r.definer vendor)) = s.definitions r) :
    (∀ view ∈ View.contents (r.owner vendor) (r.keyword vendor) lines, ∀ name ∈ view.2,
        name ≠ "" ∧ name ∈ lines.filterMap (after? (r.definer vendor))) ↔
      ∀ referrer ∈ s.referrers r, ∀ id ∈ referrer.2, s.target? r id ≠ some "" := by
  rw [hcontents, hdefiners, List.forall_mem_map]
  refine forall₂_congr fun referrer _ => ⟨fun h id hid hfound => ?_, fun h name hname => ?_⟩
  · exact (h "" (List.mem_filterMap.mpr ⟨id, hid, hfound⟩)).1 rfl
  · obtain ⟨id, hid, hfound⟩ := List.mem_filterMap.mp hname
    have hne : name ≠ "" := by
      rintro rfl
      exact h id hid hfound
    exact ⟨hne, mem_definitions hfound hne⟩

omit hcontents in
private theorem applied_iff {text : List String} {entries : List (String × String)}
    (hpolicies : lines.filterMap (after? "ipsec policy ") = s.completePolicies.map policyLabel)
    (hinterface : View.contents "interface " (policyKeyword vendor) text =
      entries.map fun entry => (entry.1, s.applied entry.2)) :
    (∀ view ∈ View.contents "interface " (policyKeyword vendor) text, ∀ name ∈ view.2,
        name ≠ "" ∧ ∃ p ∈ s.completePolicies, p.name = name ∧
          policyLabel p ∈ lines.filterMap (after? "ipsec policy ")) ↔
      ∀ id ∈ entries.map (·.2), ∀ name ∈ s.applied id,
        ∃ p ∈ s.completePolicies, p.name = name := by
  rw [hinterface, hpolicies, List.forall_mem_map, List.forall_mem_map]
  refine forall₂_congr fun entry _ => forall₂_congr fun name _ => ?_
  constructor
  · rintro ⟨-, p, hp, hname, -⟩
    exact ⟨p, hp, hname⟩
  · rintro ⟨p, hp, rfl⟩
    have hcomplete : p.name ≠ "" ∧ p.seqNumber ≠ "" := by simpa using (List.mem_filter.mp hp).2
    exact ⟨hcomplete.1, p, hp, rfl, List.mem_map_of_mem hp⟩

end Text

end Ipsec

namespace Node

/-- The ids of the policies of all interfaces that a device's texts describe. -/
def interfacePolicyIds (node : Node) : List String :=
  (node.config.vlan.policyIds node.vendor).map (·.2) ++
    (node.config.interfaceIp.policyIds node.vendor node.config.acl node.config.ipsec).map (·.2)

/-- The texts of IPsec and of the interfaces refer to objects by the names that the lookups find,
    and define those that have a name, policies with a sequence number too. Their references are
    closed exactly if the lookups find named objects only, and none for ids that are not set. -/
theorem ipsec_references_closed_iff {node : Node} (hvrp : node.vendor.isVrp) {ipsec : Fragment}
    (hipsec : Feature.ipsec.render node = .ok ipsec) :
    ∃ vlan interface lines vlanLines portLines,
      Feature.vlan.render node = .ok vlan ∧ Feature.interface.render node = .ok interface ∧
      ipsec.cli = Text.unlines lines ∧ vlan.cli = Text.unlines vlanLines ∧
      interface.cli = Text.unlines portLines ∧
      (∀ r : Ipsec.Reference,
        View.contents (r.owner node.vendor) (r.keyword node.vendor) lines =
          (node.config.ipsec.active.referrers r).map (fun referrer =>
            (referrer.1, referrer.2.filterMap (node.config.ipsec.active.target? r))) ∧
        lines.filterMap (after? (r.definer node.vendor)) =
          node.config.ipsec.active.definitions r) ∧
      lines.filterMap (after? "ipsec policy ") =
        node.config.ipsec.active.completePolicies.map Ipsec.policyLabel ∧
      View.contents "interface " (policyKeyword node.vendor) vlanLines =
        (node.config.vlan.policyIds node.vendor).map (fun entry =>
          (entry.1, node.config.ipsec.active.applied entry.2)) ∧
      View.contents "interface " (policyKeyword node.vendor) portLines =
        (node.config.interfaceIp.policyIds node.vendor node.config.acl node.config.ipsec).map
          (fun entry => (entry.1, node.config.ipsec.active.applied entry.2)) ∧
      (node.config.ipsec.active.TextIsClosed node.vendor lines [vlanLines, portLines] ↔
        node.config.ipsec.active.ReferencesAreSound node.interfacePolicyIds) := by
  obtain ⟨lines, hcli, hcontents, hdefiners, hpolicies⟩ :=
    Ipsec.exists_lines_of_render_eq_ok hvrp hipsec
  obtain ⟨vlanLines, hvlan, hvlanContents⟩ := VlanInterfaces.exists_lines_render hvrp
    node.config.acl node.config.ipsec node.config.vlan
  obtain ⟨portLines, hports, hportContents⟩ := RoutedPorts.exists_lines_render hvrp
    node.config.acl node.config.ipsec node.config.interfaceIp
  refine ⟨_, _, lines, vlanLines, portLines, rfl, rfl, hcli, hvlan, hports,
    fun r => ⟨hcontents r, hdefiners r⟩, hpolicies, hvlanContents, hportContents, ?_⟩
  have happlied := Ipsec.applied_iff hpolicies hvlanContents
  have happliedPorts := Ipsec.applied_iff hpolicies hportContents
  constructor
  · intro h
    refine ⟨fun r => (Ipsec.unset_iff hcontents r).mp (h.unset r),
      fun r => (Ipsec.defined_iff hcontents r (hdefiners r)).mp (h.defined r), ?_⟩
    rw [interfacePolicyIds, List.forall_mem_append]
    exact ⟨happlied.mp (h.applied vlanLines (by simp)),
      happliedPorts.mp (h.applied portLines (by simp))⟩
  · intro h
    have hcomplete := List.forall_mem_append.mp h.complete
    refine ⟨fun r => (Ipsec.unset_iff hcontents r).mpr (h.unset r),
      fun r => (Ipsec.defined_iff hcontents r (hdefiners r)).mpr (h.named r), ?_⟩
    simp only [List.forall_mem_cons]
    exact ⟨happlied.mpr hcomplete.1, happliedPorts.mpr hcomplete.2, fun _ hnil => nomatch hnil⟩

/-- A profile that refers to its keychain by an id, and an interface that applies a policy with a
    sequence number. -/
theorem ipsec_references_closed_of_ids :
    let node : Node := {
      id := "fw", vendor := .h3c
      config := {
        vlan := {
          enabled := true
          vlanInterfaces := [{
            vlanId := "10", ipAddress := "10.0.0.1", subnetMask := "24", ipsecPolicyId := "v1" }] }
        ipsec := {
          enabled := true
          ikeKeychains := [{ name := "KC", id := "k1" }]
          ikeProfiles := [{ name := "P", keychainId := "k1", id := "p1" }]
          policies := [{ name := "V", seqNumber := "10", ikeProfileId := "p1", id := "v1" }] } } }
    ∃ fragment lines vlanLines portLines, Feature.ipsec.render node = .ok fragment ∧
      fragment.cli = Text.unlines lines ∧
      node.config.ipsec.active.TextIsClosed .h3c lines [vlanLines, portLines] := by
  intro node
  obtain ⟨vlan, interface, lines, vlanLines, portLines, -, -, hcli, -, -, -, -, -, -, hclosed⟩ :=
    ipsec_references_closed_iff (show node.vendor.isVrp by decide) rfl
  refine ⟨_, lines, vlanLines, portLines, rfl, hcli, hclosed.mpr ⟨fun r => ?_, fun r => ?_, ?_⟩⟩
  · cases r <;> decide
  · cases r <;> decide
  · decide

/-- A profile without a keychain refers to the keychain without an id, a policy for IKE without a
    profile to the profile without one, a policy to its transform set without a name, and an
    interface applies a policy that is not written for want of a sequence number. -/
theorem ipsec_refers_to_undefined_objects :
    let s : Ipsec := {
      enabled := true
      transformSets := [{ id := "t1" }]
      ikeKeychains := [{ name := "KC" }]
      ikeProfiles := [{ name := "P" }]
      policies := [{ name := "V", seqNumber := "10", transformSetIds := ["t1"] },
        { name := "W", id := "w1" }] }
    let v : VlanInterfaces := {
      enabled := true
      vlanInterfaces := [
        { vlanId := "10", ipAddress := "10.0.0.1", subnetMask := "24", ipsecPolicyId := "w1" }] }
    (s.render .h3c {}).map (·.cli) = .ok
      ("ike keychain KC\nquit\n\nike profile P\n keychain KC\nquit\n\n" ++
        "ipsec policy V 10 isakmp\n transform-set \n ike-profile P\nquit") ∧
    (v.render .h3c {} s).cli =
      "interface Vlan-interface10\n ip address 10.0.0.1 24\n ipsec apply policy W\nquit" := by
  decide +kernel

end Node
end Netscribe
