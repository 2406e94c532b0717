import Netscribe.Interface.Commands
import Netscribe.Proofs.Ipsec.Views
/-!
References within the commands of IPsec: which ids they go by, which names they are written with,
and which names the text defines.
-/
namespace Netscribe

open Text (after?)

namespace Ipsec

/-- What counts of the settings: all of them or none. -/
def active (s : Ipsec) : Ipsec := if s.enabled then s else {}

/-- The views that refer to objects of a kind, each with the rest of its command and the ids that
    it refers to. -/
def referrers (s : Ipsec) : Reference → List (String × List String)
  | .keychain => s.namedProfiles.map fun p => (p.name, profileIds p .keychain)
  | .transformSet => s.completePolicies.map fun p => (policyLabel p, policyIds p .transformSet)
  | .profile => s.completePolicies.map fun p => (policyLabel p, policyIds p .profile)

/-- The names of the objects of a kind that the text defines. -/
def definitions (s : Ipsec) : Reference → List String
  | .keychain => s.namedKeychains.map (·.name)
  | .transformSet => s.namedTransformSets.map (·.name)
  | .profile => s.namedProfiles.map (·.name)

section Text

variable {α : Type} {s : Ipsec} {vendor : Vendor} {acls : Acls}

/-- The views that refer to objects of a kind. -/
def ownerViews (s : Ipsec) (vendor : Vendor) (acls : Acls) : Reference → List (String × List Entry)
  | .keychain => s.namedProfiles.map fun p => (p.name, s.profileBlock vendor p)
  | .transformSet | .profile =>
    s.completePolicies.map fun p => (policyLabel p, s.policyBlock vendor acls p)

/-- The views that define objects of a kind. -/
def definerViews (s : Ipsec) (vendor : Vendor) : Reference → List (String × List Entry)
  | .keychain => s.namedKeychains.map fun k => (k.name, keychainBlock vendor k)
  | .transformSet => s.namedTransformSets.map fun t => (t.name, transformBlock vendor t)
  | .profile => s.namedProfiles.map fun p => (p.name, s.profileBlock vendor p)

private theorem flatMap_parts_owner (hvrp : vendor.isVrp) (r : Reference)
    (f : String × List Entry → α) :
    ((s.parts vendor acls).flatMap fun part =>
      if part.start = r.owner vendor then part.views.map f else []) =
      (s.ownerViews vendor acls r).map f := by
  cases vendor with
  | h3c | huawei =>
    cases r <;> simp +decide [parts, ownerViews, Reference.definer, Reference.owner]
  | cisco | generic => cases hvrp

private theorem flatMap_parts_definer (hvrp : vendor.isVrp) (r : Reference)
    (f : String × List Entry → α) :
    ((s.parts vendor acls).flatMap fun part =>
      if part.start = r.definer vendor then part.views.map f else []) =
      (s.definerViews vendor r).map f := by
  cases vendor with
  | h3c | huawei => cases r <;> simp +decide [parts, definerViews, Reference.definer]
  | cisco | generic => cases hvrp

private theorem flatMap_parts_policy (hvrp : vendor.isVrp) (f : String × List Entry → α) :
    ((s.parts vendor acls).flatMap fun part =>
      if part.start = "ipsec policy " then part.views.map f else []) =
      s.completePolicies.map fun p => f (policyLabel p, s.policyBlock vendor acls p) :=
  (flatMap_parts_owner hvrp .profile f).trans (List.map_map ..)

variable (hvrp : vendor.isVrp)
  (hpeers : vendor = .huawei → ∀ p ∈ s.namedProfiles, ∃ peer, s.huaweiPeer p = .ok peer)

include hvrp hpeers

private theorem contents_owner (r : Reference) :
    View.contents (r.owner vendor) (r.keyword vendor)
        (Draft.ofEntries ((s.parts vendor acls).flatMap View.Part.entries)).body =
      (s.referrers r).map fun referrer => (referrer.1, referrer.2.filterMap (s.target? r)) := by
  have hmem : r.owner vendor ∈ openings vendor := by
    cases vendor with
    | h3c | huawei => cases r <;> decide
    | cisco | generic => cases hvrp
  rw [contents_parts hvrp hpeers hmem, flatMap_parts_owner hvrp]
  cases r with
  | keychain =>
    rw [ownerViews, referrers, List.map_map, List.map_map]
    refine List.map_congr_left fun p hp => congrArg (p.name, ·) ?_
    exact (readsView_profileBlock hvrp fun hhuawei => hpeers hhuawei p hp).2 .keychain
  | transformSet =>
    rw [ownerViews, referrers, List.map_map, List.map_map]
    refine List.map_congr_left fun p _ => congrArg (policyLabel p, ·) ?_
    exact (readsView_policyBlock hvrp s acls p).2 .transformSet
  | profile =>
    rw [ownerViews, referrers, List.map_map, List.map_map]
    refine List.map_congr_left fun p _ => congrArg (policyLabel p, ·) ?_
    exact (readsView_policyBlock hvrp s acls p).2 .profile

private theorem filterMap_definer (r : Reference) :
    (Draft.ofEntries ((s.parts vendor acls).flatMap View.Part.entries)).body.filterMap
        (after? (r.definer vendor)) = s.definitions r := by
  have hmem : r.definer vendor ∈ openings vendor := by
    cases vendor with
    | h3c | huawei => cases r <;> decide
    | cisco | generic => cases hvrp
  rw [← View.map_fst_contents _ (r.keyword vendor), contents_parts hvrp hpeers hmem,
    flatMap_parts_definer hvrp, List.map_map]
  cases r with
  | keychain | transformSet | profile => exact List.map_map

private theorem filterMap_policy :
    (Draft.ofEntries ((s.parts vendor acls).flatMap View.Part.entries)).body.filterMap
        (after? "ipsec policy ") = s.completePolicies.map policyLabel := by
  have hmem : "ipsec policy " ∈ openings vendor := List.mem_of_getElem? (i := 3) rfl
  rw [← View.map_fst_contents _ (Reference.profile.keyword vendor),
    contents_parts hvrp hpeers hmem, flatMap_parts_policy hvrp, List.map_map]
  rfl

end Text

/-- The commands of IPsec, read. -/
theorem exists_lines_of_render_eq_ok {s : Ipsec} {vendor : Vendor} {acls : Acls}
    {fragment : Fragment} (hvrp : vendor.isVrp) (h : s.render vendor acls = .ok fragment) :
    ∃ lines, fragment.cli = Text.unlines lines ∧
      (∀ r : Reference, View.contents (r.owner vendor) (r.keyword vendor) lines =
        (s.active.referrers r).map fun referrer =>
          (referrer.1, referrer.2.filterMap (s.active.target? r))) ∧
      (∀ r : Reference, lines.filterMap (after? (r.definer vendor)) = s.active.definitions r) ∧
      lines.filterMap (after? "ipsec policy ") = s.active.completePolicies.map policyLabel := by
  unfold render at h
  rw [active]
  cases henabled : s.enabled with
  | false =>
    rw [henabled] at h
    obtain rfl := Except.ok.inj h
    refine ⟨[], rfl, fun r => ?_, fun r => ?_, rfl⟩
    · cases r <;> rfl
    · cases r <;> rfl
  | true =>
    have hparts : ∃ entries, fragment.cli = Text.unlines (Draft.ofEntries entries).body ∧
        entries = (s.parts vendor acls).flatMap View.Part.entries ∧
        (vendor = .huawei → ∀ p ∈ s.namedProfiles, ∃ peer, s.huaweiPeer p = .ok peer) := by
      rw [henabled, if_neg (by decide)] at h
      cases vendor with
      | h3c =>
        obtain rfl := Except.ok.inj h
        exact ⟨_, Fragment.cli_ofEntries _ _ _, h3cEntries_eq_parts, fun hhuawei => nomatch hhuawei⟩
      | huawei =>
        obtain ⟨entries, hentries, hfinish⟩ := Outcome.bind_eq_ok_iff.mp h
        obtain rfl := Except.ok.inj hfinish
        obtain ⟨hall, hpeers⟩ := of_huaweiEntries_eq_ok hentries
        exact ⟨entries, Fragment.cli_ofEntries _ _ _, hall, fun _ => hpeers⟩
      | cisco | generic => cases hvrp
    obtain ⟨_, hcli, rfl, hpeers⟩ := hparts
    exact ⟨_, hcli, contents_owner hvrp hpeers, filterMap_definer hvrp hpeers,
      filterMap_policy hvrp hpeers⟩

end Ipsec
end Netscribe
