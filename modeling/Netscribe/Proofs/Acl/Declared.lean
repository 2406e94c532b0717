import Netscribe.Proofs.Acl.References
import Netscribe.Topology.Parse
/-!
Which references to ACLs are declared before they are used. The section of the ACLs comes before
every section that refers to one, but not every reference names what a header gives.
-/
namespace Netscribe.Node

/-- Whether a reference in a block of a script says something that an ACL header declares, in the
    same form and in an earlier block. -/
def DeclaresBefore (node : Node) (script block : String) (ref : AclRef) : Prop :=
  ref.text ≠ "" ∧ ∃ a ∈ node.config.acl.declared, ref ∈ a.headerRefs node.vendor ∧
    Text.HasPart (a.header node.vendor) (ref.phrase node.vendor) ∧
    Text.HasLines (node.config.acl.render node.vendor).cli [a.header node.vendor] ∧
    Text.HasLines script [Section.block "ACL" (node.config.acl.render node.vendor).cli, block]

variable {node : Node} {connections : List Connection} {s : Section} {line : String} {ref : AclRef}

/-- Whether a number that a Huawei device refers to is that of a list without a name. The headers of
    its other lists do not give the number. -/
def HasHeaderFor (node : Node) (ref : AclRef) : Prop :=
  node.vendor = .huawei → ∀ number, ref = .number number →
    ∃ a ∈ node.config.acl.acls, a.name = "" ∧ a.number = number

namespace CitesAcl

/-- Every reference is to a list of the device, by its label or, where IPsec and NAT have commands,
    by its number. -/
theorem exists_acl (h : node.CitesAcl s line ref) :
    ∃ a ∈ node.config.acl.acls,
      ref = a.labelRef ∨ node.vendor.isVrp ∧ ref = .number a.number := by
  cases h with
  | vlanInterface _ ha | routedPort _ _ ha => exact ⟨_, Acls.mem_of_find? ha, .inl rfl⟩
  | ipsecPolicy hvrp _ ha => exact ⟨_, Acls.mem_of_find? ha, .inr ⟨hvrp, rfl⟩⟩
  | natStatic hh3c _ _ _ _ ha | natServer hh3c _ _ _ _ ha =>
    rw [hh3c]
    exact ⟨_, Acls.mem_of_find? ha, .inr ⟨rfl, rfl⟩⟩

/-- Where ACLs are enabled, a reference that is not empty is declared, on Huawei devices if a list
    has it in the same form. -/
theorem exists_declared (h : node.CitesAcl s line ref) (hon : node.config.acl.enabled)
    (hset : ref.text ≠ "") (hheader : node.HasHeaderFor ref) :
    ∃ a ∈ node.config.acl.declared, ref ∈ a.headerRefs node.vendor := by
  obtain ⟨a, ha, hlabel | ⟨hvrp, hnumber⟩⟩ := h.exists_acl
  · rw [hlabel] at hset ⊢
    refine ⟨a, Acls.mem_declared_iff.mpr ⟨hon, ha, ?_⟩, Acl.labelRef_mem_headerRefs _ hset⟩
    by_cases hname : a.name = ""
    · rw [Acl.labelRef_of_name_eq hname] at hset
      exact .inl hset
    · exact .inr hname
  · rw [hnumber] at hset ⊢
    cases hvendor : node.vendor with
    | huawei =>
      obtain ⟨b, hb, hname, heq⟩ := hheader hvendor a.number hnumber
      refine ⟨b, Acls.mem_declared_iff.mpr ⟨hon, hb, .inl ?_⟩, ?_⟩
      · rw [heq]
        exact hset
      · exact Acl.number_mem_headerRefs_huawei_iff.mpr ⟨hname, heq⟩
    | h3c =>
      refine ⟨a, Acls.mem_declared_iff.mpr ⟨hon, ha, .inl hset⟩, ?_⟩
      exact Acl.number_mem_headerRefs_h3c hset
    | cisco | generic =>
      rw [hvendor] at hvrp
      cases hvrp

end CitesAcl

/-- A reference to an ACL stands in the block of its section. It is declared before exactly if ACLs
    are enabled, the name or number that the line uses is set, and, on a Huawei device, a number is
    that of a list without a name. -/
theorem compile_declares_cited_acl_iff {script : String} {fragment : Fragment}
    (hvendor : node.vendor ≠ .generic) (h : node.compile connections = .ok script)
    (henabled : s.enabled node) (hrender : s.render node connections = .ok fragment)
    (hcites : node.CitesAcl s line ref) :
    Text.HasLines script [Section.block s.title fragment.cli] ∧
    Text.HasLines fragment.cli [line] ∧ Text.HasPart line s!" {ref.text}" ∧
    (node.DeclaresBefore script (Section.block s.title fragment.cli) ref ↔
      node.config.acl.enabled ∧ ref.text ≠ "" ∧ node.HasHeaderFor ref) := by
  have hline := hcites.hasLines hvendor henabled hrender
  have hdrop := hcites.mem_drop
  have hshown := Section.isShown_of_hasLines henabled hrender hline hcites.allBlank_eq_false
  refine ⟨?_, hline, hcites.hasPart hvendor, ?_, ?_⟩
  · rw [← Section.headed_eq hrender]
    refine hasLines_compile hvendor h (List.cons_ne_nil s []) ?_ ?_
    · exact List.singleton_sublist.mpr (List.mem_of_mem_drop hdrop)
    · exact List.forall_mem_singleton.mpr hshown
  · rintro ⟨hset, a, ha, href, _⟩
    obtain ⟨hon, hmem, _⟩ := Acls.mem_declared_iff.mp ha
    refine ⟨hon, hset, ?_⟩
    rintro hhuawei number rfl
    rw [hhuawei] at href
    exact ⟨a, hmem, Acl.number_mem_headerRefs_huawei_iff.mp href⟩
  · rintro ⟨hon, hset, hheader⟩
    obtain ⟨a, ha, href⟩ := hcites.exists_declared hon hset hheader
    have hlines := Acls.hasLines_render hvendor ha
    have haclOn : Section.acl.enabled node := hon
    have haclShown : Section.acl.isShown node connections :=
      Section.isShown_of_hasLines haclOn rfl hlines (Acl.allBlank_header _ _)
    refine ⟨hset, a, ha, href, Acl.hasPart_header href, hlines, ?_⟩
    rw [← Section.headed_eq hrender]
    refine hasLines_compile hvendor h (List.cons_ne_nil Section.acl [s])
      (Section.sublist_all_of_mem_drop hdrop) ?_
    exact List.forall_mem_cons.mpr ⟨haclShown, List.forall_mem_singleton.mpr hshown⟩

/-- The number that an IPsec policy refers to, in the header of its list. -/
theorem compile_declares_cited_acl_of_ipsec_policy :
    let acl : Acl := { id := "a1", number := "3000" }
    let policy : IpsecPolicy := { id := "q1", name := "P1", seqNumber := "10", aclId := "a1" }
    let node : Node :=
      { id := "n1"
        vendor := .h3c
        config :=
          { acl := { enabled := true, acls := [acl] }
            ipsec := { enabled := true, policies := [policy] } } }
    ∃ script fragment, node.compile [] = .ok script ∧
      Section.ipsec.render node [] = .ok fragment ∧
      Text.HasLines fragment.cli [" security acl 3000"] ∧
      node.DeclaresBefore script (Section.block "IPsec" fragment.cli) (.number "3000") := by
  intro acl policy node
  obtain ⟨script, hcompile⟩ : ∃ script, node.compile [] = .ok script := ⟨_, rfl⟩
  obtain ⟨fragment, hrender⟩ : ∃ fragment, Section.ipsec.render node [] = .ok fragment := ⟨_, rfl⟩
  have hpolicy : policy ∈ node.config.ipsec.completePolicies := by
    rw [Ipsec.completePolicies]
    exact List.mem_filter.mpr ⟨List.mem_cons_self, by decide⟩
  have hcites : node.CitesAcl .ipsec s!" security acl {acl.number}" (.number acl.number) :=
    .ipsecPolicy rfl hpolicy rfl
  obtain ⟨_, hline, _, hdeclared⟩ :=
    compile_declares_cited_acl_iff (by decide) hcompile rfl hrender hcites
  exact ⟨script, fragment, hcompile, hrender, hline,
    hdeclared.mpr ⟨rfl, by decide, fun h => nomatch h⟩⟩

/-- A policy refers by its number to a list that has nothing but a name. -/
theorem compile_cites_named_acl_by_number :
    let acl : Acl := { id := "a1", name := "VPN" }
    let policy : IpsecPolicy := { id := "q1", name := "P1", seqNumber := "10", aclId := "a1" }
    let node : Node :=
      { id := "n1"
        vendor := .h3c
        config :=
          { acl := { enabled := true, acls := [acl] }
            ipsec := { enabled := true, policies := [policy] } } }
    Node.parse (.object [("id", .text "n1"), ("vendor", .text "H3C"), ("config", .object [
      ("acl", .object [("enabled", .flag true), ("acls", .list [.object [
        ("id", .text "a1"), ("name", .text "VPN")]])]),
      ("ipsec", .object [("enabled", .flag true), ("policies", .list [.object [
        ("id", .text "q1"), ("name", .text "P1"), ("seqNumber", .text "10"),
        ("aclId", .text "a1")]])])])]) = .ok node ∧
    ∃ script, node.compile [] = .ok script ∧
      Text.HasLines script
        [Section.block "IPsec" "ipsec policy P1 10 isakmp\n security acl \nquit"] ∧
      node.CitesAcl .ipsec " security acl " (.number "") ∧
      ∀ block, ¬ node.DeclaresBefore script block (.number "") := by
  intro acl policy node
  obtain ⟨script, hcompile⟩ : ∃ script, node.compile [] = .ok script := ⟨_, rfl⟩
  have htext : Section.ipsec.text node [] =
      "ipsec policy P1 10 isakmp\n security acl \nquit" := by
    decide +kernel
  have hshown : Section.ipsec.isShown node [] := by
    rw [Section.isShown, htext]
    decide +kernel
  have hblocks := hasLines_compile (by decide) hcompile (List.cons_ne_nil Section.ipsec [])
    (List.singleton_sublist.mpr (List.mem_of_getElem? (i := 7) rfl))
    (List.forall_mem_singleton.mpr hshown)
  rw [List.map_singleton, Section.headed, htext] at hblocks
  have hcites : node.CitesAcl .ipsec " security acl " (.number "") :=
    @CitesAcl.ipsecPolicy node policy acl rfl List.mem_cons_self rfl
  exact ⟨rfl, script, hcompile, hblocks, hcites, fun block h => h.1 rfl⟩

end Netscribe.Node
