import Netscribe.Acl.Commands
import Netscribe.ObjectGroup.Commands
import Netscribe.Proofs.Schema.Texts
import Netscribe.Proofs.View.Entries
import Netscribe.TimeRange.Commands
import Netscribe.Zone.Commands
/-!
The views of what traffic is filtered by: access control lists, time ranges, groups of objects, and
zones with the policies between them.
-/
namespace Netscribe

open Text (IsOneLine opensCommand opensIndented)

private theorem TcpFlags.isOneLine_of_mem_names {f : TcpFlags} {name : String}
    (h : name ∈ f.names) :
    IsOneLine name := by
  have hall : ∀ flag ∈ ["ack", "fin", "psh", "rst", "syn", "urg"], IsOneLine flag := by decide
  obtain ⟨flag, hflag, rfl⟩ := List.mem_map.mp h
  exact hall _ (List.mem_map_of_mem (f := Prod.fst) (List.mem_of_mem_filter hflag))

namespace AclRule

section Parts

variable {keyword operator low high address wildcard : String}

private theorem isOneLine_portMatch (hoperator : IsOneLine operator) (hlow : IsOneLine low)
    (hhigh : IsOneLine high) : IsOneLine (portMatch operator low high) := by
  simp +decide [portMatch, hoperator, hlow, hhigh]

private theorem isOneLine_vrpPorts (hkeyword : IsOneLine keyword) (hoperator : IsOneLine operator)
    (hlow : IsOneLine low) (hhigh : IsOneLine high) :
    IsOneLine (vrpPorts keyword operator low high) := by
  have hmatch := isOneLine_portMatch hoperator hlow hhigh
  simp +decide [vrpPorts, hkeyword, hmatch]

private theorem isOneLine_vrpAddress (hkeyword : IsOneLine keyword) (haddress : IsOneLine address)
    (hwildcard : IsOneLine wildcard) (isAny : Bool) :
    IsOneLine (vrpAddress keyword isAny address wildcard) := by
  simp +decide [vrpAddress, hkeyword, haddress, hwildcard]

private theorem isOneLine_ciscoAddress (haddress : IsOneLine address)
    (hwildcard : IsOneLine wildcard)
    (isAny : Bool) : IsOneLine (ciscoAddress isAny address wildcard) := by
  simp +decide [ciscoAddress, haddress, hwildcard]

end Parts

variable (r : AclRule)

private theorem isOneLine_vrpFlags (vendor : Vendor) : IsOneLine (r.vrpFlags vendor) := by
  have hnames : IsOneLine (Text.unwords r.tcpFlags.names) :=
    Text.isOneLine_unwords.mpr fun _ => TcpFlags.isOneLine_of_mem_names
  have hset : IsOneLine (String.join (r.tcpFlags.names.map fun flag => s!" {flag} 1")) := by
    refine Text.isOneLine_concat.mpr (List.forall_mem_map.mpr fun flag hflag => ?_)
    simp +decide [TcpFlags.isOneLine_of_mem_names hflag]
  simp +decide [vrpFlags, hnames, hset]

private theorem isOneLine_ciscoFlags : IsOneLine r.ciscoFlags := by
  have hnames : IsOneLine (Text.unwords (r.tcpFlags.names.map ("+" ++ ·))) := by
    refine Text.isOneLine_unwords.mpr (List.forall_mem_map.mpr fun flag hflag => ?_)
    simp +decide [TcpFlags.isOneLine_of_mem_names hflag]
  simp +decide [ciscoFlags, hnames]

private theorem opensIndented_vrpLine (vendor : Vendor) (basic : Bool) :
    opensIndented (r.vrpLine vendor basic) := by
  simp +decide [vrpLine]

private theorem opensIndented_ciscoLine (basic : Bool) : opensIndented (r.ciscoLine basic) := by
  simp +decide [ciscoLine]

variable {r}

private theorem isOneLine_vrpLine (h : IsPlain r) (vendor : Vendor) (basic : Bool) :
    IsOneLine (r.vrpLine vendor basic) := by
  rw [isPlain_record] at h
  simp [fields] at h
  simp +decide [vrpLine, vrpAdvanced, vrpSource, vrpDestination, isOneLine_vrpAddress,
    isOneLine_vrpPorts, isOneLine_vrpFlags, vrpOptions, icmp, vrpTtl, explicitId, h]

private theorem isOneLine_ciscoAdvanced (h : IsPlain r) : IsOneLine r.ciscoAdvanced := by
  rw [isPlain_record] at h
  simp [fields] at h
  unfold ciscoAdvanced
  simp +decide [ciscoSource, ciscoDestination, isOneLine_ciscoAddress, isOneLine_portMatch,
    isOneLine_ciscoFlags, icmp, h]

private theorem isOneLine_ciscoLine (h : IsPlain r) (basic : Bool) :
    IsOneLine (r.ciscoLine basic) := by
  have hadvanced := isOneLine_ciscoAdvanced h
  rw [isPlain_record] at h
  simp [fields] at h
  simp +decide [ciscoLine, hadvanced, ciscoSource, isOneLine_ciscoAddress, explicitId, h]

private theorem isOneLine_description (h : IsPlain r) : IsOneLine r.description := by
  rw [isPlain_record] at h
  simp [fields] at h
  simp [h]

private theorem areInside_huaweiDescription (h : IsPlain r) :
    AreInside (Acl.huaweiDescription r) := by
  rw [isPlain_record] at h
  simp [fields] at h
  simp +decide [Acl.huaweiDescription, explicitId, h]

end AclRule

namespace Acl

variable {a : Acl}

private theorem opensCommand_h3cHeader (a : Acl) : opensCommand a.h3cHeader := by
  refine Text.opensCommand_append _ (Text.opensCommand_ite.mpr ⟨fun _ => ?_, fun _ => ?_⟩)
  · simp +decide
  · simp +decide

private theorem settled_h3cEntries (h : IsPlain a) : Settled .h3c a.h3cEntries := by
  rw [isPlain_record] at h
  simp [fields] at h
  have hrules : AreInside (a.rules.flatMap fun r =>
      onlyIf (r.description ≠ "") [.comment r.description " #"]
        ++ [command (r.vrpLine .h3c a.isBasic)]) := by
    refine .flatMap fun r hr => ?_
    have hplain : IsPlain r := by simp [h, hr]
    simp [AclRule.isOneLine_description hplain, AclRule.isOneLine_vrpLine hplain,
      AclRule.opensIndented_vrpLine]
  have hheader : IsOneLine a.h3cHeader := by
    simp +decide [h3cHeader, h]
  refine .block ?_
  simp +decide [opensCommand_h3cHeader, hheader, stepEntries, h, ↓hrules]

private theorem settled_huaweiEntries (h : IsPlain a) : Settled .huawei a.huaweiEntries := by
  rw [isPlain_record] at h
  simp [fields] at h
  have hrules : AreInside (a.rules.flatMap fun r =>
      command (r.vrpLine .huawei a.isBasic) :: huaweiDescription r) := by
    refine .flatMap fun r hr => ?_
    have hplain : IsPlain r := by simp [h, hr]
    simp [AclRule.isOneLine_vrpLine hplain, AclRule.opensIndented_vrpLine,
      AclRule.areInside_huaweiDescription hplain]
  have hheader : a.huaweiHeader.IsCommand := by
    rw [huaweiHeader]
    split
    · simp +decide [h]
    · simp +decide [h]
  refine .block (((Opens.of_command hheader ?_).append ?_).append hrules)
  · simp +decide [h]
  · simp +decide [stepEntries, h]

private theorem settled_ciscoEntries (h : IsPlain a) : Settled .cisco a.ciscoEntries := by
  rw [isPlain_record] at h
  simp [fields] at h
  have hrules : AreInside (a.rules.flatMap fun r =>
      onlyIf (r.description ≠ "") [command s!" remark {r.description}"]
        ++ [command (r.ciscoLine a.isBasic)]) := by
    refine .flatMap fun r hr => ?_
    have hplain : IsPlain r := by simp [h, hr]
    simp +decide [AclRule.isOneLine_description hplain, AclRule.isOneLine_ciscoLine hplain,
      AclRule.opensIndented_ciscoLine]
  refine .block ?_
  simp +decide [label, h, ↓hrules]

end Acl

/-- The access lists of plain settings are tidy. -/
theorem Acls.isTidy_render {acls : Acls} (h : IsPlain acls) (vendor : Vendor) :
    (acls.render vendor).IsTidy vendor := by
  rw [isPlain_record] at h
  simp [fields] at h
  have hentries {block : Acl → List Entry}
      (hblock : ∀ a, IsPlain a → Settled vendor (block a)) :
      Settled vendor (acls.entries block) := by
    refine .flatMap fun a ha => .cons_aside Entry.isAside_blank (hblock a ?_)
    simp [h, List.mem_of_mem_filter ha]
  unfold render
  split
  · exact Fragment.isTidy_nothing vendor _
  · cases vendor with
    | cisco => exact (hentries fun _ => Acl.settled_ciscoEntries).isTidy_ofEntries _ _
    | huawei => exact (hentries fun _ => Acl.settled_huaweiEntries).isTidy_ofEntries _ _
    | h3c => exact (hentries fun _ => Acl.settled_h3cEntries).isTidy_ofEntries _ _
    | generic => exact Fragment.isTidy_unsupported _ (by decide) (by decide)

namespace DaySelection

/-- The words for days are fixed, whatever the device calls them. -/
theorem isOneLine_of_mem_chosen {d : DaySelection} {day : String} (h : day ∈ d.chosen) :
    IsOneLine (Text.capitalize day) ∧ IsOneLine (abbreviation day) ∧
      IsOneLine (Text.capitalize (abbreviation day)) := by
  have hall : ∀ day ∈
      ["monday", "tuesday", "wednesday", "thursday", "friday", "saturday", "sunday"],
      IsOneLine (Text.capitalize day) ∧ IsOneLine (abbreviation day) ∧
        IsOneLine (Text.capitalize (abbreviation day)) := by decide +kernel
  obtain ⟨choice, hchoice, rfl⟩ := List.mem_map.mp h
  exact hall _ (List.mem_map_of_mem (f := Prod.fst) (List.mem_of_mem_filter hchoice))

private theorem isOneLine_spec (vendor : Vendor) (d : DaySelection) :
    IsOneLine (d.spec vendor) := by
  have hwords {form : String → String} (h : ∀ day ∈ d.chosen, IsOneLine (form day)) :
      IsOneLine (Text.unwords (d.chosen.map form)) :=
    Text.isOneLine_unwords.mpr (List.forall_mem_map.mpr h)
  have hfull := hwords fun day hday => (isOneLine_of_mem_chosen hday).1
  have hshort := hwords fun day hday => (isOneLine_of_mem_chosen hday).2.1
  have hcapital := hwords fun day hday => (isOneLine_of_mem_chosen hday).2.2
  unfold spec
  cases vendor <;> simp +decide [hfull, hshort, hcapital]

end DaySelection

namespace TimeRange

variable {r : TimeRange}

private theorem isOneLine_periodicDays (vendor : Vendor) (r : TimeRange) :
    IsOneLine (r.periodicDays vendor) := by
  unfold periodicDays
  simp +decide [DaySelection.isOneLine_spec]

private theorem isOneLine_slashed {date : String} (h : IsOneLine date) : IsOneLine (slashed date) :=
  h.replaceChar (by decide)

private theorem isOneLine_monthName (d : Date) : IsOneLine d.monthName := by
  have hall : ∀ name ∈ Date.monthNames, IsOneLine name := by decide
  rw [Date.monthName, List.getD_eq_getElem?_getD]
  cases hname : Date.monthNames[d.month - 1]? with
  | none => decide
  | some name => exact hall name (List.mem_of_getElem? hname)

private theorem isOneLine_ciscoMoment {time : String} (h : IsOneLine time) (date : String) :
    IsOneLine (ciscoMoment time date) := by
  rw [ciscoMoment]
  split
  · simp +decide [Text.isOneLine_padded, isOneLine_monthName, h]
  · decide

private theorem isOneLine_times (h : IsPlain r) :
    (IsOneLine r.name ∧ IsOneLine r.periodic.startTime ∧ IsOneLine r.periodic.endTime) ∧
      (IsOneLine r.absolute.fromTime ∧ IsOneLine r.absolute.fromDate) ∧
      IsOneLine r.absolute.toTime ∧ IsOneLine r.absolute.toDate := by
  rw [isPlain_record] at h
  simp [fields] at h
  obtain ⟨hname, hperiodic, habsolute, -⟩ := h
  rw [isPlain_record] at hperiodic habsolute
  simp [PeriodicTime.fields] at hperiodic
  simp [AbsoluteTime.fields] at habsolute
  simp [hname, hperiodic, habsolute]

private theorem isOneLine_vrpLine (h : IsPlain r) (vendor : Vendor) :
    IsOneLine (r.vrpLine vendor) := by
  obtain ⟨⟨hname, hstart, hend⟩, ⟨hfromTime, hfromDate⟩, htoTime, htoDate⟩ := isOneLine_times h
  have hdays := isOneLine_periodicDays vendor r
  unfold vrpLine
  refine Text.isOneLine_ite.mpr ⟨fun _ => by decide, fun _ => ?_⟩
  simp +decide [hname, hstart, hend, hdays, hfromTime, htoTime, isOneLine_slashed hfromDate,
    isOneLine_slashed htoDate]

private theorem opensCommand_vrpLine {vendor : Vendor} (h : r.vrpLine vendor ≠ "") :
    opensCommand (r.vrpLine vendor) := by
  unfold vrpLine at h ⊢
  dsimp only at h ⊢
  split
  next hnone => exact absurd (if_pos hnone) h
  next => simp +decide

private theorem settled_vrpEntries (h : IsPlain r) (vendor : Vendor) :
    Settled vendor (r.vrpEntries vendor) := by
  refine .onlyIf fun hline => .cons_command ?_ .nil
  simp [isOneLine_vrpLine h, opensCommand_vrpLine hline]

private theorem areInside_ciscoBody (h : IsPlain r) : AreInside r.ciscoBody := by
  obtain ⟨⟨_, hstart, hend⟩, ⟨hfromTime, _⟩, htoTime, _⟩ := isOneLine_times h
  have hdays := isOneLine_periodicDays .cisco r
  have hfrom := isOneLine_ciscoMoment hfromTime r.absolute.fromDate
  have hto := isOneLine_ciscoMoment htoTime r.absolute.toDate
  unfold ciscoBody
  simp +decide [hdays, hstart, hend, hfrom, hto]

private theorem settled_ciscoEntries (h : IsPlain r) : Settled .cisco r.ciscoEntries := by
  have hname := (isOneLine_times h).1.1
  have hbody := areInside_ciscoBody h
  rw [ciscoEntries]
  split
  · exact .nil
  · refine .block ?_
    simp +decide [hname, hbody]

/-- The time ranges of plain settings are tidy. -/
theorem isTidy_render {ranges : List TimeRange} (h : ∀ r ∈ ranges, IsPlain r) (vendor : Vendor) :
    (render vendor ranges).IsTidy vendor := by
  have hentries {block : TimeRange → List Entry}
      (hblock : ∀ r, IsPlain r → Settled vendor (block r)) :
      Settled vendor ((ranges.filter (·.name ≠ "")).flatMap block) :=
    .flatMap fun r hr => hblock r (h r (List.mem_of_mem_filter hr))
  unfold render
  dsimp only
  split
  · exact Fragment.isTidy_nothing vendor _
  · cases vendor with
    | generic => exact Fragment.isTidy_unsupported _ (by decide) (by decide)
    | cisco => exact (hentries fun _ => settled_ciscoEntries).isTidy_ofEntries _ _
    | huawei => exact (hentries fun _ hr => settled_vrpEntries hr _).isTidy_ofEntries _ _
    | h3c => exact (hentries fun _ hr => settled_vrpEntries hr _).isTidy_ofEntries _ _

end TimeRange

namespace AddressMember

variable {m : AddressMember}

private theorem areInside_huaweiEntries (h : IsPlain m) (index : Nat) :
    AreInside (m.huaweiEntries index) := by
  rw [isPlain_record] at h
  simp [fields] at h
  simp +decide [huaweiEntries, maskOr, h]

private theorem areInside_h3cEntries (h : IsPlain m) (index : Nat) :
    AreInside (m.h3cEntries index) := by
  rw [isPlain_record] at h
  simp [fields] at h
  simp +decide [h3cEntries, maskOr, h]

private theorem areInside_ciscoEntries (h : IsPlain m) : AreInside m.ciscoEntries := by
  rw [isPlain_record] at h
  simp [fields] at h
  simp +decide [ciscoEntries, maskOr, h]

end AddressMember

namespace ServiceMember

variable {m : ServiceMember} {keyword operator low high : String}

private theorem isOneLine_portClause (hkeyword : IsOneLine keyword) (hoperator : IsOneLine operator)
    (hlow : IsOneLine low) (hhigh : IsOneLine high) :
    IsOneLine (portClause keyword operator low high) := by
  simp +decide [portClause, hkeyword, hoperator, hlow, hhigh]

private theorem isOneLine_clauses (h : IsPlain m) (hkeyword : IsOneLine keyword) :
    IsOneLine (m.sourceClause keyword) ∧ IsOneLine (m.destinationClause keyword) := by
  rw [isPlain_record] at h
  simp [fields] at h
  simp [sourceClause, destinationClause, isOneLine_portClause, hkeyword, h]

private theorem isOneLine_body {source destination : String} (h : IsPlain m)
    (hsource : IsOneLine source)
    (hdestination : IsOneLine destination) : IsOneLine (m.body source destination) := by
  have hsource := (isOneLine_clauses h hsource).1
  have hdestination := (isOneLine_clauses h hdestination).2
  rw [isPlain_record] at h
  simp [fields] at h
  simp +decide [body, hsource, hdestination, h]

private theorem areInside_ciscoEntries (h : IsPlain m) : AreInside m.ciscoEntries := by
  have hsource : IsOneLine (m.sourceClause "source") := (isOneLine_clauses h (by decide)).1
  have hdestination : IsOneLine (m.destinationClause "") := (isOneLine_clauses h (by decide)).2
  rw [isPlain_record] at h
  simp [fields] at h
  simp +decide [ciscoEntries, hsource, hdestination, h]

end ServiceMember

private theorem areInside_quotedDescription {text : String} (h : IsOneLine text) :
    AreInside (quotedDescription text) := by
  simp +decide [quotedDescription, h]

private theorem areInside_plainDescription {text : String} (h : IsOneLine text) :
    AreInside (plainDescription text) := by
  simp +decide [plainDescription, h]

namespace AddressGroup

variable {g : AddressGroup}

private theorem isPlain_of_mem_members (h : IsPlain g) {m : AddressMember} (hm : m ∈ g.members) :
    IsPlain m := by
  rw [isPlain_record] at h
  simp [fields] at h
  simp [h, hm]

private theorem areInside_huaweiMembers (h : IsPlain g) :
    AreInside ((numbered 0 g.members).flatMap fun (i, m) => m.huaweiEntries i) :=
  .flatMap fun _ hm =>
    AddressMember.areInside_huaweiEntries (isPlain_of_mem_members h (mem_of_mem_numbered hm)) _

private theorem areInside_h3cMembers (h : IsPlain g) :
    AreInside ((numbered 1 g.members).flatMap fun (i, m) => m.h3cEntries i) :=
  .flatMap fun _ hm =>
    AddressMember.areInside_h3cEntries (isPlain_of_mem_members h (mem_of_mem_numbered hm)) _

private theorem settled_huaweiEntries (h : IsPlain g) : Settled .huawei g.huaweiEntries := by
  have hmembers := areInside_huaweiMembers h
  rw [isPlain_record] at h
  simp [fields] at h
  refine .block ?_
  simp +decide [areInside_quotedDescription, ↓hmembers, h]

private theorem settled_h3cEntries (h : IsPlain g) : Settled .h3c g.h3cEntries := by
  have hmembers := areInside_h3cMembers h
  rw [isPlain_record] at h
  simp [fields] at h
  refine .block ?_
  simp +decide [areInside_quotedDescription, ↓hmembers, h]

private theorem settled_ciscoEntries (h : IsPlain g) : Settled .cisco g.ciscoEntries := by
  have hmembers : AreInside (g.members.flatMap AddressMember.ciscoEntries) :=
    .flatMap fun _ hm => AddressMember.areInside_ciscoEntries (isPlain_of_mem_members h hm)
  rw [isPlain_record] at h
  simp [fields] at h
  refine .block ?_
  simp +decide [areInside_plainDescription, ↓hmembers, h]

end AddressGroup

namespace ServiceGroup

variable {g : ServiceGroup}

private theorem isPlain_of_mem_members (h : IsPlain g) {m : ServiceMember} (hm : m ∈ g.members) :
    IsPlain m := by
  rw [isPlain_record] at h
  simp [fields] at h
  simp [h, hm]

private theorem areInside_huaweiMembers (h : IsPlain g) :
    AreInside ((numbered 0 g.members).map fun (i, m) =>
      command (s!" service {i} protocol" ++ m.body "source-port" "destination-port")) := by
  refine .map fun m hm => ?_
  have hplain := isPlain_of_mem_members h (mem_of_mem_numbered hm)
  simp +decide [ServiceMember.isOneLine_body hplain]

private theorem areInside_h3cMembers (h : IsPlain g) :
    AreInside ((numbered 1 g.members).map fun (i, m) =>
      command (s!" {i} service" ++ m.body "source" "destination")) := by
  refine .map fun m hm => ?_
  have hplain := isPlain_of_mem_members h (mem_of_mem_numbered hm)
  simp +decide [ServiceMember.isOneLine_body hplain]

private theorem settled_huaweiEntries (h : IsPlain g) : Settled .huawei g.huaweiEntries := by
  have hmembers := areInside_huaweiMembers h
  rw [isPlain_record] at h
  simp [fields] at h
  refine .block ?_
  simp +decide [areInside_quotedDescription, ↓hmembers, h]

private theorem settled_h3cEntries (h : IsPlain g) : Settled .h3c g.h3cEntries := by
  have hmembers := areInside_h3cMembers h
  rw [isPlain_record] at h
  simp [fields] at h
  refine .block ?_
  rw [creation]
  simp +decide [areInside_quotedDescription, ↓hmembers, h]

private theorem settled_ciscoEntries (h : IsPlain g) : Settled .cisco g.ciscoEntries := by
  have hmembers : AreInside (g.members.flatMap ServiceMember.ciscoEntries) :=
    .flatMap fun _ hm => ServiceMember.areInside_ciscoEntries (isPlain_of_mem_members h hm)
  rw [isPlain_record] at h
  simp [fields] at h
  refine .block ?_
  rw [creation]
  simp +decide [areInside_plainDescription, ↓hmembers, h]

end ServiceGroup

namespace DomainGroup

variable {g : DomainGroup}

private theorem settled_huaweiEntries (h : IsPlain g) : Settled .huawei g.huaweiEntries := by
  rw [isPlain_record] at h
  simp [fields] at h
  have hmembers : AreInside ((g.members.filter (·.name ≠ "")).map fun m =>
      command s!" add domain {m.name}") := by
    refine .map fun m hm => ?_
    have hplain : IsPlain m := by simp [h, List.mem_of_mem_filter hm]
    rw [isPlain_record] at hplain
    simp [DomainMember.fields] at hplain
    simp +decide [hplain]
  refine .block ?_
  simp +decide [areInside_quotedDescription, ↓hmembers, h]

private theorem isPlain_asAddressGroup (h : IsPlain g) : IsPlain g.asAddressGroup := by
  have hempty : IsOneLine "" := by decide
  have hkind : IsOneLine "host-name" := by decide
  rw [isPlain_record] at h ⊢
  simp [fields] at h
  simp [AddressGroup.fields, asAddressGroup, h]
  intro m hm
  have hplain : IsPlain m := by simp [h, hm]
  rw [isPlain_record] at hplain ⊢
  simp [DomainMember.fields] at hplain
  simp [AddressMember.fields, hplain, hempty, hkind]

end DomainGroup

namespace ObjectGroups

variable {o : ObjectGroups} {vendor : Vendor}

private theorem settled_groupSection {marker title : String} {entries : List Entry}
    (hmarker : Text.startsRemark marker) (hline : IsOneLine marker) (htitle : IsOneLine title)
    (enabled : Bool) (h : Settled vendor entries) :
    Settled vendor (groupSection marker title enabled entries) :=
  .onlyIf fun _ => .cons_aside Entry.isAside_blank
    (.cons_aside ((Entry.isAside_comment title hmarker).mpr ⟨hline, htitle⟩) h)

private theorem settled_sections {marker : String} {addresses services domains : List Entry}
    (hmarker : Text.startsRemark marker) (hline : IsOneLine marker)
    (haddresses : Settled vendor addresses) (hservices : Settled vendor services)
    (hdomains : Settled vendor domains) :
    Settled vendor (o.sections marker addresses services domains) :=
  ((settled_groupSection hmarker hline (by decide) _ haddresses).append
    (settled_groupSection hmarker hline (by decide) _ hservices)).append
    (settled_groupSection hmarker hline (by decide) _ hdomains)

/-- The object groups of plain settings are tidy. -/
theorem isTidy_render (h : IsPlain o) (vendor : Vendor) : (o.render vendor).IsTidy vendor := by
  rw [isPlain_record] at h
  simp [fields] at h
  have haddresses {block : AddressGroup → List Entry}
      (hblock : ∀ g, IsPlain g → Settled vendor (block g)) :
      Settled vendor (o.addressEntries block) :=
    .flatMap fun g hg => hblock g (by simp [h, List.mem_of_mem_filter hg])
  have hservices {block : ServiceGroup → List Entry}
      (hblock : ∀ g, IsPlain g → Settled vendor (block g)) :
      Settled vendor (o.serviceEntries block) :=
    .flatMap fun g hg => hblock g (by simp [h, List.mem_of_mem_filter hg])
  have hdomains {block : DomainGroup → List Entry}
      (hblock : ∀ g, IsPlain g → Settled vendor (block g)) :
      Settled vendor (o.domainEntries block) :=
    .flatMap fun g hg => hblock g (by simp [h, List.mem_of_mem_filter hg])
  unfold render
  split
  · exact Fragment.isTidy_nothing vendor _
  · cases vendor with
    | huawei =>
      exact (settled_sections (by decide) (by decide)
        (haddresses fun _ => AddressGroup.settled_huaweiEntries)
        (hservices fun _ => ServiceGroup.settled_huaweiEntries)
        (hdomains fun _ => DomainGroup.settled_huaweiEntries)).isTidy_ofEntries _ _
    | h3c =>
      exact (settled_sections (by decide) (by decide)
        (haddresses fun _ => AddressGroup.settled_h3cEntries)
        (hservices fun _ => ServiceGroup.settled_h3cEntries)
        (hdomains fun _ hg => AddressGroup.settled_h3cEntries
          (DomainGroup.isPlain_asAddressGroup hg))).isTidy_ofEntries _ _
    | cisco =>
      have hnote : Settled .cisco (onlyIf o.domainGroupsEnabled
          [.note "Domain groups have no Cisco IOS object-group form; skipped."]) :=
        .onlyIf fun _ => .cons_aside (Entry.isAside_note _) .nil
      exact ((settled_sections (by decide) (by decide)
        (haddresses fun _ => AddressGroup.settled_ciscoEntries)
        (hservices fun _ => ServiceGroup.settled_ciscoEntries) .nil).append
          hnote).isTidy_ofEntries _ _
    | generic => exact Fragment.isTidy_unsupported _ (by decide) (by decide)

end ObjectGroups

namespace ZonePolicy

variable {p : ZonePolicy}

private theorem isOneLine_cutAtSlash {text : String} (h : IsOneLine text) :
    IsOneLine (cutAtSlash text).1 ∧ IsOneLine (cutAtSlash text).2 := by
  refine ⟨Text.isOneLine_ofList fun hfeed => h ?_, Text.isOneLine_ofList fun hfeed => h ?_⟩
  · exact (List.takeWhile_prefix _).subset hfeed
  · exact (List.dropWhile_sublist _).mem (List.mem_of_mem_drop hfeed)

private theorem isOneLine_cutAtBlank {text : String} (h : IsOneLine text) :
    IsOneLine (cutAtBlank text).1 ∧ IsOneLine (cutAtBlank text).2 := by
  refine ⟨Text.isOneLine_ofList fun hfeed => h ?_, Text.isOneLine_ofList fun hfeed => h ?_⟩
  · exact (List.takeWhile_prefix _).subset hfeed
  · exact (List.dropWhile_sublist _).mem ((List.dropWhile_sublist _).mem hfeed)

private theorem isOneLine_address {entered : String} (h : IsOneLine entered) (vendor : Vendor) :
    IsOneLine (address vendor entered) := by
  have htext : IsOneLine (Text.trim entered) := h.trim
  have hends {piece : String} (hpiece : piece ∈ Text.splitOn '-' (Text.trim entered)) :
      IsOneLine (Text.trim piece) := (htext.of_mem_splitOn hpiece).trim
  unfold address
  generalize Text.trim entered = text at htext hends
  obtain ⟨hslash, hbehind⟩ := isOneLine_cutAtSlash htext
  obtain ⟨hblank, hafter⟩ := isOneLine_cutAtBlank htext
  refine Text.isOneLine_ite.mpr ⟨fun _ => by decide, fun _ => ?_⟩
  split
  next low high hsplit =>
    have hlow : IsOneLine (Text.trim low) := hends (by simp [hsplit])
    have hhigh : IsOneLine (Text.trim high) := hends (by simp [hsplit])
    simp +decide [hlow, hhigh]
  next => simp +decide [htext, hslash, hbehind, hblank, hafter]

private theorem areInside_criterion {kind value group custom : String} (hvalue : IsOneLine value)
    (hgroup : IsOneLine group) (hcustom : IsOneLine custom) :
    AreInside (criterion kind value group custom) := by
  rw [criterion]
  simp +decide [hvalue, hgroup, hcustom]

private theorem areInside_timeEntries (h : IsPlain p) : AreInside p.timeEntries := by
  rw [isPlain_record] at h
  simp [fields] at h
  rw [timeEntries]
  simp +decide [h]

private theorem isOneLine_values (h : IsPlain p) :
    IsOneLine p.sourceAddressValue ∧ IsOneLine p.destinationAddressValue ∧
      IsOneLine p.serviceValue ∧ IsOneLine p.action := by
  rw [isPlain_record] at h
  simp [fields] at h
  simp [h]

private theorem areInside_huaweiEntries (h : IsPlain p) : AreInside p.huaweiEntries := by
  obtain ⟨hsource, hdestination, hservice, haction⟩ := isOneLine_values h
  have hfrom : IsOneLine s!"source-address {address .huawei p.sourceAddressValue}" := by
    simp +decide [isOneLine_address hsource]
  have hto : IsOneLine s!"destination-address {address .huawei p.destinationAddressValue}" := by
    simp +decide [isOneLine_address hdestination]
  have hcustom : IsOneLine s!"service {p.serviceValue}" := by simp +decide [hservice]
  rw [huaweiEntries]
  simp +decide [↓areInside_criterion, ↓hsource, ↓hdestination, ↓hservice, ↓hfrom, ↓hto, ↓hcustom,
    haction, areInside_timeEntries h]

private theorem areInside_h3cEntries (h : IsPlain p) : AreInside p.h3cEntries := by
  obtain ⟨hsource, hdestination, hservice, _⟩ := isOneLine_values h
  have hfrom : IsOneLine s!"source-ip-{address .h3c p.sourceAddressValue}" := by
    simp +decide [isOneLine_address hsource]
  have hto : IsOneLine s!"destination-ip-{address .h3c p.destinationAddressValue}" := by
    simp +decide [isOneLine_address hdestination]
  have hcustom : IsOneLine s!"service {p.serviceValue}" := by simp +decide [hservice]
  rw [h3cEntries]
  simp +decide [↓areInside_criterion, ↓hsource, ↓hdestination, ↓hservice, ↓hfrom, ↓hto, ↓hcustom,
    areInside_timeEntries h]

private theorem areInside_entries (h : IsPlain p) (vendor : Vendor) :
    AreInside (p.entries vendor) := by
  have hhuawei := areInside_huaweiEntries h
  have hh3c := areInside_h3cEntries h
  rw [isPlain_record] at h
  simp [fields] at h
  rw [entries]
  simp +decide [label, hhuawei, hh3c, h]

end ZonePolicy

namespace Zone

variable {z : Zone}

private theorem areInside_descriptionEntries (h : IsPlain z) : AreInside z.descriptionEntries := by
  rw [isPlain_record] at h
  simp [fields] at h
  rw [descriptionEntries]
  simp +decide [h]

private theorem areInside_memberEntries {keyword : String} (hkeyword : IsOneLine keyword)
    (h : IsPlain z) :
    AreInside (z.memberEntries keyword) := by
  rw [isPlain_record] at h
  simp [fields] at h
  refine .map fun m hm => ?_
  have hplain : IsPlain m := by simp [h, List.mem_of_mem_filter hm]
  rw [isPlain_record] at hplain
  simp [ZoneMember.fields] at hplain
  simp +decide [hkeyword, hplain]

private theorem settled_huaweiEntries (h : IsPlain z) : Settled .huawei z.huaweiEntries := by
  have hdescription := areInside_descriptionEntries h
  have hmembers : AreInside (z.memberEntries "add") := areInside_memberEntries (by decide) h
  rw [isPlain_record] at h
  simp [fields] at h
  refine .block ?_
  simp +decide [hdescription, hmembers, h]

private theorem settled_h3cEntries (h : IsPlain z) : Settled .h3c z.h3cEntries := by
  have hdescription := areInside_descriptionEntries h
  have hmembers : AreInside (z.memberEntries "import") := areInside_memberEntries (by decide) h
  rw [isPlain_record] at h
  simp [fields] at h
  refine .block ?_
  simp +decide [hdescription, hmembers, h]

end Zone

namespace ZoneSecurity

variable {s : ZoneSecurity} {vendor : Vendor}

private theorem settled_zoneEntries (h : IsPlain s) (hvendor : vendor.isVrp) :
    Settled vendor (s.zoneEntries vendor) := by
  rw [isPlain_record] at h
  simp [fields] at h
  refine .flatMap fun z hz => .cons_aside Entry.isAside_blank ?_
  have hplain : IsPlain z := by simp [h, List.mem_of_mem_filter hz]
  cases vendor with
  | huawei => exact Zone.settled_huaweiEntries hplain
  | h3c => exact Zone.settled_h3cEntries hplain
  | cisco => cases hvendor
  | generic => cases hvendor

private theorem settled_policyEntries (h : IsPlain s) (hvendor : vendor.isVrp) :
    Settled vendor (s.policyEntries vendor) := by
  rw [isPlain_record] at h
  simp [fields] at h
  have hpolicies : AreInside (s.activePolicies.flatMap (·.entries vendor)) :=
    .flatMap fun p hp => ZonePolicy.areInside_entries (by simp [h, List.mem_of_mem_filter hp]) _
  refine .append (.onlyIf fun _ => .cons_command ?_ .nil) (.onlyIf fun _ => ?_)
  · simp +decide
  · cases vendor with
    | huawei =>
      refine .block ?_
      simp +decide [↓hpolicies]
    | h3c =>
      refine .block ?_
      simp +decide [↓hpolicies]
    | cisco => cases hvendor
    | generic => cases hvendor

/-- The security zones of plain settings are tidy. -/
theorem isTidy_render (h : IsPlain s) (vendor : Vendor) : (s.render vendor).IsTidy vendor := by
  unfold render
  split
  · exact Fragment.isTidy_nothing vendor _
  · split
    next => exact Fragment.isTidy_unsupported _ (by decide) (Vendor.isOneLine_name _)
    next hvrp =>
      have hvendor : vendor.isVrp := by simpa using hvrp
      exact Settled.isTidy_ofEntries ((Settled.onlyIf fun _ => settled_zoneEntries h hvendor).append
        (.onlyIf fun _ => .cons_aside Entry.isAside_blank (settled_policyEntries h hvendor))) _ _

end ZoneSecurity

end Netscribe
