import Netscribe.Proofs.Text.Pieces
import Netscribe.Proofs.View.Contents
import Netscribe.Proofs.View.Routing
/-!
The commands that make an area of OSPF a special one: its type, and the cost of the default route
into it. The type is kept from the backbone, the cost is not.
-/
namespace Netscribe

open Text (after? allBlank isIndented IsOneLine)

/-- The commands that give an area its type. -/
def areaTypes : List String := ["stub", "stub no-summary", "nssa", "nssa no-summary"]

/-- What a text says about areas: each command with the id of its area. Cisco repeats the id in
    every command; elsewhere an area has a view of its own within that of the process. -/
def areaCommands (vendor : Vendor) (lines : List String) : List (String × String) :=
  if vendor = .cisco then (lines.filterMap (after? " area ")).map Text.cutBlank
  else (View.contents "area " " " (lines.filterMap (after? " "))).flatMap
    fun (id, commands) => commands.map (id, ·)

/-- A default cost only comes with a type, and neither of them is for the backbone. -/
structure SpecialAreasAgree (commands : List (String × String)) : Prop where
  together : ∀ id cost, (id, "default-cost " ++ cost) ∈ commands →
    ∃ kind ∈ areaTypes, (id, kind) ∈ commands
  offBackbone : ∀ id ∈ ["0", "0.0.0.0"], ∀ words, (id, words) ∈ commands →
    words ∉ areaTypes ∧ after? "default-cost " words = none

private theorem not_mem_areaTypes {start : String}
    (h : ∀ kind ∈ areaTypes, after? start kind = none)
    (words : String) : start ++ words ∉ areaTypes :=
  fun hkind => Text.after?_append_ne_none start words (h _ hkind)

private theorem not_mem_areaTypes_of_cost (cost : String) : "default-cost " ++ cost ∉ areaTypes :=
  not_mem_areaTypes (by decide) cost

namespace OspfArea

variable {a : OspfArea} {words : String}

private theorem isBackbone_iff : a.isBackbone ↔ a.areaId ∈ ["0", "0.0.0.0"] := by
  simp [isBackbone]

private theorem eq_of_isSpecial (h : a.isSpecial) : a.areaType = "stub" ∨ a.areaType = "nssa" := by
  rw [isSpecial, Bool.or_eq_true] at h
  exact h.imp eq_of_beq eq_of_beq

private theorem typeKeyword_mem (h : a.isBackbone = false) (hspecial : a.isSpecial) :
    a.typeKeyword ∈ areaTypes := by
  rw [typeKeyword, textIf, if_pos ⟨by simp [h], hspecial⟩]
  obtain hkind | hkind := eq_of_isSpecial hspecial
  · rw [hkind]
    cases a.noSummary <;> decide
  · rw [hkind]
    cases a.noSummary <;> decide

/-- An area without a type has no keyword for it, and the backbone has none either. -/
theorem of_typeKeyword_ne_empty (h : a.typeKeyword ≠ "") :
    a.isBackbone = false ∧ a.typeKeyword ∈ areaTypes := by
  by_cases hkind : a.isBackbone = false ∧ a.isSpecial
  · exact ⟨hkind.1, typeKeyword_mem hkind.1 hkind.2⟩
  · refine absurd (if_neg fun hboth => hkind ⟨?_, hboth.2⟩) h
    simpa using hboth.1

/-- The commands of an area as a special one. -/
def specialCommands (a : OspfArea) : List String :=
  (if a.typeKeyword ≠ "" then [a.typeKeyword] else []) ++
    if a.isSpecial ∧ a.defaultCost ≠ "" then ["default-cost " ++ a.defaultCost] else []

private theorem mem_specialCommands_iff : words ∈ a.specialCommands ↔
    a.typeKeyword ≠ "" ∧ words = a.typeKeyword ∨
      (a.isSpecial ∧ a.defaultCost ≠ "") ∧ words = "default-cost " ++ a.defaultCost := by
  simp only [specialCommands, List.mem_append, List.mem_ite_nil_right, List.mem_singleton]

/-- The commands that start OSPF on the networks of an area, in its view. -/
def networkCommands (a : OspfArea) : List String :=
  a.namedNetworks.map fun n => "network " ++ (n.network ++ " " ++ n.wildcardMask)

private theorem of_mem_networkCommands (h : words ∈ a.networkCommands) :
    words ∉ areaTypes ∧ after? "default-cost " words = none := by
  obtain ⟨n, -, rfl⟩ := List.mem_map.mp h
  exact ⟨not_mem_areaTypes (by decide) _, by simp +decide [↓Text.after?_of_diverge]⟩

/-- The commands in the view of an area. -/
def viewCommands (a : OspfArea) : List String := a.specialCommands ++ a.networkCommands

private theorem allBlank_viewCommands (h : words ∈ a.viewCommands) :
    allBlank (" " ++ words) = false := by
  have htypes : ∀ kind ∈ areaTypes, allBlank (" " ++ kind) = false := by decide
  obtain hspecial | hnetwork := List.mem_append.mp h
  · obtain ⟨hset, rfl⟩ | ⟨-, rfl⟩ := mem_specialCommands_iff.mp hspecial
    · exact htypes _ (of_typeKeyword_ne_empty hset).2
    · rw [← String.append_assoc]
      exact Text.allBlank_append_left (by decide) _
  · obtain ⟨n, -, rfl⟩ := List.mem_map.mp hnetwork
    rw [← String.append_assoc]
    exact Text.allBlank_append_left (by decide) _

private theorem saidBy_ciscoEntries (a : OspfArea) :
    View.saidBy " area " a.ciscoEntries = a.specialCommands.map (a.areaId ++ " " ++ ·) := by
  have hnetworks : View.saidBy " area " (a.namedNetworks.map fun n =>
      command s!" network {n.network} {n.wildcardMask} area {a.areaId}" (a.announcement n)) =
      [] := by
    refine View.saidBy_eq_nil (.map fun n _ line hline => ?_)
    obtain rfl := Option.some.inj hline
    simp +decide [↓Text.after?_of_diverge]
  have hkind : after? " area " s!" area {a.areaId} {a.typeKeyword}" =
      some (a.areaId ++ " " ++ a.typeKeyword) := by
    rw [Text.after?_eq_some_iff]
    simp only [String.append_assoc]
    rfl
  have hcost : after? " area " s!" area {a.areaId} default-cost {a.defaultCost}" =
      some (a.areaId ++ " " ++ ("default-cost " ++ a.defaultCost)) := by
    rw [Text.after?_eq_some_iff]
    simp only [String.append_assoc]
    rfl
  simp [ciscoEntries, specialCommands, hnetworks, hkind, hcost, apply_ite (List.map _)]

private theorem saidBy_vrpEntries (a : OspfArea) :
    View.saidBy " " a.vrpEntries =
      ("area " ++ a.areaId) :: (a.viewCommands.map (" " ++ ·) ++ ["quit"]) := by
  have hnetworks : View.saidBy " " (a.namedNetworks.map fun n =>
      command s!"  network {n.network} {n.wildcardMask}" (a.announcement n)) =
      a.networkCommands.map (" " ++ ·) := by
    rw [networkCommands, List.map_map]
    refine View.saidBy_map (fun _ => rfl) fun n => ?_
    rw [Text.after?_eq_some_iff, Function.comp_apply]
    simp only [String.append_assoc]
    rfl
  have hheader : after? " " s!" area {a.areaId}" = some ("area " ++ a.areaId) := by
    rw [Text.after?_eq_some_iff, ← String.append_assoc]
    rfl
  have hkind : after? " " s!"  {a.typeKeyword}" = some (" " ++ a.typeKeyword) := by
    rw [Text.after?_eq_some_iff, ← String.append_assoc]
    rfl
  have hcost : after? " " s!"  default-cost {a.defaultCost}" =
      some (" " ++ ("default-cost " ++ a.defaultCost)) := by
    rw [Text.after?_eq_some_iff]
    simp only [← String.append_assoc]
    rfl
  have hcloser : after? " " " quit" = some "quit" := by decide
  simp [vrpEntries, viewCommands, specialCommands, hnetworks, hheader, hkind, hcost, hcloser,
    apply_ite (List.map _)]

/-- The views of areas are read one after another. -/
theorem contents_views (areas : List OspfArea) (rest : List String) :
    View.contents "area " " " (areas.flatMap (View.saidBy " " ·.vrpEntries) ++ rest) =
      areas.map (fun a => (a.areaId, a.viewCommands)) ++ View.contents "area " " " rest := by
  induction areas with
  | nil => rfl
  | cons a areas ih =>
    have hindented : ∀ line ∈ a.viewCommands.map (" " ++ ·), isIndented line :=
      List.forall_mem_map.mpr fun words _ => by simp +decide
    -- The keyword is but a blank, so that a blank line inside would count: there is none.
    have hquiet : ∀ line ∈ a.viewCommands.map (" " ++ ·), allBlank line →
        after? " " line = none := by
      refine List.forall_mem_map.mpr fun words hwords hblank => ?_
      rw [allBlank_viewCommands hwords] at hblank
      cases hblank
    have hwords : (a.viewCommands.map (" " ++ ·)).filterMap (after? " ") = a.viewCommands := by
      simp [List.filterMap_map, Text.after?_append]
    rw [List.flatMap_cons, saidBy_vrpEntries, List.append_assoc, List.cons_append,
      List.append_assoc, List.singleton_append,
      View.contents_view_of_quiet (by decide) hquiet hindented (by decide) (by decide) (by decide),
      ih, hwords, List.map_cons, List.cons_append]

def entries (vendor : Vendor) (a : OspfArea) : List Entry :=
  if vendor = .cisco then a.ciscoEntries else a.vrpEntries

private theorem entries_cisco : entries .cisco = ciscoEntries := rfl

private theorem entries_of_ne {vendor : Vendor} (h : vendor ≠ .cisco) :
    entries vendor = vrpEntries :=
  funext fun _ => if_neg h

/-- The commands of areas, each with its id: those of special areas, and others. -/
def told (others : OspfArea → List String) (areas : List OspfArea) : List (String × String) :=
  areas.flatMap fun a => (a.specialCommands ++ others a).map (a.areaId, ·)

section Told

variable {others : OspfArea → List String} {areas : List OspfArea} {id : String}

private theorem mem_told_iff : (id, words) ∈ told others areas ↔
    ∃ a ∈ areas, a.areaId = id ∧ (words ∈ a.specialCommands ∨ words ∈ others a) := by
  simp only [told, List.mem_flatMap, List.mem_map, List.mem_append, Prod.mk.injEq]
  constructor
  · rintro ⟨a, ha, _, hwords, hid, rfl⟩
    exact ⟨a, ha, hid, hwords⟩
  · rintro ⟨a, ha, hid, hwords⟩
    exact ⟨a, ha, words, hwords, hid, rfl⟩

variable (hothers : ∀ a, ∀ words ∈ others a,
  words ∉ areaTypes ∧ after? "default-cost " words = none)
include hothers

/-- The backbone never gets a type. -/
theorem not_mem_told_of_isBackbone (hid : id ∈ ["0", "0.0.0.0"]) (hwords : words ∈ areaTypes) :
    (id, words) ∉ told others areas := by
  intro hmem
  obtain ⟨a, -, rfl, hspecial | hother⟩ := mem_told_iff.mp hmem
  · obtain ⟨hset, rfl⟩ | ⟨-, rfl⟩ := mem_specialCommands_iff.mp hspecial
    · have hbackbone := isBackbone_iff.mpr hid
      rw [(of_typeKeyword_ne_empty hset).1] at hbackbone
      cases hbackbone
    · exact not_mem_areaTypes_of_cost _ hwords
  · exact (hothers a words hother).1 hwords

private theorem exists_of_mem_told_cost {cost : String}
    (h : (id, "default-cost " ++ cost) ∈ told others areas) :
    ∃ a ∈ areas, a.areaId = id ∧ a.isSpecial ∧ a.defaultCost ≠ "" := by
  obtain ⟨a, ha, hid, hspecial | hother⟩ := mem_told_iff.mp h
  · obtain ⟨hset, hkind⟩ | ⟨hpaid, -⟩ := mem_specialCommands_iff.mp hspecial
    · refine absurd (of_typeKeyword_ne_empty hset).2 ?_
      rw [← hkind]
      exact not_mem_areaTypes_of_cost cost
    · exact ⟨a, ha, hid, hpaid⟩
  · exact absurd (hothers a _ hother).2 (Text.after?_append_ne_none _ cost)

/-- Without a cost for the backbone, costs and types agree. -/
theorem specialAreasAgree_told
    (h : ∀ a ∈ areas, a.isBackbone → a.isSpecial → a.defaultCost = "") :
    SpecialAreasAgree (told others areas) where
  together id cost hmem := by
    obtain ⟨a, ha, rfl, hspecial, hcost⟩ := exists_of_mem_told_cost hothers hmem
    have hbackbone : a.isBackbone = false := by
      rw [Bool.eq_false_iff]
      exact fun hbackbone => hcost (h a ha hbackbone hspecial)
    have hkind := typeKeyword_mem hbackbone hspecial
    have hset : a.typeKeyword ≠ "" := ne_of_mem_of_not_mem hkind (by decide)
    refine ⟨a.typeKeyword, hkind, mem_told_iff.mpr ⟨a, ha, rfl, .inl ?_⟩⟩
    exact mem_specialCommands_iff.mpr (.inl ⟨hset, rfl⟩)
  offBackbone id hid words hmem := by
    refine ⟨fun hwords => not_mem_told_of_isBackbone hothers hid hwords hmem, ?_⟩
    rw [Option.eq_none_iff_forall_ne_some]
    intro cost hcost
    obtain rfl := Text.after?_eq_some_iff.mp hcost
    obtain ⟨a, ha, rfl, hspecial, hpaid⟩ := exists_of_mem_told_cost hothers hmem
    exact hpaid (h a ha (isBackbone_iff.mpr hid) hspecial)

end Told

end OspfArea

/-- Nothing but an area writes lines about areas. -/
theorem Ospf.exists_entries_eq (vendor : Vendor) (o : Ospf) : ∃ before after,
    o.entries vendor = before ++ (o.areas.flatMap (OspfArea.entries vendor) ++ after) ∧
      AllWritten (after? " area " · = none) before ∧
      AllWritten (after? " area " · = none) after := by
  have hpriority : AllWritten (after? " area " · = none)
      (o.interfaceConfigs.flatMap (priorityEntries vendor)) := by
    refine .flatMap fun i _ => ?_
    cases vendor <;> simp +decide [↓Text.after?_of_diverge, priorityEntries, Vendor.closer]
  by_cases hvendor : vendor = .cisco
  · refine ⟨.blank :: command s!"router ospf {o.processId}" o.start
        :: onlyIf (o.routerId ≠ "") [command s!" router-id {o.routerId}"],
      onlyIf o.redistributeStatic [command " redistribute static subnets"]
        ++ onlyIf o.redistributeConnected [command " redistribute connected subnets"]
        ++ onlyIf o.defaultRoute
          [command " default-information originate" "Advertises a default route into OSPF."]
        ++ [command "exit"] ++ o.interfaceConfigs.flatMap (priorityEntries vendor), ?_, ?_, ?_⟩
    · subst hvendor
      simp [entries, ciscoEntries, OspfArea.entries_cisco]
    · simp +decide [↓Text.after?_of_diverge]
    · simp +decide [hpriority]
  · refine ⟨.blank
        :: command (s!"ospf {o.processId}" ++ textIf (o.routerId ≠ "") s!" router-id {o.routerId}")
          o.start
        :: onlyIf o.redistributeStatic [command " import-route static"]
        ++ onlyIf o.redistributeConnected [command " import-route direct"]
        ++ onlyIf o.defaultRoute
          [command " default-route-advertise" "Advertises a default route into OSPF."],
      [command "quit"] ++ o.interfaceConfigs.flatMap (priorityEntries vendor), ?_, ?_, ?_⟩
    · simp [entries, vrpEntries, OspfArea.entries_of_ne hvendor, hvendor]
    · simp +decide [↓Text.after?_of_diverge]
    · simp +decide [hpriority]

namespace Routing

variable {vendor : Vendor} {r : Routing}

private theorem cli_render (hvendor : vendor ≠ .generic) (henabled : r.ospf.enabled) :
    (r.render vendor).cli = Text.unlines (Draft.ofEntries (r.entries vendor)).body := by
  have hconfigured : r.isConfigured := by rw [isConfigured, henabled, Bool.or_true]
  rw [render, hconfigured, if_neg (by decide), if_neg hvendor, Fragment.cli_ofEntries]

section Areas

variable (henabled : r.ospf.enabled)
include henabled

private theorem exists_entries_eq (vendor : Vendor) : ∃ before after,
    r.entries vendor = before ++ (r.ospf.areas.flatMap (OspfArea.entries vendor) ++ after) ∧
      AllWritten (after? " area " · = none) before ∧
      AllWritten (after? " area " · = none) after := by
  have hroutes : AllWritten (after? " area " · = none)
      ((r.staticRoutes.filter (·.isComplete)).map (·.entry vendor)) := by
    refine .map fun route _ line hline => ?_
    obtain rfl := Option.some.inj hline
    rw [StaticRoute.line]
    cases vendor <;> simp +decide [↓Text.after?_of_diverge]
  obtain ⟨before, after, hentries, hbefore, hafter⟩ := Ospf.exists_entries_eq vendor r.ospf
  refine ⟨_ ++ before, after, ?_, allWritten_append.mpr ⟨hroutes, hbefore⟩, hafter⟩
  rw [entries, onlyIf, if_pos henabled, hentries, List.append_assoc]

private theorem areaCommands_cisco : areaCommands .cisco (Draft.ofEntries (r.entries .cisco)).body =
    r.ospf.areas.flatMap fun a =>
      a.specialCommands.map fun words => Text.cutBlank (a.areaId ++ " " ++ words) := by
  obtain ⟨before, after, hentries, hbefore, hafter⟩ := exists_entries_eq henabled .cisco
  rw [areaCommands, if_pos rfl, View.filterMap_body (by decide), hentries, View.saidBy_append,
    View.saidBy_append, View.saidBy_eq_nil hbefore, View.saidBy_eq_nil hafter, View.saidBy_flatMap,
    List.nil_append, List.append_nil, List.map_flatMap, OspfArea.entries_cisco]
  refine List.flatMap_congr fun a _ => ?_
  rw [OspfArea.saidBy_ciscoEntries, List.map_map]
  rfl

private theorem areaCommands_of_ne (hvendor : vendor ≠ .cisco) :
    areaCommands vendor (Draft.ofEntries (r.entries vendor)).body =
      r.ospf.areas.flatMap fun a => a.viewCommands.map (a.areaId, ·) := by
  obtain ⟨before, after, hentries, hbefore, hafter⟩ := exists_entries_eq henabled vendor
  have hstart : " area " = " " ++ "area " := by decide
  have hend : View.contents "area " " " (View.saidBy " " after) = [] := by
    rw [← List.append_nil (View.saidBy " " after),
      View.contents_append_of_forall (View.after?_eq_none_of_mem_saidBy hstart hafter)]
    rfl
  rw [areaCommands, if_neg hvendor, View.contents_inner_body (by decide), hentries,
    View.saidBy_append, View.saidBy_append, View.saidBy_flatMap, OspfArea.entries_of_ne hvendor,
    View.contents_append_of_forall (View.after?_eq_none_of_mem_saidBy hstart hbefore),
    OspfArea.contents_views, hend, List.append_nil, List.flatMap_map]

/-- What makes an area special is read back from the text. Where every command repeats the id, the
    id is read up to its first blank. -/
theorem mem_areaCommands {a : OspfArea} (ha : a ∈ r.ospf.areas)
    (hid : vendor = .cisco → ' ' ∉ a.areaId.toList) {words : String}
    (hwords : words ∈ a.specialCommands) :
    (a.areaId, words) ∈ areaCommands vendor (Draft.ofEntries (r.entries vendor)).body := by
  by_cases hvendor : vendor = .cisco
  · obtain rfl := hvendor
    rw [areaCommands_cisco henabled]
    refine List.mem_flatMap.mpr ⟨a, ha, List.mem_map.mpr ⟨words, hwords, ?_⟩⟩
    exact Text.cutBlank_append (hid rfl) words
  · rw [areaCommands_of_ne henabled hvendor]
    refine List.mem_flatMap.mpr ⟨a, ha, List.mem_map.mpr ⟨words, ?_, rfl⟩⟩
    exact List.mem_append_left _ hwords

private theorem exists_areaCommands_eq_told
    (hid : vendor = .cisco → ∀ a ∈ r.ospf.areas, ' ' ∉ a.areaId.toList) :
    ∃ others : OspfArea → List String,
      (∀ a, ∀ words ∈ others a, words ∉ areaTypes ∧ after? "default-cost " words = none) ∧
      areaCommands vendor (Draft.ofEntries (r.entries vendor)).body =
        OspfArea.told others r.ospf.areas := by
  by_cases hvendor : vendor = .cisco
  · obtain rfl := hvendor
    refine ⟨fun _ => [], fun _ _ hwords => absurd hwords List.not_mem_nil, ?_⟩
    rw [areaCommands_cisco henabled]
    refine List.flatMap_congr fun a ha => ?_
    rw [List.append_nil]
    exact List.map_congr_left fun words _ => Text.cutBlank_append (hid rfl a ha) words
  · exact ⟨_, fun _ _ => OspfArea.of_mem_networkCommands, areaCommands_of_ne henabled hvendor⟩

/-- A cost for the backbone is written, although nothing of the kind is for the backbone. -/
theorem defaultCost_eq_of_specialAreasAgree
    (h : SpecialAreasAgree (areaCommands vendor (Draft.ofEntries (r.entries vendor)).body)) :
    ∀ a ∈ r.ospf.areas, a.isBackbone → a.isSpecial → a.defaultCost = "" := by
  intro a ha hbackbone hspecial
  by_contra hcost
  have hid := OspfArea.isBackbone_iff.mp hbackbone
  have hsolid : ∀ id ∈ ["0", "0.0.0.0"], ' ' ∉ id.toList := by decide
  have hwords := OspfArea.mem_specialCommands_iff.mpr (.inr ⟨⟨hspecial, hcost⟩, rfl⟩)
  have hnone := (h.offBackbone a.areaId hid _
    (mem_areaCommands henabled ha (fun _ => hsolid _ hid) hwords)).2
  exact Text.after?_append_ne_none _ _ hnone

/-- Costs and types agree exactly when no backbone is set up as a special area with a cost. The
    backbone never gets a type. On Cisco the ids must have no blanks for all of this but one
    direction, as the text does not show where such an id ends. -/
theorem special_areas_agree_iff (hvendor : vendor ≠ .generic) :
    ∃ lines, (r.render vendor).cli = Text.unlines lines ∧
      (IsPlain r → ∀ line ∈ lines, IsOneLine line) ∧
      (SpecialAreasAgree (areaCommands vendor lines) →
        ∀ a ∈ r.ospf.areas, a.isBackbone → a.isSpecial → a.defaultCost = "") ∧
      ((vendor = .cisco → ∀ a ∈ r.ospf.areas, ' ' ∉ a.areaId.toList) →
        ((∀ a ∈ r.ospf.areas, a.isBackbone → a.isSpecial → a.defaultCost = "") →
          SpecialAreasAgree (areaCommands vendor lines)) ∧
        ∀ id ∈ ["0", "0.0.0.0"], ∀ kind ∈ areaTypes, (id, kind) ∉ areaCommands vendor lines) := by
  refine ⟨_, cli_render hvendor henabled,
    fun hplain => (settled_entries hplain hvendor).isOneLine_of_mem_body,
    defaultCost_eq_of_specialAreasAgree henabled, fun hid => ?_⟩
  obtain ⟨others, hothers, htold⟩ := exists_areaCommands_eq_told henabled hid
  rw [htold]
  exact ⟨OspfArea.specialAreasAgree_told hothers,
    fun id hbackbone kind => OspfArea.not_mem_told_of_isBackbone hothers hbackbone⟩

end Areas

/-- A stub area with a cost beside a backbone of a type that does not count. -/
theorem special_areas_agree_beside_backbone :
    let backbone : OspfArea := { areaType := "nssa" }
    let stub : OspfArea := { areaId := "1", areaType := "stub", defaultCost := "10" }
    let r : Routing := { ospf := { enabled := true, areas := [backbone, stub] } }
    ∃ lines, (r.render .cisco).cli = Text.unlines lines ∧
      SpecialAreasAgree (areaCommands .cisco lines) := by
  intro backbone stub r
  have hvendor : Vendor.cisco ≠ .generic := by decide
  obtain ⟨lines, hcli, -, -, hagree⟩ := special_areas_agree_iff (r := r) rfl hvendor
  exact ⟨lines, hcli, (hagree fun _ => by decide).1 (by decide)⟩

/-- The cost of a stub backbone is written, without a type beside it. -/
theorem backbone_gets_default_cost :
    let backbone : OspfArea := { areaType := "stub", defaultCost := "10" }
    let r : Routing := { ospf := { enabled := true, areas := [backbone] } }
    let lines := ["ospf 1", " area 0", "  default-cost 10", " quit", "quit"]
    (r.render .huawei).cli = Text.unlines lines ∧
      areaCommands .huawei lines = [("0", "default-cost 10")] ∧
      ¬SpecialAreasAgree (areaCommands .huawei lines) := by
  have hcommands : areaCommands .huawei
      ["ospf 1", " area 0", "  default-cost 10", " quit", "quit"] = [("0", "default-cost 10")] := by
    decide
  refine ⟨by decide +kernel, hcommands, fun h => ?_⟩
  rw [hcommands] at h
  exact absurd (h.offBackbone "0" (by decide) _ List.mem_cons_self).2 (by decide)

end Routing
end Netscribe
