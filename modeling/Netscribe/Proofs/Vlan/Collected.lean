import Mathlib.Data.Finset.Lattice.Lemmas
import Netscribe.Proofs.Script.Totality
import Netscribe.Proofs.Vlan.ListForms
/-!
What the collection of VLANs comes to. Ids are gathered into a set source by source, and the set
that remains consists of what was known before and of the ids that the settings name, whatever the
order of the settings and however often one of them stands there.
-/
namespace Netscribe

namespace Vlan

/-- An item of a list names an id: the item is its number, or a range that the id lies in. -/
inductive ItemNames (item : String) : Int → Prop
  | single {n : Nat} (hdigits : Text.allDigits item) (hn : digitsNumber item = .ok n) :
      ItemNames item n
  | range {low high : String} {first last : Nat} {id : Int}
      (hparts : Text.splitOn '-' item = [low, high])
      (hlow : Text.allDigits low) (hhigh : Text.allDigits high)
      (hfirst : digitsNumber low = .ok first) (hlast : digitsNumber high = .ok last)
      (hle : (first : Int) ≤ id) (hge : id ≤ last) : ItemNames item id

/-- A field for a single id names it, if it is a VLAN. -/
def FieldNames (text : String) (id : Int) : Prop :=
  Integer.read? (Text.trim text) = some id ∧ (minId : Int) ≤ id ∧ id ≤ maxId

/-- A list names an id by one of its items, if it is a VLAN. -/
def ListNames (text : String) (id : Int) : Prop :=
  (∃ item ∈ items text, ItemNames item id) ∧ (minId : Int) ≤ id ∧ id ≤ maxId

/-- The settings of a port name an id: as access VLAN, or as native or allowed VLAN of a trunk. -/
inductive PortNames (mode access native allowed : String) (id : Int) : Prop
  | access (hmode : mode = InterfaceMode.access.name) (h : FieldNames access id)
  | native (hmode : mode = InterfaceMode.trunk.name) (h : FieldNames native id)
  | allowed (hmode : mode = InterfaceMode.trunk.name) (h : ListNames allowed id)

section Read

variable {text item mode access native allowed : String} {ids : List Int} {id : Int}

private theorem mem_singleId_iff : id ∈ singleId text ↔ FieldNames text id := by
  rw [singleId, FieldNames]
  cases Integer.read? (Text.trim text) with
  | none => simp
  | some n =>
    rw [Option.some_inj]
    dsimp only
    split
    next hvalid =>
      rw [List.mem_singleton, eq_comm]
      refine (and_iff_left_of_imp ?_).symm
      rintro rfl
      exact hvalid
    next hvalid =>
      refine iff_of_false List.not_mem_nil ?_
      rintro ⟨rfl, hid⟩
      exact hvalid hid

/-- A text of digits has no dash. -/
theorem splitOn_of_allDigits (h : Text.allDigits item) : Text.splitOn '-' item = [item] := by
  apply Text.splitOn_of_not_contains
  rw [Text.allDigits, Bool.and_eq_true, List.all_eq_true] at h
  rw [Text.contains, List.contains_eq_mem, decide_eq_false_iff_not]
  intro hdash
  exact absurd (h.2 '-' hdash) (by decide)

private theorem itemNames_range_iff {low high : String} {first last : Nat}
    (hparts : Text.splitOn '-' item = [low, high]) (hlow : Text.allDigits low)
    (hhigh : Text.allDigits high) (hfirst : digitsNumber low = .ok first)
    (hlast : digitsNumber high = .ok last) :
    ItemNames item id ↔ (first : Int) ≤ id ∧ id ≤ last := by
  constructor
  · intro hnames
    cases hnames with
    | single hdigits =>
      rw [splitOn_of_allDigits hdigits] at hparts
      cases hparts
    | range hsame _ _ hfirst' hlast' hle hge =>
      rw [hparts] at hsame
      cases hsame
      cases hfirst.symm.trans hfirst'
      cases hlast.symm.trans hlast'
      exact ⟨hle, hge⟩
  · rintro ⟨hle, hge⟩
    exact .range hparts hlow hhigh hfirst hlast hle hge

private theorem itemNames_single_iff {n : Nat} (hdigits : Text.allDigits item)
    (hn : digitsNumber item = .ok n) : ItemNames item id ↔ id = n := by
  constructor
  · intro hnames
    cases hnames with
    | single _ hn' =>
      cases hn.symm.trans hn'
      rfl
    | range hparts =>
      rw [splitOn_of_allDigits hdigits] at hparts
      cases hparts
  · rintro rfl
    exact .single hdigits hn

/-- An item that names an id has one part or two, all of them of digits. -/
theorem ItemNames.parts (h : ItemNames item id) :
    (Text.splitOn '-' item).length ≤ 2 ∧ ∀ part ∈ Text.splitOn '-' item, Text.allDigits part := by
  cases h with
  | single hdigits => simpa [splitOn_of_allDigits hdigits] using hdigits
  | range hparts hlow hhigh => simp [hparts, hlow, hhigh]

private theorem mem_itemIds_iff (h : itemIds item = .ok ids) :
    id ∈ ids ↔ ItemNames item id ∧ (minId : Int) ≤ id ∧ id ≤ maxId := by
  obtain ⟨low, high, hparts, hlow, hhigh, hitem⟩ | ⟨-, hdigits, hitem⟩ | ⟨hother, hitem⟩ :=
    itemIds_cases item
  · rw [hitem] at h
    obtain ⟨first, hfirst, hrest⟩ := Outcome.bind_eq_ok_iff.mp h
    obtain ⟨last, hlast, hvalue⟩ := Outcome.bind_eq_ok_iff.mp hrest
    rw [← Except.ok.inj hvalue, mem_idsBetween,
      itemNames_range_iff hparts hlow hhigh hfirst hlast, and_assoc]
  · rw [hitem] at h
    obtain ⟨n, hn, hvalue⟩ := Outcome.bind_eq_ok_iff.mp h
    rw [← Except.ok.inj hvalue, itemNames_single_iff hdigits hn]
    split
    next hvalid =>
      rw [isId, Bool.and_eq_true, decide_eq_true_eq, decide_eq_true_eq] at hvalid
      rw [List.mem_singleton]
      omega
    next hvalid =>
      rw [isId, Bool.and_eq_true, decide_eq_true_eq, decide_eq_true_eq] at hvalid
      refine iff_of_false List.not_mem_nil ?_
      omega
  · rw [hitem] at h
    rw [← Except.ok.inj h]
    refine iff_of_false List.not_mem_nil ?_
    rintro ⟨hnames, -⟩
    exact hother hnames.parts.1 hnames.parts.2

/-- A list that is read has the ids that it names. -/
theorem mem_parseIds_iff (h : parseIds text = .ok ids) : id ∈ ids ↔ ListNames text id := by
  obtain ⟨lists, hlists, hvalue⟩ := Outcome.bind_eq_ok_iff.mp h
  rw [← Except.ok.inj hvalue, mem_sortedDistinct, Outcome.mem_flatten_iff hlists mem_itemIds_iff,
    ListNames]
  simp only [← and_assoc, exists_and_right]

private theorem mem_modeIds_iff (h : modeIds mode access native allowed = .ok ids) :
    id ∈ ids ↔ PortNames mode access native allowed id := by
  have hapart : InterfaceMode.access.name ≠ InterfaceMode.trunk.name := by decide
  rw [modeIds] at h
  split at h
  next haccess =>
    rw [← Except.ok.inj h, mem_singleId_iff]
    constructor
    · exact .access haccess
    · intro hnames
      cases hnames with
      | access _ h => exact h
      | native htrunk | allowed htrunk => exact absurd (haccess.symm.trans htrunk) hapart
  next haccess =>
    split at h
    next htrunk =>
      obtain ⟨list, hlist, hvalue⟩ := Outcome.bind_eq_ok_iff.mp h
      rw [← Except.ok.inj hvalue, List.mem_append, mem_singleId_iff, mem_parseIds_iff hlist]
      constructor
      · rintro (hnative | hallowed)
        · exact .native htrunk hnative
        · exact .allowed htrunk hallowed
      · intro hnames
        cases hnames with
        | access hmode => exact absurd hmode haccess
        | native _ h => exact .inl h
        | allowed _ h => exact .inr h
    next htrunk =>
      rw [← Except.ok.inj h]
      refine iff_of_false List.not_mem_nil fun hnames => ?_
      cases hnames with
      | access hmode => exact haccess hmode
      | native hmode | allowed hmode => exact htrunk hmode

end Read

/-- Adds what each source gives to a set that grows on the way. -/
def gather {α : Type} (give : α → Except Fault (List Int)) (known : Finset Int)
    (sources : List α) : Except Fault (Finset Int) :=
  sources.foldlM (fun known source => do return known ∪ (← give source).toFinset) known

/-- The set grows by what all sources give together. -/
theorem gather_eq {α : Type} (give : α → Except Fault (List Int)) (known : Finset Int)
    (sources : List α) :
    gather give known sources = do return known ∪ (← sources.mapM give).flatten.toFinset := by
  induction sources generalizing known with
  | nil => simp [gather, pure, Except.pure, bind, Except.bind]
  | cons source rest ih =>
    have hstep : gather give known (source :: rest) =
        give source >>= fun ids => gather give (known ∪ ids.toFinset) rest := by
      rw [gather, List.foldlM_cons, bind_assoc]
      simp only [pure_bind]
      rfl
    rw [hstep, List.mapM_cons]
    simp only [ih, bind_assoc, pure_bind, List.flatten_cons, List.toFinset_append,
      Finset.union_assoc]

end Vlan

namespace Node

variable {node other : Node} {connections links : List Connection} {known ids : List Int} {id : Int}

/-- The settings of a device name an id: a VLAN interface, a group of an enabled link aggregation,
    or a link that touches the device. -/
inductive NamesVlan (node : Node) (connections : List Connection) (id : Int) : Prop
  | vlanInterface {i : VlanInterface} (hi : i ∈ node.config.vlan.vlanInterfaces)
      (h : Vlan.FieldNames i.vlanId id)
  | group {g : AggregationGroup} (henabled : node.config.linkAggregation.enabled)
      (hg : g ∈ node.config.linkAggregation.groups)
      (h : Vlan.PortNames g.interfaceMode g.accessVlan g.trunkNativeVlan g.trunkAllowedVlans id)
  | link {c : Connection} (hc : c ∈ connections) (htouches : c.touches node.id)
      (h : Vlan.PortNames c.config.mode.name c.config.accessVlan c.config.trunkNativeVlan
        c.config.trunkAllowedVlans id)

/-- The pass over the settings of a device that fills a set of known ids: with the VLAN interfaces,
    with the groups of an enabled link aggregation, and with the links that touch the device. -/
def gatherVlans (node : Node) (connections : List Connection) (known : Finset Int) :
    Except Fault (Finset Int) := do
  let aggregation := node.config.linkAggregation
  let known ← Vlan.gather (fun i : VlanInterface => .ok (Vlan.singleId i.vlanId)) known
    node.config.vlan.vlanInterfaces
  let known ← Vlan.gather AggregationGroup.vlanIds known
    (if aggregation.enabled then aggregation.groups else [])
  Vlan.gather (fun c : Connection => c.config.vlanIds) known
    (connections.filter (·.touches node.id))

private theorem gatherVlans_eq (node : Node) (connections : List Connection) (known : Finset Int) :
    node.gatherVlans connections known = do
      return known ∪ (← node.referencedIds connections).toFinset := by
  have hinterfaces : node.config.vlan.vlanInterfaces.mapM
      (fun i => (.ok (Vlan.singleId i.vlanId) : Except Fault (List Int))) =
        pure (node.config.vlan.vlanInterfaces.map fun i => Vlan.singleId i.vlanId) :=
    Outcome.mapM_eq_ok fun _ _ => rfl
  have hgroups : (if node.config.linkAggregation.enabled then
      node.config.linkAggregation.groups else []).mapM AggregationGroup.vlanIds =
        node.groupIds := by
    rw [groupIds]
    split <;> rfl
  have hlinks : (connections.filter (·.touches node.id)).mapM (fun c => c.config.vlanIds) =
      node.linkIds connections := rfl
  rw [gatherVlans, referencedIds_eq]
  simp only [Vlan.gather_eq, hinterfaces, hgroups, hlinks, bind_assoc, pure_bind,
    List.toFinset_append, List.flatMap_def, Finset.union_assoc]

private theorem mem_groupIds_iff {groups : List (List Int)} (h : node.groupIds = .ok groups) :
    id ∈ groups.flatten ↔ node.config.linkAggregation.enabled ∧
      ∃ g ∈ node.config.linkAggregation.groups,
        Vlan.PortNames g.interfaceMode g.accessVlan g.trunkNativeVlan g.trunkAllowedVlans id := by
  rw [groupIds] at h
  split at h
  next henabled =>
    rw [and_iff_right henabled]
    exact Outcome.mem_flatten_iff h Vlan.mem_modeIds_iff
  next henabled =>
    rw [← Except.ok.inj h]
    exact iff_of_false List.not_mem_nil fun hgroup => henabled hgroup.1

private theorem mem_linkIds_iff {links : List (List Int)}
    (h : node.linkIds connections = .ok links) :
    id ∈ links.flatten ↔ ∃ c ∈ connections.filter (·.touches node.id),
      Vlan.PortNames c.config.mode.name c.config.accessVlan c.config.trunkNativeVlan
        c.config.trunkAllowedVlans id :=
  Outcome.mem_flatten_iff h Vlan.mem_modeIds_iff

private theorem mem_referencedIds_iff (h : node.referencedIds connections = .ok ids) :
    id ∈ ids ↔ node.NamesVlan connections id := by
  rw [referencedIds_eq] at h
  obtain ⟨groups, hgroups, hrest⟩ := Outcome.bind_eq_ok_iff.mp h
  obtain ⟨links, hlinks, hvalue⟩ := Outcome.bind_eq_ok_iff.mp hrest
  rw [← Except.ok.inj hvalue, List.mem_append, List.mem_append, List.mem_flatMap,
    mem_groupIds_iff hgroups, mem_linkIds_iff hlinks]
  constructor
  · rintro ((⟨i, hi, hid⟩ | ⟨henabled, g, hg, hid⟩) | ⟨c, hc, hid⟩)
    · exact .vlanInterface hi (Vlan.mem_singleId_iff.mp hid)
    · exact .group henabled hg hid
    · exact .link (List.mem_filter.mp hc).1 (List.mem_filter.mp hc).2 hid
  · intro hnames
    cases hnames with
    | vlanInterface hi hid => exact .inl (.inl ⟨_, hi, Vlan.mem_singleId_iff.mpr hid⟩)
    | group henabled hg hid => exact .inl (.inr ⟨henabled, _, hg, hid⟩)
    | link hc htouches hid => exact .inr ⟨_, List.mem_filter.mpr ⟨hc, htouches⟩, hid⟩

/-- When the collection returns, and what it returns then. Neither depends on anything but which
    settings there are. -/
theorem vlanIds_eq_ok_iff : node.vlanIds connections known = .ok ids ↔
    (∀ list ∈ node.trunkLists connections, Vlan.IsReadable list) ∧ ids.Pairwise (· < ·) ∧
      ∀ id, id ∈ ids ↔ id ∈ known ∨ node.NamesVlan connections id := by
  have hvalue {referenced : List Int} (h : node.referencedIds connections = .ok referenced)
      (id : Int) : id ∈ Vlan.sortedDistinct (known ++ referenced) ↔
        id ∈ known ∨ node.NamesVlan connections id := by
    rw [Vlan.mem_sortedDistinct, List.mem_append, mem_referencedIds_iff h]
  rw [← referencedIds_succeeds_iff, vlanIds, Outcome.bind_eq_ok_iff]
  constructor
  · rintro ⟨referenced, hreferenced, hids⟩
    rw [← Except.ok.inj hids]
    exact ⟨⟨referenced, hreferenced⟩, Vlan.pairwise_sortedDistinct _, hvalue hreferenced⟩
  · rintro ⟨⟨referenced, hreferenced⟩, hascending, hids⟩
    refine ⟨referenced, hreferenced, congrArg Except.ok ?_⟩
    apply (Vlan.pairwise_sortedDistinct _).eq_of_mem_iff hascending
    intro id
    rw [hvalue hreferenced, hids]

/-- Two devices with their links that have the same settings for VLANs, each of them in any order
    and any number. -/
structure SameVlanSettings (node other : Node) (connections links : List Connection) : Prop where
  id : other.id = node.id
  interfaces : ∀ i, i ∈ other.config.vlan.vlanInterfaces ↔ i ∈ node.config.vlan.vlanInterfaces
  enabled : other.config.linkAggregation.enabled = node.config.linkAggregation.enabled
  groups : ∀ g, g ∈ other.config.linkAggregation.groups ↔ g ∈ node.config.linkAggregation.groups
  links : ∀ c, c ∈ links ↔ c ∈ connections

namespace SameVlanSettings

private theorem symm (h : SameVlanSettings node other connections links) :
    SameVlanSettings other node links connections where
  id := h.id.symm
  interfaces i := (h.interfaces i).symm
  enabled := h.enabled.symm
  groups g := (h.groups g).symm
  links c := (h.links c).symm

private theorem namesVlan (h : SameVlanSettings node other connections links)
    (hnames : node.NamesVlan connections id) : other.NamesVlan links id := by
  cases hnames with
  | vlanInterface hi hid => exact .vlanInterface ((h.interfaces _).mpr hi) hid
  | group henabled hg hid => exact .group (h.enabled ▸ henabled) ((h.groups _).mpr hg) hid
  | link hc htouches hid => exact .link ((h.links _).mpr hc) (h.id ▸ htouches) hid

private theorem vlanIds_eq_ok (h : SameVlanSettings node other connections links)
    (hids : node.vlanIds connections known = .ok ids) : other.vlanIds links known = .ok ids := by
  obtain ⟨hreadable, hascending, hmem⟩ := vlanIds_eq_ok_iff.mp hids
  refine vlanIds_eq_ok_iff.mpr ⟨?_, hascending, fun id => ?_⟩
  · rw [forall_mem_trunkLists] at hreadable ⊢
    simpa only [h.id, h.enabled, h.groups, h.links] using hreadable
  · rw [hmem]
    exact or_congr_right ⟨h.namesVlan, h.symm.namesVlan⟩

end SameVlanSettings

/-- The collection returns the elements of the set that the pass over the settings fills, in
    strictly ascending order. They are what was known before and the VLANs that the settings name,
    and they stay the same when settings are put in another order or repeated. -/
theorem vlanIds_collects_named_vlans (h : node.vlanIds connections known = .ok ids) :
    (∃ final, node.gatherVlans connections known.toFinset = .ok final ∧
      ids.Pairwise (· < ·) ∧ (∀ id, id ∈ ids ↔ id ∈ final) ∧
      ∀ id, id ∈ final ↔ id ∈ known ∨ node.NamesVlan connections id) ∧
    ∀ other links, SameVlanSettings node other connections links →
      other.vlanIds links known = .ok ids := by
  obtain ⟨hreadable, hascending, hmem⟩ := vlanIds_eq_ok_iff.mp h
  obtain ⟨referenced, hreferenced⟩ := (referencedIds_succeeds_iff node connections).mpr hreadable
  have hfinal (id : Int) : id ∈ known.toFinset ∪ referenced.toFinset ↔
      id ∈ known ∨ node.NamesVlan connections id := by
    rw [Finset.mem_union, List.mem_toFinset, List.mem_toFinset, mem_referencedIds_iff hreferenced]
  refine ⟨⟨known.toFinset ∪ referenced.toFinset, ?_, hascending, fun id => ?_, hfinal⟩,
    fun other links hsame => hsame.vlanIds_eq_ok h⟩
  · rw [gatherVlans_eq, hreferenced]
    rfl
  · rw [hmem, hfinal]

/-- A known id beyond the VLANs, a VLAN interface, an access port without its id, a group and two
    links, of which one lies elsewhere; then all of them in another order, and one of them twice. -/
theorem vlanIds_collects_named_vlans_in_any_order :
    let svi (id : String) : VlanInterface := { vlanId := id }
    let first : AggregationGroup := { interfaceMode := "access", trunkNativeVlan := "7" }
    let second : AggregationGroup :=
      { interfaceMode := "trunk", trunkNativeVlan := "1", trunkAllowedVlans := "20 to 22,5000" }
    let link (nodeId vlan : String) : Connection :=
      { source := { nodeId }, config := { mode := .access, accessVlan := vlan } }
    let node (interfaces : List VlanInterface) (groups : List AggregationGroup) : Node :=
      { id := "sw1", config := { vlan := { vlanInterfaces := interfaces }
                                 linkAggregation := { enabled := true, groups } } }
    (node [svi "10", svi "x"] [first, second]).vlanIds [link "sw1" " 30 ", link "sw2" "40"] [5000] =
        .ok [1, 10, 20, 21, 22, 30, 5000] ∧
    (node [svi "x", svi "10", svi "x"] [second, first]).vlanIds
        [link "sw2" "40", link "sw1" " 30 "] [5000] = .ok [1, 10, 20, 21, 22, 30, 5000] := by
  intro svi first second link node
  have h : (node [svi "10", svi "x"] [first, second]).vlanIds
      [link "sw1" " 30 ", link "sw2" "40"] [5000] = .ok [1, 10, 20, 21, 22, 30, 5000] := by
    have hlist : Vlan.parseIds "20 to 22,5000" = .ok [20, 21, 22] := by
      rw [Vlan.parseIds_eq_insertionSort]
      decide +kernel
    have hgroups : (node [svi "10", svi "x"] [first, second]).groupIds =
        .ok [[], [1, 20, 21, 22]] := by
      simp only [groupIds, node, second, List.mapM_cons, AggregationGroup.vlanIds, Vlan.modeIds,
        hlist]
      decide +kernel
    rw [vlanIds, referencedIds_eq, hgroups]
    simp only [Vlan.sortedDistinct_eq_insertionSort]
    decide +kernel
  refine ⟨h, (vlanIds_collects_named_vlans h).2 _ _
    ⟨rfl, fun i => ?_, rfl, fun g => ?_, fun c => ?_⟩⟩
  · simp only [node, List.mem_cons, List.not_mem_nil, or_false]
    tauto
  · simp only [node, List.mem_cons, List.not_mem_nil, or_false]
    tauto
  · simp only [List.mem_cons, List.not_mem_nil, or_false]
    tauto

end Node
end Netscribe
